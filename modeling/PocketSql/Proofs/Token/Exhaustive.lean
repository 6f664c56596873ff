import PocketSql.Proofs.Token.Longest
/-!
# Looking for the longest word without dropping any

The plain search for the longest word puts the lower-case forms of ever more characters together and
compares all words with them each time, up to the end of the text. It drops no word and it does not
stop before the end. The search that does both is the same function, because after each character the
words that it has still begun are just those that the characters so far begin.

What either of them finds is settled without a search: a word that the first characters spell, where
none of the words that some first characters spell is longer.
-/

namespace PocketSql

open Unicode

variable {α : Type} {spelling : α → String} {words : List α} {source read : List Char} {c : Char}

/-- The lower-case forms of characters put together. -/
def folded (chars : List Char) : List Char :=
  chars.flatMap lowerChar

/-- Goes on with the plain search behind the characters `read`. -/
def plainMatchFrom (spelling : α → String) (words : List α) (read : List Char)
    (found : Option (α × Nat)) : List Char → Option (α × Nat)
  | [] => found
  | c :: rest =>
      let read := read ++ [c]
      let spelled := words.find? fun word => (spelling word).toList == folded read
      plainMatchFrom spelling words read ((spelled.map (·, read.length)).or found) rest

/-- The longest of the words that a text begins with, and the number of characters of the text that
it covers, by looking at every word after every character. -/
def plainMatch (spelling : α → String) (words : List α) (source : List Char) :
    Option (α × Nat) :=
  plainMatchFrom spelling words [] none source

/-! ### What is still open -/

/-- The words that characters begin, with what is left of them. -/
def begunBy (spelling : α → String) (words : List α) (read : List Char) : List (α × List Char) :=
  words.filterMap fun word =>
    (List.isPrefixOf? (folded read) (spelling word).toList).map fun part => (word, part)

theorem folded_concat (read : List Char) (c : Char) :
    folded (read ++ [c]) = folded read ++ lowerChar c := by
  simp [folded]

theorem isPrefixOf?_append (front back list : List Char) :
    List.isPrefixOf? (front ++ back) list =
      (List.isPrefixOf? front list).bind (List.isPrefixOf? back) := by
  apply Option.ext
  intro part
  simp only [Option.bind_eq_some_iff, List.isPrefixOf?_eq_some_iff_append_eq]
  constructor
  · intro h
    exact ⟨back ++ part, by rw [← h, List.append_assoc], rfl⟩
  · rintro ⟨_, h, rfl⟩
    rw [List.append_assoc, h]

theorem goOn_begunBy :
    goOn c (begunBy spelling words read) = begunBy spelling words (read ++ [c]) := by
  rw [goOn, begunBy, begunBy, List.filterMap_filterMap]
  apply congrArg (List.filterMap · words)
  funext word
  rw [folded_concat, isPrefixOf?_append, Option.map_bind, Option.bind_map]
  rfl

/-- A word that is used up does not go on, so it can be left out. -/
theorem goOn_unended {d : Char} {begun : List (α × List Char)} :
    goOn d (unended c begun) = goOn d (goOn c begun) := by
  rw [goOn, unended, goOn, List.filterMap_filter]
  apply congrArg (List.filterMap · _)
  funext pair
  obtain ⟨word, part⟩ := pair
  cases part with
  | nil =>
      obtain ⟨first, others, hlower⟩ := List.exists_cons_of_ne_nil (lowerChar_ne_nil d)
      rw [hlower]
      rfl
  | cons first others => rfl

theorem any_isEmpty_isPrefixOf? (front list : List Char) :
    (List.isPrefixOf? front list).any List.isEmpty = (list == front) := by
  rw [Bool.eq_iff_iff]
  simp only [Option.any_eq_true, List.isPrefixOf?_eq_some_iff_append_eq, List.isEmpty_iff,
    beq_iff_eq]
  constructor
  · rintro ⟨_, rfl, rfl⟩
    exact List.append_nil front
  · rintro rfl
    exact ⟨[], List.append_nil list, rfl⟩

/-- The word that a character ends is the first one that the characters so far spell. -/
theorem ended_begunBy : ended c (begunBy spelling words read) =
    words.find? fun word => (spelling word).toList == folded (read ++ [c]) := by
  rw [ended, goOn_begunBy, begunBy, List.find?_filterMap]
  simp only [Option.any_map, any_isEmpty_isPrefixOf?]
  cases hfind : words.find? fun word => (spelling word).toList == folded (read ++ [c]) with
  | none => rfl
  | some word =>
      have hspelled := List.find?_some hfind
      have hused : List.isPrefixOf? (folded (read ++ [c])) (spelling word).toList = some [] := by
        rw [List.isPrefixOf?_eq_some_iff_append_eq, List.append_nil]
        exact (eq_of_beq hspelled).symm
      rw [Option.bind_some, hused]
      rfl

/-- **What is still open decides how the search goes on.** Words that are used up, or that no longer
fit, have no part in it. -/
theorem longestMatchFrom_eq_plainMatchFrom {begun : List (α × List Char)}
    (hbegun : ∀ c, goOn c begun = goOn c (begunBy spelling words read))
    (found : Option (α × Nat)) :
    longestMatchFrom read.length found begun source =
      plainMatchFrom spelling words read found source := by
  induction source generalizing read begun found with
  | nil => rfl
  | cons c rest ih =>
      have hended : ended c begun = ended c (begunBy spelling words read) := by
        rw [ended, ended, hbegun]
      have hopen (d : Char) : goOn d (unended c begun) =
          goOn d (begunBy spelling words (read ++ [c])) := by
        rw [goOn_unended, hbegun, goOn_begunBy]
      have hlength : (read ++ [c]).length = read.length + 1 := by
        simp
      have hrest := ih hopen (((ended c begun).map (·, read.length + 1)).or found)
      rw [hlength, hended, ended_begunBy] at hrest
      rw [longestMatchFrom_cons, hended, ended_begunBy, plainMatchFrom, hlength]
      exact hrest

/-- **Dropping words and stopping early change nothing.** -/
theorem longestMatch_eq_plainMatch (spelling : α → String) (words : List α) (source : List Char) :
    longestMatch spelling words source = plainMatch spelling words source := by
  have hstart : words.map (fun word => (word, (spelling word).toList)) =
      begunBy spelling words [] := by
    rw [begunBy, ← List.filterMap_eq_map]
    rfl
  have hsame (c : Char) : goOn c (begunBy spelling words []) = goOn c (begunBy spelling words []) :=
    rfl
  rw [longestMatch, hstart]
  exact longestMatchFrom_eq_plainMatchFrom hsame none

/-! ### What is found -/

section Spells

variable {word other : String} {n k : Nat}

/-- The lower-case forms of the first `n` characters, put together, are the word. -/
def Spells (source : List Char) (n : Nat) (word : String) : Prop :=
  n ≤ source.length ∧ folded (source.take n) = word.toList

theorem covers_iff_spells : Covers source n word.toList ↔ word ≠ "" ∧ Spells source n word := by
  constructor
  · intro h
    refine ⟨?_, h.2⟩
    rintro rfl
    exact h.ne_nil rfl
  · rintro ⟨hword, hle, hspelled⟩
    refine ⟨Nat.pos_of_ne_zero ?_, hle, hspelled⟩
    rintro rfl
    exact hword (String.toList_eq_nil_iff.mp hspelled.symm)

theorem Spells.unique (hword : Spells source n word) (hother : Spells source n other) :
    word = other :=
  String.toList_inj.mp (hword.2.symm.trans hother.2)

/-- More characters spell a longer word. -/
theorem length_lt_of_spells (hword : Spells source n word) (hother : Spells source k other)
    (hlt : n < k) : word.length < other.length := by
  have hlonger : source.take k = source.take n ++ (source.drop n).take (k - n) := by
    rw [← List.take_add, Nat.add_sub_cancel' (Nat.le_of_lt hlt)]
  have hne : (source.drop n).take (k - n) ≠ [] := by
    apply List.ne_nil_of_length_pos
    have hle := hother.1
    rw [List.length_take, List.length_drop]
    omega
  obtain ⟨c, rest, hmore⟩ := List.exists_cons_of_ne_nil hne
  have hpos := List.length_pos_iff.mpr (lowerChar_ne_nil c)
  rw [← String.length_toList, ← String.length_toList, ← hword.2, ← hother.2, hlonger, hmore]
  simp only [folded, List.flatMap_append, List.flatMap_cons, List.length_append]
  omega

/-- **The search for the longest word finds it.** It gives a word with a number of characters exactly
where the word is one of the list, not empty, these characters spell it, and no word of the list that
some first characters spell is longer. It gives nothing exactly where no first characters spell a
word of the list that is not empty. And it gives what the search gives that looks at every word after
every character. -/
theorem longestMatch_exact (words : List String) (source : List Char) :
    (∀ word n, longestMatch id words source = some (word, n) ↔
      word ∈ words ∧ word ≠ "" ∧ Spells source n word ∧
        ∀ other ∈ words, ∀ k, Spells source k other → other.length ≤ word.length) ∧
    (longestMatch id words source = none ↔
      ∀ word ∈ words, word ≠ "" → ∀ n, ¬Spells source n word) ∧
    longestMatch id words source = plainMatch id words source := by
  refine ⟨fun word n => ⟨fun hfound => ?_, ?_⟩, ⟨?_, fun hnone => ?_⟩,
    longestMatch_eq_plainMatch id words source⟩
  · obtain ⟨hmem, hcovers, hmost⟩ := covers_of_longestMatch hfound
    obtain ⟨hword, hspells⟩ := covers_iff_spells.mp hcovers
    refine ⟨hmem, hword, hspells, fun other hother k hk => ?_⟩
    by_contra hlonger
    have hne : other ≠ "" := by
      rintro rfl
      exact hlonger (Nat.zero_le _)
    have hle := hmost other hother k (covers_iff_spells.mpr ⟨hne, hk⟩)
    rcases Nat.lt_or_eq_of_le hle with hlt | rfl
    · exact hlonger (Nat.le_of_lt (length_lt_of_spells hk hspells hlt))
    · rw [hk.unique hspells] at hlonger
      exact hlonger (Nat.le_refl _)
  · rintro ⟨hmem, hword, hspells, hmost⟩
    have hcovers : Covers source n (id word).toList := covers_iff_spells.mpr ⟨hword, hspells⟩
    obtain ⟨longest, hlongest, m, hlongestCovers, hall, hfound⟩ := longestMatch_of_some hmem hcovers
    have hle := hall word hmem n hcovers
    have hlongestSpells : Spells source m longest := (covers_iff_spells.mp hlongestCovers).2
    have hm : n = m := by
      by_contra hne
      have hlt := length_lt_of_spells hspells hlongestSpells (by omega)
      have hnot := hmost longest hlongest m hlongestSpells
      exact absurd hlt (Nat.not_lt.mpr hnot)
    subst hm
    rw [hfound, hlongestSpells.unique hspells]
  · intro hnone word hmem hword n hspells
    have hcovers : Covers source n (id word).toList := covers_iff_spells.mpr ⟨hword, hspells⟩
    obtain ⟨_, _, _, _, _, hfound⟩ := longestMatch_of_some hmem hcovers
    rw [hnone] at hfound
    cases hfound
  · refine longestMatch_of_none fun word hmem n hcovers => ?_
    obtain ⟨hword, hspells⟩ := covers_iff_spells.mp hcovers
    exact hnone word hmem hword n hspells

/-- The capital I with a dot has a form of two characters, which leads past the word of one. -/
example :
    longestMatch id ["i", "", "i\u0307n", "i\u0307", "i\u0307n"] "İNt".toList =
        some ("i\u0307n", 2) ∧
      longestMatch id ["i", ""] "İNt".toList = none := by
  decide +kernel

end Spells

end PocketSql
