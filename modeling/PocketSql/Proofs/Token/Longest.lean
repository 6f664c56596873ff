import Mathlib.Data.List.Basic
import PocketSql.Token.Longest
/-!
# What the search for the longest word finds

A word covers the first characters of a text when their lower-case forms, put together, are the
word. The search finds the word that covers the most characters, and it finds nothing only when no
word covers any. Dropping a word that no longer fits loses nothing, because a word that covers some
characters fits after each one of them.
-/

namespace PocketSql

open Unicode

variable {α : Type} {source part : List Char} {n : Nat}

/-- The first `n` characters, at least one, have `part` as their lower-case forms put together. -/
def Covers (source : List Char) (n : Nat) (part : List Char) : Prop :=
  0 < n ∧ n ≤ source.length ∧ (source.take n).flatMap lowerChar = part

theorem lowerChar_ne_nil (c : Char) : lowerChar c ≠ [] := by
  rw [lowerChar]
  split <;> exact List.cons_ne_nil _ _

theorem not_covers_nil : ¬Covers [] n part := by
  intro ⟨hpos, hle, _⟩
  rw [List.length_nil] at hle
  omega

theorem Covers.ne_nil (h : Covers source n part) : part ≠ [] := by
  obtain ⟨hpos, hle, hpart⟩ := h
  cases source with
  | nil => exact absurd ⟨hpos, hle, hpart⟩ not_covers_nil
  | cons c rest =>
      obtain ⟨m, rfl⟩ := Nat.exists_eq_add_of_lt hpos
      rw [Nat.zero_add, List.take_succ_cons, List.flatMap_cons] at hpart
      rw [← hpart]
      exact List.append_ne_nil_of_left_ne_nil (lowerChar_ne_nil c) _

theorem covers_one (c : Char) (rest : List Char) : Covers (c :: rest) 1 (lowerChar c) :=
  ⟨Nat.one_pos, by simp, by simp⟩

theorem Covers.cons {rest : List Char} (h : Covers rest n part) (c : Char) :
    Covers (c :: rest) (n + 1) (lowerChar c ++ part) := by
  obtain ⟨_, hle, hpart⟩ := h
  refine ⟨Nat.succ_pos n, Nat.succ_le_succ hle, ?_⟩
  rw [List.take_succ_cons, List.flatMap_cons, hpart]

/-- What is covered begins with the first character, and what is left of it is covered by the rest.
-/
theorem Covers.uncons {c : Char} {rest : List Char} (h : Covers (c :: rest) n part) :
    (n = 1 ∧ part = lowerChar c) ∨
      ∃ m tail, n = m + 1 ∧ part = lowerChar c ++ tail ∧ Covers rest m tail := by
  obtain ⟨hpos, hle, hpart⟩ := h
  obtain ⟨m, rfl⟩ := Nat.exists_eq_add_of_lt hpos
  rw [Nat.zero_add] at hle hpart ⊢
  rw [List.take_succ_cons, List.flatMap_cons] at hpart
  by_cases hm : m = 0
  · subst hm
    exact .inl ⟨rfl, by simpa using hpart.symm⟩
  · exact .inr ⟨m, _, rfl, hpart.symm, Nat.pos_of_ne_zero hm, Nat.le_of_succ_le_succ hle, rfl⟩

theorem Covers.head? {c : Char} {rest : List Char} (h : Covers (c :: rest) n part) :
    part.head? = (lowerChar c).head? := by
  obtain ⟨first, others, hlower⟩ := List.exists_cons_of_ne_nil (lowerChar_ne_nil c)
  rcases h.uncons with ⟨_, rfl⟩ | ⟨_, tail, _, rfl, _⟩
  · rfl
  · rw [hlower]
    rfl

/-- A character that is covered gives all of its lower-case form to the word. -/
theorem Covers.subset {front : List Char} {c : Char} {rest : List Char}
    (h : Covers (front ++ c :: rest) n part) (hlt : front.length < n) : lowerChar c ⊆ part := by
  obtain ⟨_, _, rfl⟩ := h
  intro x hx
  refine List.mem_flatMap.mpr ⟨c, ?_, hx⟩
  refine List.mem_take_iff_getElem.mpr ⟨front.length, ?_, by simp⟩
  rw [List.length_append, List.length_cons]
  omega

/-! ### One step of the search -/

section Step

variable {c : Char} {rest : List Char} {begun : List (α × List Char)} {word : α}

/-- The words that go on after a character, with what is left of them. -/
def goOn (c : Char) (begun : List (α × List Char)) : List (α × List Char) :=
  begun.filterMap fun (word, part) =>
    (List.isPrefixOf? (lowerChar c) part).map fun part => (word, part)

theorem mem_goOn {tail : List Char} :
    (word, tail) ∈ goOn c begun ↔ (word, lowerChar c ++ tail) ∈ begun := by
  rw [goOn, List.mem_filterMap]
  constructor
  · intro ⟨⟨other, part⟩, hmem, hpart⟩
    obtain ⟨tail', htail, heq⟩ := Option.map_eq_some_iff.mp hpart
    cases heq
    rwa [← List.isPrefixOf?_eq_some_iff_append_eq.mp htail] at hmem
  · intro hmem
    refine ⟨_, hmem, ?_⟩
    exact Option.map_eq_some_iff.mpr
      ⟨tail, List.isPrefixOf?_eq_some_iff_append_eq.mpr rfl, rfl⟩

/-- The words that are not used up yet. -/
def unended (c : Char) (begun : List (α × List Char)) : List (α × List Char) :=
  (goOn c begun).filter fun (_, part) => !part.isEmpty

theorem mem_unended {tail : List Char} :
    (word, tail) ∈ unended c begun ↔ (word, lowerChar c ++ tail) ∈ begun ∧ tail ≠ [] := by
  rw [unended, List.mem_filter, mem_goOn]
  simp

/-- The first word that a character ends. -/
def ended (c : Char) (begun : List (α × List Char)) : Option α :=
  ((goOn c begun).find? fun (_, part) => part.isEmpty).map Prod.fst

theorem mem_of_ended (h : ended c begun = some word) : (word, lowerChar c) ∈ begun := by
  obtain ⟨⟨other, part⟩, hfind, rfl⟩ := Option.map_eq_some_iff.mp h
  have hmem := List.mem_of_find?_eq_some hfind
  have hempty : part = [] := by simpa using List.find?_some hfind
  rw [hempty, mem_goOn, List.append_nil] at hmem
  exact hmem

theorem ended_eq_none_iff :
    ended c begun = none ↔ ∀ word, (word, lowerChar c) ∉ begun := by
  rw [ended, Option.map_eq_none_iff, List.find?_eq_none]
  constructor
  · intro h word hmem
    have hgone := mem_goOn.mpr ((List.append_nil (lowerChar c)).symm ▸ hmem)
    exact h _ hgone rfl
  · intro h ⟨word, part⟩ hmem hempty
    have hnil : part = [] := by simpa using hempty
    rw [hnil, mem_goOn, List.append_nil] at hmem
    exact h word hmem

theorem longestMatchFrom_nil (read : Nat) (found : Option (α × Nat)) (source : List Char) :
    longestMatchFrom read found [] source = found := by
  cases source <;> rfl

/-- Stopping early changes nothing. -/
theorem longestMatchFrom_cons (read : Nat) (found : Option (α × Nat)) :
    longestMatchFrom read found begun (c :: rest) =
      longestMatchFrom (read + 1) (((ended c begun).map (·, read + 1)).or found)
        (unended c begun) rest := by
  have hended : ((goOn c begun).find? fun (_, part) => part.isEmpty).map
      (fun (word, _) => (word, read + 1)) = (ended c begun).map (·, read + 1) := by
    rw [ended, Option.map_map]
    rfl
  rw [← hended]
  change (if (unended c begun).isEmpty then _ else _) = _
  split
  · rename_i hempty
    rw [List.isEmpty_iff.mp hempty, longestMatchFrom_nil]
    rfl
  · rfl

end Step

/-! ### The whole search -/

variable {begun : List (α × List Char)}

theorem longestMatchFrom_of_none {read : Nat} {found : Option (α × Nat)}
    (h : ∀ word part, (word, part) ∈ begun → ∀ n, ¬Covers source n part) :
    longestMatchFrom read found begun source = found := by
  induction source generalizing read found begun with
  | nil => rfl
  | cons c rest ih =>
      have hended : ended c begun = none :=
        ended_eq_none_iff.mpr fun word hmem => h word _ hmem 1 (covers_one c rest)
      rw [longestMatchFrom_cons, hended]
      refine ih fun word tail hmem n hcovers => ?_
      exact h word _ (mem_unended.mp hmem).1 (n + 1) (hcovers.cons c)

theorem longestMatchFrom_of_some (read : Nat) (found : Option (α × Nat))
    (h : ∃ word part, (word, part) ∈ begun ∧ ∃ n, Covers source n part) :
    ∃ word part n, (word, part) ∈ begun ∧ Covers source n part ∧
      (∀ other part', (other, part') ∈ begun → ∀ m, Covers source m part' → m ≤ n) ∧
      longestMatchFrom read found begun source = some (word, read + n) := by
  induction source generalizing read found begun with
  | nil =>
      obtain ⟨_, _, _, _, hcovers⟩ := h
      exact absurd hcovers not_covers_nil
  | cons c rest ih =>
      rw [longestMatchFrom_cons]
      by_cases hlater : ∃ word part, (word, part) ∈ unended c begun ∧ ∃ n, Covers rest n part
      · obtain ⟨word, part, n, hmem, hcovers, hlongest, hfound⟩ :=
          ih (read + 1) (((ended c begun).map (·, read + 1)).or found) hlater
        refine ⟨word, lowerChar c ++ part, n + 1, (mem_unended.mp hmem).1, hcovers.cons c, ?_, ?_⟩
        · intro other part' hother m hm
          rcases hm.uncons with ⟨rfl, _⟩ | ⟨m, tail, rfl, rfl, htail⟩
          · omega
          · have hle := hlongest other tail (mem_unended.mpr ⟨hother, htail.ne_nil⟩) m htail
            omega
        · rw [hfound, Nat.add_assoc, Nat.add_comm 1 n]
      · -- Every word that covers anything ends here, so the first of them is the answer.
        have hone : ∀ other part', (other, part') ∈ begun → ∀ m, Covers (c :: rest) m part' →
            m = 1 ∧ part' = lowerChar c := by
          intro other part' hother m hm
          rcases hm.uncons with hm | ⟨m, tail, rfl, rfl, htail⟩
          · exact hm
          · exact absurd ⟨other, tail, mem_unended.mpr ⟨hother, htail.ne_nil⟩, m, htail⟩ hlater
        obtain ⟨other, part', hother, m, hm⟩ := h
        obtain ⟨rfl, rfl⟩ := hone other part' hother m hm
        have hsome : ended c begun ≠ none := fun hnone => ended_eq_none_iff.mp hnone other hother
        obtain ⟨word, hword⟩ := Option.ne_none_iff_exists'.mp hsome
        refine ⟨word, lowerChar c, 1, mem_of_ended hword, covers_one c rest, ?_, ?_⟩
        · intro other part' hother m hm
          exact Nat.le_of_eq (hone other part' hother m hm).1
        · rw [hword]
          refine longestMatchFrom_of_none fun word part hmem n hcovers => ?_
          exact hlater ⟨word, part, hmem, n, hcovers⟩

section Words

variable {spelling : α → String} {words : List α} {word : α}

theorem mem_begun {part : List Char} :
    (word, part) ∈ words.map (fun word => (word, (spelling word).toList)) ↔
      word ∈ words ∧ part = (spelling word).toList := by
  rw [List.mem_map]
  constructor
  · intro ⟨other, hmem, heq⟩
    cases heq
    exact ⟨hmem, rfl⟩
  · intro ⟨hmem, hpart⟩
    exact ⟨word, hmem, by rw [hpart]⟩

/-- **Nothing is found when no word covers anything.** -/
theorem longestMatch_of_none (h : ∀ word ∈ words, ∀ n, ¬Covers source n (spelling word).toList) :
    longestMatch spelling words source = none := by
  refine longestMatchFrom_of_none fun word part hmem => ?_
  obtain ⟨hword, rfl⟩ := mem_begun.mp hmem
  exact h word hword

/-- **The word that is found covers the most characters.** -/
theorem longestMatch_of_some (hword : word ∈ words) (h : Covers source n (spelling word).toList) :
    ∃ longest ∈ words, ∃ m, Covers source m (spelling longest).toList ∧
      (∀ other ∈ words, ∀ k, Covers source k (spelling other).toList → k ≤ m) ∧
      longestMatch spelling words source = some (longest, m) := by
  obtain ⟨longest, part, m, hmem, hcovers, hmost, hfound⟩ := longestMatchFrom_of_some 0
    none ⟨word, _, mem_begun.mpr ⟨hword, rfl⟩, n, h⟩
  obtain ⟨hlongest, rfl⟩ := mem_begun.mp hmem
  refine ⟨longest, hlongest, m, hcovers, fun other hother k hk => ?_, ?_⟩
  · exact hmost other _ (mem_begun.mpr ⟨hother, rfl⟩) k hk
  · rwa [Nat.zero_add] at hfound

theorem covers_of_longestMatch (h : longestMatch spelling words source = some (word, n)) :
    word ∈ words ∧ Covers source n (spelling word).toList ∧
      ∀ other ∈ words, ∀ k, Covers source k (spelling other).toList → k ≤ n := by
  by_cases hany : ∃ other ∈ words, ∃ k, Covers source k (spelling other).toList
  · obtain ⟨other, hother, k, hk⟩ := hany
    obtain ⟨longest, hlongest, m, hcovers, hmost, hfound⟩ := longestMatch_of_some hother hk
    rw [h] at hfound
    cases hfound
    exact ⟨hlongest, hcovers, hmost⟩
  · push Not at hany
    rw [longestMatch_of_none hany] at h
    cases h

end Words
end PocketSql
