import PocketSql.Proofs.Token.Front
import PocketSql.Proofs.Unicode.Recasing
/-!
# The words at the front of a text

What a text begins with is settled by its first characters and the one after them. A word is a
reserved word, a symbol, a quoted text, a numeral or a name, each ending where the character after
it does not go on with it, and a symbol where no longer one stands there. The scanners together take
such words (`front_of_isWord`), and apart from a blank they take nothing else (`exists_of_front`).
Each of them moves the cursor in its own way and comes to the place behind what it took
(`scan_exact`). Nothing further on has a say, so a word stays one where the text after it is cut
short.
-/

namespace PocketSql

open Unicode

/-- No longer symbol stands where this one and then `rest` do. -/
def Symbol.EndsBefore (mark : Symbol) (rest : List Char) : Prop :=
  ∀ other : Symbol, other.spelling.toList <+: mark.spelling.toList ++ rest →
    other.spelling.toList.length ≤ mark.spelling.toList.length

/-- The characters are a whole word of some text and kind when `rest` follows them. -/
inductive IsWord (rest : List Char) : List Char → String → TokenKind → Prop where
  | keyword {word : Keyword} {chars : List Char}
      (hcase : chars.map Char.toLower = word.spelling.toList)
      (hend : rest.head?.any Scanner.isNameChar = false) :
      IsWord rest chars word.spelling word.kind
  | symbol {mark : Symbol} (hend : mark.EndsBefore rest) :
      IsWord rest mark.spelling.toList mark.spelling .symbol
  | string {text : List Char} (hend : rest.head? ≠ some '\'') :
      IsWord rest (Quoted.quote '\'' text) (String.ofList text) .string
  | numeral {numeral : Numeral} (hnumeral : numeral.WellFormed)
      (hend : rest.head?.any Numeral.goesOn = false) :
      IsWord rest numeral.chars (String.ofList numeral.chars) .numeric
  | quotedName {text : List Char} (hend : rest.head? ≠ some '"') :
      IsWord rest (Quoted.quote '"' text) (String.ofList text) .identifier
  | bareName {chars : List Char} (hfirst : chars.head?.any isAlphabetic = true)
      (hchars : ∀ c ∈ chars, Scanner.isNameChar c = true)
      (hfree : ∀ word : Keyword, chars.map Char.toLower ≠ word.spelling.toList)
      (hend : rest.head?.any Scanner.isNameChar = false) :
      IsWord rest chars (lowercase (String.ofList chars)) .identifier

namespace Scanner

variable {cursor : Cursor} {source rest chars : List Char} {lexeme : Lexeme} {n : Nat}

/-! ### Quoted texts -/

theorem exists_of_scanQuoted {delimiter : Char} {kind : TokenKind} (hfeed : delimiter ≠ '\n')
    (h : scanQuoted delimiter kind cursor source = some lexeme) :
    ∃ text rest, source = Quoted.quote delimiter text ++ rest ∧ rest.head? ≠ some delimiter ∧
      lexeme = .ofWord cursor (Quoted.quote delimiter text) (String.ofList text) kind := by
  obtain ⟨⟨text, later⟩, hread, hlexeme⟩ := Option.bind_eq_some_iff.mp h
  obtain ⟨rest, hsource, hend, rfl⟩ := Quoted.exists_rest_of_unquote hfeed hread
  exact ⟨text, rest, hsource, hend, (Option.some.inj hlexeme).symm⟩

/-! ### Reserved words -/

theorem ascii_of_mem_spelling (word : Keyword) :
    ∀ c ∈ word.spelling.toList, 0 < c.toNat ∧ c.toNat < 128 ∧ c ≠ 'k' := by
  have hall : word.spelling.toList.all
      (fun c => 0 < c.toNat && c.toNat < 128 && c != 'k') = true := by
    cases word <;> decide
  intro c hc
  simpa [and_assoc] using List.all_eq_true.mp hall c hc

theorem isNameChar_of_isAlphabetic {c : Char} (h : isAlphabetic c = true) :
    isNameChar c = true := by
  simp [isNameChar, isAlphanumeric, h]

theorem isNameChar_of_map_toLower {word : Keyword}
    (hcase : chars.map Char.toLower = word.spelling.toList) :
    ∀ c ∈ chars, isNameChar c = true := by
  rw [← List.all_eq_true, ← all_map_toLower isNameChar_toLower, hcase]
  cases word <;> decide +kernel

/-- What covers a reserved word is the word in some ASCII case. -/
theorem map_toLower_of_covers {word : Keyword} (h : Covers source n word.spelling.toList) :
    (source.take n).map Char.toLower = word.spelling.toList := by
  obtain ⟨_, _, hpart⟩ := h
  rw [← hpart, List.map_eq_flatMap]
  refine List.flatMap_congr fun c hc => ?_
  have hascii : c.toNat < 128 := by
    apply ascii_of_lowerChar
    intro x hx
    apply ascii_of_mem_spelling word
    rw [← hpart]
    exact List.mem_flatMap.mpr ⟨c, hc, hx⟩
  exact (lowerChar_ascii hascii).symm

theorem exists_of_scanKeyword (h : scanKeyword cursor source = some lexeme) :
    ∃ (word : Keyword) (chars rest : List Char), source = chars ++ rest ∧
      chars.map Char.toLower = word.spelling.toList ∧ rest.head?.any isNameChar = false ∧
      lexeme = .ofWord cursor chars word.spelling word.kind := by
  obtain ⟨⟨word, length⟩, hmatch, hlexeme⟩ := Option.bind_eq_some_iff.mp h
  obtain ⟨_, hcovers, _⟩ := covers_of_longestMatch hmatch
  have hcase := map_toLower_of_covers hcovers
  dsimp only at hlexeme
  split at hlexeme
  case isTrue => cases hlexeme
  case isFalse hend =>
      refine ⟨word, source.take length, source.drop length, ?_, hcase, ?_, ?_⟩
      · exact (List.take_append_drop length source).symm
      · simpa using hend
      · rw [Lexeme.ofWord_of_notMem (feed_notMem_of_map_toLower hcase),
          List.length_take_of_le hcovers.2.1]
        exact (Option.some.inj hlexeme).symm

/-! ### Symbols -/

theorem mem_all_symbol (mark : Symbol) : mark ∈ Symbol.all := by
  cases mark <;> decide

theorem symbol_of_spelling {a b : Symbol} (h : a.spelling.toList = b.spelling.toList) : a = b := by
  cases a <;> cases b <;> first | rfl | exact absurd h (by decide)

/-- Symbols are ASCII and begin with no letter or blank. -/
theorem spelling_symbol (mark : Symbol) :
    (∀ c ∈ mark.spelling.toList, lowerChar c = [c] ∧ 0 < c.toNat ∧ c.toNat < 128 ∧ c ≠ 'k') ∧
      mark.spelling.toList ≠ [] ∧ mark.spelling.toList.head?.any isAlphabetic = false ∧
      mark.spelling.toList.head?.any isBlank = false := by
  have hall : mark.spelling.toList.all
      (fun c => lowerChar c == [c] && 0 < c.toNat && c.toNat < 128 && c != 'k') = true := by
    cases mark <;> decide +kernel
  constructor
  · intro c hc
    simpa [and_assoc] using List.all_eq_true.mp hall c hc
  · cases mark <;> decide +kernel

/-- No other character is put in the characters of symbols. -/
theorem toLower_of_mem_spelling {mark : Symbol} {c : Char} (hc : c.toNat < 128) :
    c.toLower ∈ mark.spelling.toList → c.toLower = c := by
  revert c
  apply of_points
  cases mark <;> decide +kernel

theorem covers_symbol_iff {mark : Symbol} :
    Covers source n mark.spelling.toList ↔
      n = mark.spelling.toList.length ∧ mark.spelling.toList <+: source := by
  obtain ⟨hself, hne, _⟩ := spelling_symbol mark
  constructor
  · rintro ⟨_, hle, hpart⟩
    have hlower : ∀ c ∈ source.take n, lowerChar c = [c] := by
      intro c hc
      have hmem : ∀ x ∈ lowerChar c, x ∈ mark.spelling.toList := by
        intro x hx
        rw [← hpart]
        exact List.mem_flatMap.mpr ⟨c, hc, hx⟩
      have hascii : c.toNat < 128 := ascii_of_lowerChar fun x hx => (hself x (hmem x hx)).2
      rw [lowerChar_ascii hascii] at hmem ⊢
      rw [toLower_of_mem_spelling hascii (hmem _ (List.mem_singleton_self _))]
    have htake : source.take n = mark.spelling.toList := by
      rw [← hpart, List.flatMap_congr hlower, List.flatMap_singleton']
    rw [← htake]
    exact ⟨(List.length_take_of_le hle).symm, List.take_prefix n source⟩
  · rintro ⟨rfl, rest, rfl⟩
    refine ⟨List.length_pos_iff.mpr hne, by simp, ?_⟩
    rw [List.take_left, List.flatMap_congr fun c hc => (hself c hc).1, List.flatMap_singleton']

theorem scanSymbol_append {mark : Symbol} (hend : mark.EndsBefore rest) :
    scanSymbol cursor (mark.spelling.toList ++ rest) =
      some (.ofWord cursor mark.spelling.toList mark.spelling .symbol) := by
  obtain ⟨_, hne, _, hblank⟩ := spelling_symbol mark
  have hself : mark.spelling.toList <+: mark.spelling.toList ++ rest := List.prefix_append _ _
  obtain ⟨longest, _, m, hlongest, hmost, hfound⟩ :=
    longestMatch_of_some (mem_all_symbol mark) (covers_symbol_iff.mpr ⟨rfl, hself⟩)
  obtain ⟨rfl, hprefix⟩ := covers_symbol_iff.mp hlongest
  have hle := hmost mark (mem_all_symbol mark) _ (covers_symbol_iff.mpr ⟨rfl, hself⟩)
  have hlength := Nat.le_antisymm (hend longest hprefix) hle
  have hmark : longest = mark :=
    symbol_of_spelling ((List.prefix_of_prefix_length_le hprefix hself hlength.le).eq_of_length
      hlength)
  have hhead : (mark.spelling.toList ++ rest).head?.any isBlank = false := by
    rwa [List.head?_append_of_ne_nil _ hne]
  rw [Lexeme.ofWord_of_notMem (feed_notMem_spelling mark), scanSymbol_of_not_blank hhead, hfound,
    hmark]
  rfl

theorem exists_of_scanSymbol (h : scanSymbol cursor source = some lexeme) :
    (∃ c rest, source = c :: rest ∧ isBlank c = true ∧ lexeme = .ofBlank cursor c) ∨
      ∃ (mark : Symbol) (rest : List Char), source = mark.spelling.toList ++ rest ∧
        mark.EndsBefore rest ∧
        lexeme = .ofWord cursor mark.spelling.toList mark.spelling .symbol := by
  cases hblank : source.head?.any isBlank with
  | true =>
      cases source with
      | nil => cases hblank
      | cons c rest =>
          rw [scanSymbol_blank hblank] at h
          exact .inl ⟨c, rest, rfl, hblank, (Option.some.inj h).symm⟩
  | false =>
      rw [scanSymbol_of_not_blank hblank] at h
      obtain ⟨⟨mark, length⟩, hmatch, rfl⟩ := Option.map_eq_some_iff.mp h
      obtain ⟨_, hcovers, hmost⟩ := covers_of_longestMatch hmatch
      obtain ⟨rfl, rest, rfl⟩ := covers_symbol_iff.mp hcovers
      refine .inr ⟨mark, rest, rfl, fun other hother => ?_, ?_⟩
      · exact hmost other (mem_all_symbol other) _ (covers_symbol_iff.mpr ⟨rfl, hother⟩)
      · rw [Lexeme.ofWord_of_notMem (feed_notMem_spelling mark)]

/-! ### Names without quotes -/

theorem feed_notMem_of_isNameChar (hchars : ∀ c ∈ chars, isNameChar c = true) : '\n' ∉ chars := by
  intro hfeed
  have hnot : isNameChar '\n' = false := not_isNameChar_of_isBlank rfl
  exact absurd (hchars _ hfeed) (by simp [hnot])

theorem scanBareName_append (hfirst : chars.head?.any isAlphabetic = true)
    (hchars : ∀ c ∈ chars, isNameChar c = true) (hend : rest.head?.any isNameChar = false) :
    scanBareName cursor (chars ++ rest) =
      some (.ofWord cursor chars (lowercase (String.ofList chars)) .identifier) := by
  rw [Lexeme.ofWord_of_notMem (feed_notMem_of_isNameChar hchars)]
  cases chars with
  | nil => cases hfirst
  | cons c chars =>
      have hothers := fun d hd => hchars d (List.mem_cons_of_mem c hd)
      have hletter : isAlphabetic c = true := hfirst
      rw [List.cons_append, scanBareName, if_pos hletter, takeWhile_append_of_head? hothers hend]

theorem exists_of_scanBareName (h : scanBareName cursor source = some lexeme) :
    ∃ chars rest, source = chars ++ rest ∧ chars.head?.any isAlphabetic = true ∧
      (∀ c ∈ chars, isNameChar c = true) ∧ rest.head?.any isNameChar = false ∧
      lexeme = .ofWord cursor chars (lowercase (String.ofList chars)) .identifier := by
  unfold scanBareName at h
  split at h
  · cases h
  · rename_i c rest
    split at h
    case isTrue hletter =>
        have hchars : ∀ d ∈ c :: rest.takeWhile isNameChar, isNameChar d = true := by
          refine List.forall_mem_cons.mpr ⟨isNameChar_of_isAlphabetic hletter, fun d => ?_⟩
          exact List.mem_takeWhile_imp
        refine ⟨c :: rest.takeWhile isNameChar, rest.dropWhile isNameChar, ?_, hletter, hchars, ?_,
          ?_⟩
        · rw [List.cons_append, List.takeWhile_append_dropWhile]
        · exact head?_dropWhile_any isNameChar rest
        · rw [Lexeme.ofWord_of_notMem (feed_notMem_of_isNameChar hchars)]
          exact (Option.some.inj h).symm
    case isFalse => cases h

/-! ### Numerals -/

theorem exists_of_scanNumeral (h : scanNumeral cursor source = some lexeme) :
    ∃ (numeral : Numeral) (rest : List Char), source = numeral.chars ++ rest ∧
      numeral.WellFormed ∧ rest.head?.any Numeral.goesOn = false ∧
      lexeme = .ofWord cursor numeral.chars (String.ofList numeral.chars) .numeric := by
  cases hread : Numeral.read source with
  | error fault =>
      rw [scanNumeral, hread] at h
      cases h
  | ok numeral =>
      obtain ⟨rest, rfl, hend⟩ := Numeral.exists_rest_of_read hread
      have hnumeral := Numeral.wellFormed_of_read hread
      rw [scanNumeral_append hnumeral hend] at h
      exact ⟨numeral, rest, rfl, hnumeral, hend, (Option.some.inj h).symm⟩

/-! ### All scanners together -/

/-- **Every scanner moves its cursor exactly over what it takes**, and what it takes begins where
the cursor was. -/
theorem scan_exact {scanner : Scanner} (h : scanner.scan cursor source = some lexeme) :
    ∃ chars rest, source = chars ++ rest ∧ lexeme.cursor = cursor.after chars ∧
      ∀ token, lexeme.token = some token → token.location = cursor.location := by
  have hword {chars : List Char} {value : String} {kind : TokenKind} (token : Token)
      (htoken : (Lexeme.ofWord cursor chars value kind).token = some token) :
      token.location = cursor.location := by
    rw [← Option.some.inj htoken]
  cases scanner with
  | keyword =>
      obtain ⟨_, chars, rest, rfl, _, _, rfl⟩ := exists_of_scanKeyword h
      exact ⟨chars, rest, rfl, rfl, hword⟩
  | symbol =>
      rcases exists_of_scanSymbol h with ⟨c, rest, rfl, _, rfl⟩ | ⟨_, rest, rfl, _, rfl⟩
      · exact ⟨[c], rest, rfl, rfl, fun token htoken => by cases htoken⟩
      · exact ⟨_, rest, rfl, rfl, hword⟩
  | string =>
      obtain ⟨_, rest, rfl, _, rfl⟩ := exists_of_scanQuoted (by decide) h
      exact ⟨_, rest, rfl, rfl, hword⟩
  | numeric =>
      obtain ⟨_, rest, rfl, _, _, rfl⟩ := exists_of_scanNumeral h
      exact ⟨_, rest, rfl, rfl, hword⟩
  | identifier =>
      rcases Option.or_eq_some_iff.mp h with hquoted | ⟨_, hbare⟩
      · obtain ⟨_, rest, rfl, _, rfl⟩ := exists_of_scanQuoted (by decide) hquoted
        exact ⟨_, rest, rfl, rfl, hword⟩
      · obtain ⟨chars, rest, rfl, _, _, _, rfl⟩ := exists_of_scanBareName hbare
        exact ⟨chars, rest, rfl, rfl, hword⟩

/-- **What is taken is a blank or a word**, and the cursor comes to the place behind it. -/
theorem exists_of_front (h : front cursor source = some lexeme) :
    (∃ c rest, source = c :: rest ∧ isBlank c = true ∧ lexeme = .ofBlank cursor c) ∨
      ∃ chars rest value kind, source = chars ++ rest ∧ IsWord rest chars value kind ∧
        lexeme = .ofWord cursor chars value kind := by
  rw [front_eq] at h
  rcases Option.or_eq_some_iff.mp h with hkeyword | ⟨hnone, h⟩
  · obtain ⟨word, chars, rest, rfl, hcase, hend, rfl⟩ := exists_of_scanKeyword hkeyword
    exact .inr ⟨chars, rest, _, _, rfl, .keyword hcase hend, rfl⟩
  rcases Option.or_eq_some_iff.mp h with hsymbol | ⟨_, h⟩
  · rcases exists_of_scanSymbol hsymbol with hblank | ⟨mark, rest, rfl, hend, rfl⟩
    · exact .inl hblank
    · exact .inr ⟨_, rest, _, _, rfl, .symbol hend, rfl⟩
  rcases Option.or_eq_some_iff.mp h with hstring | ⟨_, h⟩
  · obtain ⟨text, rest, rfl, hend, rfl⟩ := exists_of_scanQuoted (by decide) hstring
    exact .inr ⟨_, rest, _, _, rfl, .string hend, rfl⟩
  rcases Option.or_eq_some_iff.mp h with hnumeral | ⟨_, h⟩
  · obtain ⟨numeral, rest, rfl, hgrammar, hend, rfl⟩ := exists_of_scanNumeral hnumeral
    exact .inr ⟨_, rest, _, _, rfl, .numeral hgrammar hend, rfl⟩
  rcases Option.or_eq_some_iff.mp h with hquoted | ⟨_, hbare⟩
  · obtain ⟨text, rest, rfl, hend, rfl⟩ := exists_of_scanQuoted (by decide) hquoted
    exact .inr ⟨_, rest, _, _, rfl, .quotedName hend, rfl⟩
  · obtain ⟨chars, rest, rfl, hfirst, hchars, hend, rfl⟩ := exists_of_scanBareName hbare
    refine .inr ⟨chars, rest, _, _, rfl, .bareName hfirst hchars (fun word hcase => ?_) hend, rfl⟩
    -- A name that is a reserved word in some case was taken as the reserved word.
    rw [scanKeyword_append hcase hend] at hnone
    cases hnone

/-- A letter begins no symbol, quoted text or numeral. -/
theorem front_letter {c : Char} (hletter : isAlphabetic c = true) (rest : List Char) :
    front cursor (c :: rest) =
      (scanKeyword cursor (c :: rest)).or (scanBareName cursor (c :: rest)) := by
  have hne {d : Char} (hd : isAlphabetic d = false) : c ≠ d := by
    rintro rfl
    rw [hletter] at hd
    cases hd
  have hsymbol : scanSymbol cursor (c :: rest) = none := by
    refine Option.eq_none_iff_forall_ne_some.mpr fun lexeme htaken => ?_
    rcases exists_of_scanSymbol htaken with ⟨d, _, heq, hblank, _⟩ | ⟨mark, _, heq, _⟩
    · obtain ⟨rfl, _⟩ := List.cons.inj heq
      exact hne (isAlphabetic_of_isBlank hblank) rfl
    · obtain ⟨_, hnil, hfirst, _⟩ := spelling_symbol mark
      rw [← List.head?_append_of_ne_nil _ hnil, ← heq] at hfirst
      exact hne hfirst rfl
  have hnumeral : scanNumeral cursor (c :: rest) = none := by
    refine Option.eq_none_iff_forall_ne_some.mpr fun lexeme htaken => ?_
    obtain ⟨numeral, _, heq, hgrammar, _⟩ := exists_of_scanNumeral htaken
    obtain ⟨d, others, hchars, hopener, _⟩ := isOpener_of_numeral hgrammar
    rw [hchars] at heq
    obtain ⟨rfl, _⟩ := List.cons.inj heq
    exact hne (not_earlier_of_isOpener hopener).1 rfl
  rw [front_eq, hsymbol, hnumeral, scanQuoted_of_ne (hne (by decide)),
    scanQuoted_of_ne (hne (by decide))]
  rfl

/-- **A word is taken.** -/
theorem front_of_isWord {value : String} {kind : TokenKind} (h : IsWord rest chars value kind) :
    front cursor (chars ++ rest) = some (.ofWord cursor chars value kind) := by
  cases h with
  | keyword hcase hend =>
      rw [front_eq, scanKeyword_append hcase hend]
      rfl
  | @symbol mark hend =>
      obtain ⟨_, hne, hfirst, _⟩ := spelling_symbol mark
      have hkeyword : scanKeyword cursor (mark.spelling.toList ++ rest) = none := by
        apply scanKeyword_of_head?
        rwa [List.head?_append_of_ne_nil _ hne]
      rw [front_eq, hkeyword, scanSymbol_append hend]
      rfl
  | @string text hend =>
      have htaken : front cursor _ = _ := front_string (String.ofList text) hend
      rwa [String.toList_ofList] at htaken
  | numeral hnumeral hend => exact front_numeral hnumeral hend
  | @quotedName text hend =>
      have htaken : front cursor _ = _ := front_name (String.ofList text) hend
      rwa [String.toList_ofList] at htaken
  | bareName hfirst hchars hfree hend =>
      have hbare : scanBareName cursor (chars ++ rest) = _ :=
        scanBareName_append hfirst hchars hend
      have hkeyword : scanKeyword cursor (chars ++ rest) = none := by
        refine Option.eq_none_iff_forall_ne_some.mpr fun lexeme htaken => ?_
        obtain ⟨word, others, after, heq, hcase, hothers, _⟩ := exists_of_scanKeyword htaken
        -- A reserved word would end where the name ends, and then it is the whole name.
        have hsame := congrArg (List.takeWhile isNameChar) heq
        rw [takeWhile_append_of_head? hchars hend,
          takeWhile_append_of_head? (isNameChar_of_map_toLower hcase) hothers] at hsame
        exact hfree word (hsame ▸ hcase)
      cases chars with
      | nil => cases hfirst
      | cons c chars =>
          rw [List.cons_append] at hbare hkeyword ⊢
          rw [front_letter hfirst, hkeyword, hbare]
          rfl

/-- Where nothing is taken, the characters are the reason and not the cursor. -/
theorem front_eq_none_of_cursor (h : front cursor source = none) (other : Cursor) :
    front other source = none := by
  refine Option.eq_none_iff_forall_ne_some.mpr fun lexeme htaken => ?_
  rcases exists_of_front htaken with
    ⟨c, rest, rfl, hblank, _⟩ | ⟨chars, rest, value, kind, rfl, hword, _⟩
  · rw [front_blank hblank] at h
    cases h
  · rw [front_of_isWord hword] at h
    cases h

end Scanner

/-! ### Words and what follows them -/

namespace IsWord

variable {rest more chars : List Char} {value : String} {kind : TokenKind}

theorem ne_nil (h : IsWord rest chars value kind) : chars ≠ [] := by
  obtain ⟨_, scanner, _, _, hscan, _⟩ :=
    List.findSome?_eq_some_iff.mp (Scanner.front_of_isWord h : Scanner.front {} _ = _)
  have hlt := Scanner.position_lt_of_scan hscan
  rintro rfl
  exact Nat.lt_irrefl _ hlt

theorem not_isBlank (h : IsWord rest chars value kind) :
    (chars ++ rest).head?.any Scanner.isBlank = false := by
  have htaken : Scanner.front {} _ = _ := Scanner.front_of_isWord h
  obtain ⟨c, others, rfl⟩ := List.exists_cons_of_ne_nil h.ne_nil
  rw [Bool.eq_false_iff]
  intro hblank
  rw [List.cons_append, Scanner.front_blank hblank] at htaken
  exact Lexeme.ofBlank_ne_ofWord (Option.some.inj htaken)

/-- A word stays a word where the text after it is cut short. -/
theorem of_append (h : IsWord (rest ++ more) chars value kind) :
    IsWord rest chars value kind := by
  have hany {p : Char → Bool} (hend : (rest ++ more).head?.any p = false) :
      rest.head?.any p = false := by
    cases rest with
    | nil => rfl
    | cons c rest => exact hend
  have hne {d : Char} (hend : (rest ++ more).head? ≠ some d) : rest.head? ≠ some d := by
    cases rest with
    | nil => simp
    | cons c rest => exact hend
  cases h with
  | keyword hcase hend => exact .keyword hcase (hany hend)
  | symbol hend =>
      refine .symbol fun other hother => hend other (hother.trans ?_)
      rw [← List.append_assoc]
      exact List.prefix_append _ more
  | string hend => exact .string (hne hend)
  | numeral hnumeral hend => exact .numeral hnumeral (hany hend)
  | quotedName hend => exact .quotedName (hne hend)
  | bareName hfirst hchars hfree hend => exact .bareName hfirst hchars hfree (hany hend)

end IsWord
end PocketSql
