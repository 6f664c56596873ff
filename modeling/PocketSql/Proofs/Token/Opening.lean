import PocketSql.Proofs.Token.Word
/-!
# The first characters of words

Each scanner takes words, or blanks, that begin with some characters and no others (`opens`). A
character opens the words of one scanner only, unless it is a letter, which opens reserved words and
names. So at most one scanner takes something at the front of a text, but for these two, and they
take the same characters, up to where no name goes on (`scan_exclusive`).
-/

namespace PocketSql

open Unicode

theorem Numeral.read_of_head? {source : List Char}
    (h : source.head?.any (fun c => isDigit c || c == '.') = false) :
    read source = .error .malformed := by
  cases source with
  | nil => rfl
  | cons c rest =>
      obtain ⟨hdigit, hpoint⟩ : isDigit c = false ∧ c ≠ '.' := by
        simpa using h
      have hwhole : (c :: rest).takeWhile isDigit = [] :=
        List.takeWhile_cons_of_neg (by simp [hdigit])
      have hleft : (c :: rest).dropWhile isDigit = c :: rest :=
        List.dropWhile_cons_of_neg (by simp [hdigit])
      have hfraction : readFraction (c :: rest) = (none, c :: rest) :=
        readFraction_of_head? (by simpa using hpoint)
      rw [read, hwhole, hleft, hfraction]
      by_cases hmark : c = 'e'
      · subst hmark
        rfl
      · simp [close, hasDigit, hpoint, hmark]

namespace Scanner

variable {scanner a b : Scanner} {cursor : Cursor} {source : List Char} {lexeme x y : Lexeme}
  {c : Char}

/-! ### First characters -/

/-- The characters that a word of the scanner, or a blank that it takes, can begin with. -/
def opens : Scanner → Char → Bool
  | .keyword, c => isAlphabetic c
  | .symbol, c => isBlank c || Symbol.all.any (·.spelling.toList.head? == some c)
  | .string, c => c == '\''
  | .numeric, c => Numeral.isDigit c || c == '.'
  | .identifier, c => c == '"' || isAlphabetic c

theorem scanSymbol_of_head? (h : source.head?.any symbol.opens = false) :
    scanSymbol cursor source = none := by
  refine Option.eq_none_iff_forall_ne_some.mpr fun lexeme htaken => ?_
  rcases exists_of_scanSymbol htaken with ⟨c, _, rfl, hblank, _⟩ | ⟨mark, _, rfl, _⟩
  · simp [opens, hblank] at h
  · obtain ⟨_, hne, _⟩ := spelling_symbol mark
    obtain ⟨c, others, hspelling⟩ := List.exists_cons_of_ne_nil hne
    have hfirst : Symbol.all.any (·.spelling.toList.head? == some c) = true :=
      List.any_eq_true.mpr ⟨mark, mem_all_symbol mark, by simp [hspelling]⟩
    simp [hspelling, opens, hfirst] at h

theorem scanQuoted_of_head? {delimiter : Char} (h : source.head? ≠ some delimiter)
    (kind : TokenKind) : scanQuoted delimiter kind cursor source = none := by
  cases source with
  | nil => rfl
  | cons c rest => exact scanQuoted_of_ne (by simpa using h) kind rest

theorem scanBareName_of_head? (h : source.head?.any isAlphabetic = false) :
    scanBareName cursor source = none := by
  cases source with
  | nil => rfl
  | cons c rest => exact if_neg (by simpa using h)

/-- **What a scanner makes of a text begins with one of its characters.** In front of any other it
takes nothing and has no remark. -/
theorem scan_of_not_opens (h : source.head?.any scanner.opens = false) :
    scanner.scan cursor source = none ∧ scanner.remark cursor source = none := by
  have hquote {delimiter : Char} (hne : source.head?.any (· == delimiter) = false) :
      source.head? ≠ some delimiter := by
    intro hhead
    simp [hhead] at hne
  cases scanner with
  | keyword => exact ⟨scanKeyword_of_head? h, rfl⟩
  | symbol => exact ⟨scanSymbol_of_head? h, rfl⟩
  | string => exact ⟨scanQuoted_of_head? (hquote h) _, if_neg fun hopen => hquote h hopen.1⟩
  | numeric =>
      have hread := Numeral.read_of_head? h
      simp only [scan, scanNumeral, remark, hread, and_self]
  | identifier =>
      have hne : source.head? ≠ some '"' := by
        intro hhead
        simp [hhead, opens] at h
      have hletter : source.head?.any isAlphabetic = false := by
        cases source with
        | nil => rfl
        | cons c rest => simpa using (Bool.or_eq_false_iff.mp h).2
      refine ⟨?_, if_neg fun hopen => hne hopen.1⟩
      rw [scan, scanQuoted_of_head? hne, scanBareName_of_head? hletter]
      rfl

theorem opens_of_scan (h : scanner.scan cursor source = some lexeme) :
    source.head?.any scanner.opens = true := by
  by_contra hnot
  cases (scan_of_not_opens (Bool.eq_false_iff.mpr hnot)).1.symm.trans h

theorem opens_of_remark {found : Remark} (h : scanner.remark cursor source = some found) :
    source.head?.any scanner.opens = true := by
  by_contra hnot
  cases (scan_of_not_opens (Bool.eq_false_iff.mpr hnot)).2.symm.trans h

/-- All other first characters than letters are ASCII. -/
theorem letters_of_opens (h : scanner.opens c = true) (hlarge : 128 ≤ c.toNat) :
    scanner = .keyword ∨ scanner = .identifier := by
  have hne {d : Char} (hd : d.toNat < 128) : c ≠ d := by
    rintro rfl
    omega
  cases scanner with
  | keyword => exact .inl rfl
  | symbol =>
      rcases Bool.or_eq_true_iff.mp h with hblank | hmark
      · rcases isBlank_cases hblank with hc | hc | hc | hc
        all_goals exact absurd hc (hne (by decide))
      · obtain ⟨mark, _, hhead⟩ := List.any_eq_true.mp hmark
        have hmem := List.mem_of_head? (eq_of_beq hhead)
        have hsmall := ((spelling_symbol mark).1 c hmem).2.2.1
        omega
  | string => exact absurd (eq_of_beq h) (hne (by decide))
  | numeric =>
      rcases Bool.or_eq_true_iff.mp h with hdigit | hpoint
      · have hlast : c.toNat ≤ 57 := of_decide_eq_true (Bool.and_eq_true_iff.mp hdigit).2
        omega
      · exact absurd (eq_of_beq hpoint) (hne (by decide))
  | identifier => exact .inr rfl

theorem mem_all_scanner (scanner : Scanner) : scanner ∈ all := by
  cases scanner <;> decide

/-- Each character opens words of one scanner only, or of the two that letters open. -/
theorem openers (c : Char) :
    (∀ scanner : Scanner, scanner.opens c = true → scanner = .keyword ∨ scanner = .identifier) ∨
      ∃ only : Scanner, ∀ scanner : Scanner, scanner.opens c = true → scanner = only := by
  by_cases hc : c.toNat < 128
  · have hascii : (∀ scanner ∈ all, scanner.opens c = true →
          scanner = .keyword ∨ scanner = .identifier) ∨
        ∃ only ∈ all, ∀ scanner ∈ all, scanner.opens c = true → scanner = only := by
      revert c
      apply of_points
      decide +kernel
    rcases hascii with hletters | ⟨only, _, honly⟩
    · exact .inl fun scanner => hletters scanner scanner.mem_all_scanner
    · exact .inr ⟨only, fun scanner => honly scanner scanner.mem_all_scanner⟩
  · exact .inl fun scanner hopens => letters_of_opens hopens (Nat.le_of_not_lt hc)

theorem eq_or_of_opens (ha : a.opens c = true) (hb : b.opens c = true) :
    a = b ∨ a = .keyword ∧ b = .identifier ∨ a = .identifier ∧ b = .keyword := by
  rcases openers c with hletters | ⟨only, honly⟩
  · rcases hletters a ha with rfl | rfl
    all_goals rcases hletters b hb with rfl | rfl
    all_goals simp
  · exact .inl ((honly a ha).trans (honly b hb).symm)

theorem eq_or_of_head? (ha : source.head?.any a.opens = true)
    (hb : source.head?.any b.opens = true) :
    a = b ∨ a = .keyword ∧ b = .identifier ∨ a = .identifier ∧ b = .keyword := by
  cases source with
  | nil => cases ha
  | cons c rest => exact eq_or_of_opens ha hb

/-- Only one scanner can take anything in front of one of its first characters, a letter apart. -/
theorem front_of_opens (h : scanner.opens c = true) (hletter : isAlphabetic c = false)
    (rest : List Char) : front cursor (c :: rest) = scanner.scan cursor (c :: rest) := by
  cases hfront : front cursor (c :: rest) with
  | none =>
      exact (List.findSome?_eq_none_iff.mp hfront scanner scanner.mem_all_scanner).symm
  | some lexeme =>
      obtain ⟨taker, _, htaken⟩ := List.exists_of_findSome?_eq_some hfront
      have hopens : taker.opens c = true := opens_of_scan htaken
      rcases eq_or_of_opens hopens h with rfl | ⟨rfl, _⟩ | ⟨_, rfl⟩
      · exact htaken.symm
      · cases hletter.symm.trans hopens
      · cases hletter.symm.trans h

/-! ### The characters that are taken -/

/-- A reserved word is taken up to where no name goes on. -/
theorem cursor_of_scanKeyword (h : scanKeyword cursor source = some lexeme) :
    lexeme.cursor = cursor.after (source.takeWhile isNameChar) := by
  obtain ⟨_, chars, rest, rfl, hcase, hend, rfl⟩ := exists_of_scanKeyword h
  rw [takeWhile_append_of_head? (isNameChar_of_map_toLower hcase) hend]
  rfl

theorem cursor_of_scanBareName (h : scanBareName cursor source = some lexeme) :
    lexeme.cursor = cursor.after (source.takeWhile isNameChar) := by
  obtain ⟨chars, rest, rfl, _, hchars, hend, rfl⟩ := exists_of_scanBareName h
  rw [takeWhile_append_of_head? hchars hend]
  rfl

theorem cursor_eq_of_scanKeyword (hx : scanKeyword cursor source = some x)
    (hy : identifier.scan cursor source = some y) : x.cursor = y.cursor := by
  rcases Option.or_eq_some_iff.mp hy with hquoted | ⟨_, hbare⟩
  · -- A quote is no letter.
    obtain ⟨_, _, rfl, _⟩ := exists_of_scanQuoted (by decide) hquoted
    have hletter : isAlphabetic '"' = true := @opens_of_scan .keyword _ _ _ hx
    exact absurd hletter (by decide +kernel)
  · rw [cursor_of_scanKeyword hx, cursor_of_scanBareName hbare]

/-- **Two scanners take something of one text only where both a reserved word and a name stand
there, and then they take the same characters.** -/
theorem scan_exclusive (hx : a.scan cursor source = some x) (hy : b.scan cursor source = some y) :
    (a = b ∨ a = .keyword ∧ b = .identifier ∨ a = .identifier ∧ b = .keyword) ∧
      x.cursor = y.cursor := by
  have hpair := eq_or_of_head? (opens_of_scan hx) (opens_of_scan hy)
  refine ⟨hpair, ?_⟩
  rcases hpair with rfl | ⟨rfl, rfl⟩ | ⟨rfl, rfl⟩
  · rw [hx] at hy
    cases hy
    rfl
  · exact cursor_eq_of_scanKeyword hx hy
  · exact (cursor_eq_of_scanKeyword hy hx).symm

end Scanner
end PocketSql
