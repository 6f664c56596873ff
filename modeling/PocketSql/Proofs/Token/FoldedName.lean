import PocketSql.Proofs.Token.Reached
import PocketSql.Proofs.Token.Respelling
import PocketSql.Proofs.Unicode.Folding
/-!
# Names in lower case

A name without quotes is given in lower case, and the text that is given can be read in its turn. It
is again one word, a letter and then characters of names; it spells no reserved word, since it would
have done so before; and a second time it is put in lower case without a change. So a name means the
same whether it is written as it was or as it was given.

One letter breaks this. In lower case the capital I with a dot has its dot as a combining mark
beside it, which no name goes on with, and which nothing but a text in quotes can contain.
-/

namespace PocketSql

open Unicode

/-! ### Characters that are read in quotes only -/

section Foreign

variable {rest chars : List Char} {value : String} {kind : TokenKind} {c : Char}

/-- A word with a character that is neither ASCII nor one of names is in quotes. -/
theorem IsWord.quoted_of_foreign (h : IsWord rest chars value kind) (hc : c ∈ chars)
    (hlarge : 128 ≤ c.toNat) (hname : Scanner.isNameChar c = false) :
    '\'' ∈ chars ∨ '"' ∈ chars := by
  cases h with
  | keyword hcase _ => cases hname.symm.trans (Scanner.isNameChar_of_map_toLower hcase c hc)
  | @symbol mark _ =>
      obtain ⟨_, _, hsmall, _⟩ := (Scanner.spelling_symbol mark).1 c hc
      omega
  | string _ => exact .inl List.mem_cons_self
  | numeral hnumeral _ =>
      have hsmall := (Numeral.printable_of_mem_chars hnumeral c hc).2
      omega
  | quotedName _ => exact .inr List.mem_cons_self
  | bareName _ hchars _ _ => cases hname.symm.trans (hchars c hc)

theorem Piece.Cut.quoted_of_foreign {pieces : List Piece} (h : Cut rest pieces)
    (hc : c ∈ text pieces) (hlarge : 128 ≤ c.toNat) (hname : Scanner.isNameChar c = false) :
    '\'' ∈ text pieces ∨ '"' ∈ text pieces := by
  induction h with
  | nil => cases hc
  | blank hblank _ ih =>
      rw [text_cons] at hc ⊢
      rcases List.mem_append.mp hc with hc | hc
      · cases List.mem_singleton.mp hc
        rcases Scanner.isBlank_cases hblank with rfl | rfl | rfl | rfl
        all_goals exact absurd hlarge (by decide)
      · exact (ih hc).imp (List.mem_append_right _) (List.mem_append_right _)
  | word hword _ ih =>
      rw [text_cons] at hc ⊢
      rcases List.mem_append.mp hc with hc | hc
      · have hquote := hword.quoted_of_foreign hc hlarge hname
        exact hquote.imp (List.mem_append_left _) (List.mem_append_left _)
      · exact (ih hc).imp (List.mem_append_right _) (List.mem_append_right _)

/-- A text without quotes that has such a character is refused. -/
theorem exists_lex_error_of_foreign {text : String} (hc : c ∈ text.toList)
    (hlarge : 128 ≤ c.toNat) (hname : Scanner.isNameChar c = false)
    (hquotes : '\'' ∉ text.toList ∧ '"' ∉ text.toList) : ∃ error, lex text = .error error := by
  cases hlex : lex text with
  | error error => exact ⟨error, rfl⟩
  | ok tokens =>
      obtain ⟨pieces, hsource, _, hcut⟩ := lex_eq_ok_iff.mp hlex
      rw [← hsource] at hc hquotes
      exact absurd (hcut.quoted_of_foreign hc hlarge hname) (not_or.mpr hquotes)

end Foreign

/-! ### Words without quotes in lower case -/

section Words

variable {chars : List Char}

/-- A text that spells no reserved word spells none in lower case either. -/
theorem keyword_free_lowercaseChars (hfree : ∀ word : Keyword,
    chars.map Char.toLower ≠ word.spelling.toList) (word : Keyword) :
    (lowercaseChars chars).map Char.toLower ≠ word.spelling.toList := by
  intro hcase
  have hspelled := Scanner.ascii_of_mem_spelling word
  have hlower : lowercase (lowercase (String.ofList chars)) = word.spelling := by
    rwa [lowercase_eq_iff hspelled, lowercase_ofList, String.toList_ofList]
  rw [lowercase_lowercase, lowercase_eq_iff hspelled, String.toList_ofList] at hlower
  exact hfree word hlower

theorem isNameChar_of_mem_lowercaseChars (hchars : ∀ c ∈ chars, Scanner.isNameChar c = true)
    {c : Char} (hc : c ∈ lowercaseChars chars) :
    Scanner.isNameChar c = true ∨ c = '\u0307' ∧ '\u0130' ∈ chars :=
  of_mem_lowercaseAfter (fun _ => Scanner.isNameChar_of_isAlphabetic) hchars hc

/-- **A name in lower case is read as itself.** -/
theorem lex_lowercase_name (hbare : IsBareWord chars)
    (hfree : ∀ word : Keyword, chars.map Char.toLower ≠ word.spelling.toList)
    (hdot : '\u0130' ∉ chars) :
    lex (lowercase (String.ofList chars)) =
      .ok [{ value := lowercase (String.ofList chars), kind := .identifier }] := by
  have hlower : ∀ c ∈ lowercaseChars chars, Scanner.isNameChar c = true := by
    intro c hc
    rcases isNameChar_of_mem_lowercaseChars hbare.2 hc with hname | ⟨_, hmem⟩
    · exact hname
    · exact absurd hmem hdot
  have hword : IsWord [] (lowercaseChars chars) (lowercase (String.ofList (lowercaseChars chars)))
      .identifier :=
    .bareName (head?_lowercaseAfter hbare.1) hlower (keyword_free_lowercaseChars hfree) rfl
  rw [← lowercase_ofList, lowercase_lowercase] at hword
  have hcut : Piece.Cut [] [.word (lowercaseChars chars) (lowercase (String.ofList chars))
      .identifier] :=
    .word hword .nil
  refine lex_of_cut ?_ hcut
  rw [lowercase_ofList, String.toList_ofList]
  exact (List.append_nil _).symm

/-- **With the dot of a capital I it is refused.** -/
theorem exists_lex_lowercase_error (hchars : ∀ c ∈ chars, Scanner.isNameChar c = true)
    (hdot : '\u0130' ∈ chars) : ∃ error, lex (lowercase (String.ofList chars)) = .error error := by
  have hquote {quote : Char} (hname : Scanner.isNameChar quote = false) (hne : quote ≠ '\u0307') :
      quote ∉ lowercaseChars chars := by
    intro hmem
    rcases isNameChar_of_mem_lowercaseChars hchars hmem with hother | ⟨hmark, _⟩
    · cases hname.symm.trans hother
    · exact hne hmark
  rw [lowercase_ofList]
  refine exists_lex_error_of_foreign (c := '\u0307') ?_ (by decide) (by decide +kernel) ?_
  · rw [String.toList_ofList]
    exact dot_mem_lowercaseAfter hdot
  · rw [String.toList_ofList]
    exact ⟨hquote (by decide +kernel) (by decide), hquote (by decide +kernel) (by decide)⟩

end Words

/-! ### Names that a lexer gives -/

namespace IsWord

variable {rest chars : List Char} {value : String} {kind : TokenKind}

/-- A name that does not begin with a quote is a bare one. -/
theorem bare_of_identifier (h : IsWord rest chars value kind) (hkind : kind = .identifier)
    (hquote : (chars ++ rest).head? ≠ some '"') :
    (chars ++ rest).takeWhile Scanner.isNameChar = chars ∧ IsBareWord chars ∧
      value = lowercase (String.ofList chars) ∧
      ∀ word : Keyword, chars.map Char.toLower ≠ word.spelling.toList := by
  cases h with
  | @keyword word _ _ _ =>
      rcases word.kind_cases with hword | hword | hword
      all_goals cases hword.symm.trans hkind
  | symbol _ => cases hkind
  | string _ => cases hkind
  | numeral _ _ => cases hkind
  | quotedName _ => exact absurd rfl hquote
  | bareName hfirst hchars hfree hend =>
      exact ⟨takeWhile_append_of_head? hchars hend, ⟨hfirst, hchars⟩, rfl, hfree⟩

end IsWord

namespace Lexer

variable {text : String} {lexer later : Lexer} {token : Token}

/-- A lexer passes the blanks in front of it and gives the word behind them. -/
theorem Reached.isWord_of_next (h : lexer.Reached text)
    (hnext : lexer.next = (some (.ok token), later)) :
    ∃ chars back, lexer.rest.dropWhile Scanner.isBlank = chars ++ back ∧
      IsWord back chars token.value token.kind := by
  obtain ⟨before, hint, rest, rfl, _⟩ := h.exists_between
  obtain ⟨blanks, chars, back, rfl, hblanks, hword, _⟩ := between_of_next hnext
  exact ⟨chars, back, dropWhile_append_of_head? hblanks hword.not_isBlank, hword⟩

/-- **A name without quotes is given in a form that is read as the same name.** Whatever blanks a
lexer passes first, a token of a name that does not begin with a quote has the text of a bare word
in lower case. If no letter of the word is the capital I with a dot, then that text alone is read as
one token, of the same text and kind. Otherwise it is refused. -/
theorem Reached.gives_canonical_name (h : lexer.Reached text)
    (hnext : lexer.next = (some (.ok token), later)) (hkind : token.kind = .identifier)
    (hquote : (lexer.rest.dropWhile Scanner.isBlank).head? ≠ some '"') :
    let word := (lexer.rest.dropWhile Scanner.isBlank).takeWhile Scanner.isNameChar
    IsBareWord word ∧ token.value = lowercase (String.ofList word) ∧
      ('\u0130' ∉ word → lex token.value = .ok [token.unlocated]) ∧
      ('\u0130' ∈ word → ∃ error, lex token.value = .error error) := by
  intro word
  obtain ⟨chars, back, hrest, hword⟩ := h.isWord_of_next hnext
  rw [hrest] at hquote
  obtain ⟨htake, hbare, hvalue, hfree⟩ := hword.bare_of_identifier hkind hquote
  obtain rfl : word = chars := by
    rw [← htake, ← hrest]
  refine ⟨hbare, hvalue, fun hdot => ?_, fun hdot => ?_⟩
  · have hsame : token.unlocated =
        { value := lowercase (String.ofList word), kind := .identifier } := by
      rw [Token.unlocated, ← hvalue, ← hkind]
    rw [hsame, hvalue]
    exact lex_lowercase_name hbare hfree hdot
  · rw [hvalue]
    exact exists_lex_lowercase_error hbare.2 hdot

/-- A name behind blanks, of which the last letter has another small form than the one before. -/
theorem Reached.gives_canonical_name_sigma :
    let text := "SELECT\n ΤΑΣΣΣ;"
    let lexer := (ofText Scanner.all text).next.2
    let token : Token := { value := "τασσς", kind := .identifier, location := ⟨1, 1⟩ }
    lexer.Reached text ∧ lexer.next = (some (.ok token), lexer.next.2) ∧
      (lexer.rest.dropWhile Scanner.isBlank).head? ≠ some '"' ∧
      lex token.value = .ok [token.unlocated] := by
  intro text lexer token
  have hfirst : (ofText Scanner.all text).next =
      (some (.ok { value := "select", kind := .keyword }), lexer) := by
    decide +kernel
  have hlexer : lexer.Reached text := .token .start hfirst
  have hnext : lexer.next = (some (.ok token), lexer.next.2) := by
    decide +kernel
  have hquote : (lexer.rest.dropWhile Scanner.isBlank).head? ≠ some '"' := by
    decide +kernel
  have hdot : '\u0130' ∉ (lexer.rest.dropWhile Scanner.isBlank).takeWhile Scanner.isNameChar := by
    decide +kernel
  obtain ⟨_, _, hread, _⟩ := hlexer.gives_canonical_name hnext rfl hquote
  exact ⟨hlexer, hnext, hquote, hread hdot⟩

/-- The dot of a capital I stands alone in lower case, and the name that is given is refused. -/
theorem Reached.gives_dotted_name :
    let text := "İ"
    let lexer := ofText Scanner.all text
    let token : Token := { value := "i\u0307", kind := .identifier }
    lexer.Reached text ∧ lexer.next = (some (.ok token), lexer.next.2) ∧
      (lexer.rest.dropWhile Scanner.isBlank).head? ≠ some '"' ∧
      lex token.value = .error (.lex ⟨0, 1⟩ (some "i")) ∧
      ¬∃ other : Token, lex token.value = .ok [other] ∧ other.value = token.value ∧
        other.kind = token.kind := by
  intro text lexer token
  have hnext : lexer.next = (some (.ok token), lexer.next.2) := by
    decide +kernel
  have hrefused : lex token.value = .error (.lex ⟨0, 1⟩ (some "i")) := by
    decide +kernel
  refine ⟨.start, hnext, by decide +kernel, hrefused, ?_⟩
  rintro ⟨other, hread, _⟩
  cases hrefused.symm.trans hread

end Lexer
end PocketSql
