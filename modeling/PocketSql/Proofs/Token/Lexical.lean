import PocketSql.Proofs.Sequence
import PocketSql.Proofs.Token.Numeral
import PocketSql.Token.Lexer
/-!
# Which tokens texts give

A token made by hand can claim to be a reserved word or a numeral and be spelled like neither. No
text gives such a token: a reserved word comes in its own spelling, the words that are literals come
with kinds of their own, and a numeral is one of the grammar. That holds whatever scanners a lexer
has and in whatever order it tries them.
-/

namespace PocketSql

/-- The reserved words that are literals. -/
def Keyword.literals : List Keyword :=
  [.true, .false, .null]

theorem Keyword.kind_eq_keyword_iff (word : Keyword) : word.kind = .keyword ↔ word ∉ literals := by
  cases word <;> decide

theorem Keyword.kind_ne_numeric (word : Keyword) : word.kind ≠ .numeric := by
  cases word <;> decide

namespace Token

/-- The token is a reserved word that is no literal. -/
def IsReserved (token : Token) : Prop :=
  token.kind = .keyword ∧ ∃ word ∉ Keyword.literals, token.value = word.spelling

/-- The text of the token is a numeral of the grammar. -/
def IsNumeral (token : Token) : Prop :=
  token.kind = .numeric ∧
    ∃ numeral : Numeral, numeral.WellFormed ∧ token.value = String.ofList numeral.chars

/-- The token is what its kind says. -/
structure Lexical (token : Token) : Prop where
  reserved : token.kind = .keyword → token.IsReserved
  numeral : token.kind = .numeric → token.IsNumeral

theorem lexical_of_kind {token : Token} (hword : token.kind ≠ .keyword)
    (hnumeral : token.kind ≠ .numeric) : token.Lexical :=
  ⟨fun h => absurd h hword, fun h => absurd h hnumeral⟩

end Token

/-- The token of a lexeme, if it has one, is lexical. -/
def Lexeme.Lexical (lexeme : Lexeme) : Prop :=
  ∀ token, lexeme.token = some token → token.Lexical

theorem Lexeme.lexical_of_token {token : Token} {cursor : Cursor} (h : token.Lexical) :
    (Lexeme.mk (some token) cursor).Lexical := by
  intro found hfound
  rwa [← Option.some.inj hfound]

theorem Lexeme.lexical_of_none {cursor : Cursor} : (Lexeme.mk none cursor).Lexical := by
  intro found hfound
  cases hfound

/-! ### Scanners -/

namespace Scanner

variable {cursor : Cursor} {source : List Char} {lexeme : Lexeme}

theorem lexical_of_scanKeyword (h : scanKeyword cursor source = some lexeme) : lexeme.Lexical := by
  obtain ⟨⟨word, length⟩, _, hlexeme⟩ := Option.bind_eq_some_iff.mp h
  dsimp only at hlexeme
  split at hlexeme
  · cases hlexeme
  · cases hlexeme
    apply Lexeme.lexical_of_token
    refine ⟨fun hkind => ⟨hkind, word, ?_, rfl⟩, fun hkind => ?_⟩
    · exact word.kind_eq_keyword_iff.mp hkind
    · exact absurd hkind word.kind_ne_numeric

theorem lexical_of_scanSymbol (h : scanSymbol cursor source = some lexeme) : lexeme.Lexical := by
  unfold scanSymbol at h
  split at h
  · cases h
    exact Lexeme.lexical_of_none
  split at h
  · cases h
    exact Lexeme.lexical_of_none
  · obtain ⟨⟨mark, length⟩, _, hlexeme⟩ := Option.bind_eq_some_iff.mp h
    cases hlexeme
    exact Lexeme.lexical_of_token (Token.lexical_of_kind (by simp) (by simp))

theorem lexical_of_scanQuoted {delimiter : Char} {kind : TokenKind} (hword : kind ≠ .keyword)
    (hnumeral : kind ≠ .numeric) (h : scanQuoted delimiter kind cursor source = some lexeme) :
    lexeme.Lexical := by
  obtain ⟨⟨text, later⟩, _, hlexeme⟩ := Option.bind_eq_some_iff.mp h
  cases hlexeme
  exact Lexeme.lexical_of_token (Token.lexical_of_kind hword hnumeral)

theorem lexical_of_scanNumeral (h : scanNumeral cursor source = some lexeme) : lexeme.Lexical := by
  unfold scanNumeral at h
  split at h
  · cases h
  · rename_i numeral hread
    cases h
    apply Lexeme.lexical_of_token
    refine ⟨by simp, fun hkind => ⟨hkind, numeral, ?_, rfl⟩⟩
    exact Numeral.wellFormed_of_read hread

theorem lexical_of_scanBareName (h : scanBareName cursor source = some lexeme) :
    lexeme.Lexical := by
  unfold scanBareName at h
  split at h
  · cases h
  · dsimp only at h
    split at h
    · cases h
      exact Lexeme.lexical_of_token (Token.lexical_of_kind (by simp) (by simp))
    · cases h

theorem lexical_of_scan {scanner : Scanner} (h : scanner.scan cursor source = some lexeme) :
    lexeme.Lexical := by
  cases scanner with
  | keyword => exact lexical_of_scanKeyword h
  | symbol => exact lexical_of_scanSymbol h
  | string => exact lexical_of_scanQuoted (by simp) (by simp) h
  | numeric => exact lexical_of_scanNumeral h
  | identifier =>
      rcases Option.or_eq_some_iff.mp h with hquoted | ⟨_, hbare⟩
      · exact lexical_of_scanQuoted (by simp) (by simp) hquoted
      · exact lexical_of_scanBareName hbare

end Scanner

/-! ### Lexers -/

namespace Lexer

theorem lexical_of_lexeme? {lexer : Lexer} {lexeme : Lexeme}
    (h : lexer.lexeme? = some lexeme) : lexeme.Lexical := by
  obtain ⟨_, scanner, _, _, hscan, _⟩ := List.findSome?_eq_some_iff.mp h
  exact Scanner.lexical_of_scan hscan

theorem lexical_of_next {lexer later : Lexer} {token : Token}
    (h : lexer.next = (some (.ok token), later)) : token.Lexical := by
  fun_induction next lexer with
  | case1 => cases h
  | case2 => cases h
  | case3 => cases h
  | case4 lexer _ _ cursor _ ih => exact ih h
  | case5 lexer _ _ found cursor hlexeme =>
      cases h
      exact lexical_of_lexeme? hlexeme _ rfl

theorem lexical_of_mem_items (lexer : Lexer) {token : Token} (h : .ok token ∈ lexer.items) :
    token.Lexical := by
  fun_induction items lexer with
  | case1 => cases h
  | case2 lexer item later hnext ih =>
      rcases List.mem_cons.mp h with rfl | hlater
      · exact lexical_of_next hnext
      · exact ih hlater

end Lexer

/-- **Every token of a text is what its kind says.** -/
theorem lexical_of_lex {text : String} {tokens : List Token} (h : lex text = .ok tokens) :
    ∀ token ∈ tokens, token.Lexical := by
  intro token htoken
  obtain ⟨item, hitem, htaken⟩ := exists_of_mem_mapM h token htoken
  cases item with
  | error failure => cases htaken
  | ok found =>
      cases htaken
      exact Lexer.lexical_of_mem_items _ hitem

end PocketSql
