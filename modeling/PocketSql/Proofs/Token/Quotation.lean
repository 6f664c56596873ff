import PocketSql.Proofs.Token.Opening
import PocketSql.Proofs.Token.Reached
/-!
# Quoted texts

A text in quotes is a string between single quotes and a name between double ones, and both are read
in the same way. Whether a delimiter ends the text or stands for one inside of it is settled by the
one after it, from the left. The text that is quoted at an opening delimiter is given as it was
before its delimiters were doubled. Where none is quoted, because every candidate goes on with
another delimiter or the source ends first, the source is refused at the opening one.
-/

namespace PocketSql

/-- The two delimiters with the kinds of the tokens between them. -/
inductive Quoted.Encloses : Char → TokenKind → Prop where
  | string : Encloses '\'' .string
  | name : Encloses '"' .identifier

section Delimiters

variable {cursor : Cursor} {delimiter : Char} {kind : TokenKind} {content rest : List Char}

theorem Quoted.Encloses.ne_feed (h : Quoted.Encloses delimiter kind) : delimiter ≠ '\n' := by
  cases h with
  | string => decide
  | name => decide

theorem IsWord.quoted (h : Quoted.Encloses delimiter kind) (hend : rest.head? ≠ some delimiter) :
    IsWord rest (Quoted.quote delimiter content) (String.ofList content) kind := by
  cases h with
  | string => exact .string hend
  | name => exact .quotedName hend

namespace Scanner

/-- Only a quoted text begins with a delimiter. -/
theorem front_delimiter (h : Quoted.Encloses delimiter kind) (rest : List Char) :
    front cursor (delimiter :: rest) = scanQuoted delimiter kind cursor (delimiter :: rest) := by
  cases h with
  | string =>
      have hopens : Scanner.string.opens '\'' = true := rfl
      exact front_of_opens hopens (by decide +kernel) rest
  | name =>
      have hopens : Scanner.identifier.opens '"' = true := rfl
      have hletter : Unicode.isAlphabetic '"' = false := by
        decide +kernel
      have hbare : scanBareName cursor ('"' :: rest) = none := scanBareName_of_head? hletter
      rw [front_of_opens hopens hletter, scan, hbare]
      exact Option.or_none

/-- Nothing is taken at a delimiter exactly where every quoted text there goes on with another
one. -/
theorem front_delimiter_eq_none_iff (h : Quoted.Encloses delimiter kind) :
    front cursor (delimiter :: rest) = none ↔
      ∀ content back, delimiter :: rest = Quoted.quote delimiter content ++ back →
        back.head? = some delimiter := by
  constructor
  · intro hnone content back hrest
    by_contra hend
    have hword : IsWord back (Quoted.quote delimiter content) (String.ofList content) kind :=
      .quoted h hend
    have htaken : front cursor _ = _ := front_of_isWord hword
    rw [← hrest, hnone] at htaken
    cases htaken
  · intro hgoesOn
    refine Option.eq_none_iff_forall_ne_some.mpr fun lexeme htaken => ?_
    rw [front_delimiter h] at htaken
    obtain ⟨content, back, hrest, hend, _⟩ := exists_of_scanQuoted h.ne_feed htaken
    exact hend (hgoesOn content back hrest)

end Scanner
end Delimiters

namespace Lexer

variable {text : String} {lexer : Lexer} {delimiter : Char} {kind : TokenKind}

/-- **Quoting and reading are inverse.** Wherever a lexer stands at a text in quotes with no further
delimiter behind it, it gives one token of the text itself and goes on right behind the quotes. And
wherever it stands at a delimiter, either such a text stands there and is given, or none does and
the text is refused at this delimiter. -/
theorem Reached.gives_quoted (h : lexer.Reached text) (hquote : Quoted.Encloses delimiter kind) :
    (∀ content back, lexer.rest = Quoted.quote delimiter content ++ back →
      back.head? ≠ some delimiter →
      lexer.Gives text (Quoted.quote delimiter content) (String.ofList content) kind) ∧
    (lexer.rest.head? = some delimiter →
      (∃ content back, lexer.rest = Quoted.quote delimiter content ++ back ∧
        back.head? ≠ some delimiter ∧
        lexer.Gives text (Quoted.quote delimiter content) (String.ofList content) kind) ∨
      (∀ content back, lexer.rest = Quoted.quote delimiter content ++ back →
        back.head? = some delimiter) ∧ lexer.Refuses text) := by
  have hgives (content back : List Char)
      (hrest : lexer.rest = Quoted.quote delimiter content ++ back)
      (hend : back.head? ≠ some delimiter) :
      lexer.Gives text (Quoted.quote delimiter content) (String.ofList content) kind :=
    h.gives hrest (.quoted hquote hend)
  refine ⟨hgives, fun hhead => ?_⟩
  obtain ⟨rest, hrest⟩ := List.head?_eq_some_iff.mp hhead
  cases hfront : Scanner.front lexer.toCursor lexer.rest with
  | some lexeme =>
      rw [hrest, Scanner.front_delimiter hquote] at hfront
      obtain ⟨content, back, hsource, hend, _⟩ := Scanner.exists_of_scanQuoted hquote.ne_feed hfront
      rw [← hrest] at hsource
      exact .inl ⟨content, back, hsource, hend, hgives content back hsource hend⟩
  | none =>
      have hne : lexer.rest ≠ [] := by
        rw [hrest]
        exact List.cons_ne_nil _ _
      have hrefuses := h.refuses hne hfront
      rw [hrest, Scanner.front_delimiter_eq_none_iff hquote, ← hrest] at hfront
      exact .inr ⟨hfront, hrefuses⟩

/-- A name with delimiters, the other quote and a line feed inside, and behind it a string whose
only closing quote is doubled. -/
theorem Reached.gives_quoted_then_unclosed :
    let text := "\"\"\"a'\n\"\"\"'b''"
    let start := ofText Scanner.all text
    let later := start.next.2
    start.Reached text ∧
      start.Gives text (Quoted.quote '"' "\"a'\n\"".toList) "\"a'\n\"" .identifier ∧
      later.Reached text ∧ later.rest.head? = some '\'' ∧ later.Refuses text := by
  intro text start later
  have hstart : start.Reached text := .start
  have hrest : start.rest = Quoted.quote '"' "\"a'\n\"".toList ++ "'b''".toList := by
    decide
  have hname := (hstart.gives_quoted .name).1 _ _ hrest (by decide)
  rw [String.ofList_toList] at hname
  have hnext : start.next =
      (some (.ok { value := "\"a'\n\"", kind := .identifier }), later) := by
    decide +kernel
  have hlater : later.Reached text := .token hstart hnext
  have hhead : later.rest.head? = some '\'' := by
    decide +kernel
  have herror : later.next = (some (.error later.failure), { later with failed := true }) := by
    decide +kernel
  refine ⟨hstart, hname, hlater, hhead, ?_⟩
  rcases (hlater.gives_quoted .string).2 hhead with hgiven | ⟨_, hrefuses⟩
  · obtain ⟨_, _, _, _, _, _, _, _, _, htoken, _⟩ := hgiven
    rw [herror] at htoken
    cases htoken
  · exact hrefuses

end Lexer
end PocketSql
