import PocketSql.Token.Basic
import PocketSql.Token.Cursor
import PocketSql.Token.Keyword
import PocketSql.Token.Longest
import PocketSql.Token.Numeral
import PocketSql.Token.Quoted
import PocketSql.Token.Symbol
import PocketSql.Unicode.Number
/-!
# Scanners

A scanner looks at the text in front of a cursor and either takes some characters of it, as a token
or as a blank, or takes nothing. It says where the cursor is behind what it took; a scanner that
takes nothing leaves the cursor where it is. There is one for each class of words. A text is read by
trying them in an order; a reserved word has the spelling of a name too, so the scanner for reserved
words has to come before the one for names.

A scanner that takes nothing can have a remark: it saw the beginning of a word of its class and not
the rest of it.
-/

namespace PocketSql

/-- What a scanner takes: a token, or none for a blank, and the cursor behind it. -/
structure Lexeme where
  token : Option Token
  cursor : Cursor
  deriving DecidableEq, Repr

inductive Scanner where
  | keyword
  | symbol
  | string
  | numeric
  | identifier
  deriving DecidableEq, Repr

namespace Scanner

/-- Every scanner, in the order in which a text is read. -/
def all : List Scanner :=
  [.keyword, .symbol, .string, .numeric, .identifier]

/-- A character that a bare name can go on with. -/
def isNameChar (c : Char) : Bool :=
  Unicode.isAlphanumeric c || c == '$' || c == '_'

def isBlank (c : Char) : Bool :=
  c == ' ' || c == '\t' || c == '\r' || c == '\n'

/-- A reserved word, in any case. Where a name could go on there is no reserved word. -/
def scanKeyword (cursor : Cursor) (source : List Char) : Option Lexeme := do
  let (word, length) ← longestMatch Keyword.spelling Keyword.all source
  if (source.drop length).head?.any isNameChar then none
  else some {
    token := some { value := word.spelling, kind := word.kind, location := cursor.location }
    cursor := cursor.advance length }

/-- A blank or the longest symbol. The line feed is the blank that ends a line. -/
def scanSymbol (cursor : Cursor) (source : List Char) : Option Lexeme :=
  if source.head? = some '\n' then some { token := none, cursor := cursor.nextLine }
  else if source.head?.any isBlank then some { token := none, cursor := cursor.advance 1 }
  else do
    let (mark, length) ← longestMatch Symbol.spelling Symbol.all source
    some {
      token := some { value := mark.spelling, kind := .symbol, location := cursor.location }
      cursor := cursor.advance length }

/-- A quoted text, as a token of the given kind. -/
def scanQuoted (delimiter : Char) (kind : TokenKind) (cursor : Cursor) (source : List Char) :
    Option Lexeme := do
  let (text, later) ← Quoted.unquote delimiter cursor source
  some {
    token := some { value := String.ofList text, kind, location := cursor.location }
    cursor := later }

def scanNumeral (cursor : Cursor) (source : List Char) : Option Lexeme :=
  match Numeral.read source with
  | .error _ => none
  | .ok numeral =>
      some {
        token := some
          { value := String.ofList numeral.chars, kind := .numeric, location := cursor.location }
        cursor := cursor.advance numeral.chars.length }

/-- A name without quotes. It begins with a letter, and its case does not count. -/
def scanBareName (cursor : Cursor) : List Char → Option Lexeme
  | [] => none
  | c :: rest =>
      if Unicode.isAlphabetic c then
        let word := c :: rest.takeWhile isNameChar
        some {
          token := some {
            value := Unicode.lowercase (String.ofList word)
            kind := .identifier
            location := cursor.location }
          cursor := cursor.advance word.length }
      else none

def scan : Scanner → Cursor → List Char → Option Lexeme
  | .keyword, cursor, source => scanKeyword cursor source
  | .symbol, cursor, source => scanSymbol cursor source
  | .string, cursor, source => scanQuoted '\'' .string cursor source
  | .numeric, cursor, source => scanNumeral cursor source
  | .identifier, cursor, source =>
      (scanQuoted '"' .identifier cursor source).or (scanBareName cursor source)

/-- What a scanner saw of a word that it could not take. -/
inductive Remark where
  | unterminated (delimiter : Char)
  | repeatedPoint (offset : Nat)
  | bareExponent (offset : Nat)
  deriving DecidableEq, Repr

def remarkQuoted (delimiter : Char) (cursor : Cursor) (source : List Char) : Option Remark :=
  if source.head? = some delimiter ∧ Quoted.unquote delimiter cursor source = none then
    some (.unterminated delimiter)
  else none

def remark : Scanner → Cursor → List Char → Option Remark
  | .keyword, _, _ => none
  | .symbol, _, _ => none
  | .string, cursor, source => remarkQuoted '\'' cursor source
  | .numeric, _, source =>
      match Numeral.read source with
      | .error (.repeatedPoint offset) => some (.repeatedPoint offset)
      | .error (.bareExponent offset) => some (.bareExponent offset)
      | _ => none
  | .identifier, cursor, source => remarkQuoted '"' cursor source

variable {cursor : Cursor} {source : List Char} {lexeme : Lexeme}

theorem position_lt_of_scanKeyword (h : scanKeyword cursor source = some lexeme) :
    cursor.position < lexeme.cursor.position := by
  obtain ⟨⟨word, length⟩, hmatch, hlexeme⟩ := Option.bind_eq_some_iff.mp h
  dsimp only at hlexeme
  split at hlexeme
  · cases hlexeme
  · cases hlexeme
    exact Nat.lt_add_of_pos_right (longestMatch_pos hmatch)

theorem position_lt_of_scanSymbol (h : scanSymbol cursor source = some lexeme) :
    cursor.position < lexeme.cursor.position := by
  unfold scanSymbol at h
  split at h
  · cases h
    exact Nat.lt_succ_self _
  split at h
  · cases h
    exact Nat.lt_succ_self _
  · obtain ⟨⟨mark, length⟩, hmatch, hlexeme⟩ := Option.bind_eq_some_iff.mp h
    cases hlexeme
    exact Nat.lt_add_of_pos_right (longestMatch_pos hmatch)

theorem position_lt_of_scanQuoted {delimiter : Char} {kind : TokenKind}
    (h : scanQuoted delimiter kind cursor source = some lexeme) :
    cursor.position < lexeme.cursor.position := by
  obtain ⟨⟨text, later⟩, hread, hlexeme⟩ := Option.bind_eq_some_iff.mp h
  cases hlexeme
  exact Quoted.position_lt_of_unquote hread

theorem position_lt_of_scanNumeral (h : scanNumeral cursor source = some lexeme) :
    cursor.position < lexeme.cursor.position := by
  unfold scanNumeral at h
  split at h
  · cases h
  · rename_i numeral hread
    cases h
    exact Nat.lt_add_of_pos_right (Numeral.chars_length_pos (Numeral.hasDigit_of_read hread))

theorem position_lt_of_scanBareName (h : scanBareName cursor source = some lexeme) :
    cursor.position < lexeme.cursor.position := by
  unfold scanBareName at h
  split at h
  · cases h
  · dsimp only at h
    split at h
    · cases h
      exact Nat.lt_add_of_pos_right (Nat.succ_pos _)
    · cases h

/-- A scanner that takes anything moves the cursor on. -/
theorem position_lt_of_scan {scanner : Scanner} (h : scanner.scan cursor source = some lexeme) :
    cursor.position < lexeme.cursor.position := by
  cases scanner with
  | keyword => exact position_lt_of_scanKeyword h
  | symbol => exact position_lt_of_scanSymbol h
  | string => exact position_lt_of_scanQuoted h
  | numeric => exact position_lt_of_scanNumeral h
  | identifier =>
      rcases Option.or_eq_some_iff.mp h with hquoted | ⟨_, hbare⟩
      · exact position_lt_of_scanQuoted hquoted
      · exact position_lt_of_scanBareName hbare

end Scanner
end PocketSql
