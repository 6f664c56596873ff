import PocketSql.Error
import PocketSql.Token.Scanner
/-!
# From a text to its tokens

A lexer stands in a text with a cursor. Each step passes the blanks in front of it and takes the
next token by the first of its scanners that takes anything, and the cursor goes where that scanner
moved it. Where none takes anything, the lexer fails, and after that it gives nothing more. `lex`
collects the tokens of a whole text, or gives the failure.
-/

namespace PocketSql

/-- Where no scanner took anything: the number of characters before the place, the place, the text
of the token before it, and the remarks of the scanners. -/
structure LexFailure where
  position : Nat
  location : Location
  hint : Option String
  remarks : List Scanner.Remark
  deriving DecidableEq, Repr

def LexFailure.toError (failure : LexFailure) : Error :=
  .lex failure.location failure.hint

/-- A cursor in a text with the characters in front of it. The hint is the text of the last token
given. -/
structure Lexer extends Cursor where
  scanners : List Scanner
  rest : List Char
  hint : Option String := none
  failed : Bool := false
  deriving DecidableEq, Repr

namespace Lexer

def ofText (scanners : List Scanner) (text : String) : Lexer :=
  { scanners, rest := text.toList }

/-- What the first scanner in the order takes that takes anything. -/
def lexeme? (lexer : Lexer) : Option Lexeme :=
  lexer.scanners.findSome? (·.scan lexer.toCursor lexer.rest)

/-- Goes on from a cursor that a scanner moved. The characters up to it are behind the lexer. -/
def moveTo (lexer : Lexer) (cursor : Cursor) : Lexer :=
  { lexer with
    toCursor := cursor
    rest := lexer.rest.drop (cursor.position - lexer.position) }

def failure (lexer : Lexer) : LexFailure where
  position := lexer.position
  location := lexer.location
  hint := lexer.hint
  remarks := lexer.scanners.filterMap (·.remark lexer.toCursor lexer.rest)

theorem position_lt_of_lexeme? {lexer : Lexer} {lexeme : Lexeme}
    (h : lexer.lexeme? = some lexeme) : lexer.position < lexeme.cursor.position := by
  obtain ⟨_, scanner, _, _, hscan, _⟩ := List.findSome?_eq_some_iff.mp h
  exact Scanner.position_lt_of_scan hscan

theorem moveTo_rest_length_lt {lexer : Lexer} {token : Option Token} {cursor : Cursor}
    (h : lexer.lexeme? = some ⟨token, cursor⟩) (hrest : lexer.rest ≠ []) :
    (lexer.moveTo cursor).rest.length < lexer.rest.length := by
  have hlt : lexer.position < cursor.position := position_lt_of_lexeme? h
  have hpos : 0 < lexer.rest.length := List.length_pos_iff.mpr hrest
  rw [moveTo, List.length_drop]
  omega

/-- The next token or the failure, and the lexer after it; `none` when there is nothing more. -/
def next (lexer : Lexer) : Option (Except LexFailure Token) × Lexer :=
  if lexer.failed then (none, lexer)
  else if _hrest : lexer.rest = [] then (none, lexer)
  else
    match _hlexeme : lexer.lexeme? with
    | none => (some (.error lexer.failure), { lexer with failed := true })
    | some ⟨none, cursor⟩ => (lexer.moveTo cursor).next
    | some ⟨some token, cursor⟩ =>
        (some (.ok token), { lexer.moveTo cursor with hint := some token.value })
  termination_by lexer.rest.length
  decreasing_by exact moveTo_rest_length_lt _hlexeme _hrest

/-- How much a lexer can still give: the characters ahead of it, and its failure. -/
def measure (lexer : Lexer) : Nat :=
  lexer.rest.length + if lexer.failed then 0 else 1

theorem next_measure_lt {lexer : Lexer} {item : Except LexFailure Token} {later : Lexer}
    (h : lexer.next = (some item, later)) : later.measure < lexer.measure := by
  fun_induction next lexer with
  | case1 => cases h
  | case2 => cases h
  | case3 lexer hfailed =>
      obtain ⟨_, rfl⟩ := Prod.mk.inj h
      simp [measure, hfailed]
  | case4 lexer hfailed hrest cursor hlexeme ih =>
      have hlt := moveTo_rest_length_lt hlexeme hrest
      have hlater := ih h
      have hsame : (lexer.moveTo cursor).failed = lexer.failed := rfl
      simp only [measure, hsame] at hlater ⊢
      omega
  | case5 lexer hfailed hrest token cursor hlexeme =>
      obtain ⟨_, rfl⟩ := Prod.mk.inj h
      have hlt := moveTo_rest_length_lt hlexeme hrest
      have hsame : (lexer.moveTo cursor).failed = lexer.failed := rfl
      simp only [measure, hsame]
      omega

/-- Everything that a lexer gives, to its end. -/
def items (lexer : Lexer) : List (Except LexFailure Token) :=
  match _h : lexer.next with
  | (none, _) => []
  | (some item, later) => item :: later.items
  termination_by lexer.measure
  decreasing_by exact next_measure_lt _h

/-- The lexer after everything that it gives. -/
def finish (lexer : Lexer) : Lexer :=
  match _h : lexer.next with
  | (none, later) => later
  | (some _, later) => later.finish
  termination_by lexer.measure
  decreasing_by exact next_measure_lt _h

end Lexer

/-- The tokens of a text, read with the scanners in the given order. -/
def lexBy (scanners : List Scanner) (text : String) : Except Error (List Token) :=
  (Lexer.ofText scanners text).items.mapM fun item => item.mapError LexFailure.toError

/-- The tokens of a text. -/
def lex (text : String) : Except Error (List Token) :=
  lexBy Scanner.all text

end PocketSql
