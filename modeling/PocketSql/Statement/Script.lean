import PocketSql.Statement.Form
import PocketSql.Token.Lexer
/-!
# Scripts

A script is a row of statements, each followed by at least one semicolon:

    script = { statement ";" { ";" } }

A text is a script when all of its characters are tokens and all of its tokens are statements. The
characters come first: no statement is read from a text with a character that is out of place.
-/

namespace PocketSql
namespace Parser

def isSemicolon (token : Token) : Bool :=
  (Terminal.symbol .semicolon).accepts token

/-- The statements of a whole list of tokens, each followed by semicolons. -/
def script (tokens : List Token) : Except ParseFailure Script :=
  if tokens = [] then .ok []
  else
    match _h : statement tokens with
    | .error failure => .error failure
    | .ok (_, []) => .error ⟨[], .semicolon⟩
    | .ok (first, token :: rest) =>
        if isSemicolon token then
          match script (rest.dropWhile isSemicolon) with
          | .error failure => .error failure
          | .ok others => .ok (first :: others)
        else .error ⟨token :: rest, .semicolon⟩
  termination_by tokens.length
  decreasing_by
    have hlt := shrinks_statementBy Form.all _ _ _ _h
    have hle := (List.dropWhile_sublist isSemicolon (l := rest)).length_le
    simp only [List.length_cons] at hlt
    omega

end Parser

/-- The script that a list of tokens is. -/
def parseTokens (tokens : List Token) : Except Error Script :=
  (Parser.script tokens).mapError (·.toError tokens)

/-- The script that a text is. -/
def parse (text : String) : Except Error Script := do
  parseTokens (← lex text)

end PocketSql
