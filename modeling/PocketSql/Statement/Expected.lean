import PocketSql.Error
import PocketSql.Token.Keyword
import PocketSql.Token.Symbol
/-!
# Failures of reading a statement

A parser asks for a token by its spelling or by its role. When it does not find it, the failure keeps
the tokens that were left and what was asked for. A failure with fewer tokens left has come further.
-/

namespace PocketSql

/-- A token that is asked for by its spelling. -/
inductive Terminal where
  | keyword (word : Keyword)
  | symbol (mark : Symbol)
  deriving DecidableEq, Repr

namespace Terminal

def token : Terminal → Token
  | .keyword word => word.token
  | .symbol mark => mark.token

def accepts (terminal : Terminal) (token : Token) : Bool :=
  token.alike terminal.token

end Terminal

/-- What a parser asked for and did not find. -/
inductive Expected where
  | terminal (wanted : Terminal)
  | tableName
  | tableNameAfterFrom
  | columnName
  | columnType
  | expression
  | statement
  | semicolon
  | endOfExpressions (stops : List Terminal)
  | endOfColumns (stops : List Terminal)
  deriving DecidableEq, Repr

namespace Expected

/-- The spellings of terminals as alternatives. -/
def alternatives (stops : List Terminal) : String :=
  " or ".intercalate (stops.map (·.token.value))

def message : Expected → String
  | .terminal wanted => "expected " ++ wanted.token.value
  | .tableName => "expected table name"
  | .tableNameAfterFrom => "expected table name after FROM"
  | .columnName => "expected column name"
  | .columnType => "expected column type"
  | .expression => "expected expression"
  | .statement => "expected statement"
  | .semicolon => "expected semicolon delimiter between statements"
  | .endOfExpressions stops => "expected expressions to end with " ++ alternatives stops
  | .endOfColumns stops => "expected column definitions to end with " ++ alternatives stops

end Expected

/-- The tokens that were left, and what was expected of them. -/
structure ParseFailure where
  rest : List Token
  expected : Expected
  deriving DecidableEq, Repr

namespace ParseFailure

/-- Of two failures the one that came further; of two that came equally far the first. -/
def further (a b : ParseFailure) : ParseFailure :=
  if b.rest.length < a.rest.length then b else a

/-- The error for a failure in a list of tokens. It names the token that did not fit, or the last
token when there are too few. -/
def toError (tokens : List Token) (failure : ParseFailure) : Error :=
  match failure.rest.head?.or tokens.getLast? with
  | some token => .parse token.location token.value failure.expected.message
  | none => .parse .start "" failure.expected.message

end ParseFailure

end PocketSql
