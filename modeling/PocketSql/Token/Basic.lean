import PocketSql.Location
/-!
# Tokens

A token is a word of a script: its text, the class of words that it belongs to, and the place where
it began. The place serves messages only. Two tokens that differ in nothing else are alike, and
`unlocated` brings alike tokens to one representative.
-/

namespace PocketSql

inductive TokenKind where
  | keyword
  | symbol
  | identifier
  | string
  | numeric
  | bool
  | null
  deriving DecidableEq, Repr

def TokenKind.name : TokenKind → String
  | .keyword => "Keyword"
  | .symbol => "Symbol"
  | .identifier => "Identifier"
  | .string => "String"
  | .numeric => "Numeric"
  | .bool => "Bool"
  | .null => "Null"

structure Token where
  value : String
  kind : TokenKind
  location : Location := .start
  deriving DecidableEq, Repr

namespace Token

/-- The token as it would stand at the start of a text. -/
def unlocated (token : Token) : Token :=
  { token with location := .start }

/-- Whether two tokens have the same text and kind. -/
def alike (a b : Token) : Bool :=
  a.value == b.value && a.kind == b.kind

theorem alike_iff (a b : Token) : a.alike b = true ↔ a.unlocated = b.unlocated := by
  cases a
  cases b
  simp [alike, unlocated]

end Token
end PocketSql
