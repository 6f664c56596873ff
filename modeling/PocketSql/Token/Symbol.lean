import PocketSql.Token.Basic
/-!
# Operators and punctuation

The marks that stand between words. Statements are built with the comma, the parentheses and the
semicolon; the others are read as tokens and have no place in a statement yet.
-/

namespace PocketSql

inductive Symbol where
  | equal
  | notEqual
  | notEqualBang
  | less
  | lessOrEqual
  | greater
  | greaterOrEqual
  | concat
  | plus
  | comma
  | leftParen
  | rightParen
  | semicolon
  | asterisk
  deriving DecidableEq, Repr

namespace Symbol

/-- Every symbol, in the order of its declaration. -/
def all : List Symbol :=
  [.equal, .notEqual, .notEqualBang, .less, .lessOrEqual, .greater, .greaterOrEqual, .concat,
    .plus, .comma, .leftParen, .rightParen, .semicolon, .asterisk]

def spelling : Symbol → String
  | .equal => "="
  | .notEqual => "<>"
  | .notEqualBang => "!="
  | .less => "<"
  | .lessOrEqual => "<="
  | .greater => ">"
  | .greaterOrEqual => ">="
  | .concat => "||"
  | .plus => "+"
  | .comma => ","
  | .leftParen => "("
  | .rightParen => ")"
  | .semicolon => ";"
  | .asterisk => "*"

def token (symbol : Symbol) : Token :=
  { value := symbol.spelling, kind := .symbol }

end Symbol
end PocketSql
