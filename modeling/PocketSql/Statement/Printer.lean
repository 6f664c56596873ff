import PocketSql.Statement.Basic
import PocketSql.Token.Keyword
import PocketSql.Token.Quoted
import PocketSql.Token.Symbol
/-!
# Scripts as text

Every statement has a list of tokens that it reads back from, and every token a spelling. Names are
always quoted, so that they can be any text, reserved words and the empty text included. A script is
printed as the spellings of its tokens with a space between them.
-/

namespace PocketSql

/-- The spelling of a token in a script. -/
def Token.chars (token : Token) : List Char :=
  match token.kind with
  | .identifier => Quoted.quote '"' token.value.toList
  | .string => Quoted.quote '\'' token.value.toList
  | _ => token.value.toList

/-- Lists of tokens with commas between them. -/
def commaSeparated (members : List (List Token)) : List Token :=
  [Symbol.comma.token].intercalate members

def Expression.tokens : Expression → List Token
  | .literal token => [token]

def ColumnDefinition.tokens (definition : ColumnDefinition) : List Token :=
  [definition.name, definition.datatype]

def Select.tokens (query : Select) : List Token :=
  let table := match query.table with
    | none => []
    | some table => [Keyword.from.token, table]
  [Keyword.select.token] ++ commaSeparated (query.items.map (·.tokens)) ++ table

def Insert.tokens (insertion : Insert) : List Token :=
  [Keyword.insert.token, Keyword.into.token, insertion.table, Keyword.values.token,
    Symbol.leftParen.token] ++ commaSeparated (insertion.values.map (·.tokens)) ++
    [Symbol.rightParen.token]

def CreateTable.tokens (creation : CreateTable) : List Token :=
  [Keyword.create.token, Keyword.table.token, creation.table, Symbol.leftParen.token] ++
    commaSeparated (creation.columns.map (·.tokens)) ++ [Symbol.rightParen.token]

def Statement.tokens : Statement → List Token
  | .select query => query.tokens
  | .insert insertion => insertion.tokens
  | .createTable creation => creation.tokens

/-- The tokens of a script, each statement followed by a semicolon. -/
def Script.tokens (script : Script) : List Token :=
  script.flatMap fun statement => statement.tokens ++ [Symbol.semicolon.token]

def Script.render (script : Script) : String :=
  String.ofList ([' '].intercalate (script.tokens.map Token.chars))

end PocketSql
