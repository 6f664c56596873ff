import PocketSql.Token.Basic
import PocketSql.Unicode.Lowercase
/-!
# Reserved words

A reserved word has one lower-case spelling and is recognised in any case. The words for truth
values and for the missing value are literals, which have token kinds of their own. Not every
reserved word is used by a statement: the others are only kept from being names.
-/

namespace PocketSql

inductive Keyword where
  | select
  | insert
  | values
  | as
  | table
  | create
  | «where»
  | «from»
  | into
  | text
  | true
  | false
  | null
  | int
  deriving DecidableEq, Repr

namespace Keyword

/-- Every reserved word, in the order of its declaration. -/
def all : List Keyword :=
  [.select, .insert, .values, .as, .table, .create, Keyword.where, Keyword.from, .into, .text,
    .true, .false, .null, .int]

def spelling : Keyword → String
  | .select => "select"
  | .insert => "insert"
  | .values => "values"
  | .as => "as"
  | .table => "table"
  | .create => "create"
  | Keyword.where => "where"
  | Keyword.from => "from"
  | .into => "into"
  | .text => "text"
  | .true => "true"
  | .false => "false"
  | .null => "null"
  | .int => "int"

def kind : Keyword → TokenKind
  | .true | .false => .bool
  | .null => .null
  | _ => .keyword

def token (word : Keyword) : Token :=
  { value := word.spelling, kind := word.kind }

/-- The reserved word that a text spells when it is put in lower case. -/
def ofText? (text : String) : Option Keyword :=
  all.find? fun word => word.spelling == Unicode.lowercase text

end Keyword
end PocketSql
