import PocketSql.Unicode.Lowercase
/-!
# Column types

A column holds integers of 32 bits or text. A statement names the type by a word, in any case.
-/

namespace PocketSql

inductive ColumnType where
  | int
  | text
  deriving DecidableEq, Repr

namespace ColumnType

def name : ColumnType → String
  | .int => "INT"
  | .text => "TEXT"

/-- The column type that a word names. -/
def ofDatatype? (word : String) : Option ColumnType :=
  let lower := Unicode.lowercase word
  if lower = "int" then some .int
  else if lower = "text" then some .text
  else none

end ColumnType

structure Column where
  name : String
  type : ColumnType
  deriving DecidableEq, Repr

end PocketSql
