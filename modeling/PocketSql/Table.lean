import PocketSql.Integer
import PocketSql.Results.Basic
import PocketSql.Statement.Basic
/-!
# Tables

A table has columns and rows, the rows in the order in which they were appended. Every row has one
cell for each column, which appending checks. Several columns can have one name; the first of them
is the one that the name means.
-/

namespace PocketSql

structure Table where
  columns : List Column
  rows : List Row := []
  deriving DecidableEq, Repr

/-- The column that a definition asks for. -/
def Column.ofDefinition (definition : ColumnDefinition) : Except Error Column :=
  match ColumnType.ofDatatype? definition.datatype.value with
  | some type => .ok { name := definition.name.value, type }
  | none => .error (.invalidDataType definition.datatype.value)

/-- The cell of a literal in a column. Numerals go into columns of integers and quoted texts into
columns of text; nothing is converted. -/
def Cell.ofLiteral (token : Token) (column : Column) : Except Error Cell :=
  match token.kind, column.type with
  | .numeric, .int =>
      match Integer.int32? token.value with
      | some n => .ok (.ofInt n)
      | none =>
          .error (.invalidDataType
            (token.value ++ " is not a 32-bit integer for column " ++ column.name))
  | .string, .text => .ok (.ofText token.value)
  | kind, type =>
      .error (.invalidDataType
        (kind.name ++ " literal " ++ token.value ++ " for " ++ type.name ++ " column " ++
          column.name))

namespace Table

def isEmpty (table : Table) : Bool :=
  table.rows.isEmpty

/-- The index of the first column of a name. -/
def columnIndex? (table : Table) (name : String) : Option Nat :=
  table.columns.findIdx? (·.name == name)

/-- The table with one more row. -/
def append (table : Table) (row : Row) : Except Error Table :=
  if row.length ≠ table.columns.length then
    .error (.internal ("row has " ++ toString row.length ++ " cells but table has " ++
      toString table.columns.length ++ " columns"))
  else .ok { table with rows := table.rows ++ [row] }

/-- The index of the column that an expression names. -/
def resolve (table : Table) (item : Expression) : Except Error Nat :=
  match item.identifier?.bind table.columnIndex? with
  | some index => .ok index
  | none => .error (.columnDoesNotExist ((item.literal?.map (·.value)).getD ""))

/-- A member of a list that is known to be there. -/
def entry {α : Type} (list : List α) (index : Nat) : Except Error α :=
  match list[index]? with
  | some member => .ok member
  | none => .error (.internal ("no entry at index " ++ toString index))

/-- The columns of the results where an item of the row of a number named a column. They are taken
from the first row, and no other row adds to them. -/
def capture (table : Table) (number : Nat) (columns : List Column) (index : Nat) :
    Except Error (List Column) :=
  if number = 0 then (entry table.columns index).map fun column => columns ++ [column]
  else .ok columns

/-- What an item adds to the columns and to the cells that its row has so far. -/
def selectItem (table : Table) (number : Nat) (row : Row) :
    List Column × Row → Expression → Except Error (List Column × Row)
  | (columns, cells), item => do
      let index ← table.resolve item
      let columns ← table.capture number columns index
      let cell ← entry row index
      return (columns, cells ++ [cell])

/-- Adds a row to the results of the rows before it. Its items are looked up one after the other,
and the first that names no column ends the whole selection. -/
def selectRow (table : Table) (items : List Expression) :
    Results → Row × Nat → Except Error Results
  | results, (row, number) => do
      let (columns, cells) ← items.foldlM (table.selectItem number row) (results.columns, [])
      return { columns, rows := results.rows ++ [cells] }

/-- The named columns of every row. The names are looked up again for each row, and the columns are
those of the first row, so a table without rows has no results, not even columns, and its names are
not looked up. -/
def select (table : Table) (items : List Expression) : Except Error Results :=
  table.rows.zipIdx.foldlM (table.selectRow items) {}

end Table
end PocketSql
