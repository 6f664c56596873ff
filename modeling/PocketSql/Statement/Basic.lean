import PocketSql.Token.Basic
/-!
# Statements

A statement holds tokens of the text that it was read from: the names of tables and columns, the
words for column types and the literals. A script is a list of statements.

The places of the tokens serve messages only. `unlocated` forgets them, so that two statements that
say the same thing become equal.
-/

namespace PocketSql

/-- What a statement can select or insert. A single literal or name is the only form so far. -/
inductive Expression where
  | literal (token : Token)
  deriving DecidableEq, Repr

namespace Expression

/-- The token of an expression that is one. -/
def literal? : Expression → Option Token
  | .literal token => some token

/-- The name that an expression consists of. -/
def identifier? (expression : Expression) : Option String :=
  (expression.literal?.filter (·.kind == .identifier)).map (·.value)

def unlocated : Expression → Expression
  | .literal token => .literal token.unlocated

end Expression

/-- A column to be made. Its type can be any reserved word; the store decides what the word means. -/
structure ColumnDefinition where
  name : Token
  datatype : Token
  deriving DecidableEq, Repr

def ColumnDefinition.unlocated (definition : ColumnDefinition) : ColumnDefinition where
  name := definition.name.unlocated
  datatype := definition.datatype.unlocated

structure Select where
  items : List Expression
  table : Option Token
  deriving DecidableEq, Repr

def Select.unlocated (query : Select) : Select where
  items := query.items.map (·.unlocated)
  table := query.table.map (·.unlocated)

structure Insert where
  table : Token
  values : List Expression
  deriving DecidableEq, Repr

def Insert.unlocated (insertion : Insert) : Insert where
  table := insertion.table.unlocated
  values := insertion.values.map (·.unlocated)

structure CreateTable where
  table : Token
  columns : List ColumnDefinition
  deriving DecidableEq, Repr

def CreateTable.unlocated (creation : CreateTable) : CreateTable where
  table := creation.table.unlocated
  columns := creation.columns.map (·.unlocated)

inductive Statement where
  | select (query : Select)
  | insert (insertion : Insert)
  | createTable (creation : CreateTable)
  deriving DecidableEq, Repr

def Statement.unlocated : Statement → Statement
  | .select query => .select query.unlocated
  | .insert insertion => .insert insertion.unlocated
  | .createTable creation => .createTable creation.unlocated

abbrev Script := List Statement

/-- The statements of a script without the places of their tokens. -/
def Script.unlocated (script : Script) : Script :=
  script.map Statement.unlocated

end PocketSql
