import PocketSql.Outcome
import PocketSql.Table
import Std.Data.ExtTreeMap
/-!
# The store

The store holds tables by name, and the case of a name counts. An operation checks everything before
it changes anything, so one that fails leaves the store as it was.
-/

namespace PocketSql

structure Store where
  tables : Std.ExtTreeMap String Table := {}

namespace Store

def empty : Store := {}

def table? (store : Store) (name : String) : Option Table :=
  store.tables[name]?

def put (store : Store) (name : String) (table : Table) : Store :=
  { store with tables := store.tables.insert name table }

/-- Every table with its name, in the order of the names. -/
def toList (store : Store) : List (String × Table) :=
  store.tables.toList

@[simp] theorem table?_empty (name : String) : empty.table? name = none := by
  simp [table?, empty]

theorem table?_put (store : Store) (name other : String) (table : Table) :
    (store.put name table).table? other =
      if name = other then some table else store.table? other := by
  simp [table?, put, Std.ExtTreeMap.getElem?_insert]

/-- Stores with the same tables under the same names are equal. -/
theorem ext_table? {a b : Store} (h : ∀ name, a.table? name = b.table? name) : a = b := by
  cases a
  cases b
  simp only [mk.injEq]
  exact Std.ExtTreeMap.ext_getElem? h

/-- Makes a table without rows, in place of any table of that name. -/
def createTable (creation : CreateTable) (store : Store) : Outcome Store Unit :=
  match creation.columns.mapM Column.ofDefinition with
  | .error error => .fail store error
  | .ok columns =>
      let name := creation.table.value
      { answer := .ok ()
        state := store.put name { columns }
        events := [if (store.table? name).isSome then .tableReplaced name else .tableCreated name] }

/-- The row of the values for some columns, with the records of making it. A value that is not a
literal has no cell. -/
def rowOf : List (Expression × Column) → Except Error Row × List Event
  | [] => (.ok [], [])
  | (value, column) :: rest =>
      match value.literal? with
      | none =>
          let (row, events) := rowOf rest
          (row, .valueSkipped column.name :: events)
      | some token =>
          match Cell.ofLiteral token column with
          | .error error => (.error error, [])
          | .ok cell =>
              let (row, events) := rowOf rest
              (row.map (cell :: ·), events)

/-- Appends a row with one value for each column. -/
def insert (insertion : Insert) (store : Store) : Outcome Store Unit :=
  let name := insertion.table.value
  match store.table? name with
  | none => .fail store (.tableDoesNotExist name)
  | some table =>
      if insertion.values.length ≠ table.columns.length then
        .fail store (.missingValues table.columns.length insertion.values.length)
      else
        let (row, events) := rowOf (insertion.values.zip table.columns)
        match row.bind table.append with
        | .error error => { answer := .error error, state := store, events }
        | .ok table =>
            { answer := .ok ()
              state := store.put name table
              events := events ++ [.rowAppended name] }

/-- Reads columns of a table. A selection that names no table reads the table with the empty
name. -/
def select (query : Select) (store : Store) : Except Error Results :=
  let name := (query.table.map (·.value)).getD ""
  match store.table? name with
  | none => .error (.tableDoesNotExist name)
  | some table => table.select query.items

end Store
end PocketSql
