import PocketSql.Engine
import PocketSql.Proofs.Sequence
/-!
# What an operation does to a store

Each operation of a store has a few outcomes, and each of them is given here whole: its answer, the
store after it and its records. An operation either leaves the store as it was or puts one table
into it, so what a statement can change is `change_of_execute`, and a statement that fails changes
nothing (`state_of_execute_error`).
-/

namespace PocketSql

/-- The token that an expression is. -/
def Expression.token : Expression → Token
  | .literal token => token

theorem Expression.identifier?_literal (token : Token) :
    (Expression.literal token).identifier? =
      if token.kind = .identifier then some token.value else none := by
  rw [identifier?, literal?, Option.filter_some]
  by_cases h : token.kind = .identifier
  · rw [if_pos (by simpa using h), if_pos h]
    rfl
  · rw [if_neg (by simpa using h), if_neg h]
    rfl

namespace Store

variable {store : Store} {creation : CreateTable} {insertion : Insert} {query : Select}
  {columns : List Column} {table : Table} {row : Row} {error : Error}

/-- The row of the values for some columns. -/
def newRow (values : List Expression) (columns : List Column) : Except Error Row :=
  (values.zip columns).mapM fun (value, column) => Cell.ofLiteral value.token column

/-- Every expression is a literal, so no value is skipped. -/
theorem rowOf_eq (pairs : List (Expression × Column)) :
    rowOf pairs = (pairs.mapM fun (value, column) => Cell.ofLiteral value.token column, []) := by
  induction pairs with
  | nil => rfl
  | cons pair rest ih =>
      obtain ⟨⟨token⟩, column⟩ := pair
      rw [List.mapM_cons]
      simp only [rowOf, Expression.literal?, ih, Expression.token]
      cases Cell.ofLiteral token column with
      | error error => rfl
      | ok cell =>
          cases rest.mapM fun (value, column) => Cell.ofLiteral value.token column with
          | error error => rfl
          | ok row => rfl

theorem put_put (store : Store) (name : String) (first second : Table) :
    (store.put name first).put name second = store.put name second := by
  refine ext_table? fun other => ?_
  rw [table?_put, table?_put, table?_put]
  split <;> rfl

theorem length_of_newRow {values : List Expression} (hcount : values.length = columns.length)
    (h : newRow values columns = .ok row) : row.length = columns.length := by
  have hlength := (mapM_eq_ok_iff.mp h).length_eq
  rw [List.length_zip, hcount, Nat.min_self] at hlength
  exact hlength.symm

theorem append_of_length (h : row.length = table.columns.length) :
    table.append row = .ok { table with rows := table.rows ++ [row] } := by
  rw [Table.append, if_neg (by simpa using h)]

/-! ### Making a table -/

theorem createTable_of_error (h : creation.columns.mapM Column.ofDefinition = .error error) :
    createTable creation store = .fail store error := by
  rw [createTable, h]

theorem createTable_of_ok (h : creation.columns.mapM Column.ofDefinition = .ok columns) :
    createTable creation store =
      { answer := .ok ()
        state := store.put creation.table.value { columns }
        events := [if (store.table? creation.table.value).isSome
          then .tableReplaced creation.table.value else .tableCreated creation.table.value] } := by
  rw [createTable, h]

/-! ### Appending a row -/

theorem insert_of_no_table (h : store.table? insertion.table.value = none) :
    insert insertion store = .fail store (.tableDoesNotExist insertion.table.value) := by
  rw [insert, h]

theorem insert_of_wrong_count (h : store.table? insertion.table.value = some table)
    (hcount : insertion.values.length ≠ table.columns.length) :
    insert insertion store =
      .fail store (.missingValues table.columns.length insertion.values.length) := by
  simp only [insert, h]
  rw [if_pos hcount]

theorem insert_of_error (h : store.table? insertion.table.value = some table)
    (hcount : insertion.values.length = table.columns.length)
    (hrow : newRow insertion.values table.columns = .error error) :
    insert insertion store = .fail store error := by
  rw [newRow] at hrow
  simp only [insert, h, rowOf_eq, hrow]
  rw [if_neg (by simpa using hcount)]
  rfl

theorem insert_of_row (h : store.table? insertion.table.value = some table)
    (hcount : insertion.values.length = table.columns.length)
    (hrow : newRow insertion.values table.columns = .ok row) :
    insert insertion store =
      { answer := .ok ()
        state := store.put insertion.table.value { table with rows := table.rows ++ [row] }
        events := [.rowAppended insertion.table.value] } := by
  have happend := append_of_length (length_of_newRow hcount hrow)
  rw [newRow] at hrow
  simp only [insert, h, rowOf_eq, hrow, Except.bind, happend]
  rw [if_neg (by simpa using hcount)]
  rfl

/-- An insertion fails and leaves the store as it was, or it appends one row. -/
theorem insert_cases (store : Store) (insertion : Insert) :
    (∃ error, insert insertion store = .fail store error) ∨
      ∃ table row, store.table? insertion.table.value = some table ∧
        insertion.values.length = table.columns.length ∧
        newRow insertion.values table.columns = .ok row ∧
        insert insertion store =
          { answer := .ok ()
            state := store.put insertion.table.value { table with rows := table.rows ++ [row] }
            events := [.rowAppended insertion.table.value] } := by
  cases h : store.table? insertion.table.value with
  | none => exact .inl ⟨_, insert_of_no_table h⟩
  | some table =>
      by_cases hcount : insertion.values.length = table.columns.length
      · cases hrow : newRow insertion.values table.columns with
        | error error => exact .inl ⟨error, insert_of_error h hcount hrow⟩
        | ok row => exact .inr ⟨table, row, rfl, hcount, hrow, insert_of_row h hcount hrow⟩
      · exact .inl ⟨_, insert_of_wrong_count h hcount⟩

/-! ### Reading a table -/

theorem select_of_no_table (h : store.table? ((query.table.map (·.value)).getD "") = none) :
    select query store = .error (.tableDoesNotExist ((query.table.map (·.value)).getD "")) := by
  simp only [select, h]

theorem select_of_table (h : store.table? ((query.table.map (·.value)).getD "") = some table) :
    select query store = table.select query.items := by
  simp only [select, h]

/-! ### Any statement -/

theorem execute_select (store : Store) (query : Select) :
    Engine.execute store (.select query) =
      { answer := (select query store).map .selected, state := store } :=
  rfl

theorem execute_insert (store : Store) (insertion : Insert) :
    Engine.execute store (.insert insertion) = (insert insertion store).map fun _ => .inserted 1 :=
  rfl

theorem execute_createTable (store : Store) (creation : CreateTable) :
    Engine.execute store (.createTable creation) =
      (createTable creation store).map fun _ => .tableCreated creation.table.value :=
  rfl

theorem execute_createTable_of_ok (h : creation.columns.mapM Column.ofDefinition = .ok columns) :
    (Engine.execute store (.createTable creation)).answer =
        .ok (.tableCreated creation.table.value) ∧
      (Engine.execute store (.createTable creation)).state =
        store.put creation.table.value { columns } := by
  rw [execute_createTable, createTable_of_ok h]
  exact ⟨rfl, rfl⟩

theorem execute_createTable_of_error
    (h : creation.columns.mapM Column.ofDefinition = .error error) :
    (Engine.execute store (.createTable creation)).answer = .error error ∧
      (Engine.execute store (.createTable creation)).state = store := by
  rw [execute_createTable, createTable_of_error h]
  exact ⟨rfl, rfl⟩

/-- **A statement that fails changes nothing.** -/
theorem state_of_execute_error {statement : Statement}
    (h : (Engine.execute store statement).answer = .error error) :
    (Engine.execute store statement).state = store := by
  cases statement with
  | select query => rfl
  | insert insertion =>
      obtain ⟨_, hfail⟩ | ⟨_, _, _, _, _, hinsert⟩ := insert_cases store insertion
      · rw [execute_insert, hfail]
        rfl
      · rw [execute_insert, hinsert] at h
        cases h
  | createTable creation =>
      cases hcolumns : creation.columns.mapM Column.ofDefinition with
      | error _ =>
          rw [execute_createTable, createTable_of_error hcolumns]
          rfl
      | ok columns =>
          rw [execute_createTable, createTable_of_ok hcolumns] at h
          cases h

/-- What a statement can make of a store: nothing is changed, or one table is put into it, which is
new and empty or is the table of that name with one more row. -/
inductive Change (store : Store) : Store → Prop where
  | none : Change store store
  | created (name : String) (columns : List Column) : Change store (store.put name { columns })
  | appended (name : String) {table : Table} {values : List Expression} {row : Row}
      (htable : store.table? name = some table) (hcount : values.length = table.columns.length)
      (hrow : newRow values table.columns = .ok row) :
      Change store (store.put name { table with rows := table.rows ++ [row] })

theorem change_of_insert (store : Store) (insertion : Insert) :
    Change store (insert insertion store).state := by
  obtain ⟨error, hfail⟩ | ⟨table, row, htable, hcount, hrow, hinsert⟩ :=
    insert_cases store insertion
  · rw [hfail]
    exact .none
  · rw [hinsert]
    exact .appended _ htable hcount hrow

theorem change_of_createTable (store : Store) (creation : CreateTable) :
    Change store (createTable creation store).state := by
  cases h : creation.columns.mapM Column.ofDefinition with
  | error error =>
      rw [createTable_of_error h]
      exact .none
  | ok columns =>
      rw [createTable_of_ok h]
      exact .created _ _

theorem change_of_execute (store : Store) (statement : Statement) :
    Change store (Engine.execute store statement).state := by
  cases statement with
  | select query => exact .none
  | insert insertion => exact change_of_insert store insertion
  | createTable creation => exact change_of_createTable store creation

end Store
end PocketSql
