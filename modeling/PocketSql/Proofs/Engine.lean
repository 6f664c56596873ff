import PocketSql.Proofs.Store.Operations
/-!
# Runs of scripts

A run of two scripts in a row is a run of the first and then, if it succeeded, one of the second.
And a store carries out statements by the texts and kinds of their tokens, so their places make no
difference to a run.
-/

namespace PocketSql

namespace Engine

variable {σ : Type} [Engine σ] {state : σ} {statement : Statement} {answer : Answer}
  {answers : List Answer} {front : Script}

theorem executeAll_cons_of_ok (h : (execute state statement).answer = .ok answer) (rest : Script) :
    executeAll state (statement :: rest) =
      { answer := (executeAll (execute state statement).state rest).answer.map (answer :: ·)
        state := (executeAll (execute state statement).state rest).state
        events := (execute state statement).events ++
          (executeAll (execute state statement).state rest).events } := by
  rw [executeAll]
  simp only [h]

theorem executeAll_cons_of_error {error : Error}
    (h : (execute state statement).answer = .error error) (rest : Script) :
    executeAll state (statement :: rest) =
      { answer := .error error
        state := (execute state statement).state
        events := (execute state statement).events } := by
  rw [executeAll]
  simp only [h]

theorem executeAll_append_of_ok (h : (executeAll state front).answer = .ok answers)
    (back : Script) :
    executeAll state (front ++ back) =
      { answer := (executeAll (executeAll state front).state back).answer.map (answers ++ ·)
        state := (executeAll (executeAll state front).state back).state
        events := (executeAll state front).events ++
          (executeAll (executeAll state front).state back).events } := by
  induction front generalizing state answers with
  | nil =>
      cases h
      change executeAll state back =
        { answer := (executeAll state back).answer.map ([] ++ ·)
          state := (executeAll state back).state
          events := [] ++ (executeAll state back).events }
      cases executeAll state back with
      | mk answer state' events => cases answer <;> rfl
  | cons statement front ih =>
      cases hfirst : (execute state statement).answer with
      | error error =>
          rw [executeAll_cons_of_error hfirst] at h
          cases h
      | ok answer =>
          rw [executeAll_cons_of_ok hfirst] at h ⊢
          rw [List.cons_append, executeAll_cons_of_ok hfirst]
          cases hrest : (executeAll (execute state statement).state front).answer with
          | error error =>
              rw [hrest] at h
              cases h
          | ok others =>
              rw [hrest] at h
              cases h
              rw [ih hrest, List.append_assoc]
              let middle := (executeAll (execute state statement).state front).state
              cases (executeAll middle back).answer with
              | error error => rfl
              | ok later => rfl

/-- What stands behind a failure is not carried out. -/
theorem executeAll_append_of_error {error : Error}
    (h : (executeAll state front).answer = .error error) (back : Script) :
    executeAll state (front ++ back) = executeAll state front := by
  induction front generalizing state with
  | nil => cases h
  | cons statement front ih =>
      cases hfirst : (execute state statement).answer with
      | error error =>
          have hall := executeAll_cons_of_error hfirst
          rw [List.cons_append, hall, hall]
      | ok answer =>
          have hall := executeAll_cons_of_ok hfirst
          rw [hall] at h
          rw [List.cons_append, hall, hall, ih (map_eq_error_iff.mp h)]

end Engine

/-! ### Places of tokens -/

namespace Store

theorem createTable_unlocated (creation : CreateTable) (store : Store) :
    createTable creation.unlocated store = createTable creation store := by
  have hcolumns : (creation.columns.map (·.unlocated)).mapM Column.ofDefinition =
      creation.columns.mapM Column.ofDefinition := List.mapM_map
  simp only [createTable, CreateTable.unlocated, hcolumns]
  rfl

theorem rowOf_unlocated (values : List Expression) (columns : List Column) :
    rowOf ((values.map (·.unlocated)).zip columns) = rowOf (values.zip columns) := by
  rw [rowOf_eq, rowOf_eq, List.zip_map_left, List.mapM_map]
  rfl

theorem insert_unlocated (insertion : Insert) (store : Store) :
    insert insertion.unlocated store = insert insertion store := by
  simp only [insert, Insert.unlocated, List.length_map, rowOf_unlocated]
  rfl

theorem select_unlocated (query : Select) (store : Store) :
    select query.unlocated store = select query store := by
  have hname : (query.table.map (·.unlocated)).map (·.value) = query.table.map (·.value) :=
    Option.map_map _ _ _
  have hitems (table : Table) : table.select (query.items.map (·.unlocated)) =
      table.select query.items := by
    have hresolve (item : Expression) : table.resolve item.unlocated = table.resolve item := by
      obtain ⟨token⟩ := item
      rw [Table.resolve, Table.resolve, Expression.unlocated, Expression.identifier?_literal,
        Expression.identifier?_literal]
      rfl
    have hitem (number : Nat) (row : Row) (state : List Column × Row) (item : Expression) :
        table.selectItem number row state item.unlocated =
          table.selectItem number row state item := by
      rw [Table.selectItem, Table.selectItem, hresolve]
    have hrow : table.selectRow (query.items.map (·.unlocated)) = table.selectRow query.items := by
      funext results ⟨row, number⟩
      simp only [Table.selectRow, List.foldlM_map, hitem]
    rw [Table.select, Table.select, hrow]
  simp only [select, Select.unlocated, hname, hitems]

theorem execute_unlocated (store : Store) (statement : Statement) :
    Engine.execute store statement.unlocated = Engine.execute store statement := by
  cases statement with
  | select query =>
      have hanswer := congrArg (Except.map Answer.selected) (select_unlocated query store)
      exact congrArg (Outcome.mk · store []) hanswer
  | insert insertion => exact congrArg (Outcome.map _) (insert_unlocated insertion store)
  | createTable creation => exact congrArg (Outcome.map _) (createTable_unlocated creation store)

/-- **A run does not depend on the places of tokens.** -/
theorem executeAll_unlocated (store : Store) (script : Script) :
    Engine.executeAll store script.unlocated = Engine.executeAll store script := by
  induction script generalizing store with
  | nil => rfl
  | cons statement script ih =>
      have hrest : Engine.executeAll (Engine.execute store statement).state
          (script.map Statement.unlocated) = _ := ih _
      rw [Script.unlocated, List.map_cons, Engine.executeAll, Engine.executeAll, execute_unlocated]
      simp only [hrest]

theorem executeAll_congr {script other : Script} (h : script.unlocated = other.unlocated)
    (store : Store) : Engine.executeAll store script = Engine.executeAll store other := by
  rw [← executeAll_unlocated store script, h, executeAll_unlocated]

end Store
end PocketSql
