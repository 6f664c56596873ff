import PocketSql.Proofs.Engine
import PocketSql.Proofs.Store.History
/-!
# The table that a statement names

A statement depends on the table that it names and on no other, and it changes no other. So on
stores that agree on the tables a script names, the script gives the same answers or the same error,
and the stores still agree on those tables afterwards.
-/

namespace PocketSql

/-- The name of the table that a statement is about. A selection without one names the table with
the empty name. -/
def Statement.tableName : Statement → String
  | .createTable creation => creation.table.value
  | .insert insertion => insertion.table.value
  | .select query => (query.table.map (·.value)).getD ""

def Script.tableNames (script : Script) : List String :=
  script.map Statement.tableName

theorem Entry.tableName_of_creation? {name : String} {entry : Entry} {creation : CreateTable}
    (h : entry.creation? name = some creation) : entry.statement.tableName = name := by
  obtain ⟨_, rfl, hname⟩ := exists_of_creation? h
  exact hname

theorem Entry.tableName_of_insertion? {name : String} {entry : Entry} {insertion : Insert}
    (h : entry.insertion? name = some insertion) : entry.statement.tableName = name := by
  obtain ⟨_, rfl, hname⟩ := exists_of_insertion? h
  exact hname

namespace Store

variable {a b : Store} {name : String} {names : List String} {statement : Statement}
  {script : Script}

/-! ### What is not touched -/

theorem Effect.eq_of_ne {entry : Entry} {before after : Option Table}
    (h : Effect name entry before after) (hne : entry.statement.tableName ≠ name) :
    after = before := by
  cases h with
  | created hcreation => exact absurd (Entry.tableName_of_creation? hcreation) hne
  | appended _ hinsertion => exact absurd (Entry.tableName_of_insertion? hinsertion) hne
  | kept => rfl

theorem table?_execute_of_ne (store : Store) (h : statement.tableName ≠ name) :
    (Engine.execute store statement).state.table? name = store.table? name :=
  (effect_of_execute store statement name).eq_of_ne h

theorem table?_executeAll_of_not_mem (store : Store) (h : name ∉ script.tableNames) :
    (Engine.executeAll store script).state.table? name = store.table? name := by
  induction script generalizing store with
  | nil => rfl
  | cons statement script ih =>
      obtain ⟨hfirst, hrest⟩ := List.ne_and_not_mem_of_not_mem_cons h
      have hstatement := table?_execute_of_ne store (Ne.symm hfirst)
      cases hanswer : (Engine.execute store statement).answer with
      | error error => rwa [Engine.executeAll_cons_of_error hanswer]
      | ok answer =>
          rw [Engine.executeAll_cons_of_ok hanswer]
          exact (ih _ hrest).trans hstatement

/-! ### What is read -/

theorem createTable_congr {creation : CreateTable}
    (h : a.table? creation.table.value = b.table? creation.table.value) :
    (createTable creation a).answer = (createTable creation b).answer ∧
      (createTable creation a).state.table? creation.table.value =
        (createTable creation b).state.table? creation.table.value := by
  cases hcolumns : creation.columns.mapM Column.ofDefinition with
  | error error =>
      rw [createTable_of_error hcolumns, createTable_of_error hcolumns]
      exact ⟨rfl, h⟩
  | ok columns =>
      rw [createTable_of_ok hcolumns, createTable_of_ok hcolumns]
      refine ⟨rfl, ?_⟩
      simp only [table?_put, if_true]

theorem insert_congr {insertion : Insert}
    (h : a.table? insertion.table.value = b.table? insertion.table.value) :
    (insert insertion a).answer = (insert insertion b).answer ∧
      (insert insertion a).state.table? insertion.table.value =
        (insert insertion b).state.table? insertion.table.value := by
  cases hb : b.table? insertion.table.value with
  | none =>
      rw [insert_of_no_table (h.trans hb), insert_of_no_table hb]
      exact ⟨rfl, h⟩
  | some table =>
      have ha := h.trans hb
      by_cases hcount : insertion.values.length = table.columns.length
      · cases hrow : newRow insertion.values table.columns with
        | error error =>
            rw [insert_of_error ha hcount hrow, insert_of_error hb hcount hrow]
            exact ⟨rfl, h⟩
        | ok row =>
            rw [insert_of_row ha hcount hrow, insert_of_row hb hcount hrow]
            refine ⟨rfl, ?_⟩
            simp only [table?_put, if_true]
      · rw [insert_of_wrong_count ha hcount, insert_of_wrong_count hb hcount]
        exact ⟨rfl, h⟩

theorem select_congr {query : Select}
    (h : a.table? ((query.table.map (·.value)).getD "") =
      b.table? ((query.table.map (·.value)).getD "")) : select query a = select query b := by
  simp only [select, h]

/-- A statement reads and writes the table that it names. -/
theorem execute_congr (h : a.table? statement.tableName = b.table? statement.tableName) :
    (Engine.execute a statement).answer = (Engine.execute b statement).answer ∧
      (Engine.execute a statement).state.table? statement.tableName =
        (Engine.execute b statement).state.table? statement.tableName := by
  cases statement with
  | select query => exact ⟨congrArg (Except.map Answer.selected) (select_congr h), h⟩
  | insert insertion =>
      obtain ⟨hanswer, htable⟩ := insert_congr h
      exact ⟨congrArg (Except.map _) hanswer, htable⟩
  | createTable creation =>
      obtain ⟨hanswer, htable⟩ := createTable_congr h
      exact ⟨congrArg (Except.map _) hanswer, htable⟩

/-! ### Stores that agree on some tables -/

def Agree (names : List String) (a b : Store) : Prop :=
  ∀ name ∈ names, a.table? name = b.table? name

theorem Agree.execute (h : Agree names a b) (hname : statement.tableName ∈ names) :
    (Engine.execute a statement).answer = (Engine.execute b statement).answer ∧
      Agree names (Engine.execute a statement).state (Engine.execute b statement).state := by
  obtain ⟨hanswer, htable⟩ := execute_congr (h _ hname)
  refine ⟨hanswer, fun name hmem => ?_⟩
  by_cases hne : statement.tableName = name
  · rwa [← hne]
  · rw [table?_execute_of_ne a hne, table?_execute_of_ne b hne]
    exact h name hmem

/-- **A script reads and writes the tables that it names.** -/
theorem Agree.executeAll (h : Agree names a b) (hnames : script.tableNames ⊆ names) :
    (Engine.executeAll a script).answer = (Engine.executeAll b script).answer ∧
      Agree names (Engine.executeAll a script).state (Engine.executeAll b script).state := by
  induction script generalizing a b with
  | nil => exact ⟨rfl, h⟩
  | cons statement script ih =>
      obtain ⟨hfirst, hrest⟩ := List.cons_subset.mp hnames
      obtain ⟨hanswer, hagree⟩ := h.execute hfirst
      cases ha : (Engine.execute a statement).answer with
      | error error =>
          rw [Engine.executeAll_cons_of_error ha,
            Engine.executeAll_cons_of_error (hanswer.symm.trans ha)]
          exact ⟨rfl, hagree⟩
      | ok answer =>
          rw [Engine.executeAll_cons_of_ok ha,
            Engine.executeAll_cons_of_ok (hanswer.symm.trans ha)]
          obtain ⟨hanswers, hagree⟩ := ih hagree hrest
          exact ⟨congrArg (Except.map (answer :: ·)) hanswers, hagree⟩

end Store
end PocketSql
