import PocketSql.Proofs.Store.Operations
/-!
# The store is what its history says

A history is the statements that were carried out with their answers. The table of a name changes
with two kinds of entries only: a successful creation of that name makes it anew, and a successful
insertion into it appends one row. So what a store holds under a name can be read off the history:
there is a table when the name was created, its columns come from the last creation, and its rows
from the insertions after that.

What one entry does to the table of a name is `effect_of_execute`. A run is a chain of such effects,
`Effects`, and everything else is about chains and not about stores.
-/

namespace PocketSql

/-- A statement that was carried out, with its answer. -/
structure Entry where
  statement : Statement
  answer : Except Error Answer

namespace Entry

/-- The creation of a table of the given name, if the entry is one that succeeded. -/
def creation? (name : String) (entry : Entry) : Option CreateTable :=
  match entry with
  | ⟨.createTable creation, .ok _⟩ => if creation.table.value = name then some creation else none
  | _ => none

/-- The insertion into the table of the given name, if the entry is one that succeeded. -/
def insertion? (name : String) (entry : Entry) : Option Insert :=
  match entry with
  | ⟨.insert insertion, .ok _⟩ => if insertion.table.value = name then some insertion else none
  | _ => none

variable {name : String} {entry : Entry}

theorem exists_of_creation? {creation : CreateTable} (h : entry.creation? name = some creation) :
    ∃ answer, entry = ⟨.createTable creation, .ok answer⟩ ∧ creation.table.value = name := by
  unfold creation? at h
  split at h
  · split at h
    · next hname =>
        cases h
        exact ⟨_, rfl, hname⟩
    · cases h
  · cases h

theorem exists_of_insertion? {insertion : Insert} (h : entry.insertion? name = some insertion) :
    ∃ answer, entry = ⟨.insert insertion, .ok answer⟩ ∧ insertion.table.value = name := by
  unfold insertion? at h
  split at h
  · split at h
    · next hname =>
        cases h
        exact ⟨_, rfl, hname⟩
    · cases h
  · cases h

end Entry

/-- The statements of a run with their answers. No statement is left out, failed or not. -/
def Engine.history {σ : Type} [Engine σ] (state : σ) (script : Script) : List Entry :=
  List.zipWith Entry.mk script (executeEach state script).1

/-- The columns are those that a creation asks for. -/
def CreateTable.Declares (creation : CreateTable) (columns : List Column) : Prop :=
  List.Forall₂ (fun definition column => Column.ofDefinition definition = .ok column)
    creation.columns columns

/-- The row has one cell for each column, which is the value of the insertion there. -/
def Insert.Stores (insertion : Insert) (columns : List Column) (row : Row) : Prop :=
  insertion.values.length = columns.length ∧
    List.Forall₂ (fun (value, column) cell => Cell.ofLiteral value.token column = .ok cell)
      (insertion.values.zip columns) row

/-- The insertions into the table of a name that succeeded. -/
def insertions (name : String) (history : List Entry) : List Insert :=
  history.filterMap (Entry.insertion? name)

namespace Engine

variable {σ : Type} [Engine σ]

theorem executeEach_cons (state : σ) (statement : Statement) (rest : Script) :
    executeEach state (statement :: rest) =
      ((execute state statement).answer :: (executeEach (execute state statement).state rest).1,
        (executeEach (execute state statement).state rest).2) := rfl

theorem history_cons (state : σ) (statement : Statement) (rest : Script) :
    history state (statement :: rest) =
      ⟨statement, (execute state statement).answer⟩ ::
        history (execute state statement).state rest := rfl

theorem map_statement_history (state : σ) (script : Script) :
    (history state script).map (·.statement) = script := by
  induction script generalizing state with
  | nil => rfl
  | cons statement rest ih => rw [history_cons, List.map_cons, ih]

theorem map_answer_history (state : σ) (script : Script) :
    (history state script).map (·.answer) = (executeEach state script).1 := by
  induction script generalizing state with
  | nil => rfl
  | cons statement rest ih => rw [history_cons, List.map_cons, ih, executeEach_cons]

end Engine

namespace Store

variable {name : String} {entry : Entry} {history front back : List Entry}
  {table : Table} {before after : Option Table}

/-! ### One entry -/

/-- What an entry makes of the table of a name. -/
inductive Effect (name : String) (entry : Entry) : Option Table → Option Table → Prop where
  | created {before : Option Table} {creation : CreateTable} {columns : List Column}
      (hcreation : entry.creation? name = some creation) (hcolumns : creation.Declares columns) :
      Effect name entry before (some { columns })
  | appended {table : Table} {insertion : Insert} {row : Row}
      (hcreation : entry.creation? name = none)
      (hinsertion : entry.insertion? name = some insertion)
      (hrow : insertion.Stores table.columns row) :
      Effect name entry (some table) (some { table with rows := table.rows ++ [row] })
  | kept {before : Option Table} (hcreation : entry.creation? name = none)
      (hinsertion : entry.insertion? name = none) : Effect name entry before before

theorem effect_of_createTable (store : Store) (creation : CreateTable) (name : String) :
    Effect name ⟨.createTable creation, (Engine.execute store (.createTable creation)).answer⟩
      (store.table? name) ((Engine.execute store (.createTable creation)).state.table? name) := by
  rw [execute_createTable]
  cases h : creation.columns.mapM Column.ofDefinition with
  | error error =>
      rw [createTable_of_error h]
      exact .kept rfl rfl
  | ok columns =>
      rw [createTable_of_ok h]
      change Effect name _ _ ((store.put creation.table.value { columns }).table? name)
      rw [table?_put]
      by_cases hname : creation.table.value = name
      · rw [if_pos hname]
        exact .created (if_pos hname) (mapM_eq_ok_iff.mp h)
      · rw [if_neg hname]
        exact .kept (if_neg hname) rfl

theorem effect_of_insert (store : Store) (insertion : Insert) (name : String) :
    Effect name ⟨.insert insertion, (Engine.execute store (.insert insertion)).answer⟩
      (store.table? name) ((Engine.execute store (.insert insertion)).state.table? name) := by
  rw [execute_insert]
  obtain ⟨error, hfail⟩ | ⟨table, row, htable, hcount, hrow, hinsert⟩ :=
    insert_cases store insertion
  · rw [hfail]
    exact .kept rfl rfl
  · rw [hinsert]
    change Effect name _ _ ((store.put insertion.table.value _).table? name)
    rw [table?_put]
    by_cases hname : insertion.table.value = name
    · rw [if_pos hname, ← hname, htable]
      exact .appended rfl (if_pos rfl) ⟨hcount, mapM_eq_ok_iff.mp hrow⟩
    · rw [if_neg hname]
      exact .kept rfl (if_neg hname)

/-- **What a statement does to the table of a name**, whatever the name is. -/
theorem effect_of_execute (store : Store) (statement : Statement) (name : String) :
    Effect name ⟨statement, (Engine.execute store statement).answer⟩ (store.table? name)
      ((Engine.execute store statement).state.table? name) := by
  cases statement with
  | select query => exact .kept rfl rfl
  | insert insertion => exact effect_of_insert store insertion name
  | createTable creation => exact effect_of_createTable store creation name

/-! ### Whole histories -/

/-- The effects of a history on the table of a name, one after the other. -/
inductive Effects (name : String) : List Entry → Option Table → Option Table → Prop where
  | nil {before : Option Table} : Effects name [] before before
  | cons {entry : Entry} {rest : List Entry} {before middle after : Option Table}
      (hfirst : Effect name entry before middle) (hrest : Effects name rest middle after) :
      Effects name (entry :: rest) before after

theorem effects_of_executeEach (store : Store) (script : Script) (name : String) :
    Effects name (Engine.history store script) (store.table? name)
      ((Engine.executeEach store script).2.table? name) := by
  induction script generalizing store with
  | nil => exact .nil
  | cons statement rest ih => exact .cons (effect_of_execute store statement name) (ih _)

theorem Effects.of_append (h : Effects name (front ++ back) before after) :
    ∃ middle, Effects name front before middle ∧ Effects name back middle after := by
  induction front generalizing before with
  | nil => exact ⟨before, .nil, h⟩
  | cons entry front ih =>
      obtain _ | ⟨hfirst, hrest⟩ := h
      obtain ⟨middle, hfront, hback⟩ := ih hrest
      exact ⟨middle, .cons hfirst hfront, hback⟩

/-- A table is never dropped. -/
theorem Effects.isSome (h : Effects name history before after) (hbefore : before.isSome) :
    after.isSome := by
  induction h with
  | nil => exact hbefore
  | cons hfirst _ ih =>
      apply ih
      cases hfirst with
      | created => rfl
      | appended => rfl
      | kept => exact hbefore

theorem Effect.eq_none (h : Effect name entry none after) (hno : entry.creation? name = none) :
    after = none ∧ entry.insertion? name = none := by
  cases h with
  | created hcreation => simp [hno] at hcreation
  | kept _ hinsertion => exact ⟨rfl, hinsertion⟩

/-- Without a creation nothing is inserted into a missing table, and it stays missing. -/
theorem Effects.eq_none (h : Effects name history none after)
    (hno : ∀ entry ∈ history, entry.creation? name = none) :
    after = none ∧ insertions name history = [] := by
  induction history with
  | nil =>
      cases h
      exact ⟨rfl, rfl⟩
  | cons entry history ih =>
      obtain ⟨hentry, hhistory⟩ := List.forall_mem_cons.mp hno
      obtain _ | ⟨hfirst, hrest⟩ := h
      obtain ⟨rfl, hinsertion⟩ := hfirst.eq_none hentry
      rw [insertions, List.filterMap_cons, hinsertion]
      exact ih hrest hhistory

/-- Without a creation the columns stay, and each insertion appends its row. -/
theorem Effects.exists_rows (h : Effects name history (some table) after)
    (hno : ∀ entry ∈ history, entry.creation? name = none) :
    ∃ rows, after = some { table with rows := table.rows ++ rows } ∧
      List.Forall₂ (fun insertion row => insertion.Stores table.columns row)
        (insertions name history) rows := by
  induction history generalizing table with
  | nil =>
      cases h
      exact ⟨[], by rw [List.append_nil], .nil⟩
  | cons entry history ih =>
      obtain ⟨hentry, hhistory⟩ := List.forall_mem_cons.mp hno
      obtain _ | ⟨hfirst, hrest⟩ := h
      cases hfirst with
      | created hcreation => simp [hentry] at hcreation
      | @appended _ insertion row _ hinsertion hrow =>
          obtain ⟨rows, rfl, hrows⟩ := ih hrest hhistory
          refine ⟨row :: rows, by rw [List.append_assoc]; rfl, ?_⟩
          rw [insertions, List.filterMap_cons, hinsertion]
          exact .cons hrow hrows
      | kept _ hinsertion =>
          rw [insertions, List.filterMap_cons, hinsertion]
          exact ih hrest hhistory

/-- **A table is there when its name was created.** -/
theorem Effects.isSome_iff (h : Effects name history none after) :
    after.isSome ↔ ∃ entry ∈ history, (entry.creation? name).isSome := by
  constructor
  · intro hafter
    by_contra hno
    push Not at hno
    have hnone : ∀ entry ∈ history, entry.creation? name = none := by simpa using hno
    rw [(h.eq_none hnone).1] at hafter
    cases hafter
  · rintro ⟨entry, hentry, hcreation⟩
    obtain ⟨front, back, rfl⟩ := List.append_of_mem hentry
    obtain ⟨middle, _, hback⟩ := h.of_append
    obtain _ | ⟨hfirst, hrest⟩ := hback
    apply hrest.isSome
    cases hfirst with
    | created => rfl
    | appended hnone => simp [hnone] at hcreation
    | kept hnone => simp [hnone] at hcreation

/-- **What a table holds comes from its last creation and the insertions after that.** -/
theorem Effects.exists_table {creation : CreateTable}
    (h : Effects name (front ++ entry :: back) before after)
    (hcreation : entry.creation? name = some creation)
    (hlast : ∀ later ∈ back, later.creation? name = none) :
    ∃ table, after = some table ∧ creation.Declares table.columns ∧
      List.Forall₂ (fun insertion row => insertion.Stores table.columns row)
        (insertions name back) table.rows := by
  obtain ⟨middle, _, hback⟩ := h.of_append
  obtain _ | ⟨hfirst, hrest⟩ := hback
  cases hfirst with
  | created hown hcolumns =>
      cases hcreation.symm.trans hown
      obtain ⟨rows, rfl, hrows⟩ := hrest.exists_rows hlast
      exact ⟨_, rfl, hcolumns, hrows⟩
  | appended hnone => simp [hnone] at hcreation
  | kept hnone => simp [hnone] at hcreation

end Store
end PocketSql
