import PocketSql.Proofs.Store.Frame
import PocketSql.Proofs.Table
import PocketSql.Session
/-!
# Selections without a table

A selection that names no table reads the table with the empty name, and a quoted name can be empty.
So such a selection is refused for as long as no table of that name was made, and from then on it
reads one. It changes nothing, and tables with other names make no difference to it.
-/

namespace PocketSql.Store

theorem table?_eq_none_iff (script : Script) (name : String) :
    (Engine.executeEach empty script).2.table? name = none ↔
      ∀ entry ∈ Engine.history empty script, entry.creation? name = none := by
  have heffects := effects_of_executeEach empty script name
  rw [table?_empty] at heffects
  have hsome := heffects.isSome_iff
  rw [← not_iff_not] at hsome
  simpa using hsome

/-- A selection is refused for the name of its table if and only if there is no such table. -/
theorem select_eq_tableDoesNotExist_iff (store : Store) (query : Select) :
    select query store = .error (.tableDoesNotExist ((query.table.map (·.value)).getD "")) ↔
      store.table? ((query.table.map (·.value)).getD "") = none := by
  refine ⟨fun h => ?_, select_of_no_table⟩
  cases htable : store.table? ((query.table.map (·.value)).getD "") with
  | none => rfl
  | some table =>
      rw [select_of_table htable] at h
      obtain ⟨_, herror⟩ | ⟨_, herror⟩ := Table.select_eq_error h
      · cases herror
      · cases herror

/-- **A selection without a table reads the table with the empty name.** It leaves the store as it
was. It is refused if and only if no creation of a table of that name has succeeded, and what it
comes to depends on that table alone. -/
theorem select_without_table (script : Script) (items : List Expression) :
    let store := (Engine.executeEach empty script).2
    let outcome := Engine.execute store (.select { items, table := none })
    outcome.state = store ∧
      (outcome.answer = .error (.tableDoesNotExist "") ↔
        ∀ entry ∈ Engine.history empty script, entry.creation? "" = none) ∧
      ∀ other : Store, other.table? "" = store.table? "" →
        (Engine.execute other (.select { items, table := none })).answer = outcome.answer := by
  intro store outcome
  have hanswer : outcome.answer = (select { items, table := none } store).map .selected := rfl
  refine ⟨rfl, ?_, fun other hother => ?_⟩
  · rw [hanswer, map_eq_error_iff, ← table?_eq_none_iff]
    exact select_eq_tableDoesNotExist_iff store { items, table := none }
  · exact congrArg (Except.map Answer.selected) (select_congr hother)

/-- The empty name in quotes makes a table, and a selection without a table gives its row. -/
theorem select_without_table_reads_row :
    let making := "CREATE TABLE \"\" (a INT); INSERT INTO \"\" VALUES (7);"
    let store := (Session.execute making empty).state
    let outcome := Session.execute "SELECT a;" store
    outcome.answer ≠ .error (.tableDoesNotExist "") ∧
      outcome.answer =
        .ok [.selected { columns := [⟨"a", .int⟩], rows := [[.ofInt 7]] }] := by
  intro making store outcome
  have hanswer : outcome.answer =
      .ok [.selected { columns := [⟨"a", .int⟩], rows := [[.ofInt 7]] }] := by
    decide +kernel
  refine ⟨fun hrefused => ?_, hanswer⟩
  cases hanswer.symm.trans hrefused

end PocketSql.Store
