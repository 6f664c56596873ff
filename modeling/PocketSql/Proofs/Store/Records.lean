import PocketSql.Proofs.Log
import PocketSql.Proofs.Store.Frame
/-!
# What the records of a store tell

A statement that fails leaves no record, and one that changes the store leaves one. So the records
tell what became of the table of a name (`Tells`): it was made where there was none, made anew where
there was one, or has one more row. Every other record tells nothing of it. Whatever else a
history says, the table is there if the record of its making is, and it has as many rows as there
are records of rows since it was last made.
-/

namespace PocketSql

/-- The records of an entry. The table of a creation is replaced if there was one of its name. -/
def Entry.events (replaces : Bool) : Entry → List Event
  | ⟨.createTable creation, .ok _⟩ =>
      [if replaces then .tableReplaced creation.table.value else .tableCreated creation.table.value]
  | ⟨.insert insertion, .ok _⟩ => [.rowAppended insertion.table.value]
  | _ => []

/-- The name of the table that a record of a change is about. -/
def Event.table? : Event → Option String
  | .tableCreated table | .tableReplaced table | .rowAppended table => some table
  | _ => none

/-- What a record tells of the table of a name. -/
inductive Tells (name : String) : Event → Option Table → Option Table → Prop where
  | created {columns : List Column} : Tells name (.tableCreated name) none (some { columns })
  | replaced {table : Table} {columns : List Column} :
      Tells name (.tableReplaced name) (some table) (some { columns })
  | appended {table : Table} {row : Row} :
      Tells name (.rowAppended name) (some table) (some { table with rows := table.rows ++ [row] })
  | nothing {event : Event} {table : Option Table} (h : event.table? ≠ some name) :
      Tells name event table table

variable {name : String} {entry : Entry} {replaces : Bool} {event : Event} {events : List Event}
  {table : Table} {before after : Option Table}

/-! ### The records of an entry -/

namespace Entry

theorem events_of_error {error : Error} (h : entry.answer = .error error) :
    entry.events replaces = [] := by
  obtain ⟨statement, answer⟩ := entry
  subst h
  cases statement <;> rfl

theorem events_of_creation? {creation : CreateTable} (h : entry.creation? name = some creation) :
    entry.events replaces = [if replaces then .tableReplaced name else .tableCreated name] := by
  obtain ⟨_, rfl, rfl⟩ := exists_of_creation? h
  rfl

theorem events_of_insertion? {insertion : Insert} (h : entry.insertion? name = some insertion) :
    entry.events replaces = [.rowAppended name] := by
  obtain ⟨_, rfl, rfl⟩ := exists_of_insertion? h
  rfl

theorem table?_of_mem_events (hcreation : entry.creation? name = none)
    (hinsertion : entry.insertion? name = none) (hevent : event ∈ entry.events replaces) :
    event.table? ≠ some name := by
  unfold events at hevent
  split at hevent
  · rw [creation?] at hcreation
    split at hcreation
    · cases hcreation
    · next hname =>
        rw [List.mem_singleton.mp hevent]
        cases replaces <;> simpa [Event.table?] using hname
  · rw [insertion?] at hinsertion
    split at hinsertion
    · cases hinsertion
    · next hname =>
        rw [List.mem_singleton.mp hevent]
        simpa [Event.table?] using hname
  · cases hevent

/-- The records of an entry are of changes. -/
theorem isSome_table?_of_mem_events (hevent : event ∈ entry.events replaces) :
    event.table?.isSome := by
  unfold events at hevent
  split at hevent
  · rw [List.mem_singleton.mp hevent]
    cases replaces <;> rfl
  · rw [List.mem_singleton.mp hevent]
    rfl
  · cases hevent

end Entry

theorem Event.ofStore_of_table? (h : event.table?.isSome) : event.ofStore = true := by
  cases event <;> first | rfl | cases h

namespace Store

/-- A statement leaves the records of its entry. -/
theorem events_of_execute (store : Store) (statement : Statement) :
    (Engine.execute store statement).events =
      Entry.events (store.table? statement.tableName).isSome
        ⟨statement, (Engine.execute store statement).answer⟩ := by
  cases statement with
  | select query => rfl
  | insert insertion =>
      rw [execute_insert]
      obtain ⟨error, hfail⟩ | ⟨_, _, _, _, _, hinsert⟩ := insert_cases store insertion
      · rw [hfail]
        rfl
      · rw [hinsert]
        rfl
  | createTable creation =>
      rw [execute_createTable]
      cases hcolumns : creation.columns.mapM Column.ofDefinition with
      | error error =>
          rw [createTable_of_error hcolumns]
          rfl
      | ok columns =>
          rw [createTable_of_ok hcolumns]
          rfl

/-! ### What records tell -/

/-- What an entry does to the table of a name is what its records tell of it. -/
theorem Effect.tells (h : Effect name entry before after)
    (hreplaces : entry.statement.tableName = name → replaces = before.isSome) :
    Path (Tells name) (entry.events replaces) before after := by
  cases h with
  | created hcreation =>
      rw [Entry.events_of_creation? hcreation,
        hreplaces (Entry.tableName_of_creation? hcreation)]
      cases before with
      | none => exact .single .created
      | some table => exact .single .replaced
  | appended _ hinsertion =>
      rw [Entry.events_of_insertion? hinsertion]
      exact .single .appended
  | kept hcreation hinsertion =>
      refine .of_forall fun event hevent => .nothing ?_
      exact Entry.table?_of_mem_events hcreation hinsertion hevent

end Store

namespace Tells

theorem isSome_iff (h : Tells name event before after) :
    after.isSome ↔ before.isSome ∨ event = .tableCreated name := by
  cases h with
  | created => simp
  | replaced => simp
  | appended => simp
  | nothing hother =>
      have hne : event ≠ .tableCreated name := fun h => hother (h ▸ rfl)
      simp [hne]

/-- The record that a table was made tells that there was none. -/
theorem not_mem_created (h : Path (Tells name) events before after) (hbefore : before.isSome) :
    .tableCreated name ∉ events := by
  induction h with
  | nil => simp
  | cons hfirst hrest ih =>
      refine List.not_mem_cons_of_ne_of_not_mem ?_ (ih (hfirst.isSome_iff.mpr (.inl hbefore)))
      rintro rfl
      cases hfirst with
      | created => cases hbefore
      | nothing hother => exact hother rfl

theorem count_created_le (h : Path (Tells name) events before after) :
    events.count (.tableCreated name) ≤ 1 := by
  induction h with
  | nil => simp
  | @cons event rest before middle after hfirst hrest ih =>
      by_cases hevent : event = .tableCreated name
      · have hmiddle := hfirst.isSome_iff.mpr (.inr hevent)
        have hrest := List.count_eq_zero.mpr (not_mem_created hrest hmiddle)
        rw [hevent, List.count_cons_self]
        omega
      · rwa [List.count_cons_of_ne hevent]

/-- Since a table was made there is a record for each of its new rows. -/
theorem exists_rows (h : Path (Tells name) events (some table) after)
    (hcreated : .tableCreated name ∉ events) (hreplaced : .tableReplaced name ∉ events) :
    ∃ rows, after = some { table with rows := table.rows ++ rows } ∧
      rows.length = events.count (.rowAppended name) := by
  induction events generalizing table with
  | nil =>
      cases h
      exact ⟨[], by rw [List.append_nil], rfl⟩
  | cons event events ih =>
      obtain _ | ⟨hfirst, hrest⟩ := h
      have hcreated' := List.not_mem_of_not_mem_cons hcreated
      have hreplaced' := List.not_mem_of_not_mem_cons hreplaced
      cases hfirst with
      | replaced => exact absurd List.mem_cons_self hreplaced
      | @appended _ row =>
          obtain ⟨rows, rfl, hlength⟩ := ih hrest hcreated' hreplaced'
          refine ⟨row :: rows, by rw [List.append_assoc]; rfl, ?_⟩
          rw [List.length_cons, hlength, List.count_cons_self]
      | nothing hother =>
          have hne : event ≠ .rowAppended name := fun h => hother (h ▸ rfl)
          rw [List.count_cons_of_ne hne]
          exact ih hrest hcreated' hreplaced'

/-- **A table has the rows that were recorded since it was last made.** -/
theorem exists_table {front back : List Event}
    (h : Path (Tells name) (front ++ event :: back) before after)
    (hevent : event = .tableCreated name ∨ event = .tableReplaced name)
    (hcreated : .tableCreated name ∉ back) (hreplaced : .tableReplaced name ∉ back) :
    ∃ table, after = some table ∧ table.rows.length = back.count (.rowAppended name) := by
  obtain ⟨middle, _, hback⟩ := h.of_append
  obtain _ | ⟨hfirst, hrest⟩ := hback
  cases hfirst with
  | created =>
      obtain ⟨rows, rfl, hlength⟩ := exists_rows hrest hcreated hreplaced
      exact ⟨_, rfl, hlength⟩
  | replaced =>
      obtain ⟨rows, rfl, hlength⟩ := exists_rows hrest hcreated hreplaced
      exact ⟨_, rfl, hlength⟩
  | appended => simp at hevent
  | nothing hother =>
      rcases hevent with rfl | rfl
      · exact absurd rfl hother
      · exact absurd rfl hother

end Tells
end PocketSql
