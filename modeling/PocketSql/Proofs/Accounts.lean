import PocketSql.Proofs.Store.Records
import PocketSql.Proofs.Store.Typed
import PocketSql.Proofs.Texts
/-!
# The records of a session account for its store

A session writes records of reading texts and of changing the store. Those of the store are the
records of its steps and nothing else, so they tell what became of every table. What a session reads
is recorded too, and of a text that is refused as a script there is one record of the token that
does not fit.
-/

namespace PocketSql

/-- The lines that are written of the records. -/
def Session.Run.lines {σ : Type} (run : Session.Run σ) : List (Level × String) :=
  run.events.map Event.written

/-- What a step does to the table of a name, and the records that it leaves. -/
structure Leaves (name : String) (step : Step) (before after : Option Table) : Prop where
  effect : Store.Effect name step.toEntry before after
  events : ∃ replaces, step.events = step.toEntry.events replaces ∧
    (step.statement.tableName = name → replaces = before.isSome)

variable {store : Store} {statement : Statement} {script : Script} {text name : String}
  {texts : List String} {step : Step} {front back : List Step} {event : Event}
  {before after : Option Table}

/-! ### The records of the steps -/

namespace Leaves

theorem tells (h : Leaves name step before after) :
    Path (Tells name) step.events before after := by
  obtain ⟨replaces, hevents, hreplaces⟩ := h.events
  rw [hevents]
  exact h.effect.tells hreplaces

theorem isSome_iff (h : Leaves name step before after) :
    after.isSome ↔ before.isSome ∨ (step.creation? name).isSome := by
  cases h.effect with
  | created hcreation => simp [hcreation]
  | appended => simp
  | kept hcreation => simp [hcreation]

theorem events_of_creation? {creation : CreateTable} (h : Leaves name step before after)
    (hcreation : step.creation? name = some creation) :
    step.events = [if before.isSome then .tableReplaced name else .tableCreated name] := by
  obtain ⟨replaces, hevents, hreplaces⟩ := h.events
  rw [hevents, Entry.events_of_creation? hcreation,
    hreplaces (Entry.tableName_of_creation? hcreation)]

theorem events_of_error {error : Error} (h : Leaves name step before after)
    (herror : step.answer = .error error) : step.events = [] := by
  obtain ⟨replaces, hevents, _⟩ := h.events
  rw [hevents, Entry.events_of_error herror]

theorem isSome_table? (h : Leaves name step before after) (hevent : event ∈ step.events) :
    event.table?.isSome := by
  obtain ⟨replaces, hevents, _⟩ := h.events
  rw [hevents] at hevent
  exact Entry.isSome_table?_of_mem_events hevent

end Leaves

namespace Store

theorem leaves_of_leads {a b : Store} (h : Leads step a b) (name : String) :
    Leaves name step (a.table? name) (b.table? name) := by
  cases h with
  | @step statement =>
      refine ⟨effect_of_execute a statement name, _, events_of_execute a statement, fun hname => ?_⟩
      rw [← hname]
      rfl

theorem path_leaves (store : Store) (texts : List String) (name : String) :
    Path (Leaves name) (Session.steps store texts) (store.table? name)
      ((Session.run store texts).state.table? name) :=
  (Session.path_steps store texts).map (·.table? name) fun h => leaves_of_leads h name

/-- The records of running statements are all of changes. -/
theorem isSome_table?_of_mem_executeAll (hscript : script.WellFormed) (store : Store)
    (hevent : event ∈ (Engine.executeAll store script).events) : event.table?.isSome := by
  rw [Engine.events_executeAll] at hevent
  obtain ⟨step, hstep, hevent⟩ := List.mem_flatMap.mp hevent
  obtain ⟨a, b, hleads⟩ := (Engine.path_steps hscript store).forall_mem step hstep
  exact (leaves_of_leads hleads "").isSome_table? hevent

theorem execute_ne_parse (store : Store) (statement : Statement) (location : Location)
    (token message : String) :
    (Engine.execute store statement).answer ≠ .error (.parse location token message) := by
  intro hanswer
  cases statement with
  | select query =>
      rw [execute_select] at hanswer
      have hselect := map_eq_error_iff.mp hanswer
      cases htable : store.table? ((query.table.map (·.value)).getD "") with
      | none =>
          rw [select_of_no_table htable] at hselect
          cases hselect
      | some table =>
          rw [select_of_table htable] at hselect
          obtain ⟨_, h⟩ | ⟨_, h⟩ := Table.select_eq_error hselect
          · cases h
          · cases h
  | insert insertion =>
      rw [execute_insert] at hanswer
      have hinsert := map_eq_error_iff.mp hanswer
      obtain ⟨_, h⟩ | ⟨_, _, h⟩ | ⟨_, h⟩ := insert_eq_error hinsert
      · cases h
      · cases h
      · cases h
  | createTable creation =>
      rw [execute_createTable] at hanswer
      have hcreate := map_eq_error_iff.mp hanswer
      cases hcolumns : creation.columns.mapM Column.ofDefinition with
      | error error =>
          rw [createTable_of_error hcolumns] at hcreate
          obtain rfl := Except.error.inj hcreate
          obtain ⟨definition, _, hcolumn⟩ := exists_of_mapM_eq_error hcolumns
          rw [Column.ofDefinition] at hcolumn
          split at hcolumn
          · cases hcolumn
          · cases hcolumn
      | ok columns =>
          rw [createTable_of_ok hcolumns] at hcreate
          cases hcreate

end Store

/-! ### The records of a text -/

/-- The record of the token that does not fit, if that is what an answer says. -/
def refusals {α : Type} : Except Error α → List Event
  | .error (.parse location token message) => [.refused location token message]
  | _ => []

theorem forall_mem_refusals {α : Type} (answer : Except Error α) :
    ∀ event ∈ refusals answer, event.ofStore = false ∧ event.ofRefusal = true := by
  cases answer with
  | ok value => exact List.forall_mem_nil _
  | error error => cases error <;> simp [refusals, Event.ofStore, Event.ofRefusal]

theorem refusals_of_ne_parse {α : Type} {answer : Except Error α}
    (h : ∀ location token message, answer ≠ .error (.parse location token message)) :
    refusals answer = [] := by
  cases answer with
  | ok value => rfl
  | error error =>
      cases error with
      | parse location token message => exact absurd rfl (h location token message)
      | _ => rfl

theorem Event.forall_mem_ofItem (item : Except LexFailure Token) :
    ∀ event ∈ ofItem item, event.ofStore = false ∧ event.ofRefusal = false := by
  intro event hevent
  cases item with
  | ok found =>
      rw [List.mem_singleton.mp hevent]
      exact ⟨rfl, rfl⟩
  | error failure =>
      obtain ⟨remark, _, rfl⟩ := List.mem_map.mp hevent
      cases remark <;> exact ⟨rfl, rfl⟩

namespace Session

theorem readingEvents_eq (text : String) :
    readingEvents text =
      (Lexer.ofText Scanner.all text).items.flatMap Event.ofItem ++ refusals (parse text) := by
  rw [readingEvents]
  cases parse text with
  | ok script => rfl
  | error error => cases error <;> rfl

theorem filter_ofStore_readingEvents (text : String) :
    (readingEvents text).filter Event.ofStore = [] := by
  refine List.filter_eq_nil_iff.mpr fun event hevent => ?_
  rw [readingEvents_eq] at hevent
  rcases List.mem_append.mp hevent with hevent | hevent
  · obtain ⟨item, _, hevent⟩ := List.mem_flatMap.mp hevent
    simp [(Event.forall_mem_ofItem item event hevent).1]
  · simp [(forall_mem_refusals _ event hevent).1]

theorem filter_ofRefusal_readingEvents (text : String) :
    (readingEvents text).filter Event.ofRefusal = refusals (parse text) := by
  have hitems : ((Lexer.ofText Scanner.all text).items.flatMap Event.ofItem).filter
      Event.ofRefusal = [] := by
    refine List.filter_eq_nil_iff.mpr fun event hevent => ?_
    obtain ⟨item, _, hevent⟩ := List.mem_flatMap.mp hevent
    simp [(Event.forall_mem_ofItem item event hevent).2]
  have hrefusals : (refusals (parse text)).filter Event.ofRefusal = refusals (parse text) :=
    List.filter_eq_self.mpr fun event hevent => (forall_mem_refusals _ event hevent).2
  rw [readingEvents_eq, List.filter_append, hitems, hrefusals, List.nil_append]

theorem events_execute_of_parse (h : parse text = .ok script) (store : Store) :
    (execute text store).events = readingEvents text ++
      .executing script.length :: (Engine.executeAll store script).events := by
  rw [execute, h]

theorem events_execute_of_parse_error {error : Error} (h : parse text = .error error)
    (store : Store) : (execute text store).events = readingEvents text := by
  rw [execute, h]

/-- The records of the store that a text leaves are those of running its statements. -/
theorem filter_ofStore_execute (text : String) (store : Store) :
    (execute text store).events.filter Event.ofStore =
      (Engine.executeAll store (Session.script text)).events := by
  cases h : parse text with
  | error error =>
      rw [events_execute_of_parse_error h, script_of_parse_error h, filter_ofStore_readingEvents]
      rfl
  | ok script =>
      have hscript := wellFormed_of_parse h
      have hchanges := List.filter_eq_self.mpr fun event hevent =>
        Event.ofStore_of_table? (Store.isSome_table?_of_mem_executeAll hscript store hevent)
      rw [events_execute_of_parse h, script_of_parse h, List.filter_append,
        filter_ofStore_readingEvents, List.filter_cons_of_neg (by simp [Event.ofStore]), hchanges]
      rfl

/-- Running statements never answers that a token does not fit, and it does not record that. -/
theorem filter_ofRefusal_execute (text : String) (store : Store) :
    (execute text store).events.filter Event.ofRefusal = refusals (execute text store).answer := by
  cases h : parse text with
  | error error =>
      rw [events_execute_of_parse_error h, filter_ofRefusal_readingEvents,
        (execute_of_parse_error h store).1, h]
      cases error <;> rfl
  | ok script =>
      have hchanges : (Engine.executeAll store script).events.filter Event.ofRefusal = [] := by
        refine List.filter_eq_nil_iff.mpr fun event hevent => ?_
        have htable := Store.isSome_table?_of_mem_executeAll (wellFormed_of_parse h) store hevent
        cases event <;> simp_all [Event.table?, Event.ofRefusal]
      rw [events_execute_of_parse h, List.filter_append, filter_ofRefusal_readingEvents, h,
        List.filter_cons_of_neg (by simp [Event.ofRefusal]), hchanges, (execute_of_parse h store).1]
      refine (refusals_of_ne_parse fun location token message hanswer => ?_).symm
      obtain ⟨answers, hanswers, _⟩ |
        ⟨_, failing, _, _, middle, error, _, _, hfails, herror, _, _⟩ :=
          Engine.executeAll_cases store script
      · cases hanswers.symm.trans hanswer
      · obtain rfl := Except.error.inj (herror.symm.trans hanswer)
        exact Store.execute_ne_parse middle failing location token message hfails

/-- The records of the store that a session leaves are those of its steps. -/
theorem filter_ofStore_run (store : Store) (texts : List String) :
    (run store texts).events.filter Event.ofStore = (steps store texts).flatMap (·.events) := by
  induction texts generalizing store with
  | nil => rfl
  | cons text texts ih =>
      rw [run, List.filter_append, filter_ofStore_execute, ih, steps, List.flatMap_append,
        Engine.events_executeAll]

end Session

/-! ### The account -/

namespace Store

theorem tells_of_run (texts : List String) (name : String) :
    Path (Tells name) (Session.run empty texts).events none
      ((Session.run empty texts).state.table? name) := by
  have hpath := path_leaves empty texts name
  rw [table?_empty] at hpath
  have htells := hpath.flatMap (f := (·.events)) fun h => h.tells
  rw [← Session.filter_ofStore_run] at htells
  refine htells.of_filter fun event table hother => .nothing fun htable => ?_
  rw [Event.ofStore_of_table? (by rw [htable]; rfl)] at hother
  cases hother

end Store

/-- How the lines that a session wrote, and the steps that it took, account for the table of a name
in a store that was empty at the beginning. -/
structure Accounts (run : Session.Run Store) (steps : List Step) (name : String) : Prop where
  /-- There is a table if it is written that it was created. -/
  exists_iff : (run.state.table? name).isSome ↔ (Event.tableCreated name).written ∈ run.lines
  created_once : run.lines.count (Event.tableCreated name).written ≤ 1
  /-- A creation that succeeds is recorded once, and as a replacement if it is not the first. -/
  creation : ∀ front step back, steps = front ++ step :: back → (step.creation? name).isSome →
    step.events = [if front.any fun earlier => (earlier.creation? name).isSome
      then .tableReplaced name else .tableCreated name]
  /-- The rows are those that were recorded since the table was last created or replaced. -/
  rows : ∀ front line back, run.lines = front ++ line :: back →
    line = (Event.tableCreated name).written ∨ line = (Event.tableReplaced name).written →
    (Event.tableCreated name).written ∉ back → (Event.tableReplaced name).written ∉ back →
    ∃ table, run.state.table? name = some table ∧
      table.rows.length = back.count (Event.rowAppended name).written
  /-- The lines of the store are the records of the steps, in their order. -/
  events : run.events.filter (·.isFrom "MemoryBackend") = steps.flatMap (·.events)
  /-- A step that fails leaves no records. -/
  failed : ∀ step ∈ steps, ∀ error, step.answer = .error error → step.events = []
  not_skipped : ∀ column, (Event.valueSkipped column).written ∉ run.lines

namespace Session

/-- The first creation that succeeds makes the table, and each later one replaces it. -/
theorem events_of_creation (h : Path (Leaves name) (front ++ step :: back) none after)
    (hcreation : (step.creation? name).isSome) :
    step.events = [if front.any fun earlier => (earlier.creation? name).isSome
      then .tableReplaced name else .tableCreated name] := by
  obtain ⟨creation, hcreation⟩ := Option.isSome_iff_exists.mp hcreation
  obtain ⟨middle, hfront, hback⟩ := h.of_append
  obtain _ | ⟨hstep, _⟩ := hback
  have hearlier := hfront.iff_exists fun h => h.isSome_iff
  rw [hstep.events_of_creation? hcreation]
  have hmiddle : middle.isSome = front.any fun earlier => (earlier.creation? name).isSome := by
    rw [Bool.eq_iff_iff, hearlier, List.any_eq_true]
    simp
  rw [hmiddle]

/-- A table has as many rows as are written since it was last made. -/
theorem exists_table_of_lines {events : List Event} {front back : List (Level × String)}
    {line : Level × String} (h : Path (Tells name) events before after)
    (hlines : events.map Event.written = front ++ line :: back)
    (hline : line = (Event.tableCreated name).written ∨ line = (Event.tableReplaced name).written)
    (hcreated : (Event.tableCreated name).written ∉ back)
    (hreplaced : (Event.tableReplaced name).written ∉ back) :
    ∃ table, after = some table ∧
      table.rows.length = back.count (Event.rowAppended name).written := by
  obtain ⟨earlier, rest, rfl, rfl, hrest⟩ := List.map_eq_append_iff.mp hlines
  obtain ⟨event, later, rfl, rfl, rfl⟩ := List.map_eq_cons_iff.mp hrest
  rw [Event.mem_written_iff rfl] at hcreated hreplaced
  rw [Event.count_written rfl]
  refine Tells.exists_table h ?_ hcreated hreplaced
  exact hline.imp (Event.eq_of_written rfl) (Event.eq_of_written rfl)

/-- A table is made anew with no rows. The insertion of a text into it is refused. -/
example :
    let run := run Store.empty ["CREATE TABLE t (a INT); INSERT INTO t VALUES (7);",
      "CREATE TABLE t (a INT); INSERT INTO t VALUES ('x');"]
    run.events.filter Event.ofStore =
        [.tableCreated "t", .rowAppended "t", .tableReplaced "t"] ∧
      run.state.table? "t" = some { columns := [⟨"a", .int⟩] } := by
  decide +kernel

end Session
end PocketSql
