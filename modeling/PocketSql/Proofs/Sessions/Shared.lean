import PocketSql.Shared
import PocketSql.Proofs.Sessions.Interleaving
import Mathlib.Data.Fin.VecNotation
/-!
# Sessions on a shared store

A lock that is not poisoned adds nothing: an operation under it is the operation on the engine
inside, and sessions on a shared engine are the sessions on the engine itself, turn by turn
(`run_shared`). So a run of sessions on a shared store is a run of one plain store, and what a table
holds after it can be read off the trace like off any history. No row is lost and none is there
twice, however the turns are taken.
-/

namespace PocketSql

namespace Shared

variable {σ : Type} [Engine σ]

theorem execute_shared (state : σ) (statement : Statement) :
    Engine.execute ({ inner := state } : Shared σ) statement =
      { answer := (Engine.execute state statement).answer
        state := { inner := (Engine.execute state statement).state }
        events := (Engine.execute state statement).events } := by
  cases statement <;> rfl

theorem executeEach_shared (state : σ) (script : Script) :
    Engine.executeEach ({ inner := state } : Shared σ) script =
      ((Engine.executeEach state script).1, { inner := (Engine.executeEach state script).2 }) := by
  induction script generalizing state with
  | nil => rfl
  | cons statement script ih =>
      rw [Engine.executeEach_cons, execute_shared, ih, Engine.executeEach_cons]

theorem executeAll_shared (state : σ) (script : Script) :
    Engine.executeAll ({ inner := state } : Shared σ) script =
      { answer := (Engine.executeAll state script).answer
        state := { inner := (Engine.executeAll state script).state }
        events := (Engine.executeAll state script).events } := by
  induction script generalizing state with
  | nil => rfl
  | cons statement script ih =>
      rw [Engine.executeAll, Engine.executeAll, execute_shared]
      cases (Engine.execute state statement).answer with
      | error error => rfl
      | ok answer => simp only [ih]

/-- A script that runs within one task comes to what it comes to when each of its statements takes
the lock anew. -/
theorem hold_executeEach (state : σ) (script : Script) :
    hold (fun inner => (Engine.executeEach inner script).map some id) { inner := state } =
      (Engine.executeEach ({ inner := state } : Shared σ) script).map (.ok ∘ some) id := by
  rw [executeEach_shared]
  rfl

theorem hold_executeAll (state : σ) (script : Script) :
    let task (inner : σ) :=
      (some (Engine.executeAll inner script).answer, (Engine.executeAll inner script).state)
    let outcome := Engine.executeAll ({ inner := state } : Shared σ) script
    hold task { inner := state } = (.ok (some outcome.answer), outcome.state) := by
  intro task outcome
  simp only [outcome, executeAll_shared]
  rfl

end Shared

namespace Sessions

variable {ι σ : Type} [DecidableEq ι] [Engine σ]

/-- The same sessions, on an engine behind a lock. -/
def shared (sessions : Sessions ι σ) : Sessions ι (Shared σ) :=
  { state := { inner := sessions.state }, progress := sessions.progress, trace := sessions.trace }

theorem advance_shared (sessions : Sessions ι σ) (i : ι) (answers : List Answer)
    (statement : Statement) (rest : Script) :
    sessions.shared.advance i answers statement rest =
      (sessions.advance i answers statement rest).shared := by
  rw [advance, shared, Shared.execute_shared]
  rfl

theorem turn_shared (sessions : Sessions ι σ) (i : ι) :
    sessions.shared.turn i = (sessions.turn i).shared := by
  have hprogress : sessions.shared.progress i = sessions.progress i := rfl
  rw [turn, turn, hprogress]
  cases (sessions.progress i).answers with
  | error error => rfl
  | ok answers =>
      cases (sessions.progress i).rest with
      | nil => rfl
      | cons statement rest => exact advance_shared _ _ _ _ _

/-- **The lock makes no difference to a run.** -/
theorem run_shared (sessions : Sessions ι σ) (turns : List ι) :
    sessions.shared.run turns = (sessions.run turns).shared := by
  induction turns generalizing sessions with
  | nil => rfl
  | cons i turns ih => rw [run_cons, run_cons, turn_shared, ih]

end Sessions

namespace Shared

variable {ι : Type} [DecidableEq ι]

/-- **No update is lost and none is there twice.** Sessions take turns on a shared store whose lock
can be taken. Their answers and the store at the end are those of one plain store that carries out
the trace, and each session has run the front of its script. If no table of some name was made in
the meantime, the rows of that table are those at the beginning and then one row for each insertion
that succeeded, and the rows from each session are in the order of its script. A script that runs
within one task on the store, past failures or up to the first, comes to the same as when its
statements take the lock one by one. -/
theorem rows_of_run (store : Store) (scripts : ι → Script) (turns : List ι) :
    let shared : Shared Store := { inner := store, poisoned := false }
    let last := (Sessions.start shared scripts).run turns
    (Engine.executeEach store (last.entries.map (·.statement)) =
        (last.entries.map (·.answer), last.state.inner) ∧ last.state.poisoned = false) ∧
    (∀ i, (own i last.trace).map (·.statement) ++ (last.progress i).rest = scripts i ∧
      (last.progress i).answers = (own i last.trace).mapM (·.answer)) ∧
    (∀ name, (∀ entry ∈ last.entries, entry.creation? name = none) →
      (store.table? name = none →
        last.state.inner.table? name = none ∧ insertions name last.entries = []) ∧
      ∀ table, store.table? name = some table → ∃ rows : List (ι × Row),
        last.state.inner.table? name =
          some { table with rows := table.rows ++ rows.map (·.2) } ∧
        List.Forall₂ (fun insertion row => insertion.Stores table.columns row)
          (insertions name last.entries) (rows.map (·.2)) ∧
        ∀ i, List.Forall₂ (fun insertion row => insertion.Stores table.columns row)
          (insertions name (own i last.trace)) (own i rows)) ∧
    (∀ script, hold (fun inner => (Engine.executeEach inner script).map some id) shared =
      (Engine.executeEach shared script).map (.ok ∘ some) id) ∧
    ∀ script,
      let task (inner : Store) :=
        (some (Engine.executeAll inner script).answer, (Engine.executeAll inner script).state)
      let outcome := Engine.executeAll shared script
      hold task shared = (.ok (some outcome.answer), outcome.state) := by
  intro shared last
  let plain := (Sessions.start store scripts).run turns
  have hlast : last = plain.shared := Sessions.run_shared (Sessions.start store scripts) turns
  rw [hlast]
  refine ⟨⟨Sessions.executeEach_run store scripts turns, rfl⟩,
    Sessions.own_run store scripts turns, ?_, hold_executeEach store, hold_executeAll store⟩
  intro name hno
  have heffects : Store.Effects name plain.entries (store.table? name)
      (plain.state.table? name) := Sessions.effects_run store scripts turns name
  constructor
  · intro hmissing
    rw [hmissing] at heffects
    exact heffects.eq_none hno
  · intro table htable
    rw [htable] at heffects
    obtain ⟨rows, hrows, hstores⟩ := heffects.exists_rows hno
    obtain ⟨tagged, rfl, hown⟩ := exists_tagged hstores
    exact ⟨tagged, hrows, hstores, hown⟩

/-- Two sessions that insert into one table, one of which stops before its last statement. -/
theorem rows_of_run_two_writers :
    let t : Token := { value := "t", kind := .identifier }
    let word : Insert := ⟨t, [.literal { value := "x", kind := .string }]⟩
    let seven : Insert := ⟨t, [.literal { value := "7", kind := .numeric }]⟩
    let nine : Insert := ⟨t, [.literal { value := "9", kind := .numeric }]⟩
    let store := (Engine.executeEach Store.empty
      [.createTable ⟨t, [⟨t, Keyword.int.token⟩]⟩, .insert nine]).2
    let scripts : Fin 2 → Script :=
      ![[.insert seven, .insert word, .insert seven], [.insert nine, .insert seven]]
    let last := (Sessions.start ({ inner := store, poisoned := false } : Shared Store) scripts).run
      [1, 0, 0, 1, 0]
    ∃ (table : Table) (rows : List (Fin 2 × Row)), store.table? "t" = some table ∧
      last.state.inner.table? "t" = some { table with rows := table.rows ++ rows.map (·.2) } ∧
      List.Forall₂ (fun insertion row => insertion.Stores table.columns row)
        [seven] (own 0 rows) ∧
      List.Forall₂ (fun insertion row => insertion.Stores table.columns row)
        [nine, seven] (own 1 rows) := by
  intro t word seven nine store scripts last
  have hno : ∀ entry ∈ last.entries, entry.creation? "t" = none := by decide +kernel
  have hfirst : insertions "t" (own 0 last.trace) = [seven] := by decide +kernel
  have hsecond : insertions "t" (own 1 last.trace) = [nine, seven] := by decide +kernel
  have htable : (store.table? "t").isSome := by decide +kernel
  obtain ⟨table, htable⟩ := Option.isSome_iff_exists.mp htable
  have hrun := (rows_of_run store scripts [1, 0, 0, 1, 0]).2.2.1
  obtain ⟨rows, hrows, _, hown⟩ := (hrun "t" hno).2 table htable
  refine ⟨table, rows, htable, hrows, ?_, ?_⟩
  · rw [← hfirst]
    exact hown 0
  · rw [← hsecond]
    exact hown 1

end Shared
end PocketSql
