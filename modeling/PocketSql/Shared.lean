import PocketSql.Engine
/-!
# Shared engines

An engine behind one lock, which every operation holds from its beginning to its end. All handles
on the engine are the same state, so it does not matter through which of them an operation comes.

A task that is given the engine can break off while it holds the lock. The engine is left as the task
left it and the lock is poisoned: from then on it cannot be taken, and the engine does not change.
-/

namespace PocketSql

structure Shared (σ : Type) where
  inner : σ
  poisoned : Bool := false
  deriving DecidableEq, Repr

namespace Shared

variable {σ α : Type}

/-- The error of every operation on a poisoned lock. -/
def poisonedLock : Error :=
  .internal "poisoned lock: another task failed inside"

/-- Gives the engine to a task. The task has no answer when it broke off. -/
def hold (task : σ → Option α × σ) (shared : Shared σ) : Except Error (Option α) × Shared σ :=
  if shared.poisoned then (.error poisonedLock, shared)
  else
    let (answer, inner) := task shared.inner
    (.ok answer, { inner, poisoned := answer.isNone })

/-- Carries out an operation of the engine under the lock. -/
def locked (operation : σ → Outcome σ α) (shared : Shared σ) : Outcome (Shared σ) α :=
  if shared.poisoned then .fail shared poisonedLock
  else
    let outcome := operation shared.inner
    { answer := outcome.answer
      state := { shared with inner := outcome.state }
      events := outcome.events }

instance [Engine σ] : Engine (Shared σ) where
  createTable creation := locked (Engine.createTable creation)
  insert insertion := locked (Engine.insert insertion)
  select query shared :=
    if shared.poisoned then .error poisonedLock else Engine.select query shared.inner

end Shared
end PocketSql
