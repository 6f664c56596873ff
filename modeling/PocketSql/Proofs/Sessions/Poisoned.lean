import PocketSql.Proofs.Session
import PocketSql.Shared
import Mathlib.Logic.Relation
/-!
# Behind a poisoned lock

A task that breaks off while it holds the engine poisons the lock for good. Whatever is asked of the
engine afterwards, through whichever handle and however often, is refused with one and the same
error, and the engine stays as the broken task left it. A text is still read first. So a session
reports what is wrong with the text before it meets the lock, and it has nothing to ask of the lock
when the text is a script without statements.
-/

namespace PocketSql.Shared

variable {σ : Type} {shared later : Shared σ}

/-! ### The lock -/

theorem locked_of_poisoned {α : Type} (h : shared.poisoned = true) (operation : σ → Outcome σ α) :
    locked operation shared = .fail shared poisonedLock := by
  rw [locked, if_pos h]

theorem hold_of_poisoned {α : Type} (h : shared.poisoned = true) (task : σ → Option α × σ) :
    hold task shared = (.error poisonedLock, shared) := by
  rw [hold, if_pos h]

/-- A task that breaks off leaves the lock poisoned. If it was not even run, the lock was before. -/
theorem poisoned_of_hold {α : Type} {task : σ → Option α × σ}
    (hbroken : (task shared.inner).1 = none) : (hold task shared).2.poisoned = true := by
  rw [hold]
  split
  · assumption
  · exact congrArg Option.isNone hbroken

theorem inner_hold {α : Type} (task : σ → Option α × σ) (shared : Shared σ) :
    (hold task shared).2.inner =
      if shared.poisoned then shared.inner else (task shared.inner).2 := by
  rw [hold]
  split
  · rfl
  · rfl

/-! ### Uses of handles -/

variable [Engine σ]

/-- One use of a handle, whatever comes of it: an operation of the engine, a statement, a task that
is given the engine, or a text that a session runs on the handle. -/
inductive Use : Shared σ → Shared σ → Prop where
  | createTable {shared : Shared σ} (creation : CreateTable) :
      Use shared (Engine.createTable creation shared).state
  | insert {shared : Shared σ} (insertion : Insert) :
      Use shared (Engine.insert insertion shared).state
  | select {shared : Shared σ} (query : Select) : Use shared shared
  | execute {shared : Shared σ} (statement : Statement) :
      Use shared (Engine.execute shared statement).state
  | hold {shared : Shared σ} {α : Type} (task : σ → Option α × σ) :
      Use shared (Shared.hold task shared).2
  | text {shared : Shared σ} (text : String) : Use shared (Session.execute text shared).state

/-- Everything that is asked of the engine is refused and leaves no records. A task is not run, so
it makes no difference which task it is. -/
structure Refuses (shared : Shared σ) : Prop where
  createTable : ∀ creation, Engine.createTable creation shared = .fail shared poisonedLock
  insert : ∀ insertion, Engine.insert insertion shared = .fail shared poisonedLock
  select : ∀ query, Engine.select query shared = .error poisonedLock
  execute : ∀ statement, Engine.execute shared statement = .fail shared poisonedLock
  hold : ∀ (α : Type) (task : σ → Option α × σ),
    Shared.hold task shared = (.error poisonedLock, shared)
  text : ∀ text, (Session.execute text shared).state = shared ∧
    (Session.execute text shared).answer =
      match parse text with
      | .error error => .error error
      | .ok [] => .ok []
      | .ok (_ :: _) => .error poisonedLock

theorem select_of_poisoned (h : shared.poisoned = true) (query : Select) :
    Engine.select query shared = .error poisonedLock :=
  if_pos h

theorem execute_of_poisoned (h : shared.poisoned = true) (statement : Statement) :
    Engine.execute shared statement = .fail shared poisonedLock := by
  cases statement with
  | select query =>
      have hanswer := congrArg (Except.map Answer.selected) (select_of_poisoned h query)
      exact congrArg (Outcome.mk · shared []) hanswer
  | insert insertion => exact congrArg (Outcome.map _) (locked_of_poisoned h _)
  | createTable creation => exact congrArg (Outcome.map _) (locked_of_poisoned h _)

/-- A text is read before the lock is asked for, which the first statement does. -/
theorem execute_text_of_poisoned (h : shared.poisoned = true) (text : String) :
    (Session.execute text shared).state = shared ∧
      (Session.execute text shared).answer =
        match parse text with
        | .error error => .error error
        | .ok [] => .ok []
        | .ok (_ :: _) => .error poisonedLock := by
  cases hparse : parse text with
  | error error =>
      obtain ⟨hanswer, hstate⟩ := Session.execute_of_parse_error hparse shared
      exact ⟨hstate, hanswer⟩
  | ok script =>
      obtain ⟨hanswer, hstate⟩ := Session.execute_of_parse hparse shared
      cases script with
      | nil => exact ⟨hstate, hanswer⟩
      | cons statement rest =>
          have hfirst := execute_of_poisoned h statement
          have hrefused : (Engine.execute shared statement).answer = .error poisonedLock := by
            rw [hfirst]
            rfl
          rw [Engine.executeAll_cons_of_error hrefused] at hanswer hstate
          rw [hfirst] at hstate
          exact ⟨hstate, hanswer⟩

theorem refuses_of_poisoned (h : shared.poisoned = true) : shared.Refuses where
  createTable _ := locked_of_poisoned h _
  insert _ := locked_of_poisoned h _
  select := select_of_poisoned h
  execute := execute_of_poisoned h
  hold _ := hold_of_poisoned h
  text := execute_text_of_poisoned h

theorem Use.eq_of_poisoned (huse : Use shared later) (h : shared.poisoned = true) :
    later = shared := by
  have hrefuses := refuses_of_poisoned h
  cases huse with
  | createTable creation => rw [hrefuses.createTable]; rfl
  | insert insertion => rw [hrefuses.insert]; rfl
  | select query => rfl
  | execute statement => rw [hrefuses.execute]; rfl
  | hold task => rw [hrefuses.hold]
  | text text => exact (hrefuses.text text).1

/-! ### Any number of uses -/

theorem eq_of_uses (huses : Relation.ReflTransGen Use shared later)
    (h : shared.poisoned = true) : later = shared := by
  induction huses with
  | refl => rfl
  | tail _ huse ih =>
      subst ih
      exact huse.eq_of_poisoned h

/-- **A poisoned lock stays poisoned and freezes the engine.** After a task broke off and any
number of uses of any handles, the engine is as the task left it and everything that is asked of it
is refused. Only what is wrong with a text is reported before that, and a script without statements
has nothing to be refused. -/
theorem refuses_of_broken_task {α : Type} (shared : Shared σ) (task : σ → Option α × σ)
    (hbroken : (task shared.inner).1 = none) (later : Shared σ)
    (huses : Relation.ReflTransGen Use (hold task shared).2 later) :
    later.poisoned = true ∧
      later.inner = (if shared.poisoned then shared.inner else (task shared.inner).2) ∧
      later = (hold task shared).2 ∧ later.Refuses := by
  have hpoisoned := poisoned_of_hold hbroken
  have hsame := eq_of_uses huses hpoisoned
  rw [hsame]
  exact ⟨hpoisoned, inner_hold task shared, rfl, refuses_of_poisoned hpoisoned⟩

/-- A task makes a table and breaks off. Then another table is to be made, and a row appended. -/
theorem refuses_of_broken_task_store :
    let t : Token := { value := "t", kind := .identifier }
    let creation : CreateTable := ⟨t, [⟨t, Keyword.int.token⟩]⟩
    let task (store : Store) : Option Nat × Store := (none, store.put "u" { columns := [] })
    let left := (hold task { inner := Store.empty }).2
    let later :=
      (Session.execute "INSERT INTO u VALUES ();" (Engine.createTable creation left).state).state
    (task Store.empty).1 = none ∧ later.inner.table? "u" = some { columns := [] } ∧
      hold task later = (.error (.internal "poisoned lock: another task failed inside"), later) ∧
      (Session.execute "SELECT a FROM u;" later).answer = .error poisonedLock ∧
      (Session.execute " " later).answer = .ok [] ∧
      (Session.execute "SELECT" later).answer =
        .error (.parse ⟨0, 0⟩ "select" "expected expressions to end with from or ;") := by
  intro t creation task left later
  have huses : Relation.ReflTransGen Use left later :=
    .tail (.single (.createTable creation)) (.text "INSERT INTO u VALUES ();")
  obtain ⟨_, hinner, _, hrefuses⟩ :=
    refuses_of_broken_task { inner := Store.empty } task rfl later huses
  have htable : later.inner.table? "u" = some { columns := [] } := by
    rw [hinner]
    exact (Store.table?_put _ _ _ _).trans (if_pos rfl)
  have hselect : parse "SELECT a FROM u;" = .ok
      [.select ⟨[.literal ⟨"a", .identifier, ⟨0, 7⟩⟩], some ⟨"u", .identifier, ⟨0, 14⟩⟩⟩] := by
    decide +kernel
  have hblank : parse " " = .ok [] := by decide +kernel
  have hunended : parse "SELECT" =
      .error (.parse ⟨0, 0⟩ "select" "expected expressions to end with from or ;") := by
    decide +kernel
  have hrefused := (hrefuses.text "SELECT a FROM u;").2
  have hempty := (hrefuses.text " ").2
  have hunread := (hrefuses.text "SELECT").2
  rw [hselect] at hrefused
  rw [hblank] at hempty
  rw [hunended] at hunread
  exact ⟨rfl, htable, hrefuses.hold Nat task, hrefused, hempty, hunread⟩

end PocketSql.Shared
