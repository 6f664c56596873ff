import PocketSql.Proofs.Engine
import PocketSql.Proofs.Store.History
import Mathlib.Logic.Function.Basic
/-!
# Sessions that take turns

Several sessions run their scripts on one engine. They take turns in any order, a turn carries out
one statement, and a session that failed or came to the end of its script has no more turns: if it
is given one, nothing happens. What was carried out is recorded in a trace, each statement with its
answer and with the session it came from.

The trace is a run of its statements in a row on the engine (`executeEach_run`), and the part of it
that belongs to a session is what that session has done (`own_run`). Both hold at the beginning and
after each turn, which is `run_induction`.
-/

namespace PocketSql

/-- A session in its script: its answers or the error that it stopped at, and what is left. -/
structure Progress where
  answers : Except Error (List Answer) := .ok []
  rest : Script

/-- A session without an error has nothing left. -/
def Progress.Done (progress : Progress) : Prop :=
  progress.answers.isOk → progress.rest = []

instance (progress : Progress) : Decidable progress.Done :=
  inferInstanceAs (Decidable (progress.answers.isOk → progress.rest = []))

structure Sessions (ι σ : Type) where
  state : σ
  progress : ι → Progress
  trace : List (ι × Entry) := []

namespace Sessions

variable {ι σ : Type} [DecidableEq ι] [Engine σ]

def start (state : σ) (scripts : ι → Script) : Sessions ι σ :=
  { state, progress := fun i => { rest := scripts i } }

/-- A session with some answers carries out a statement before the rest of its script. -/
def advance (sessions : Sessions ι σ) (i : ι) (answers : List Answer) (statement : Statement)
    (rest : Script) : Sessions ι σ :=
  let outcome := Engine.execute sessions.state statement
  let progress : Progress := { answers := outcome.answer.map fun answer => answers ++ [answer], rest }
  { state := outcome.state
    progress := Function.update sessions.progress i progress
    trace := sessions.trace ++ [(i, ⟨statement, outcome.answer⟩)] }

def turn (sessions : Sessions ι σ) (i : ι) : Sessions ι σ :=
  match (sessions.progress i).answers, (sessions.progress i).rest with
  | .ok answers, statement :: rest => sessions.advance i answers statement rest
  | _, _ => sessions

/-- The sessions after some turns, in the order in which the turns are listed. -/
def run (sessions : Sessions ι σ) (turns : List ι) : Sessions ι σ :=
  turns.foldl turn sessions

theorem run_cons (sessions : Sessions ι σ) (i : ι) (turns : List ι) :
    sessions.run (i :: turns) = (sessions.turn i).run turns := rfl

/-- What a turn can be: a statement is carried out, or the session is done and nothing happens. -/
theorem turn_cases (sessions : Sessions ι σ) (i : ι) :
    ((sessions.progress i).Done ∧ sessions.turn i = sessions) ∨
      ∃ answers statement rest, (sessions.progress i).answers = .ok answers ∧
        (sessions.progress i).rest = statement :: rest ∧
        sessions.turn i = sessions.advance i answers statement rest := by
  rw [turn, Progress.Done]
  cases (sessions.progress i).answers with
  | error error =>
      refine .inl ⟨fun hok => ?_, rfl⟩
      cases hok
  | ok answers =>
      cases (sessions.progress i).rest with
      | nil => exact .inl ⟨fun _ => rfl, rfl⟩
      | cons statement rest => exact .inr ⟨answers, statement, rest, rfl, rfl, rfl⟩

/-- What holds before the turns and after each statement that is carried out holds at the end. -/
theorem run_induction {P : Sessions ι σ → Prop} {sessions : Sessions ι σ} (h : P sessions)
    (hadvance : ∀ {sessions : Sessions ι σ} {i answers statement rest}, P sessions →
      (sessions.progress i).answers = .ok answers →
      (sessions.progress i).rest = statement :: rest →
      P (sessions.advance i answers statement rest))
    (turns : List ι) : P (sessions.run turns) := by
  induction turns generalizing sessions with
  | nil => exact h
  | cons i turns ih =>
      rw [run_cons]
      apply ih
      obtain ⟨_, hturn⟩ | ⟨answers, statement, rest, hanswers, hrest, hturn⟩ :=
        sessions.turn_cases i
      · rwa [hturn]
      · rw [hturn]
        exact hadvance h hanswers hrest

end Sessions

/-! ### A session by itself -/

namespace Progress

variable {σ : Type} [Engine σ]

/-- The answers of a session that has the engine to itself from now on, and the engine then. -/
def finish (progress : Progress) (state : σ) : Except Error (List Answer) × σ :=
  match progress.answers with
  | .error error => (.error error, state)
  | .ok answers =>
      let outcome := Engine.executeAll state progress.rest
      (outcome.answer.map fun others => answers ++ others, outcome.state)

theorem finish_start (state : σ) (script : Script) :
    ({ rest := script } : Progress).finish state =
      ((Engine.executeAll state script).answer, (Engine.executeAll state script).state) := by
  simp only [finish]
  cases (Engine.executeAll state script).answer <;> rfl

theorem finish_of_done {progress : Progress} (h : progress.Done) (state : σ) :
    progress.finish state = (progress.answers, state) := by
  rw [finish]
  cases hanswers : progress.answers with
  | error error => rfl
  | ok answers =>
      have hrest : progress.rest = [] := h (by rw [hanswers]; rfl)
      simp only [hrest, Engine.executeAll, Except.map, List.append_nil]

/-- Carrying out the next statement is part of finishing. -/
theorem finish_carry (state : σ) (answers : List Answer) (statement : Statement)
    (rest : Script) :
    let outcome := Engine.execute state statement
    finish { answers := outcome.answer.map fun answer => answers ++ [answer], rest }
        outcome.state =
      finish { answers := .ok answers, rest := statement :: rest } state := by
  intro outcome
  cases hanswer : outcome.answer with
  | error error =>
      simp only [finish, Except.map, Engine.executeAll_cons_of_error hanswer]
      rfl
  | ok answer =>
      simp only [finish, Except.map, Engine.executeAll_cons_of_ok hanswer]
      cases (Engine.executeAll outcome.state rest).answer <;> simp [outcome]

end Progress

namespace Sessions

variable {ι σ : Type} [DecidableEq ι] [Engine σ] {sessions : Sessions ι σ} {i : ι}
  {answers : List Answer} {statement : Statement} {rest : Script}

theorem progress_advance_self (sessions : Sessions ι σ) (i : ι) (answers : List Answer)
    (statement : Statement) (rest : Script) :
    (sessions.advance i answers statement rest).progress i =
      { answers := (Engine.execute sessions.state statement).answer.map (answers ++ [·]), rest } :=
  Function.update_self ..

theorem progress_advance_of_ne {j : ι} (h : j ≠ i) (sessions : Sessions ι σ)
    (answers : List Answer) (statement : Statement) (rest : Script) :
    (sessions.advance i answers statement rest).progress j = sessions.progress j :=
  Function.update_of_ne h ..

theorem rest_advance_subset (hrest : (sessions.progress i).rest = statement :: rest) (j : ι) :
    ((sessions.advance i answers statement rest).progress j).rest ⊆
      (sessions.progress j).rest := by
  by_cases hj : j = i
  · subst hj
    rw [progress_advance_self, hrest]
    exact List.subset_cons_self statement rest
  · rw [progress_advance_of_ne hj]
    exact List.Subset.refl _

theorem finish_advance (hanswers : (sessions.progress i).answers = .ok answers)
    (hrest : (sessions.progress i).rest = statement :: rest) :
    let next := sessions.advance i answers statement rest
    (next.progress i).finish next.state = (sessions.progress i).finish sessions.state := by
  have hprogress : sessions.progress i = { answers := .ok answers, rest := statement :: rest } := by
    rw [← hanswers, ← hrest]
  intro next
  rw [progress_advance_self, hprogress]
  exact Progress.finish_carry sessions.state answers statement rest

end Sessions

/-! ### The part of a trace that belongs to a session -/

section Own

variable {ι α β γ : Type} [DecidableEq ι]

/-- The members with a tag, without the tag. -/
def own (i : ι) (tagged : List (ι × α)) : List α :=
  tagged.filterMap fun (tag, member) => if tag = i then some member else none

theorem own_nil (i : ι) : own i ([] : List (ι × α)) = [] := rfl

theorem own_append (i : ι) (front back : List (ι × α)) :
    own i (front ++ back) = own i front ++ own i back :=
  List.filterMap_append

theorem own_cons_self (i : ι) (member : α) (tagged : List (ι × α)) :
    own i ((i, member) :: tagged) = member :: own i tagged :=
  List.filterMap_cons_some (if_pos rfl)

theorem own_cons_of_ne {tag i : ι} (h : tag ≠ i) (member : α) (tagged : List (ι × α)) :
    own i ((tag, member) :: tagged) = own i tagged :=
  List.filterMap_cons_none (if_neg h)

/-- Results for some of the tagged members take over the tags, so that they are related tag by tag
as they are all together. -/
theorem exists_tagged {f : α → Option β} {R : β → γ → Prop} {tagged : List (ι × α)}
    {results : List γ} (h : List.Forall₂ R ((tagged.map (·.2)).filterMap f) results) :
    ∃ taggedResults : List (ι × γ), taggedResults.map (·.2) = results ∧
      ∀ i, List.Forall₂ R ((own i tagged).filterMap f) (own i taggedResults) := by
  induction tagged generalizing results with
  | nil =>
      cases h
      exact ⟨[], rfl, fun i => .nil⟩
  | cons first tagged ih =>
      obtain ⟨tag, member⟩ := first
      rw [List.map_cons] at h
      cases hmember : f member with
      | none =>
          rw [List.filterMap_cons_none hmember] at h
          obtain ⟨taggedResults, hresults, hown⟩ := ih h
          refine ⟨taggedResults, hresults, fun i => ?_⟩
          by_cases htag : tag = i
          · subst htag
            rw [own_cons_self, List.filterMap_cons_none hmember]
            exact hown tag
          · rw [own_cons_of_ne htag]
            exact hown i
      | some part =>
          rw [List.filterMap_cons_some hmember] at h
          cases h with
          | @cons _ result _ results hfirst hrest =>
              obtain ⟨taggedResults, hresults, hown⟩ := ih hrest
              refine ⟨(tag, result) :: taggedResults, congrArg (result :: ·) hresults, fun i => ?_⟩
              by_cases htag : tag = i
              · subst htag
                rw [own_cons_self, own_cons_self, List.filterMap_cons_some hmember]
                exact .cons hfirst (hown tag)
              · rw [own_cons_of_ne htag, own_cons_of_ne htag]
                exact hown i

end Own

/-! ### What a trace says -/

theorem Engine.executeEach_concat {σ : Type} [Engine σ] (state : σ) (script : Script)
    (statement : Statement) :
    executeEach state (script ++ [statement]) =
      ((executeEach state script).1 ++ [(execute (executeEach state script).2 statement).answer],
        (execute (executeEach state script).2 statement).state) := by
  induction script generalizing state with
  | nil => rfl
  | cons first script ih => rw [List.cons_append, executeEach_cons, ih, executeEach_cons]; rfl

/-- Entries that were carried out in a row are the history of their statements. -/
theorem Engine.history_of_executeEach {σ : Type} [Engine σ] {state last : σ} {entries : List Entry}
    (h : executeEach state (entries.map (·.statement)) = (entries.map (·.answer), last)) :
    history state (entries.map (·.statement)) = entries := by
  rw [history, h, List.zipWith_map, List.zipWith_self]
  exact List.map_id entries

namespace Sessions

variable {ι σ : Type} [DecidableEq ι] [Engine σ]

/-- The entries of all sessions, in the order in which they were carried out. -/
def entries (sessions : Sessions ι σ) : List Entry :=
  sessions.trace.map (·.2)

/-- **A run of sessions is a run of the statements in its trace**, one after the other. -/
theorem executeEach_run (state : σ) (scripts : ι → Script) (turns : List ι) :
    let last := (start state scripts).run turns
    Engine.executeEach state (last.entries.map (·.statement)) =
      (last.entries.map (·.answer), last.state) := by
  refine run_induction (P := fun sessions => Engine.executeEach state
    (sessions.entries.map (·.statement)) = (sessions.entries.map (·.answer), sessions.state))
    rfl ?_ turns
  intro sessions i answers statement rest h _ _
  simp only [entries, advance, List.map_append, List.map_cons, List.map_nil] at h ⊢
  rw [Engine.executeEach_concat, h]

/-- What a run of sessions makes of the table of a name is what its entries make of it. -/
theorem effects_run (store : Store) (scripts : ι → Script) (turns : List ι) (name : String) :
    let last := (start store scripts).run turns
    Store.Effects name last.entries (store.table? name) (last.state.table? name) := by
  intro last
  have hrun : Engine.executeEach store (last.entries.map (·.statement)) =
      (last.entries.map (·.answer), last.state) := executeEach_run store scripts turns
  have heffects := Store.effects_of_executeEach store (last.entries.map (·.statement)) name
  rwa [Engine.history_of_executeEach hrun, hrun] at heffects

/-- **A session has run the front of its script.** What it has run is its part of the trace, and
its answers are the answers there, up to its first error. -/
theorem own_run (state : σ) (scripts : ι → Script) (turns : List ι) (i : ι) :
    let last := (start state scripts).run turns
    (own i last.trace).map (·.statement) ++ (last.progress i).rest = scripts i ∧
      (last.progress i).answers = (own i last.trace).mapM (·.answer) := by
  refine run_induction (P := fun sessions =>
    (own i sessions.trace).map (·.statement) ++ (sessions.progress i).rest = scripts i ∧
      (sessions.progress i).answers = (own i sessions.trace).mapM (·.answer))
    ⟨rfl, rfl⟩ ?_ turns
  rintro sessions j answers statement rest ⟨hstatements, hown⟩ hanswers hrest
  have htrace : (sessions.advance j answers statement rest).trace = sessions.trace ++
      [(j, ⟨statement, (Engine.execute sessions.state statement).answer⟩)] := rfl
  rw [htrace, own_append]
  by_cases hj : j = i
  · subst hj
    rw [progress_advance_self, own_cons_self, own_nil, List.map_append, List.mapM_append, ← hown,
      hanswers]
    constructor
    · rw [← hstatements, hrest, List.append_assoc]
      rfl
    · cases (Engine.execute sessions.state statement).answer <;> rfl
  · rw [progress_advance_of_ne (Ne.symm hj), own_cons_of_ne hj, own_nil, List.append_nil]
    exact ⟨hstatements, hown⟩

end Sessions
end PocketSql
