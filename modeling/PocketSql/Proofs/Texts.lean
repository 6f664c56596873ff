import PocketSql.Proofs.Sequence
import PocketSql.Proofs.Session
import PocketSql.Proofs.Statement.WellFormed
import PocketSql.Proofs.Store.History
/-!
# A session and its texts

A session is given texts one after the other, and each of them runs on what the texts before it
left, also when those were refused or failed. All that is carried out of the texts is a list of
steps: the statements of a text up to the first one that fails, and none of a text that is refused.
The state at the end is where the steps lead (`Session.path_steps`), so what holds of a whole
session is shown for one statement that was read from a text, whatever the state is.
-/

namespace PocketSql

/-- What came of some texts: the answer to each, the state at the end and all records. -/
structure Session.Run (σ : Type) where
  answers : List (Except Error (List Answer))
  state : σ
  events : List Event

/-- A statement that was carried out, with its answer and the records that it left. -/
structure Step extends Entry where
  events : List Event

variable {σ : Type} [Engine σ]

/-- Runs texts one after the other. -/
def Session.run (state : σ) : List String → Run σ
  | [] => { answers := [], state, events := [] }
  | text :: texts =>
      let first := execute text state
      let others := run first.state texts
      { answers := first.answer :: others.answers
        state := others.state
        events := first.events ++ others.events }

/-- The statements of a text. A text that is refused has none. -/
def Session.script (text : String) : Script :=
  (parse text).toOption.getD []

/-- One statement as a step. -/
def Engine.step (state : σ) (statement : Statement) : Step :=
  { statement
    answer := (execute state statement).answer
    events := (execute state statement).events }

/-- The statements of a script that are carried out: the first one that fails is the last. -/
def Engine.steps (state : σ) : Script → List Step
  | [] => []
  | statement :: rest =>
      let later := match (execute state statement).answer with
        | .error _ => []
        | .ok _ => steps (execute state statement).state rest
      step state statement :: later

/-- The statements of texts that are carried out. -/
def Session.steps (state : σ) : List String → List Step
  | [] => []
  | text :: texts => Engine.steps state (script text) ++ steps (execute text state).state texts

/-- A step of a statement that can be read from a text leads to the state after it. -/
inductive Leads : Step → σ → σ → Prop where
  | step {statement : Statement} (h : statement.WellFormed) (state : σ) :
      Leads (Engine.step state statement) state (Engine.execute state statement).state

variable {state : σ} {statement : Statement} {script : Script} {text : String} {texts : List String}
  {answer : Answer} {answers : List Answer}

namespace Engine

theorem steps_cons_of_error {error : Error} (h : (execute state statement).answer = .error error)
    (rest : Script) : steps state (statement :: rest) = [step state statement] := by
  rw [steps]
  simp only [h]

theorem steps_cons_of_ok (h : (execute state statement).answer = .ok answer) (rest : Script) :
    steps state (statement :: rest) =
      step state statement :: steps (execute state statement).state rest := by
  rw [steps]
  simp only [h]

theorem path_steps (h : script.WellFormed) (state : σ) :
    Path Leads (steps state script) state (executeAll state script).state := by
  induction script generalizing state with
  | nil => exact .nil
  | cons statement rest ih =>
      obtain ⟨hfirst, hrest⟩ := List.forall_mem_cons.mp h
      cases hanswer : (execute state statement).answer with
      | error error =>
          rw [steps_cons_of_error hanswer, executeAll_cons_of_error hanswer]
          exact .single (.step hfirst state)
      | ok answer =>
          rw [steps_cons_of_ok hanswer, executeAll_cons_of_ok hanswer]
          exact .cons (.step hfirst state) (ih hrest _)

theorem events_executeAll (state : σ) (script : Script) :
    (executeAll state script).events = (steps state script).flatMap (·.events) := by
  induction script generalizing state with
  | nil => rfl
  | cons statement rest ih =>
      cases hanswer : (execute state statement).answer with
      | error error =>
          rw [steps_cons_of_error hanswer, executeAll_cons_of_error hanswer]
          exact (List.append_nil _).symm
      | ok answer =>
          rw [steps_cons_of_ok hanswer, executeAll_cons_of_ok hanswer, List.flatMap_cons, ← ih]
          rfl

/-- Whatever a run of statements answers is the answer of a step. -/
theorem exists_step_of_executeAll (h : (executeAll state script).answer = .ok answers)
    (hmem : answer ∈ answers) : ∃ step ∈ steps state script, step.answer = .ok answer := by
  induction script generalizing state answers with
  | nil =>
      cases h
      cases hmem
  | cons statement rest ih =>
      cases hanswer : (execute state statement).answer with
      | error error =>
          rw [executeAll_cons_of_error hanswer] at h
          cases h
      | ok first =>
          rw [executeAll_cons_of_ok hanswer] at h
          obtain ⟨others, hothers, rfl⟩ := map_eq_ok_iff.mp h
          rw [steps_cons_of_ok hanswer, List.exists_mem_cons_iff]
          rcases List.mem_cons.mp hmem with rfl | hmem
          · exact .inl hanswer
          · exact .inr (ih hothers hmem)

end Engine

namespace Session

theorem script_of_parse (h : parse text = .ok script) : Session.script text = script := by
  rw [Session.script, h]
  rfl

theorem script_of_parse_error {error : Error} (h : parse text = .error error) :
    Session.script text = [] := by
  rw [Session.script, h]
  rfl

theorem wellFormed_script (text : String) : (Session.script text).WellFormed := by
  cases h : parse text with
  | error error =>
      rw [script_of_parse_error h]
      exact List.forall_mem_nil _
  | ok script =>
      rw [script_of_parse h]
      exact wellFormed_of_parse h

theorem state_execute (text : String) (state : σ) :
    (execute text state).state = (Engine.executeAll state (Session.script text)).state := by
  cases h : parse text with
  | error error =>
      rw [script_of_parse_error h]
      exact (execute_of_parse_error h state).2
  | ok script =>
      rw [script_of_parse h]
      exact (execute_of_parse h state).2

/-- **A session comes to where the steps of its texts lead.** -/
theorem path_steps (state : σ) (texts : List String) :
    Path Leads (steps state texts) state (run state texts).state := by
  induction texts generalizing state with
  | nil => exact .nil
  | cons text texts ih =>
      have hfirst := Engine.path_steps (wellFormed_script text) state
      rw [← state_execute] at hfirst
      exact hfirst.append (ih _)

/-- Whatever a session answers is the answer of a step. -/
theorem exists_step_of_mem_answers (h : .ok answers ∈ (run state texts).answers)
    (hmem : answer ∈ answers) : ∃ step ∈ steps state texts, step.answer = .ok answer := by
  induction texts generalizing state with
  | nil => cases h
  | cons text texts ih =>
      rw [steps]
      rcases List.mem_cons.mp h with hfirst | hlater
      · cases hparse : parse text with
        | error error => cases hfirst.trans (execute_of_parse_error hparse state).1
        | ok script =>
            have hanswers := (execute_of_parse hparse state).1.symm.trans hfirst.symm
            rw [← script_of_parse hparse] at hanswers
            obtain ⟨step, hstep, hanswer⟩ := Engine.exists_step_of_executeAll hanswers hmem
            exact ⟨step, List.mem_append_left _ hstep, hanswer⟩
      · obtain ⟨step, hstep, hanswer⟩ := ih hlater
        exact ⟨step, List.mem_append_right _ hstep, hanswer⟩

end Session
end PocketSql
