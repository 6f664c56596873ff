import PocketSql.Proofs.Engine
import PocketSql.Proofs.Statement.Acceptance
import PocketSql.Session
/-!
# Sessions stop at the first failure

A session reads a whole text before it runs any of it, so a text that is refused changes nothing. A
script then comes to what its statements come to one by one. They all succeed, or there is a first
one that fails: the statements before it are done, it has changed nothing itself, and those behind
it are not carried out.
-/

namespace PocketSql

namespace Engine

variable {σ : Type} [Engine σ]

theorem executeEach_cons_of_ok {state : σ} {statement : Statement} {answer : Answer}
    {answers : List Answer} {rest : Script} {final : σ}
    (h : (execute state statement).answer = .ok answer)
    (hrest : executeEach (execute state statement).state rest = (answers.map .ok, final)) :
    executeEach state (statement :: rest) = ((answer :: answers).map .ok, final) := by
  rw [executeEach, List.map_cons]
  simp only [hrest, h]

/-- **What a script comes to.** All of its statements succeed, or one fails after others that
succeed, and those behind it could as well be left out. -/
theorem executeAll_cases (state : σ) (script : Script) :
    (∃ answers : List Answer, (executeAll state script).answer = .ok answers ∧
      executeEach state script = (answers.map .ok, (executeAll state script).state)) ∨
    ∃ (front : Script) (failing : Statement) (back : Script) (answers : List Answer) (middle : σ)
      (error : Error), script = front ++ failing :: back ∧
      executeEach state front = (answers.map .ok, middle) ∧
      (execute middle failing).answer = .error error ∧
      (executeAll state script).answer = .error error ∧
      (executeAll state script).state = (execute middle failing).state ∧
      executeAll state script = executeAll state (front ++ [failing]) := by
  induction script generalizing state with
  | nil => exact .inl ⟨[], rfl, rfl⟩
  | cons statement rest ih =>
      cases hfirst : (execute state statement).answer with
      | error error =>
          have hall := executeAll_cons_of_error hfirst
          have hone : executeAll state (statement :: rest) = executeAll state [statement] := by
            rw [hall, hall]
          rw [hone, hall]
          exact .inr ⟨[], statement, rest, [], state, error, rfl, rfl, hfirst, rfl, rfl,
            (hall []).symm⟩
      | ok answer =>
          have hall := executeAll_cons_of_ok hfirst
          rw [hall]
          obtain ⟨answers, hanswers, heach⟩ |
            ⟨front, failing, back, answers, middle, error, hscript, heach, hfails, herror, hstate,
              hone⟩ := ih (execute state statement).state
          · refine .inl ⟨answer :: answers, ?_, executeEach_cons_of_ok hfirst heach⟩
            rw [hanswers]
            rfl
          · refine .inr ⟨statement :: front, failing, back, answer :: answers, middle, error, ?_,
              executeEach_cons_of_ok hfirst heach, hfails, ?_, hstate, ?_⟩
            · rw [hscript, List.cons_append]
            · rw [herror]
              rfl
            · rw [List.cons_append, hall, hone]

end Engine

namespace Session

variable {σ : Type} [Engine σ] {text : String} {script : Script}

theorem execute_of_parse (h : parse text = .ok script) (state : σ) :
    (execute text state).answer = (Engine.executeAll state script).answer ∧
      (execute text state).state = (Engine.executeAll state script).state := by
  rw [execute, h]
  exact ⟨rfl, rfl⟩

theorem execute_of_parse_error {error : Error} (h : parse text = .error error) (state : σ) :
    (execute text state).answer = .error error ∧ (execute text state).state = state := by
  rw [execute, h]
  exact ⟨rfl, rfl⟩

/-- **A session stops at the first failure.** A text that is refused changes nothing. Of a script
that is read, either all statements succeed, and their answers are the answer, or one of them fails
after others that succeeded. Its error is the answer then, it has changed nothing itself, and the
script comes to what it does without the statements behind that one. -/
theorem execute_stops (text : String) (store : Store) :
    let outcome := execute text store
    match lex text with
    | .error error => outcome.answer = .error error ∧ outcome.state = store
    | .ok tokens =>
        match parseTokens tokens with
        | .error error => outcome.answer = .error error ∧ outcome.state = store
        | .ok script =>
            (∃ answers : List Answer, outcome.answer = .ok answers ∧
              Engine.executeEach store script = (answers.map .ok, outcome.state)) ∨
            ∃ (front : Script) (failing : Statement) (back : Script) (answers : List Answer)
              (error : Error), script = front ++ failing :: back ∧
              Engine.executeEach store front = (answers.map .ok, outcome.state) ∧
              (Engine.execute outcome.state failing).answer = .error error ∧
              (Engine.execute outcome.state failing).state = outcome.state ∧
              outcome.answer = .error error ∧
              Engine.executeAll store script = Engine.executeAll store (front ++ [failing]) := by
  intro outcome
  cases hlex : lex text with
  | error error =>
      exact execute_of_parse_error (parse_of_lex_error hlex) store
  | ok tokens =>
      have hparse := parse_of_lex hlex
      dsimp only
      cases hread : parseTokens tokens with
      | error error => exact execute_of_parse_error (hparse.trans hread) store
      | ok script =>
          obtain ⟨hanswer, hstate⟩ := execute_of_parse (hparse.trans hread) store
          obtain ⟨answers, hanswers, heach⟩ |
            ⟨front, failing, back, answers, middle, error, hscript, heach, hfails, herror, hmiddle,
              hone⟩ := Engine.executeAll_cases store script
          · rw [← hstate] at heach
            exact .inl ⟨answers, hanswer.trans hanswers, heach⟩
          · have hkept := Store.state_of_execute_error hfails
            have hsame : outcome.state = middle := hstate.trans (hmiddle.trans hkept)
            rw [← hsame] at heach hfails hkept
            exact .inr ⟨front, failing, back, answers, error, hscript, heach, hfails, hkept,
              hanswer.trans herror, hone⟩

/-- The table that a failing statement would have replaced keeps its column and its row. -/
example :
    let outcome := execute "CREATE TABLE t (a INT); INSERT INTO t VALUES (7);
      CREATE TABLE t (a INT, b FROM); INSERT INTO t VALUES (8);" Store.empty
    outcome.answer = .error (.invalidDataType "from") ∧
      outcome.state.table? "t" = some { columns := [⟨"a", .int⟩], rows := [[.ofInt 7]] } := by
  decide +kernel

end Session
end PocketSql
