import PocketSql.Store
/-!
# Engines

An engine is a state on which the three forms of statements can be carried out. The store is one,
and a shared handle on an engine is another. Selecting does not change the state.

A list of statements is executed up to the first failure, or each of them whatever comes of the
others.
-/

namespace PocketSql

class Engine (σ : Type) where
  createTable : CreateTable → σ → Outcome σ Unit
  insert : Insert → σ → Outcome σ Unit
  select : Select → σ → Except Error Results

instance : Engine Store where
  createTable := Store.createTable
  insert := Store.insert
  select := Store.select

/-- The answer to a statement that succeeded. -/
inductive Answer where
  | tableCreated (name : String)
  | inserted (count : Nat)
  | selected (results : Results)
  deriving DecidableEq, Repr

namespace Engine

variable {σ : Type} [Engine σ]

def execute (state : σ) : Statement → Outcome σ Answer
  | .createTable creation =>
      (createTable creation state).map fun _ => .tableCreated creation.table.value
  | .insert insertion => (insert insertion state).map fun _ => .inserted 1
  | .select query => { answer := (select query state).map .selected, state }

/-- Executes statements until one fails. The answer is all their answers, or the first error. -/
def executeAll (state : σ) : Script → Outcome σ (List Answer)
  | [] => { answer := .ok [], state }
  | statement :: rest =>
      let first := execute state statement
      match first.answer with
      | .error error => { answer := .error error, state := first.state, events := first.events }
      | .ok answer =>
          let others := executeAll first.state rest
          { answer := others.answer.map (answer :: ·)
            state := others.state
            events := first.events ++ others.events }

/-- Executes every statement, also after failures, and gives the answer or error of each with the
state after them. -/
def executeEach (state : σ) : Script → List (Except Error Answer) × σ
  | [] => ([], state)
  | statement :: rest =>
      let first := execute state statement
      let (answers, state) := executeEach first.state rest
      (first.answer :: answers, state)

end Engine
end PocketSql
