import PocketSql.Log
/-!
# Outcomes

What an operation on a state comes to: its answer or an error, the state after it, and the records
that it left. An operation that fails still has a state after it.
-/

namespace PocketSql

structure Outcome (σ α : Type) where
  answer : Except Error α
  state : σ
  events : List Event := []

namespace Outcome

variable {σ α β : Type}

/-- A failure that leaves the state as it was. -/
def fail (state : σ) (error : Error) : Outcome σ α :=
  { answer := .error error, state }

def map (f : α → β) (outcome : Outcome σ α) : Outcome σ β :=
  { outcome with answer := outcome.answer.map f }

end Outcome
end PocketSql
