import PocketSql.Engine
import PocketSql.Statement.Script
/-!
# Sessions

A session runs texts on an engine. A text is read as a whole before any of it runs, so a text that
is no script changes nothing. The statements then run up to the first failure, and what ran before a
failure stays done.
-/

namespace PocketSql.Session

/-- The records of reading a text: its tokens, and where reading stopped if it did. -/
def readingEvents (text : String) : List Event :=
  let refused := match parse text with
    | .error (.parse location token message) => [.refused location token message]
    | _ => []
  (Lexer.ofText Scanner.all text).items.flatMap Event.ofItem ++ refused

/-- Runs a text on an engine. -/
def execute {σ : Type} [Engine σ] (text : String) (state : σ) : Outcome σ (List Answer) :=
  match parse text with
  | .error error => { answer := .error error, state, events := readingEvents text }
  | .ok script =>
      let outcome := Engine.executeAll state script
      { outcome with
        events := readingEvents text ++ .executing script.length :: outcome.events }

end PocketSql.Session
