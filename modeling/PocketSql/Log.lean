import PocketSql.Token.Lexer
/-!
# Records of what happens

Reading and running a script leave records: one for every token, the remarks of the scanners at the
place where a text cannot be read, the token that fits no statement, the number of statements about
to run, and every change of the store. A record is what happened; its level and wording follow from
that.
-/

namespace PocketSql

inductive Level where
  | trace
  | debug
  | warn
  deriving DecidableEq, Repr

def Level.name : Level → String
  | .trace => "TRACE"
  | .debug => "DEBUG"
  | .warn => "WARN"

inductive Event where
  | token (found : Token)
  | repeatedPoint (position : Nat)
  | bareExponent (position : Nat)
  | unterminated (delimiter : Char) (location : Location)
  /-- A token that does not fit, with what was expected in its place. -/
  | refused (location : Location) (got message : String)
  | executing (count : Nat)
  | tableCreated (table : String)
  | tableReplaced (table : String)
  | rowAppended (table : String)
  /-- A value that is not a literal, left out of its row. -/
  | valueSkipped (column : String)
  deriving DecidableEq, Repr

namespace Event

def level : Event → Level
  | .token _ | .repeatedPoint _ | .bareExponent _ | .unterminated _ _ => .trace
  | .refused _ _ _ | .executing _ | .tableCreated _ | .rowAppended _ => .debug
  | .tableReplaced _ | .valueSkipped _ => .warn

def message : Event → String
  | .token found =>
      "[Lexer] " ++ found.kind.name ++ " token " ++ found.value ++ " at " ++ found.location.text
  | .repeatedPoint position => "[Lexer] Repeated decimal point at " ++ toString position
  | .bareExponent position => "[Lexer] Exponent marker without digits at " ++ toString position
  | .unterminated delimiter location =>
      "[Lexer] Unterminated " ++ delimiter.toString ++ " literal at " ++ location.text
  | .refused location got message =>
      "[Parser] " ++ message ++ " at " ++ location.text ++ ", got " ++ got
  | .executing count => "[Session] Executing " ++ toString count ++ " statements"
  | .tableCreated table => "[MemoryBackend] Table " ++ table ++ " created"
  | .tableReplaced table =>
      "[MemoryBackend] Table " ++ table ++ " replaced, previous rows dropped"
  | .rowAppended table => "[MemoryBackend] Row appended to " ++ table
  | .valueSkipped column =>
      "[MemoryBackend] Skipping non-literal value for column " ++ column

/-- The record of a remark that a scanner had at the place of a failure. -/
def ofRemark (failure : LexFailure) : Scanner.Remark → Event
  | .unterminated delimiter => .unterminated delimiter failure.location
  | .repeatedPoint offset => .repeatedPoint (failure.position + offset)
  | .bareExponent offset => .bareExponent (failure.position + offset)

/-- The records that a lexer leaves for something it gives. -/
def ofItem : Except LexFailure Token → List Event
  | .ok found => [.token found]
  | .error failure => failure.remarks.map (ofRemark failure)

end Event
end PocketSql
