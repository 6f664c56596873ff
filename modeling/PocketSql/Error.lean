import PocketSql.Location
/-!
# Errors

Everything that can go wrong with a script, from its characters to the stored bytes. Each error is
its cause; the wording is in `message`.
-/

namespace PocketSql

inductive Error where
  /-- No token begins here; the hint is the text of the token before. -/
  | lex (location : Location) (hint : Option String)
  /-- A token that does not fit, with what was expected in its place. -/
  | parse (location : Location) (token message : String)
  | tableDoesNotExist (name : String)
  | columnDoesNotExist (name : String)
  | invalidDataType (detail : String)
  /-- An insertion whose values are not as many as the columns. -/
  | missingValues (expected got : Nat)
  /-- Stored bytes that cannot be read, a row of the wrong width, or a handle that is unusable. -/
  | internal (detail : String)
  deriving DecidableEq, Repr

def Error.message : Error → String
  | .lex location (some hint) =>
      "unable to lex token after " ++ hint ++ ", at " ++ location.text
  | .lex location none => "unable to lex token, at " ++ location.text
  | .parse location token message =>
      "[" ++ location.text ++ "]: " ++ message ++ ", got: " ++ token
  | .tableDoesNotExist name => "table " ++ name ++ " does not exist"
  | .columnDoesNotExist name => "column " ++ name ++ " does not exist"
  | .invalidDataType detail => "invalid data type " ++ detail
  | .missingValues expected got =>
      "missing values, expected " ++ toString expected ++ " got " ++ toString got
  | .internal detail => "internal error " ++ detail

end PocketSql
