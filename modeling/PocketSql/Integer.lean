import PocketSql.Token.Numeral
/-!
# Integers of 32 bits in decimal

An integer is written as a sign, which may be missing, and at least one ASCII digit. Zeros may stand
in front. What is out of range is no integer.
-/

namespace PocketSql.Integer

/-- The number that digits denote when they follow those of `n`. -/
def digitsValue (n : Nat) (digits : List Char) : Nat :=
  digits.foldl (fun n digit => n * 10 + (digit.toNat - '0'.toNat)) n

def natural? (digits : List Char) : Option Nat :=
  if digits.isEmpty || !digits.all Numeral.isDigit then none
  else some (digitsValue 0 digits)

/-- The integer, of any size, that characters denote. -/
def ofChars? : List Char → Option Int
  | '-' :: digits => (natural? digits).map fun n => -(n : Int)
  | '+' :: digits => (natural? digits).map fun n => (n : Int)
  | digits => (natural? digits).map fun n => (n : Int)

/-- The integer of 32 bits that a text denotes. -/
def int32? (text : String) : Option Int32 := do
  let n ← ofChars? text.toList
  if -2147483648 ≤ n ∧ n ≤ 2147483647 then some (Int32.ofInt n) else none

end PocketSql.Integer
