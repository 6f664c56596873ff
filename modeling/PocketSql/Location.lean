/-!
# Places in a source text

A place is a line and a column, both counted from zero in characters.
-/

namespace PocketSql

structure Location where
  line : Nat
  column : Nat
  deriving DecidableEq, Repr, Inhabited

namespace Location

def start : Location := ⟨0, 0⟩

def text (place : Location) : String :=
  toString place.line ++ ":" ++ toString place.column

end Location
end PocketSql
