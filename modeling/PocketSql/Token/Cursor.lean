import PocketSql.Location
/-!
# Cursors

A cursor is a position in a text, as the number of the characters before it, with its place. The
two are moved together, and whoever moves a cursor says how far and whether a line ends. A place is
never counted again in the text.
-/

namespace PocketSql

structure Cursor where
  position : Nat := 0
  location : Location := .start
  deriving DecidableEq, Repr

namespace Cursor

/-- Moves forward a number of characters on the line. -/
def advance (cursor : Cursor) (count : Nat) : Cursor where
  position := cursor.position + count
  location := ⟨cursor.location.line, cursor.location.column + count⟩

/-- Moves over a line feed to the next line. -/
def nextLine (cursor : Cursor) : Cursor where
  position := cursor.position + 1
  location := ⟨cursor.location.line + 1, 0⟩

@[simp] theorem position_advance (cursor : Cursor) (count : Nat) :
    (cursor.advance count).position = cursor.position + count := rfl

end Cursor
end PocketSql
