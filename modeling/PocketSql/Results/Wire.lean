import PocketSql.Results.Basic
/-!
# Results as bytes

The form in which results travel. Numbers are little-endian: the tag of a column type takes four
bytes, and every count or length takes eight. A list is its count and then its members, a text or a
cell its length and then its bytes, and results are the columns and then the rows.

Reading stops at the first fault. It takes no more bytes than it needs, and bytes after the results
are left alone.
-/

namespace PocketSql.Wire

/-- Why bytes are no results. -/
inductive Fault where
  /-- Too few bytes for a number. -/
  | truncatedNumber
  /-- Fewer bytes than the length of a text or cell says. -/
  | truncatedBytes
  | unknownType (tag : Nat)
  | badName (fault : Utf8.Fault)
  deriving DecidableEq, Repr

def Fault.message : Fault → String
  | .truncatedNumber => "io error: unexpected end of file"
  | .truncatedBytes => "io error: "
  | .unknownType tag =>
      "invalid value: integer `" ++ toString tag ++ "`, expected variant index 0 <= i < 2"
  | .badName fault => "string is not valid utf8: " ++ fault.message

def Fault.toError (fault : Fault) : Error :=
  .internal fault.message

def tag : ColumnType → Nat
  | .int => 0
  | .text => 1

def typeOfTag? : Nat → Option ColumnType
  | 0 => some .int
  | 1 => some .text
  | _ => none

def encodeBytes (bytes : List UInt8) : List UInt8 :=
  littleEndian 8 bytes.length ++ bytes

def encodeList {α : Type} (encode : α → List UInt8) (list : List α) : List UInt8 :=
  littleEndian 8 list.length ++ list.flatMap encode

def encodeColumn (column : Column) : List UInt8 :=
  littleEndian 4 (tag column.type) ++ encodeBytes (Utf8.encode column.name)

def encodeRow (row : Row) : List UInt8 :=
  encodeList (fun cell => encodeBytes cell.bytes) row

/-- Takes bytes from the front of a list and leaves the others. -/
abbrev Reader := StateT (List UInt8) (Except Fault)

def take (count : Nat) (fault : Fault) : Reader (List UInt8) := fun bytes =>
  let front := bytes.take count
  if front.length < count then .error fault else .ok (front, bytes.drop count)

def readNumber (width : Nat) : Reader Nat := do
  return ofLittleEndian (← take width .truncatedNumber)

def readBytes : Reader (List UInt8) := do
  let length ← readNumber 8
  take length .truncatedBytes

def repeated {α : Type} (item : Reader α) : Nat → Reader (List α)
  | 0 => pure []
  | count + 1 => do
      let first ← item
      let rest ← repeated item count
      return first :: rest

def readList {α : Type} (item : Reader α) : Reader (List α) := do
  let count ← readNumber 8
  repeated item count

def readColumn : Reader Column := do
  let tag ← readNumber 4
  match typeOfTag? tag with
  | none => throw (.unknownType tag)
  | some type =>
      let bytes ← readBytes
      match Utf8.decode bytes with
      | .error fault => throw (.badName fault)
      | .ok name => return { name, type }

def readRow : Reader Row :=
  readList (Cell.mk <$> readBytes)

def readResults : Reader Results := do
  let columns ← readList readColumn
  let rows ← readList readRow
  return { columns, rows }

end PocketSql.Wire

namespace PocketSql.Results

def encode (results : Results) : List UInt8 :=
  Wire.encodeList Wire.encodeColumn results.columns ++ Wire.encodeList Wire.encodeRow results.rows

def decode (bytes : List UInt8) : Except Wire.Fault Results :=
  (Wire.readResults bytes).map Prod.fst

end PocketSql.Results
