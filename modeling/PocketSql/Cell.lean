import PocketSql.Bytes
import PocketSql.ColumnType
import PocketSql.Error
import PocketSql.Unicode.Utf8
/-!
# Cells

A cell is the bytes of one stored value: an integer in four bytes in two's complement, the most
significant byte first, or a text in UTF-8. The bytes carry no type. The type of the column says how
they are read, and bytes that were written by one type can be readable by the other.
-/

namespace PocketSql

inductive Value where
  | int (n : Int32)
  | text (s : String)
  deriving DecidableEq, Repr

def Value.display : Value → String
  | .int n => toString n.toInt
  | .text s => s

structure Cell where
  bytes : List UInt8
  deriving DecidableEq, Repr

abbrev Row := List Cell

namespace Cell

/-- Why bytes are no value of a type. -/
inductive Fault where
  | notFourBytes
  | notText (fault : Utf8.Fault)
  deriving DecidableEq, Repr

def Fault.message : Fault → String
  | .notFourBytes => "could not convert slice to array"
  | .notText fault => fault.message

def Fault.toError (fault : Fault) : Error :=
  .internal fault.message

def ofInt (n : Int32) : Cell :=
  ⟨(littleEndian 4 n.toUInt32.toNat).reverse⟩

def ofText (text : String) : Cell :=
  ⟨Utf8.encode text⟩

def asInt (cell : Cell) : Except Fault Int32 :=
  if cell.bytes.length = 4 then
    .ok (UInt32.ofNat (ofLittleEndian cell.bytes.reverse)).toInt32
  else .error .notFourBytes

def asText (cell : Cell) : Except Fault String :=
  (Utf8.decode cell.bytes).mapError .notText

/-- The value of a cell in a column of the given type. -/
def decode (cell : Cell) : ColumnType → Except Fault Value
  | .int => cell.asInt.map .int
  | .text => cell.asText.map .text

/-- The cell of a value. -/
def ofValue : Value → Cell
  | .int n => ofInt n
  | .text s => ofText s

end Cell
end PocketSql
