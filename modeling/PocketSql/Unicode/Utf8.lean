/-!
# UTF-8

A text is stored as the encodings of its characters, one after the other. Reading goes through the
bytes once. The first byte of a character says how many bytes follow it and in which range each of
them lies; the first of these ranges is narrower where it has to keep out overlong forms, surrogates
and values above the last character.

Reading fails at the first byte that is out of place, and the fault tells where the broken character
began and how many of its bytes were still in order. A text that stops within a character is
incomplete.
-/

namespace PocketSql.Utf8

/-- Why bytes are no text. The index is the number of bytes in front of the broken character. -/
inductive Fault where
  /-- The byte after the first `length` bytes of a character does not go on with it. A byte that
  begins no character is a fault of length one. -/
  | invalid (index length : Nat)
  /-- The bytes end within a character. -/
  | incomplete (index : Nat)
  deriving DecidableEq, Repr

def Fault.message : Fault → String
  | .invalid index length =>
      "invalid utf-8 sequence of " ++ toString length ++ " bytes from index " ++ toString index
  | .incomplete index => "incomplete utf-8 byte sequence from index " ++ toString index

def encode (text : String) : List UInt8 :=
  text.toList.flatMap String.utf8EncodeChar

structure ByteRange where
  low : UInt8
  high : UInt8
  deriving DecidableEq, Repr

def ByteRange.contains (range : ByteRange) (byte : UInt8) : Bool :=
  range.low ≤ byte && byte ≤ range.high

/-- The range of a byte that goes on with a character. -/
def continuation : ByteRange := ⟨0x80, 0xBF⟩

/-- The ranges of the bytes that follow a first byte; `none` for a byte that begins no character. -/
def followers (byte : UInt8) : Option (List ByteRange) :=
  if byte < 0x80 then some []
  else if byte < 0xC2 then none
  else if byte < 0xE0 then some [continuation]
  else if byte = 0xE0 then some [⟨0xA0, 0xBF⟩, continuation]
  else if byte = 0xED then some [⟨0x80, 0x9F⟩, continuation]
  else if byte < 0xF0 then some [continuation, continuation]
  else if byte = 0xF0 then some [⟨0x90, 0xBF⟩, continuation, continuation]
  else if byte < 0xF4 then some [continuation, continuation, continuation]
  else if byte = 0xF4 then some [⟨0x80, 0x8F⟩, continuation, continuation]
  else none

/-- The part of a first byte that belongs to the value of the character is what is left of it by this
modulus, which depends on how many bytes follow. -/
def leadModulus : Nat → Nat
  | 1 => 32
  | 2 => 16
  | _ => 8

/-- Reads on from the middle of a character that began at `index`: it has had `read` bytes with the
value `bits`, and the ranges of its other bytes are due. With none due, a character begins. -/
def decodeFrom (index read bits : Nat) (due : List ByteRange) :
    List UInt8 → Except Fault (List Char)
  | [] => if due.isEmpty then .ok [] else .error (.incomplete index)
  | byte :: rest =>
      match due with
      | [] =>
          match followers byte with
          | none => .error (.invalid index 1)
          | some [] => (decodeFrom (index + 1) 0 0 [] rest).map (Char.ofNat byte.toNat :: ·)
          | some due => decodeFrom index 1 (byte.toNat % leadModulus due.length) due rest
      | range :: due =>
          if range.contains byte then
            let bits := bits * 64 + byte.toNat % 64
            if due.isEmpty then
              (decodeFrom (index + read + 1) 0 0 [] rest).map (Char.ofNat bits :: ·)
            else decodeFrom index (read + 1) bits due rest
          else .error (.invalid index read)

/-- The text that bytes encode. -/
def decode (bytes : List UInt8) : Except Fault String :=
  (decodeFrom 0 0 0 [] bytes).map String.ofList

end PocketSql.Utf8
