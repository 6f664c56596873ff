import Mathlib.Algebra.Group.Nat.Defs
import PocketSql.Cell
import PocketSql.Proofs.Unicode.Utf8
/-!
# Cells and the types of their columns

A cell fits a column type when its bytes can be read by it: four bytes for an integer, the encoding
of a text for a text. A cell that was written from a value is read back as that value, and a cell
that fits is read as a value of the type, from which the same cell is written again.
-/

namespace PocketSql

def Value.type : Value → ColumnType
  | .int _ => .int
  | .text _ => .text

theorem ofLittleEndian_littleEndian (width n : Nat) :
    ofLittleEndian (littleEndian width n) = n % 256 ^ width := by
  induction width generalizing n with
  | zero => rw [Nat.pow_zero, Nat.mod_one]; rfl
  | succ width ih =>
      have hbyte : (UInt8.ofNat (n % 256)).toNat = n % 256 := Utf8.toNat_ofNat (by omega)
      rw [littleEndian, ofLittleEndian, hbyte, ih, Nat.pow_succ', Nat.mod_mul]

theorem ofLittleEndian_lt (bytes : List UInt8) : ofLittleEndian bytes < 256 ^ bytes.length := by
  induction bytes with
  | nil => exact Nat.one_pos
  | cons byte bytes ih =>
      have hbyte : byte.toNat < 256 := byte.toNat_lt
      rw [ofLittleEndian, List.length_cons, Nat.pow_succ]
      omega

theorem littleEndian_ofLittleEndian (bytes : List UInt8) :
    littleEndian bytes.length (ofLittleEndian bytes) = bytes := by
  induction bytes with
  | nil => rfl
  | cons byte bytes ih =>
      have hbyte : byte.toNat < 256 := byte.toNat_lt
      have hfirst : (byte.toNat + 256 * ofLittleEndian bytes) % 256 = byte.toNat := by omega
      have hrest : (byte.toNat + 256 * ofLittleEndian bytes) / 256 = ofLittleEndian bytes := by
        omega
      rw [List.length_cons, ofLittleEndian, littleEndian, hfirst, hrest, ih, UInt8.ofNat_toNat]

namespace Cell

theorem asInt_ofInt (n : Int32) : (ofInt n).asInt = .ok n := by
  have hlength : (ofInt n).bytes.length = 4 := by
    rw [ofInt, List.length_reverse, littleEndian_length]
  have hread : ofLittleEndian (ofInt n).bytes.reverse = n.toUInt32.toNat := by
    rw [ofInt, List.reverse_reverse, ofLittleEndian_littleEndian]
    exact Nat.mod_eq_of_lt n.toUInt32.toNat_lt
  rw [asInt, if_pos hlength, hread, UInt32.ofNat_toNat]
  rfl

theorem asText_ofText (text : String) : (ofText text).asText = .ok text := by
  rw [asText, ofText, Utf8.decode_encode]
  rfl

/-- **A value is read back from its cell.** -/
theorem decode_ofValue (value : Value) : (ofValue value).decode value.type = .ok value := by
  cases value with
  | int n =>
      change (ofInt n).asInt.map Value.int = _
      rw [asInt_ofInt]
      rfl
  | text s =>
      change (ofText s).asText.map Value.text = _
      rw [asText_ofText]
      rfl

/-- Bytes that can be read by a column type. -/
def Fits (cell : Cell) : ColumnType → Prop
  | .int => cell.bytes.length = 4
  | .text => Utf8.Valid cell.bytes

theorem fits_ofValue (value : Value) : (ofValue value).Fits value.type := by
  cases value with
  | int n =>
      change (ofInt n).bytes.length = 4
      rw [ofInt, List.length_reverse, littleEndian_length]
  | text s => exact ⟨s, rfl⟩

/-! ### Only the cells of values are read -/

variable {cell : Cell} {type : ColumnType} {fault : Fault}

theorem asInt_eq_ok_iff {n : Int32} : cell.asInt = .ok n ↔ cell = ofInt n := by
  constructor
  · intro h
    rw [asInt] at h
    split at h
    case isTrue hlength =>
        obtain rfl := Except.ok.inj h
        have hreverse : cell.bytes.reverse.length = 4 := by
          rw [List.length_reverse, hlength]
        have hlt := ofLittleEndian_lt cell.bytes.reverse
        rw [hreverse] at hlt
        have hvalue : (UInt32.ofNat (ofLittleEndian cell.bytes.reverse)).toNat =
            ofLittleEndian cell.bytes.reverse := Nat.mod_eq_of_lt hlt
        have hbytes := littleEndian_ofLittleEndian cell.bytes.reverse
        rw [hreverse] at hbytes
        rw [ofInt, UInt32.toUInt32_toInt32, hvalue, hbytes, List.reverse_reverse]
    case isFalse => cases h
  · rintro rfl
    exact asInt_ofInt n

theorem asInt_eq_error_iff :
    cell.asInt = .error fault ↔ fault = .notFourBytes ∧ cell.bytes.length ≠ 4 := by
  rw [asInt]
  split
  case isTrue hlength => simp [hlength]
  case isFalse hlength => simp [hlength, eq_comm]

theorem asText_eq_ok_iff {text : String} : cell.asText = .ok text ↔ cell = ofText text := by
  rw [asText, mapError_eq_ok_iff, Utf8.decode_eq_ok_iff, ofText]
  cases cell
  simp

/-- **Cells and values are one to one.** A cell is read as a value of the type of its column exactly
when it is the cell of that value. -/
theorem decode_eq_ok_iff {value : Value} :
    cell.decode type = .ok value ↔ value.type = type ∧ ofValue value = cell := by
  constructor
  · intro h
    cases type with
    | int =>
        obtain ⟨n, hn, rfl⟩ := map_eq_ok_iff.mp h
        exact ⟨rfl, (asInt_eq_ok_iff.mp hn).symm⟩
    | text =>
        obtain ⟨s, hs, rfl⟩ := map_eq_ok_iff.mp h
        exact ⟨rfl, (asText_eq_ok_iff.mp hs).symm⟩
  · rintro ⟨rfl, rfl⟩
    exact decode_ofValue value

theorem fits_iff : cell.Fits type ↔ ∃ value : Value, value.type = type ∧ ofValue value = cell := by
  constructor
  · intro h
    cases type with
    | int =>
        have hlength : cell.bytes.length = 4 := h
        cases hread : cell.asInt with
        | error fault => exact absurd hlength (asInt_eq_error_iff.mp hread).2
        | ok n => exact ⟨.int n, rfl, (asInt_eq_ok_iff.mp hread).symm⟩
    | text =>
        obtain ⟨text, htext⟩ := h
        exact ⟨.text text, rfl, by rw [ofValue, ofText, ← htext]⟩
  · rintro ⟨value, rfl, rfl⟩
    exact fits_ofValue value

theorem exists_decode_of_fits (h : cell.Fits type) :
    ∃ value, cell.decode type = .ok value ∧ value.type = type := by
  obtain ⟨value, htype, hcell⟩ := fits_iff.mp h
  exact ⟨value, decode_eq_ok_iff.mpr ⟨htype, hcell⟩, htype⟩

end Cell
end PocketSql
