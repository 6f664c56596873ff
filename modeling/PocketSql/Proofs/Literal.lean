import Mathlib.Data.List.Induction
import Mathlib.Data.Nat.Digits.Defs
import PocketSql.Proofs.Cell
import PocketSql.Proofs.Integer
import PocketSql.Statement.Basic
import PocketSql.Table
/-!
# Which literals a column takes

A numeral suits a column of integers when it is a sign, or none, and decimal digits that denote an
integer of 32 bits. A point or an exponent makes it unsuitable, and zeros in front do not. A quoted
text suits a column of text. A literal that suits is stored as the four bytes of the integer in two's
complement, the most significant first, or as the text in UTF-8. One that does not is refused, and
the refusal names the literal and the column.
-/

namespace PocketSql

/-! ### Decimal integers -/

namespace Integer

/-- The number that decimal digits denote by their places. -/
def number (digits : List Char) : Nat :=
  Nat.ofDigits 10 (digits.reverse.map fun digit => digit.toNat - '0'.toNat)

/-- Digits behind a sign or none, and the integer that they denote. -/
inductive Denotes : List Char → Int → Prop where
  | unsigned {digits : List Char} (h : Numeral.Digits digits) : Denotes digits (number digits)
  | plus {digits : List Char} (h : Numeral.Digits digits) :
      Denotes ('+' :: digits) (number digits)
  | minus {digits : List Char} (h : Numeral.Digits digits) :
      Denotes ('-' :: digits) (-(number digits : Int))

theorem digitsValue_eq_number (digits : List Char) : digitsValue 0 digits = number digits := by
  induction digits using List.reverseRecOn with
  | nil => rfl
  | append_singleton digits digit ih =>
      have hlast : digitsValue 0 (digits ++ [digit]) =
          digitsValue 0 digits * 10 + (digit.toNat - '0'.toNat) := by
        simp [digitsValue]
      rw [hlast, ih, number, number, List.reverse_concat, List.map_cons, Nat.ofDigits_cons]
      omega

theorem natural?_eq_some_iff {digits : List Char} {n : Nat} :
    natural? digits = some n ↔ Numeral.Digits digits ∧ n = number digits := by
  rw [natural?, digitsValue_eq_number]
  split
  case isTrue h =>
      constructor
      · intro hnone
        cases hnone
      · rintro ⟨hdigits, _⟩
        have hall : digits.all Numeral.isDigit = true := List.all_eq_true.mpr hdigits.2
        simp [hdigits.1, hall] at h
  case isFalse h =>
      have hdigits : Numeral.Digits digits := by simpa [Numeral.Digits] using h
      constructor
      · intro hn
        exact ⟨hdigits, (Option.some.inj hn).symm⟩
      · rintro ⟨_, rfl⟩
        rfl

theorem ofChars?_eq_some_iff {chars : List Char} {n : Int} :
    ofChars? chars = some n ↔ Denotes chars n := by
  constructor
  · intro h
    rw [ofChars?.eq_def] at h
    split at h
    all_goals
      obtain ⟨value, hvalue, rfl⟩ := Option.map_eq_some_iff.mp h
      obtain ⟨natural, hnatural, hcast⟩ := Option.bind_eq_some_iff.mp hvalue
      obtain rfl := Option.some.inj hcast
      obtain ⟨hdigits, rfl⟩ := natural?_eq_some_iff.mp hnatural
    · exact .minus hdigits
    · exact .plus hdigits
    · exact .unsigned hdigits
  · intro h
    cases h with
    | unsigned h =>
        rw [ofChars?_of_digits h.2, natural?_eq_some_iff.mpr ⟨h, rfl⟩]
        rfl
    | plus h =>
        rw [ofChars?, natural?_eq_some_iff.mpr ⟨h, rfl⟩]
        rfl
    | minus h =>
        rw [ofChars?, natural?_eq_some_iff.mpr ⟨h, rfl⟩]
        rfl

/-- **An integer of 32 bits is read exactly from what denotes it.** -/
theorem int32?_eq_some_iff {text : String} {n : Int32} :
    int32? text = some n ↔ Denotes text.toList n.toInt := by
  constructor
  · intro h
    obtain ⟨value, hvalue, h⟩ := Option.bind_eq_some_iff.mp h
    split at h
    case isTrue hrange =>
        cases h
        rw [Int32.toInt_ofInt_of_le hrange.1 (by omega)]
        exact ofChars?_eq_some_iff.mp hvalue
    case isFalse => cases h
  · intro h
    have hrange : -2147483648 ≤ n.toInt ∧ n.toInt ≤ 2147483647 := by
      have hle := n.le_toInt
      have hlt := n.toInt_lt
      omega
    rw [int32?, ofChars?_eq_some_iff.mpr h]
    change (if _ then some (Int32.ofInt n.toInt) else none) = _
    rw [if_pos hrange, Int32.ofInt_toInt]

theorem int32?_of_denotes {text : String} {n : Int} (h : Denotes text.toList n)
    (hlow : -2147483648 ≤ n) (hhigh : n ≤ 2147483647) : int32? text = some (Int32.ofInt n) := by
  rwa [int32?_eq_some_iff, Int32.toInt_ofInt_of_le hlow (by omega)]

end Integer

/-! ### Cells and what they hold -/

namespace Cell

/-- Four bytes, the most significant first, that are the integer in two's complement. -/
def HoldsInteger (cell : Cell) (n : Int) : Prop :=
  ∃ a b c d : UInt8, cell.bytes = [a, b, c, d] ∧
    (a.toNat * 2 ^ 24 + b.toNat * 2 ^ 16 + c.toNat * 2 ^ 8 + d.toNat : Int) = n % 2 ^ 32

/-- The bytes of the text in UTF-8. -/
def HoldsText (cell : Cell) (text : String) : Prop :=
  cell.bytes.toByteArray = text.toUTF8

theorem toNat_toUInt32 (n : Int32) : (n.toUInt32.toNat : Int) = n.toInt % 2 ^ 32 := by
  have hlt : n.toBitVec.toNat < 2 ^ 32 := n.toBitVec.isLt
  change (n.toBitVec.toNat : Int) = n.toBitVec.toInt % 2 ^ 32
  rw [BitVec.toInt_eq_toNat_cond]
  split
  · omega
  · omega

theorem holdsInteger_ofInt (n : Int32) : (ofInt n).HoldsInteger n.toInt := by
  have hread := ofLittleEndian_littleEndian 4 n.toUInt32.toNat
  have hlt := n.toUInt32.toNat_lt
  refine ⟨_, _, _, _, rfl, ?_⟩
  rw [← toNat_toUInt32]
  simp only [littleEndian, ofLittleEndian] at hread
  omega

theorem holdsText_ofText (text : String) : (ofText text).HoldsText text :=
  String.utf8Encode_toList

end Cell

/-! ### Literals in columns -/

/-- The literal can be stored in a column of the type. -/
def Token.Suits (token : Token) : ColumnType → Prop
  | .int => token.kind = .numeric ∧
      ∃ n, Integer.Denotes token.value.toList n ∧ -2147483648 ≤ n ∧ n ≤ 2147483647
  | .text => token.kind = .string

namespace Cell

variable {token : Token} {column : Column}

/-- The cell of the literal in a column of the type. -/
def Represents (cell : Cell) (token : Token) : ColumnType → Prop
  | .int => ∃ n, Integer.Denotes token.value.toList n ∧ cell.HoldsInteger n
  | .text => cell.HoldsText token.value

/-- The words that refuse a literal for a column. -/
def misfit (token : Token) (column : Column) : String :=
  if token.kind = .numeric ∧ column.type = .int then
    token.value ++ " is not a 32-bit integer for column " ++ column.name
  else
    token.kind.name ++ " literal " ++ token.value ++ " for " ++ column.type.name ++ " column " ++
      column.name

/-- **What a literal comes to in a column**: an integer, a text, or the refusal of one that does not
suit. -/
theorem ofLiteral_cases (token : Token) (column : Column) :
    (∃ n, token.kind = .numeric ∧ column.type = .int ∧ Integer.int32? token.value = some n ∧
      ofLiteral token column = .ok (ofInt n)) ∨
    (token.kind = .string ∧ column.type = .text ∧
      ofLiteral token column = .ok (ofText token.value)) ∨
    (¬token.Suits column.type ∧
      ofLiteral token column = .error (.invalidDataType (misfit token column))) := by
  rw [ofLiteral]
  split
  case h_1 hkind htype =>
      cases hn : Integer.int32? token.value with
      | some n => exact .inl ⟨n, hkind, htype, rfl, rfl⟩
      | none =>
          refine .inr (.inr ⟨?_, by rw [misfit, if_pos ⟨hkind, htype⟩]⟩)
          rw [htype]
          rintro ⟨_, n, hdenotes, hlow, hhigh⟩
          rw [Integer.int32?_of_denotes hdenotes hlow hhigh] at hn
          cases hn
  case h_2 hkind htype => exact .inr (.inl ⟨hkind, htype, rfl⟩)
  case h_3 hint htext =>
      refine .inr (.inr ⟨?_, by rw [misfit, if_neg fun hboth => hint hboth.1 hboth.2]⟩)
      cases htype : column.type with
      | int => exact fun hsuits => hint hsuits.1 htype
      | text => exact fun hkind => htext hkind htype

theorem exists_ofLiteral_of_suits (h : token.Suits column.type) :
    ∃ cell, ofLiteral token column = .ok cell ∧ cell.Represents token column.type := by
  obtain ⟨n, _, htype, hn, hcell⟩ | ⟨_, htype, hcell⟩ | ⟨hmisfit, _⟩ := ofLiteral_cases token column
  · refine ⟨_, hcell, ?_⟩
    rw [htype]
    exact ⟨n.toInt, Integer.int32?_eq_some_iff.mp hn, holdsInteger_ofInt n⟩
  · refine ⟨_, hcell, ?_⟩
    rw [htype]
    exact holdsText_ofText token.value
  · exact absurd h hmisfit

theorem ofLiteral_of_not_suits (h : ¬token.Suits column.type) :
    ofLiteral token column = .error (.invalidDataType (misfit token column)) := by
  obtain ⟨n, hkind, htype, hn, _⟩ | ⟨hkind, htype, _⟩ | ⟨_, hcell⟩ := ofLiteral_cases token column
  · have hlow := n.le_toInt
    have hhigh := n.toInt_lt
    rw [htype] at h
    exact absurd ⟨hkind, n.toInt, Integer.int32?_eq_some_iff.mp hn, by omega, by omega⟩ h
  · rw [htype] at h
    exact absurd hkind h
  · exact hcell

end Cell
end PocketSql
