import PocketSql.Proofs.Unicode.Utf8
/-!
# Bytes that have the look of a character

The scheme of UTF-8 has room for more numbers than there are characters, and it has several forms for
small numbers. A form that is longer than its number needs, that of a surrogate and that of a number
above the last character are all refused right where they begin, whatever stands in front of them as
a text and whatever follows. So none of them occurs in the bytes of a text.
-/

namespace PocketSql.Utf8

variable {width n : Nat} {first second : UInt8} {range : ByteRange} {due : List ByteRange}

/-- The bytes that the scheme has for a number in this width: the mark of the width with the highest
bits in the first byte, and six bits in each byte after it. -/
def form : Nat → Nat → List UInt8
  | 2, n => [UInt8.ofNat (n / 64 + 0xC0), UInt8.ofNat (n % 64 + 0x80)]
  | 3, n => [UInt8.ofNat (n / 4096 + 0xE0), UInt8.ofNat (n / 64 % 64 + 0x80),
      UInt8.ofNat (n % 64 + 0x80)]
  | 4, n => [UInt8.ofNat (n / 262144 + 0xF0), UInt8.ofNat (n / 4096 % 64 + 0x80),
      UInt8.ofNat (n / 64 % 64 + 0x80), UInt8.ofNat (n % 64 + 0x80)]
  | _, n => [UInt8.ofNat n]

/-- The number has a form of this width that is not the one of a character. -/
inductive NoCharacter : Nat → Nat → Prop where
  | overlongTwo {n : Nat} (h : n < 0x80) : NoCharacter 2 n
  | overlongThree {n : Nat} (h : n < 0x800) : NoCharacter 3 n
  | overlongFour {n : Nat} (h : n < 0x10000) : NoCharacter 4 n
  | surrogate {n : Nat} (hlow : 0xD800 ≤ n) (hhigh : n ≤ 0xDFFF) : NoCharacter 3 n
  | above {n : Nat} (hlow : 0x10FFFF < n) (hhigh : n < 0x200000) : NoCharacter 4 n

theorem decodeFrom_of_no_first (h : followers first = none) (index : Nat) (rest : List UInt8) :
    decodeFrom index 0 0 [] (first :: rest) = .error (.invalid index 1) := by
  rw [decodeFrom, h]

theorem decodeFrom_of_no_second (h : followers first = some (range :: due))
    (hsecond : range.contains second = false) (index : Nat) (rest : List UInt8) :
    decodeFrom index 0 0 [] (first :: second :: rest) = .error (.invalid index 1) := by
  rw [decodeFrom_first h, decodeFrom, hsecond]
  rfl

theorem contains_eq_false (low high value : Nat) (hlow : low < 256) (hhigh : high < 256)
    (hvalue : value < 256) (hout : value < low ∨ high < value) :
    (⟨UInt8.ofNat low, UInt8.ofNat high⟩ : ByteRange).contains (UInt8.ofNat value) = false := by
  rw [Bool.eq_false_iff]
  intro hin
  obtain ⟨hle, hge⟩ := toNat_of_contains low high hlow hhigh hin
  rw [toNat_ofNat hvalue] at hle hge
  omega

/-- **A form of no character is refused where it begins.** -/
theorem decodeFrom_form (h : NoCharacter width n) (index : Nat) (rest : List UInt8) :
    decodeFrom index 0 0 [] (form width n ++ rest) = .error (.invalid index 1) := by
  cases h with
  | overlongTwo h =>
      exact decodeFrom_of_no_first (followers_none _ (by omega) (by omega)) index _
  | overlongThree h =>
      have hlead : n / 4096 = 0 := by omega
      have hsecond := contains_eq_false 0xA0 0xBF (n / 64 % 64 + 0x80) (by decide) (by decide)
        (by omega) (by omega)
      rw [form, hlead]
      exact decodeFrom_of_no_second rfl hsecond index _
  | overlongFour h =>
      have hlead : n / 262144 = 0 := by omega
      have hsecond := contains_eq_false 0x90 0xBF (n / 4096 % 64 + 0x80) (by decide) (by decide)
        (by omega) (by omega)
      rw [form, hlead]
      exact decodeFrom_of_no_second rfl hsecond index _
  | surrogate hlow hhigh =>
      have hlead : n / 4096 = 0xD := by omega
      have hsecond := contains_eq_false 0x80 0x9F (n / 64 % 64 + 0x80) (by decide) (by decide)
        (by omega) (by omega)
      rw [form, hlead]
      exact decodeFrom_of_no_second rfl hsecond index _
  | above hlow hhigh =>
      by_cases hlead : n / 262144 = 4
      · have hsecond := contains_eq_false 0x80 0x8F (n / 4096 % 64 + 0x80) (by decide) (by decide)
          (by omega) (by omega)
        rw [form, hlead]
        exact decodeFrom_of_no_second rfl hsecond index _
      · exact decodeFrom_of_no_first (followers_none _ (by omega) (by omega)) index _

theorem decode_form (h : NoCharacter width n) (text : String) (rest : List UInt8) :
    decode (encode text ++ form width n ++ rest) = .error (.invalid (encode text).length 1) := by
  rw [decode, encode, List.append_assoc, decodeFrom_flatMap, decodeFrom_form h, Nat.zero_add]
  rfl

end PocketSql.Utf8
