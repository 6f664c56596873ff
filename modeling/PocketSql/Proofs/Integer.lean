import PocketSql.Cell
import PocketSql.Integer
import PocketSql.Proofs.Token.Numeral
/-!
# Integers in decimal are read back

The decimal digits of a natural number are a numeral, and they denote that number. So an integer
that is not negative is read back from the text that displays it. A negative one is not written as a
single numeral, and no numeral is read as one.
-/

namespace PocketSql

/-- The decimal digits of a number as a numeral. -/
def Numeral.ofNat (n : Nat) : Numeral where
  whole := Nat.toDigits 10 n

theorem Numeral.isDigit_of_mem_toDigits (n : Nat) :
    ∀ c ∈ Nat.toDigits 10 n, Numeral.isDigit c = true := by
  intro c hc
  have hdigit : c.isDigit = true := Nat.isDigit_of_mem_toDigits (by decide) (by decide) hc
  simpa [Char.isDigit, Numeral.isDigit, Char.le_def] using hdigit

theorem Numeral.wellFormed_ofNat (n : Nat) : (Numeral.ofNat n).WellFormed where
  whole := isDigit_of_mem_toDigits n
  fraction := by
    intro digits h
    cases h
  hasDigit := by
    rw [hasDigit]
    simp [Numeral.ofNat, Nat.toDigits_ne_nil]
  exponent := by
    intro sign digits h
    cases h

theorem Numeral.chars_ofNat (n : Nat) : (Numeral.ofNat n).chars = Nat.toDigits 10 n := by
  rw [chars_eq]
  exact (List.append_nil _).trans (List.append_nil _)

namespace Integer

theorem natural?_toDigits (n : Nat) : natural? (Nat.toDigits 10 n) = some n := by
  have hdigits : (Nat.toDigits 10 n).all Numeral.isDigit = true :=
    List.all_eq_true.mpr (Numeral.isDigit_of_mem_toDigits n)
  have hvalue : digitsValue 0 (Nat.toDigits 10 n) = n := by
    have hfold := Nat.ofDigitChars_ten_toDigits (n := n)
    rw [Nat.ofDigitChars_eq_foldl] at hfold
    simpa only [digitsValue, Nat.mul_comm] using hfold
  rw [natural?, if_neg (by simp [Nat.toDigits_ne_nil, hdigits]), hvalue]

theorem ofChars?_of_digits {digits : List Char} (h : ∀ c ∈ digits, Numeral.isDigit c = true) :
    ofChars? digits = (natural? digits).map fun n => (n : Int) := by
  rw [ofChars?.eq_def]
  split
  · exact absurd (h '-' List.mem_cons_self) (by decide)
  · exact absurd (h '+' List.mem_cons_self) (by decide)
  · rfl

theorem nonneg_of_ofChars? {chars : List Char} {n : Int}
    (hsign : chars.head?.any Numeral.isSign = false) (h : ofChars? chars = some n) : 0 ≤ n := by
  rw [ofChars?.eq_def] at h
  split at h
  · cases hsign
  · cases hsign
  · cases hnatural : natural? chars with
    | none =>
        rw [hnatural] at h
        cases h
    | some value =>
        rw [hnatural] at h
        cases h
        exact Int.natCast_nonneg value

/-- Without a sign in front no negative integer is read. -/
theorem nonneg_of_int32? {text : String} {n : Int32}
    (hsign : text.toList.head?.any Numeral.isSign = false) (h : int32? text = some n) :
    0 ≤ n.toInt := by
  obtain ⟨value, hvalue, h⟩ := Option.bind_eq_some_iff.mp h
  have hvalue := nonneg_of_ofChars? hsign hvalue
  split at h
  · next hrange =>
      cases h
      rwa [Int32.toInt_ofInt_of_le hrange.1 (by omega)]
  · cases h

theorem toList_display {n : Int32} (h : 0 ≤ n.toInt) :
    (Value.int n).display.toList = Nat.toDigits 10 n.toInt.toNat := by
  have hcast : n.toInt = (n.toInt.toNat : Int) := (Int.toNat_of_nonneg h).symm
  rw [Value.display, hcast]
  exact Nat.toList_repr

/-- An integer that is not negative is read back from its digits. -/
theorem int32?_display {n : Int32} (h : 0 ≤ n.toInt) :
    int32? (Value.int n).display = some n := by
  have hread : ofChars? (Value.int n).display.toList = some n.toInt := by
    rw [toList_display h, ofChars?_of_digits (Numeral.isDigit_of_mem_toDigits _),
      natural?_toDigits]
    exact congrArg some (Int.toNat_of_nonneg h)
  have hrange : -2147483648 ≤ n.toInt ∧ n.toInt ≤ 2147483647 := by
    have hlt := n.toInt_lt
    omega
  rw [int32?, hread]
  change (if _ then some (Int32.ofInt n.toInt) else none) = _
  rw [if_pos hrange, Int32.ofInt_toInt]

end Integer
end PocketSql
