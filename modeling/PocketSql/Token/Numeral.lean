/-!
# Numerals

A numeral is written with ASCII digits: a whole part, a point with more digits, and an exponent. It
has a digit before its exponent, on either side of the point, and a digit in its exponent:

    (D+ [. D*] | . D+) [e [+ or -] D+]

The reader takes as much as it can. What follows may not be another point or another exponent mark,
so that `1.2.3` is no numeral rather than two. A refusal that deserves a remark says how far the
reader had come.
-/

namespace PocketSql

/-- A numeral by its parts: `fraction` is there with the point, and `exponent` with the mark. -/
structure Numeral where
  whole : List Char
  fraction : Option (List Char) := none
  exponent : Option (List Char × List Char) := none
  deriving DecidableEq, Repr

namespace Numeral

/-- Why a text does not begin with a numeral. -/
inductive Fault where
  /-- A second point, or a point after the exponent, that many characters on. -/
  | repeatedPoint (offset : Nat)
  /-- No digit where the exponent must begin, that many characters on. -/
  | bareExponent (offset : Nat)
  /-- No digit at all, or a second exponent mark. -/
  | malformed
  deriving DecidableEq, Repr

def isDigit (c : Char) : Bool :=
  '0' ≤ c && c ≤ '9'

def isSign (c : Char) : Bool :=
  c == '+' || c == '-'

/-- The characters of a numeral. -/
def chars (numeral : Numeral) : List Char :=
  let fraction := match numeral.fraction with
    | none => []
    | some digits => '.' :: digits
  let exponent := match numeral.exponent with
    | none => []
    | some (sign, digits) => 'e' :: (sign ++ digits)
  numeral.whole ++ fraction ++ exponent

def hasDigit (numeral : Numeral) : Bool :=
  !numeral.whole.isEmpty || numeral.fraction.any (!·.isEmpty)

/-- Ends a numeral where the given text follows it. -/
def close (numeral : Numeral) : List Char → Except Fault Numeral
  | '.' :: _ => .error (.repeatedPoint numeral.chars.length)
  | 'e' :: _ => .error .malformed
  | _ => if numeral.hasDigit then .ok numeral else .error .malformed

/-- The point and the digits after it at the front of a text, and what follows them. -/
def readFraction : List Char → Option (List Char) × List Char
  | '.' :: rest => (some (rest.takeWhile isDigit), rest.dropWhile isDigit)
  | rest => (none, rest)

/-- The sign at the front of a text, and what follows it. -/
def readSign : List Char → List Char × List Char
  | c :: rest => if isSign c then ([c], rest) else ([], c :: rest)
  | [] => ([], [])

/-- The longest numeral at the front of a text. -/
def read (source : List Char) : Except Fault Numeral :=
  let (fraction, rest) := readFraction (source.dropWhile isDigit)
  let mantissa : Numeral := { whole := source.takeWhile isDigit, fraction }
  match rest with
  | 'e' :: rest =>
      let (sign, rest) := readSign rest
      let digits := rest.takeWhile isDigit
      if !mantissa.hasDigit then .error .malformed
      else if digits.isEmpty then
        .error (.bareExponent (mantissa.chars.length + 1 + sign.length))
      else { mantissa with exponent := some (sign, digits) }.close (rest.dropWhile isDigit)
  | rest => mantissa.close rest

theorem chars_length_pos {numeral : Numeral} (h : numeral.hasDigit = true) :
    0 < numeral.chars.length := by
  obtain ⟨whole, fraction, exponent⟩ := numeral
  cases whole with
  | cons c rest => simp [chars]
  | nil =>
      cases fraction with
      | none => simp [hasDigit] at h
      | some digits => simp [chars]

theorem hasDigit_of_close {numeral result : Numeral} {rest : List Char}
    (h : numeral.close rest = .ok result) : result = numeral ∧ numeral.hasDigit = true := by
  unfold close at h
  split at h
  · cases h
  · cases h
  · split at h
    · rename_i hdigit
      cases h
      exact ⟨rfl, hdigit⟩
    · cases h

theorem hasDigit_of_read {source : List Char} {numeral : Numeral}
    (h : read source = .ok numeral) : numeral.hasDigit = true := by
  unfold read at h
  dsimp only at h
  split at h
  · split at h
    · cases h
    · split at h
      · cases h
      · obtain ⟨rfl, hdigit⟩ := hasDigit_of_close h
        exact hdigit
  · obtain ⟨rfl, hdigit⟩ := hasDigit_of_close h
    exact hdigit

end Numeral
end PocketSql
