import Mathlib.Data.List.TakeWhile
import PocketSql.Proofs.Sequence
import PocketSql.Token.Numeral
/-!
# A numeral is read back

The characters of a numeral are read as that numeral, up to its last character, unless what follows
would make it longer or spoil it: a digit, a point or an exponent mark.
-/

namespace PocketSql.Numeral

/-- The grammar of numerals. -/
structure WellFormed (numeral : Numeral) : Prop where
  whole : ∀ c ∈ numeral.whole, isDigit c = true
  fraction : ∀ digits, numeral.fraction = some digits → ∀ c ∈ digits, isDigit c = true
  hasDigit : numeral.hasDigit = true
  exponent : ∀ sign digits, numeral.exponent = some (sign, digits) →
    (sign = [] ∨ ∃ c, isSign c = true ∧ sign = [c]) ∧ digits ≠ [] ∧ ∀ c ∈ digits, isDigit c = true

/-- One digit or more, and nothing else. -/
def Digits (chars : List Char) : Prop :=
  chars ≠ [] ∧ ∀ c ∈ chars, isDigit c = true

/-- A character that may not follow a numeral. -/
def goesOn (c : Char) : Bool :=
  isDigit c || c == '.' || c == 'e'

section Parts

variable {rest : List Char}

theorem not_isDigit_of_not_goesOn (h : rest.head?.any goesOn = false) :
    rest.head?.any isDigit = false := by
  cases rest with
  | nil => rfl
  | cons c rest =>
      simp only [List.head?_cons, Option.any_some, goesOn, Bool.or_eq_false_iff] at h ⊢
      exact h.1.1

theorem readFraction_of_head? (h : rest.head? ≠ some '.') : readFraction rest = (none, rest) := by
  rw [readFraction.eq_def]
  split
  · exact absurd rfl h
  · rfl

theorem readFraction_point {digits : List Char} (hdigits : ∀ c ∈ digits, isDigit c = true)
    (h : rest.head?.any isDigit = false) :
    readFraction ('.' :: (digits ++ rest)) = (some digits, rest) := by
  rw [readFraction, takeWhile_append_of_head? hdigits h, dropWhile_append_of_head? hdigits h]

theorem not_isSign_of_isDigit {c : Char} (h : isDigit c = true) : isSign c = false := by
  rw [isSign, Bool.or_eq_false_iff]
  constructor
  · refine Bool.eq_false_iff.mpr fun hsign => ?_
    rw [eq_of_beq hsign] at h
    exact absurd h (by decide)
  · refine Bool.eq_false_iff.mpr fun hsign => ?_
    rw [eq_of_beq hsign] at h
    exact absurd h (by decide)

theorem readSign_append {sign digits : List Char}
    (hsign : sign = [] ∨ ∃ c, isSign c = true ∧ sign = [c]) (hne : digits ≠ [])
    (hdigits : ∀ c ∈ digits, isDigit c = true) :
    readSign (sign ++ (digits ++ rest)) = (sign, digits ++ rest) := by
  rcases hsign with rfl | ⟨c, hc, rfl⟩
  · obtain ⟨c, others, rfl⟩ := List.exists_cons_of_ne_nil hne
    have hsign := not_isSign_of_isDigit (hdigits c List.mem_cons_self)
    rw [List.nil_append, List.cons_append, readSign, if_neg (by simp [hsign])]
  · rw [List.cons_append, readSign, if_pos hc]
    rfl

theorem close_of_head? {numeral : Numeral} (h : rest.head?.any goesOn = false)
    (hdigit : numeral.hasDigit = true) : numeral.close rest = .ok numeral := by
  rw [close.eq_def]
  split
  · cases h
  · cases h
  · rw [if_pos hdigit]

end Parts

/-- The fraction and the exponent of a numeral. -/
def fractionChars (numeral : Numeral) : List Char :=
  match numeral.fraction with
  | none => []
  | some digits => '.' :: digits

def exponentChars (numeral : Numeral) : List Char :=
  match numeral.exponent with
  | none => []
  | some (sign, digits) => 'e' :: (sign ++ digits)

theorem chars_eq (numeral : Numeral) :
    numeral.chars = numeral.whole ++ numeral.fractionChars ++ numeral.exponentChars := rfl

variable {numeral : Numeral} {rest : List Char}

/-- A numeral has no sign in front. It begins with a digit or with its point. -/
theorem not_isSign_head?_chars (h : numeral.WellFormed) :
    numeral.chars.head?.any isSign = false := by
  obtain ⟨whole, fraction, exponent⟩ := numeral
  cases whole with
  | cons c digits => exact not_isSign_of_isDigit (h.whole c List.mem_cons_self)
  | nil =>
      cases fraction with
      | none => cases h.hasDigit
      | some digits => rfl

/-- Numerals are written in ASCII, without blanks. -/
theorem printable_of_mem_chars (h : numeral.WellFormed) :
    ∀ c ∈ numeral.chars, 32 < c.toNat ∧ c.toNat < 128 := by
  have hdigit {c : Char} (hc : isDigit c = true) : 32 < c.toNat ∧ c.toNat < 128 := by
    simp only [isDigit, Bool.and_eq_true, decide_eq_true_eq] at hc
    have hge : 48 ≤ c.toNat := hc.1
    have hle : c.toNat ≤ 57 := hc.2
    omega
  have hfraction : ∀ c ∈ numeral.fractionChars, 32 < c.toNat ∧ c.toNat < 128 := by
    rw [fractionChars]
    cases hdigits : numeral.fraction with
    | none => simp
    | some digits =>
        refine List.forall_mem_cons.mpr ⟨by decide, fun c hc => ?_⟩
        exact hdigit (h.fraction digits hdigits c hc)
  have hexponent : ∀ c ∈ numeral.exponentChars, 32 < c.toNat ∧ c.toNat < 128 := by
    rw [exponentChars]
    cases hparts : numeral.exponent with
    | none => simp
    | some parts =>
        obtain ⟨sign, digits⟩ := parts
        obtain ⟨hsign, _, hdigits⟩ := h.exponent sign digits hparts
        refine List.forall_mem_cons.mpr ⟨by decide, List.forall_mem_append.mpr ⟨?_, ?_⟩⟩
        · rcases hsign with rfl | ⟨c, hc, rfl⟩
          · simp
          · rw [isSign, Bool.or_eq_true, beq_iff_eq, beq_iff_eq] at hc
            rcases hc with rfl | rfl <;> simp
        · exact fun c hc => hdigit (hdigits c hc)
  intro c hc
  rw [chars_eq, List.mem_append, List.mem_append] at hc
  rcases hc with (hc | hc) | hc
  · exact hdigit (h.whole c hc)
  · exact hfraction c hc
  · exact hexponent c hc

theorem exponentChars_head? (numeral : Numeral) (h : rest.head?.any goesOn = false) :
    (numeral.exponentChars ++ rest).head?.any isDigit = false ∧
      (numeral.exponentChars ++ rest).head? ≠ some '.' := by
  rw [exponentChars]
  split
  · refine ⟨not_isDigit_of_not_goesOn h, fun hpoint => ?_⟩
    rw [List.nil_append] at hpoint
    rw [hpoint] at h
    exact absurd h (by decide)
  · exact ⟨rfl, by simp⟩

theorem fractionChars_head? (numeral : Numeral) (h : rest.head?.any goesOn = false) :
    (numeral.fractionChars ++ (numeral.exponentChars ++ rest)).head?.any isDigit = false := by
  rw [fractionChars]
  split
  · exact (exponentChars_head? numeral h).1
  · rfl

theorem readFraction_fractionChars (hnumeral : numeral.WellFormed)
    (h : rest.head?.any goesOn = false) :
    readFraction (numeral.fractionChars ++ (numeral.exponentChars ++ rest)) =
      (numeral.fraction, numeral.exponentChars ++ rest) := by
  obtain ⟨hdigit, hpoint⟩ := exponentChars_head? numeral h
  rw [fractionChars]
  cases hfraction : numeral.fraction with
  | none => exact readFraction_of_head? hpoint
  | some digits => exact readFraction_point (hnumeral.fraction digits hfraction) hdigit

/-- **A numeral is read back.** -/
theorem read_chars_append (hnumeral : numeral.WellFormed) (h : rest.head?.any goesOn = false) :
    read (numeral.chars ++ rest) = .ok numeral := by
  have hhead := fractionChars_head? numeral h
  have hfraction := readFraction_fractionChars hnumeral h
  have hwhole := hnumeral.whole
  rw [chars_eq, List.append_assoc, List.append_assoc, read, takeWhile_append_of_head? hwhole hhead,
    dropWhile_append_of_head? hwhole hhead, hfraction]
  have hdigit := hnumeral.hasDigit
  obtain ⟨whole, fraction, exponent⟩ := numeral
  cases exponent with
  | none =>
      simp only [exponentChars, List.nil_append]
      split
      · cases h
      · exact close_of_head? h hdigit
  | some pair =>
      obtain ⟨sign, digits⟩ := pair
      obtain ⟨hsign, hne, hdigits⟩ := hnumeral.exponent sign digits rfl
      have hend := not_isDigit_of_not_goesOn h
      have hmantissa : hasDigit { whole, fraction } = true := hdigit
      have hempty : digits.isEmpty = false := by simpa using hne
      simp only [exponentChars, List.cons_append, List.append_assoc,
        readSign_append hsign hne hdigits, takeWhile_append_of_head? hdigits hend,
        dropWhile_append_of_head? hdigits hend, hmantissa, hempty]
      exact close_of_head? h hdigit

/-! ### What is read is a numeral -/

theorem isDigit_of_readFraction {source digits : List Char}
    (h : (readFraction source).1 = some digits) : ∀ c ∈ digits, isDigit c = true := by
  unfold readFraction at h
  split at h
  · cases h
    exact fun c => List.mem_takeWhile_imp
  · cases h

theorem isSign_of_readSign (source : List Char) :
    (readSign source).1 = [] ∨ ∃ c, isSign c = true ∧ (readSign source).1 = [c] := by
  unfold readSign
  split
  · split
    · rename_i c _ hsign
      exact .inr ⟨c, hsign, rfl⟩
    · exact .inl rfl
  · exact .inl rfl

/-- **What is read is a numeral of the grammar.** -/
theorem wellFormed_of_read {source : List Char} (h : read source = .ok numeral) :
    numeral.WellFormed := by
  have hdigit := hasDigit_of_read h
  have hspan (text : List Char) : ∀ c ∈ text.takeWhile isDigit, isDigit c = true :=
    fun c => List.mem_takeWhile_imp
  unfold read at h
  dsimp only at h
  split at h
  · rename_i rest _
    split at h
    · cases h
    · split at h
      · cases h
      · rename_i hsome
        obtain ⟨rfl, _⟩ := hasDigit_of_close h
        refine ⟨hspan source, fun _ => isDigit_of_readFraction, hdigit, ?_⟩
        intro sign digits hexponent
        cases hexponent
        exact ⟨isSign_of_readSign rest, by simpa using hsome, hspan _⟩
  · obtain ⟨rfl, _⟩ := hasDigit_of_close h
    refine ⟨hspan source, fun _ => isDigit_of_readFraction, hdigit, ?_⟩
    intro sign digits hexponent
    cases hexponent

/-! ### What is read stands at the front -/

theorem head?_of_close {result : Numeral} (h : numeral.close rest = .ok result) :
    rest.head? ≠ some '.' ∧ rest.head? ≠ some 'e' := by
  unfold close at h
  split at h
  · cases h
  · cases h
  · rename_i hpoint hmark
    constructor
    · intro hhead
      obtain ⟨others, rfl⟩ := List.head?_eq_some_iff.mp hhead
      exact hpoint others rfl
    · intro hhead
      obtain ⟨others, rfl⟩ := List.head?_eq_some_iff.mp hhead
      exact hmark others rfl

theorem not_goesOn_iff : rest.head?.any goesOn = false ↔
    rest.head?.any isDigit = false ∧ rest.head? ≠ some '.' ∧ rest.head? ≠ some 'e' := by
  cases rest with
  | nil => simp
  | cons c rest => simp [goesOn, and_assoc]

section Cut

variable {source : List Char}

theorem append_of_readFraction {fraction : Option (List Char)}
    (h : readFraction (source.dropWhile isDigit) = (fraction, rest)) :
    source = ({ whole := source.takeWhile isDigit, fraction } : Numeral).chars ++ rest := by
  have hsource : source = source.takeWhile isDigit ++ source.dropWhile isDigit :=
    List.takeWhile_append_dropWhile.symm
  unfold readFraction at h
  split at h
  · rename_i digits hpoint
    obtain ⟨rfl, rfl⟩ := Prod.mk.inj h
    rw [hpoint] at hsource
    simpa [chars] using hsource
  · obtain ⟨rfl, rfl⟩ := Prod.mk.inj h
    simp [chars]

theorem chars_withExponent (whole : List Char) (fraction : Option (List Char))
    (sign digits : List Char) :
    ({ whole, fraction, exponent := some (sign, digits) } : Numeral).chars =
      ({ whole, fraction } : Numeral).chars ++ 'e' :: (sign ++ digits) := by
  simp [chars]

theorem not_isDigit_of_readFraction {fraction : Option (List Char)}
    (h : readFraction source = (fraction, rest)) (hsource : source.head?.any isDigit = false) :
    rest.head?.any isDigit = false := by
  unfold readFraction at h
  split at h
  · obtain ⟨rfl, rfl⟩ := Prod.mk.inj h
    exact head?_dropWhile_any isDigit _
  · obtain ⟨rfl, rfl⟩ := Prod.mk.inj h
    exact hsource

theorem append_of_readSign {sign : List Char} (h : readSign source = (sign, rest)) :
    source = sign ++ rest := by
  unfold readSign at h
  split at h
  · split at h
    · obtain ⟨rfl, rfl⟩ := Prod.mk.inj h
      rfl
    · obtain ⟨rfl, rfl⟩ := Prod.mk.inj h
      rfl
  · obtain ⟨rfl, rfl⟩ := Prod.mk.inj h
    rfl

/-- **A numeral that is read stands at the front, and it ends there.** -/
theorem exists_rest_of_read (h : read source = .ok numeral) :
    ∃ rest, source = numeral.chars ++ rest ∧ rest.head?.any goesOn = false := by
  cases hfraction : readFraction (source.dropWhile isDigit) with
  | mk fraction tail =>
      have hmantissa := append_of_readFraction hfraction
      have htail := not_isDigit_of_readFraction hfraction (head?_dropWhile_any isDigit source)
      unfold read at h
      rw [hfraction] at h
      dsimp only at h
      split at h
      · rename_i tail
        cases hsign : readSign tail with
        | mk sign digits =>
            rw [hsign] at h
            dsimp only at h
            split at h
            · cases h
            · split at h
              · cases h
              · obtain ⟨rfl, _⟩ := hasDigit_of_close h
                have hend := head?_dropWhile_any isDigit digits
                have hexponent : tail =
                    sign ++ (digits.takeWhile isDigit ++ digits.dropWhile isDigit) := by
                  rw [List.takeWhile_append_dropWhile]
                  exact append_of_readSign hsign
                refine ⟨_, ?_, not_goesOn_iff.mpr ⟨hend, head?_of_close h⟩⟩
                rw [chars_withExponent, List.append_assoc, List.cons_append, List.append_assoc,
                  ← hexponent]
                exact hmantissa
      · obtain ⟨rfl, _⟩ := hasDigit_of_close h
        exact ⟨tail, hmantissa, not_goesOn_iff.mpr ⟨htail, head?_of_close h⟩⟩

end Cut

end PocketSql.Numeral
