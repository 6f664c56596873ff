import PocketSql.Unicode.Alphabetic
import PocketSql.Unicode.Lowercase
/-!
# ASCII letters and lower case

An ASCII character is put in lower case as ASCII does it. The other way round, very few characters
have an ASCII letter in their lower-case form: the ASCII letters, the Kelvin sign and the capital I
with a dot. All of them are letters.
-/

namespace PocketSql.Unicode

/-- What holds of all code points below a bound holds of the characters there. -/
theorem of_points {bound : Nat} {p : Char → Prop} (h : ∀ point < bound, p (Char.ofNat point))
    {c : Char} (hc : c.toNat < bound) : p c := by
  have hpoint := h c.toNat hc
  rwa [Char.ofNat_toNat] at hpoint

theorem lowerChar_ascii {c : Char} (h : c.toNat < 128) : lowerChar c = [c.toLower] := by
  revert c
  apply of_points
  decide +kernel

theorem CaseRun.contains_iff {run : CaseRun} {point : Nat} :
    run.contains point = true ↔
      run.first ≤ point ∧ point ≤ run.last ∧ (point - run.first) % run.step = 0 := by
  simp [contains, and_assoc]

/-- A lower-case form is the character's own or comes from one of the runs. -/
theorem lowerPoint_cases (runs : List CaseRun) (point : Nat) :
    lowerPoint runs point = point ∨
      ∃ run ∈ runs, run.contains point = true ∧
        lowerPoint runs point = run.target + (point - run.first) := by
  induction runs with
  | nil => exact .inl rfl
  | cons run runs ih =>
      rw [lowerPoint]
      by_cases hfirst : point < run.first
      · rw [if_pos hfirst]
        exact .inl rfl
      · rw [if_neg hfirst]
        by_cases hcontains : run.contains point = true
        · rw [if_pos hcontains]
          exact .inr ⟨run, List.mem_cons_self, hcontains, rfl⟩
        · rw [if_neg hcontains]
          rcases ih with hown | ⟨other, hmem, hother⟩
          · exact .inl hown
          · exact .inr ⟨other, List.mem_cons_of_mem _ hmem, hother⟩

/-- The runs that lead to ASCII begin at the letter A and at the Kelvin sign. -/
theorem target_of_mem_lowercaseRuns :
    ∀ run ∈ lowercaseRuns, 127 < run.target ∨
      (run.first = 65 ∧ run.last = 90 ∧ run.target = 97) ∨
      (run.first = 8490 ∧ run.last = 8490) := by
  decide +kernel

theorem isAlphabetic_of_point {c : Char}
    (h : (65 ≤ c.toNat ∧ c.toNat ≤ 90) ∨ (97 ≤ c.toNat ∧ c.toNat ≤ 122) ∨ c.toNat = 8490 ∨
      c.toNat = 304) : isAlphabetic c = true := by
  have hletters : ∀ point < 123, (65 ≤ point ∧ point ≤ 90) ∨ (97 ≤ point ∧ point ≤ 122) →
      inRanges alphabeticRanges point = true := by
    decide +kernel
  rw [isAlphabetic]
  rcases h with h | h | h | h
  · exact hletters _ (by omega) (.inl h)
  · exact hletters _ (by omega) (.inr h)
  · rw [h]
    decide +kernel
  · rw [h]
    decide +kernel

theorem eq_toNat_of_ofNat {point : Nat} {c : Char} (h : c = Char.ofNat point) (hc : 0 < c.toNat) :
    point = c.toNat := by
  subst h
  by_cases hvalid : point.isValidChar
  · have hchar : Char.ofNat point = Char.ofNatAux point hvalid := dif_pos hvalid
    rw [hchar]
    rfl
  · have hchar : Char.ofNat point = Char.ofNat 0 := dif_neg hvalid
    rw [hchar] at hc
    exact absurd hc (by decide)

/-- A character with an ASCII letter in its lower-case form is a letter. -/
theorem isAlphabetic_of_mem_lowerChar {c x : Char} (hx : x ∈ lowerChar c) (hfirst : 97 ≤ x.toNat)
    (hlast : x.toNat ≤ 122) : isAlphabetic c = true := by
  refine isAlphabetic_of_point ?_
  rw [lowerChar] at hx
  split at hx
  case isTrue h =>
      rw [h]
      decide
  case isFalse =>
      have hpoint := eq_toNat_of_ofNat (List.mem_singleton.mp hx) (by omega)
      rcases lowerPoint_cases lowercaseRuns c.toNat with hown | ⟨run, hmem, hcontains, hform⟩
      · omega
      · have htarget := target_of_mem_lowercaseRuns run hmem
        obtain ⟨_, _, _⟩ := CaseRun.contains_iff.mp hcontains
        omega

/-- The Kelvin sign apart, only ASCII has an ASCII lower-case form. -/
theorem ascii_of_lowerChar {c : Char}
    (h : ∀ x ∈ lowerChar c, 0 < x.toNat ∧ x.toNat < 128 ∧ x ≠ 'k') : c.toNat < 128 := by
  have hkelvin : c.toNat ≠ 8490 := by
    intro hc
    have hlower : lowerChar (Char.ofNat 8490) = ['k'] := by
      decide +kernel
    rw [← hc, Char.ofNat_toNat] at hlower
    simp [hlower] at h
  rw [lowerChar] at h
  split at h
  case isTrue =>
      simp at h
  case isFalse =>
      obtain ⟨hpos, hle, _⟩ := h _ (List.mem_singleton_self _)
      have hpoint := eq_toNat_of_ofNat rfl hpos
      rcases lowerPoint_cases lowercaseRuns c.toNat with hown | ⟨run, hmem, hcontains, hform⟩
      · omega
      · have htarget := target_of_mem_lowercaseRuns run hmem
        obtain ⟨_, _, _⟩ := CaseRun.contains_iff.mp hcontains
        omega

theorem ascii_of_toLower {c : Char} (h : c.toLower.toNat < 128) : c.toNat < 128 := by
  delta Char.toLower at h
  split at h
  case isTrue hupper =>
      have hlast : c.toNat ≤ 90 := hupper.2
      omega
  case isFalse => exact h

/-! ### Whole texts -/

theorem lowercaseAfter_ascii (before : List Char) {text : List Char}
    (h : ∀ c ∈ text, c.toNat < 128) : lowercaseAfter before text = text.map Char.toLower := by
  induction text generalizing before with
  | nil => rfl
  | cons c text ih =>
      obtain ⟨hc, htext⟩ := List.forall_mem_cons.mp h
      have hsigma : c ≠ 'Σ' := by
        rintro rfl
        exact absurd hc (by decide)
      rw [lowercaseAfter, if_neg hsigma, lowerChar_ascii hc, ih _ htext]
      rfl

/-- A text is ASCII if its lower-case form is, the letter k apart. -/
theorem ascii_of_lowercaseAfter {before text : List Char}
    (h : ∀ x ∈ lowercaseAfter before text, 0 < x.toNat ∧ x.toNat < 128 ∧ x ≠ 'k') :
    ∀ c ∈ text, c.toNat < 128 := by
  induction text generalizing before with
  | nil => simp
  | cons c text ih =>
      rw [lowercaseAfter, List.forall_mem_append] at h
      obtain ⟨hc, htext⟩ := h
      refine List.forall_mem_cons.mpr ⟨?_, ih htext⟩
      split at hc
      case isTrue =>
          -- Neither of the two small sigmas is ASCII.
          split at hc
          · exact absurd (hc _ List.mem_cons_self).2.1 (by decide)
          · exact absurd (hc _ List.mem_cons_self).2.1 (by decide)
      case isFalse => exact ascii_of_lowerChar hc

/-- Only ASCII spells a word of ASCII letters in some case, the letter k apart. -/
theorem lowercase_eq_iff {text word : String}
    (hword : ∀ x ∈ word.toList, 0 < x.toNat ∧ x.toNat < 128 ∧ x ≠ 'k') :
    lowercase text = word ↔ text.toList.map Char.toLower = word.toList := by
  rw [lowercase, lowercaseChars]
  constructor
  · rintro rfl
    rw [String.toList_ofList] at hword ⊢
    exact (lowercaseAfter_ascii [] (ascii_of_lowercaseAfter hword)).symm
  · intro h
    have hascii : ∀ c ∈ text.toList, c.toNat < 128 := by
      intro c hc
      apply ascii_of_toLower
      refine (hword c.toLower ?_).2.1
      rw [← h]
      exact List.mem_map_of_mem hc
    rw [lowercaseAfter_ascii [] hascii, h, String.ofList_toList]

end PocketSql.Unicode
