import PocketSql.Proofs.Unicode.Lowercase
import PocketSql.Proofs.Unicode.Utf8
/-!
# A text in lower case stays as it is

Putting a text in lower case a second time changes nothing. Each character becomes one that is in
lower case, and it keeps being a letter; only the capital I with a dot becomes two, the second of
which is a combining mark and no letter. The table has too many characters to look at each of them,
so what has to hold of the forms of a run is read off its two ends.
-/

namespace PocketSql.Unicode

/-! ### Runs of lower-case forms -/

/-- Whether one of the ascending ranges has every code point from `low` to `high`. -/
def hasSpan : List (Nat × Nat) → Nat → Nat → Bool
  | [], _, _ => false
  | (first, last) :: rest, low, high =>
      first.ble low && (high.ble last || last.blt low && hasSpan rest low high)

theorem inRanges_of_hasSpan {ranges : List (Nat × Nat)} {low high point : Nat}
    (h : hasSpan ranges low high = true) (hlow : low ≤ point) (hhigh : point ≤ high) :
    inRanges ranges point = true := by
  induction ranges with
  | nil => cases h
  | cons range ranges ih =>
      obtain ⟨first, last⟩ := range
      simp only [hasSpan, Bool.and_eq_true, Bool.or_eq_true, Nat.ble_eq, Nat.blt_eq] at h
      rw [inRanges, if_neg (by omega)]
      rcases h.2 with hlast | ⟨_, hrest⟩
      · rw [if_pos (by omega)]
      · split
        · rfl
        · exact ih hrest

namespace CaseRun

variable {run other : CaseRun} {point : Nat}

/-- The lower-case form of a character of the run. -/
def form (run : CaseRun) (point : Nat) : Nat :=
  run.target + (point - run.first)

theorem form_bounds (h : run.contains point = true) :
    run.target ≤ run.form point ∧ run.form point ≤ run.form run.last := by
  obtain ⟨_, hlast, _⟩ := contains_iff.mp h
  exact ⟨Nat.le_add_right _ _, Nat.add_le_add_left (Nat.sub_le_sub_right hlast _) _⟩

/-- No lower-case form of the first run is in the other one: the forms lie before or behind it, or
they fall between its characters. -/
def avoids (run other : CaseRun) : Bool :=
  (run.form run.last).blt other.first || (other.last.blt run.target ||
    other.step == 2 && (run.step == 2 || run.first == run.last) &&
      (run.target + other.first) % 2 == 1)

theorem not_contains_of_avoids (h : run.avoids other = true) (hpoint : run.contains point = true) :
    other.contains (run.form point) = false := by
  rw [Bool.eq_false_iff]
  intro hother
  obtain ⟨hlow, hhigh⟩ := form_bounds hpoint
  obtain ⟨_, hbelow, hmultiple⟩ := contains_iff.mp hother
  simp only [avoids, Bool.or_eq_true, Bool.and_eq_true, Nat.blt_eq, beq_iff_eq] at h
  rcases h with hbefore | hbehind | ⟨⟨htwo, hown⟩, hodd⟩
  · omega
  · omega
  · -- The forms are all an odd distance away from the characters of the other run.
    have heven : (point - run.first) % 2 = 0 := by
      obtain ⟨_, _, hstep⟩ := contains_iff.mp hpoint
      rcases hown with hown | hown
      · rwa [hown] at hstep
      · omega
    rw [htwo] at hmultiple
    rw [form] at *
    omega

/-- The forms of the run are code points of characters, and none is the capital I with a dot. -/
def isProper (run : CaseRun) : Bool :=
  ((run.form run.last).blt 0x130 || Nat.blt 0x130 run.target ||
      run.step == 2 && run.target % 2 == 1) &&
    ((run.form run.last).blt 0xD800 ||
      Nat.blt 0xDFFF run.target && (run.form run.last).blt 0x110000)

theorem proper_form (h : run.isProper = true) (hpoint : run.contains point = true) :
    run.form point ≠ 0x130 ∧
      (run.form point < 0xD800 ∨ 0xDFFF < run.form point ∧ run.form point < 0x110000) := by
  obtain ⟨hlow, hhigh⟩ := form_bounds hpoint
  simp only [isProper, Bool.or_eq_true, Bool.and_eq_true, Nat.blt_eq, beq_iff_eq] at h
  obtain ⟨hdotted, hvalid⟩ := h
  refine ⟨?_, by omega⟩
  rcases hdotted with (hbefore | hbehind) | ⟨htwo, hodd⟩
  · omega
  · omega
  · obtain ⟨_, _, hstep⟩ := contains_iff.mp hpoint
    rw [htwo] at hstep
    rw [form]
    omega

end CaseRun

/-- The forms of every run are letters, in no run themselves. -/
theorem forms_of_mem_lowercaseRuns {run : CaseRun} (hmem : run ∈ lowercaseRuns) :
    (∀ other ∈ lowercaseRuns, run.avoids other = true) ∧
      hasSpan alphabeticRanges run.target (run.form run.last) = true ∧ run.isProper = true := by
  have hall : lowercaseRuns.all (fun run => lowercaseRuns.all run.avoids &&
      hasSpan alphabeticRanges run.target (run.form run.last) && run.isProper) = true := by
    decide +kernel
  have hforms := List.all_eq_true.mp hall run hmem
  simpa only [Bool.and_eq_true, List.all_eq_true, and_assoc] using hforms

theorem lowerPoint_form {run : CaseRun} {point : Nat} (hmem : run ∈ lowercaseRuns)
    (hpoint : run.contains point = true) :
    lowerPoint lowercaseRuns (run.form point) = run.form point := by
  obtain ⟨havoids, _, _⟩ := forms_of_mem_lowercaseRuns hmem
  rcases lowerPoint_cases lowercaseRuns (run.form point) with
    hown | ⟨other, hother, hcontains, _⟩
  · exact hown
  · have hapart := CaseRun.not_contains_of_avoids (havoids other hother) hpoint
    cases hapart.symm.trans hcontains

theorem isAlphabetic_form {run : CaseRun} {point : Nat} (hmem : run ∈ lowercaseRuns)
    (hpoint : run.contains point = true) :
    inRanges alphabeticRanges (run.form point) = true := by
  obtain ⟨_, hspan, _⟩ := forms_of_mem_lowercaseRuns hmem
  obtain ⟨hlow, hhigh⟩ := CaseRun.form_bounds hpoint
  exact inRanges_of_hasSpan hspan hlow hhigh

/-! ### Characters -/

/-- What a character becomes in lower case: one that is in lower case, itself or a letter, or the
letter i with a dot beside it. -/
inductive LowerForm (c : Char) : List Char → Prop where
  | one {d : Char} (hlower : lowerChar d = [d]) (hletter : d = c ∨ isAlphabetic d = true) :
      LowerForm c [d]
  | dotted (hc : c = '\u0130') : LowerForm c ['i', '\u0307']

theorem lowerForm_lowerChar (c : Char) : LowerForm c (lowerChar c) := by
  by_cases hdotted : c = '\u0130'
  · rw [lowerChar, if_pos hdotted]
    exact .dotted hdotted
  rw [lowerChar, if_neg hdotted]
  rcases lowerPoint_cases lowercaseRuns c.toNat with hown | ⟨run, hmem, hcontains, hform⟩
  · have hlower : lowerChar c = [c] := by
      rw [lowerChar, if_neg hdotted, hown, Char.ofNat_toNat]
    rw [hown, Char.ofNat_toNat]
    exact .one hlower (.inl rfl)
  · obtain ⟨_, _, hproper⟩ := forms_of_mem_lowercaseRuns hmem
    obtain ⟨hother, hvalid⟩ := CaseRun.proper_form hproper hcontains
    have hpoint := Utf8.toNat_charOfNat hvalid
    have hsame := lowerPoint_form hmem hcontains
    have hletter := isAlphabetic_form hmem hcontains
    -- From here on only these facts about the form matter, not the run that it comes from.
    change lowerPoint lowercaseRuns c.toNat = run.form c.toNat at hform
    rw [hform]
    generalize run.form c.toNat = point at *
    refine .one ?_ (.inr ?_)
    · have hne : Char.ofNat point ≠ '\u0130' := by
        intro hc
        rw [hc] at hpoint
        exact hother hpoint.symm
      rw [lowerChar, if_neg hne, hpoint, hsame]
    · rw [isAlphabetic, hpoint]
      exact hletter

/-! ### Whole texts -/

variable {before text : List Char}

/-- Lower case goes from one character to the next, the two small sigmas included. -/
theorem exists_lowercaseAfter_cons (before : List Char) (c : Char) (text : List Char) :
    ∃ lower, LowerForm c lower ∧
      lowercaseAfter before (c :: text) = lower ++ lowercaseAfter (c :: before) text := by
  refine ⟨_, ?_, by rw [lowercaseAfter]⟩
  split
  case isTrue =>
      split
      · exact .one (by decide +kernel) (.inr (by decide +kernel))
      · exact .one (by decide +kernel) (.inr (by decide +kernel))
  case isFalse => exact lowerForm_lowerChar c

theorem lowerChar_of_mem_lowercaseAfter {x : Char} (hx : x ∈ lowercaseAfter before text) :
    lowerChar x = [x] := by
  induction text generalizing before with
  | nil => cases hx
  | cons c text ih =>
      obtain ⟨lower, hlower, hcons⟩ := exists_lowercaseAfter_cons before c text
      rw [hcons, List.mem_append] at hx
      rcases hx with hx | hx
      · cases hlower with
        | one hown _ =>
            cases List.mem_singleton.mp hx
            exact hown
        | dotted _ =>
            simp only [List.mem_cons, List.not_mem_nil, or_false] at hx
            rcases hx with rfl | rfl
            · decide +kernel
            · decide +kernel
      · exact ih hx

theorem lowercaseAfter_eq_self (h : ∀ c ∈ text, lowerChar c = [c]) :
    lowercaseAfter before text = text := by
  induction text generalizing before with
  | nil => rfl
  | cons c text ih =>
      obtain ⟨hc, htext⟩ := List.forall_mem_cons.mp h
      have hsigma : c ≠ 'Σ' := by
        rintro rfl
        exact absurd hc (by decide +kernel)
      rw [lowercaseAfter, if_neg hsigma, hc, ih htext]
      rfl

theorem lowercase_ofList (chars : List Char) :
    lowercase (String.ofList chars) = String.ofList (lowercaseChars chars) := by
  rw [lowercase, String.toList_ofList]

/-- **A text in lower case stays as it is.** -/
theorem lowercase_lowercase (text : String) : lowercase (lowercase text) = lowercase text := by
  rw [lowercase, lowercaseChars, lowercaseAfter_eq_self, String.ofList_toList]
  intro c hc
  rw [lowercase, String.toList_ofList] at hc
  exact lowerChar_of_mem_lowercaseAfter hc

/-- A text that begins with a letter begins with one in lower case. -/
theorem head?_lowercaseAfter (h : text.head?.any isAlphabetic = true) :
    (lowercaseAfter before text).head?.any isAlphabetic = true := by
  cases text with
  | nil => cases h
  | cons c text =>
      obtain ⟨lower, hlower, hcons⟩ := exists_lowercaseAfter_cons before c text
      rw [hcons]
      cases hlower with
      | one _ hletter =>
          rcases hletter with rfl | hletter
          · exact h
          · exact hletter
      | dotted _ => exact (by decide +kernel : isAlphabetic 'i' = true)

/-- What holds of letters and of the characters of a text holds of those in lower case, the dot of
a capital I apart. -/
theorem of_mem_lowercaseAfter {p : Char → Prop} (hletter : ∀ c, isAlphabetic c = true → p c)
    (htext : ∀ c ∈ text, p c) {x : Char} (hx : x ∈ lowercaseAfter before text) :
    p x ∨ x = '\u0307' ∧ '\u0130' ∈ text := by
  induction text generalizing before with
  | nil => cases hx
  | cons c text ih =>
      obtain ⟨hc, htext⟩ := List.forall_mem_cons.mp htext
      obtain ⟨lower, hlower, hcons⟩ := exists_lowercaseAfter_cons before c text
      rw [hcons, List.mem_append] at hx
      rcases hx with hx | hx
      · cases hlower with
        | one _ hd =>
            cases List.mem_singleton.mp hx
            rcases hd with rfl | hd
            · exact .inl hc
            · exact .inl (hletter _ hd)
        | dotted hdotted =>
            simp only [List.mem_cons, List.not_mem_nil, or_false] at hx
            rcases hx with rfl | rfl
            · exact .inl (hletter _ (by decide +kernel))
            · exact .inr ⟨rfl, hdotted ▸ List.mem_cons_self⟩
      · rcases ih htext hx with hx | ⟨hx, hmem⟩
        · exact .inl hx
        · exact .inr ⟨hx, List.mem_cons_of_mem _ hmem⟩

theorem dot_mem_lowercaseAfter (h : '\u0130' ∈ text) : '\u0307' ∈ lowercaseAfter before text := by
  induction text generalizing before with
  | nil => cases h
  | cons c text ih =>
      rcases List.mem_cons.mp h with hc | hmem
      · have hsigma : c ≠ 'Σ' := by
          rw [← hc]
          decide
        rw [lowercaseAfter, if_neg hsigma, ← hc, lowerChar, if_pos rfl]
        simp
      · rw [lowercaseAfter]
        exact List.mem_append_right _ (ih hmem)

end PocketSql.Unicode
