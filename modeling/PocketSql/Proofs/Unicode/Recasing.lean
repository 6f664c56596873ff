import PocketSql.Proofs.Location
import PocketSql.Proofs.Unicode.Lowercase
import PocketSql.Token.Scanner
/-!
# Texts that differ in ASCII case

Two texts with the same characters up to the case of ASCII letters have one ASCII lower-case form,
that of `Char.toLower`. They agree in everything that is said about them character by character
without regard to case: which characters are letters, go on with a name, are cased or are looked
through. So they are lower-cased to the same text, in which even the sigmas have the same form, and
they lead to the same place.
-/

namespace PocketSql

namespace Unicode

variable {a b : List Char} {c : Char}

/-- What is the same for the two cases of each ASCII letter does not depend on ASCII case. -/
theorem apply_toLower {α : Type} (f : Char → α)
    (h : ∀ point < 91, 65 ≤ point → f (Char.ofNat point).toLower = f (Char.ofNat point))
    (c : Char) : f c.toLower = f c := by
  by_cases hupper : 65 ≤ c.toNat ∧ c.toNat ≤ 90
  · have hc := h c.toNat (by omega) hupper.1
    rwa [Char.ofNat_toNat] at hc
  · have hsame : c.toLower = c := by
      delta Char.toLower
      exact dif_neg hupper
    rw [hsame]

theorem isAlphabetic_toLower (c : Char) : isAlphabetic c.toLower = isAlphabetic c :=
  apply_toLower isAlphabetic (by decide +kernel) c

theorem isNameChar_toLower (c : Char) : Scanner.isNameChar c.toLower = Scanner.isNameChar c :=
  apply_toLower Scanner.isNameChar (by decide +kernel) c

theorem isCased_toLower (c : Char) : isCased c.toLower = isCased c :=
  apply_toLower isCased (by decide +kernel) c

theorem isCaseIgnorable_toLower (c : Char) : isCaseIgnorable c.toLower = isCaseIgnorable c :=
  apply_toLower isCaseIgnorable (by decide +kernel) c

theorem lowerChar_toLower (c : Char) : lowerChar c.toLower = lowerChar c :=
  apply_toLower lowerChar (by decide +kernel) c

theorem toLower_eq_sigma_iff : c.toLower = 'Σ' ↔ c = 'Σ' := by
  have h := apply_toLower (· = 'Σ') (by decide) c
  exact iff_of_eq h

theorem toLower_eq_lineFeed_iff : c.toLower = '\n' ↔ c = '\n' := by
  have h := apply_toLower (· = '\n') (by decide) c
  exact iff_of_eq h

/-! ### Whole texts -/

theorem all_map_toLower {p : Char → Bool} (hp : ∀ c, p c.toLower = p c) (text : List Char) :
    (text.map Char.toLower).all p = text.all p := by
  rw [List.all_map]
  exact congrArg text.all (funext hp)

theorem any_head?_map_toLower {p : Char → Bool} (hp : ∀ c, p c.toLower = p c) (text : List Char) :
    (text.map Char.toLower).head?.any p = text.head?.any p := by
  rw [List.head?_map, Option.any_map]
  exact congrArg text.head?.any (funext hp)

theorem casedNext_map_toLower (text : List Char) :
    casedNext (text.map Char.toLower) = casedNext text := by
  induction text with
  | nil => rfl
  | cons c text ih =>
      rw [List.map_cons, casedNext, casedNext, ih, isCaseIgnorable_toLower, isCased_toLower]

theorem lowercaseAfter_map_toLower (before text : List Char) :
    lowercaseAfter (before.map Char.toLower) (text.map Char.toLower) =
      lowercaseAfter before text := by
  induction text generalizing before with
  | nil => rfl
  | cons c text ih =>
      have hrest := ih (c :: before)
      rw [List.map_cons] at hrest
      simp only [List.map_cons, lowercaseAfter, hrest, casedNext_map_toLower, lowerChar_toLower,
        toLower_eq_sigma_iff]

/-- **ASCII case is lost in lower case.** -/
theorem lowercase_congr_toLower (h : a.map Char.toLower = b.map Char.toLower) :
    lowercase (String.ofList a) = lowercase (String.ofList b) := by
  have hown (text : List Char) : lowercaseChars (text.map Char.toLower) = lowercaseChars text :=
    lowercaseAfter_map_toLower [] text
  simp only [lowercase, String.toList_ofList]
  rw [← hown a, h, hown]

end Unicode

namespace Location

theorem past_map_toLower (text : List Char) : past (text.map Char.toLower) = past text := by
  induction text using List.reverseRecOn with
  | nil => rfl
  | append_singleton text c ih =>
      rw [List.map_append, List.map_singleton, past_concat, past_concat, ih, advance, advance]
      simp only [Unicode.toLower_eq_lineFeed_iff]

theorem past_congr_toLower {a b : List Char} (h : a.map Char.toLower = b.map Char.toLower) :
    past a = past b := by
  rw [← past_map_toLower a, h, past_map_toLower]

end Location
end PocketSql
