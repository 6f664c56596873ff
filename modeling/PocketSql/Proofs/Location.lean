import Mathlib.Data.List.DropRight
import Mathlib.Data.List.Induction
import PocketSql.Location
/-!
# Places and the text before them

The characters of a text move a place one after the other: a line feed begins the next line, and
every other character is one column wide. What a place comes to is two counts, of the line feeds in
the text before it and of the characters after the last of them, so another text in front moves all
places of a text (`past_append_behind`). Places are ordered as a text is read, and any character
moves a place on.
-/

namespace PocketSql.Location

variable {place a b c : Location}

/-- The place behind a character. -/
def advance (place : Location) (c : Char) : Location :=
  if c = '\n' then ⟨place.line + 1, 0⟩ else ⟨place.line, place.column + 1⟩

/-- The place after a piece of text that begins at the given place. -/
def after (place : Location) (text : List Char) : Location :=
  text.foldl advance place

@[simp] theorem after_nil (place : Location) : place.after [] = place := rfl

@[simp] theorem after_cons (place : Location) (c : Char) (text : List Char) :
    place.after (c :: text) = (place.advance c).after text := rfl

theorem after_append (place : Location) (front back : List Char) :
    place.after (front ++ back) = (place.after front).after back := by
  simp [after]

/-- On one line, characters are columns. -/
theorem after_of_notMem {text : List Char} (h : '\n' ∉ text) (place : Location) :
    place.after text = ⟨place.line, place.column + text.length⟩ := by
  induction text generalizing place with
  | nil => rfl
  | cons c text ih =>
      obtain ⟨hc, htext⟩ := List.ne_and_not_mem_of_not_mem_cons h
      rw [after_cons, ih htext, advance, if_neg (Ne.symm hc), List.length_cons,
        Nat.add_comm text.length 1, ← Nat.add_assoc]

/-- The place that a text reaches from the start. The line is the number of its line feeds, and the
column that of the characters after the last of them. -/
def past (before : List Char) : Location where
  line := before.count '\n'
  column := (before.rtakeWhile (· != '\n')).length

theorem past_concat (before : List Char) (d : Char) :
    past (before ++ [d]) = (past before).advance d := by
  rw [past, List.count_append, List.rtakeWhile_concat, advance]
  by_cases hfeed : d = '\n'
  · simp [hfeed, past]
  · simp [hfeed, past]

/-- **A place counts the text before it.** -/
theorem after_start (before : List Char) : start.after before = past before := by
  induction before using List.reverseRecOn with
  | nil => rfl
  | append_singleton before d ih =>
      rw [after_append, ih, past_concat]
      rfl

theorem past_append (before text : List Char) :
    past (before ++ text) = (past before).after text := by
  rw [← after_start, ← after_start, after_append]

/-! ### Texts behind another text -/

/-- Where a place of a text is when another text stands before it. The first line of the text goes
on with the last line of the other one, and the later lines keep their columns. -/
def behind (before : List Char) (place : Location) : Location where
  line := (past before).line + place.line
  column := if place.line = 0 then (past before).column + place.column else place.column

theorem behind_advance (before : List Char) (place : Location) (d : Char) :
    (place.behind before).advance d = (place.advance d).behind before := by
  by_cases hfeed : d = '\n'
  · simp [advance, behind, hfeed, Nat.add_assoc]
  · by_cases hfirst : place.line = 0
    · simp [advance, behind, hfeed, hfirst, Nat.add_assoc]
    · simp [advance, behind, hfeed, hfirst]

theorem behind_after (before : List Char) (place : Location) (text : List Char) :
    (place.behind before).after text = (place.after text).behind before := by
  induction text generalizing place with
  | nil => rfl
  | cons d text ih => rw [after_cons, after_cons, behind_advance, ih]

/-- **Places are moved by the text before.** -/
theorem past_append_behind (before text : List Char) :
    past (before ++ text) = (past text).behind before := by
  have hstart : past before = start.behind before := by
    simp [behind, start]
  rw [past_append, hstart, behind_after, after_start]

/-! ### The order of places -/

/-- The first place comes before the second one as a text is read. -/
def Before (a b : Location) : Prop :=
  a.line < b.line ∨ a.line = b.line ∧ a.column < b.column

theorem Before.trans (hab : a.Before b) (hbc : b.Before c) : a.Before c := by
  unfold Before at *
  omega

theorem before_advance (place : Location) (d : Char) : place.Before (place.advance d) := by
  rw [advance]
  split
  · exact .inl (Nat.lt_succ_self _)
  · exact .inr ⟨rfl, Nat.lt_succ_self _⟩

theorem before_after {chars : List Char} (hne : chars ≠ []) : place.Before (place.after chars) := by
  induction chars generalizing place with
  | nil => exact absurd rfl hne
  | cons d chars ih =>
      have hfirst := before_advance place d
      rw [after_cons]
      by_cases hlast : chars = []
      · rwa [hlast, after_nil]
      · exact hfirst.trans (ih hlast)

end PocketSql.Location
