import PocketSql.Proofs.Location
import PocketSql.Token.Quoted
/-!
# Cursors and the text behind them

A cursor is moved in two ways only: some columns forward, or to the next line. Behind the text that
it was moved over it has to be where counting in that text takes it (`Cursor.after`). On one line
that is as many columns forward as there are characters. A quoted text can be many lines long, and
some of its delimiters are written twice; its reader still comes to that place, whatever is inside
(`Quoted.unescape_escape`).
-/

namespace PocketSql

namespace Cursor

variable {cursor : Cursor} {text : List Char} {c : Char}

/-- The cursor behind a piece of text that begins where this one is. -/
def after (cursor : Cursor) (text : List Char) : Cursor where
  position := cursor.position + text.length
  location := cursor.location.after text

/-- The cursor behind a text that is read from the start. -/
def past (before : List Char) : Cursor where
  position := before.length
  location := .past before

@[simp] theorem position_after (cursor : Cursor) (text : List Char) :
    (cursor.after text).position = cursor.position + text.length := rfl

theorem after_append (cursor : Cursor) (front back : List Char) :
    cursor.after (front ++ back) = (cursor.after front).after back := by
  simp only [after, List.length_append, Location.after_append, Nat.add_assoc]

theorem past_append (before text : List Char) :
    past (before ++ text) = (past before).after text := by
  simp only [past, after, List.length_append, Location.past_append]

/-- On one line a cursor is moved by columns. -/
theorem advance_length (h : '\n' ∉ text) : cursor.advance text.length = cursor.after text := by
  rw [advance, after, Location.after_of_notMem h]

theorem advance_one (h : c ≠ '\n') : cursor.advance 1 = cursor.after [c] := by
  have hone : '\n' ∉ [c] := by
    simpa using h.symm
  exact advance_length hone

theorem advance_two {d : Char} (hc : c ≠ '\n') (hd : d ≠ '\n') :
    cursor.advance 2 = cursor.after [c, d] := by
  have htwo : '\n' ∉ [c, d] := by
    simpa using ⟨hc.symm, hd.symm⟩
  exact advance_length htwo

theorem nextLine_eq_after (cursor : Cursor) : cursor.nextLine = cursor.after ['\n'] := rfl

end Cursor

/-! ### Quoted texts -/

namespace Quoted

variable {delimiter : Char} {cursor later : Cursor} {rest source text : List Char}

/-- The reader moves over a character of the text as the character says. -/
theorem unescape_cons_of_ne {c : Char} (hne : c ≠ delimiter) (rest : List Char) :
    unescape delimiter cursor (c :: rest) =
      (unescape delimiter (cursor.after [c]) rest).map fun (text, later) => (c :: text, later) := by
  have hmoved : (if c = '\n' then cursor.nextLine else cursor.advance 1) = cursor.after [c] := by
    split
    case isTrue hfeed => rw [hfeed, Cursor.nextLine_eq_after]
    case isFalse hfeed => exact Cursor.advance_one hfeed
  rw [← hmoved]
  cases rest <;> simp [unescape, hne]

theorem unescape_doubled (hfeed : delimiter ≠ '\n') (rest : List Char) :
    unescape delimiter cursor (delimiter :: delimiter :: rest) =
      (unescape delimiter (cursor.after [delimiter, delimiter]) rest).map
        fun (text, later) => (delimiter :: text, later) := by
  rw [← Cursor.advance_two hfeed hfeed, unescape, if_pos rfl, if_pos rfl]

theorem unescape_closing (hfeed : delimiter ≠ '\n') (hrest : rest.head? ≠ some delimiter) :
    unescape delimiter cursor (delimiter :: rest) = some ([], cursor.after [delimiter]) := by
  rw [← Cursor.advance_one hfeed]
  cases rest with
  | nil => simp [unescape]
  | cons c rest =>
      have hne : c ≠ delimiter := by simpa using hrest
      simp [unescape, hne]

/-- **An escaped text is read back**, up to the delimiter after it, unless another one follows, and
the cursor comes to the place behind that delimiter. -/
theorem unescape_escape (hfeed : delimiter ≠ '\n') (hrest : rest.head? ≠ some delimiter)
    (text : List Char) (cursor : Cursor) :
    unescape delimiter cursor (escape delimiter text ++ delimiter :: rest) =
      some (text, cursor.after (escape delimiter text ++ [delimiter])) := by
  -- What the reader knows is the cursor, and each character of the text moves it.
  induction text generalizing cursor with
  | nil => exact unescape_closing hfeed hrest
  | cons c text ih =>
      by_cases h : c = delimiter
      · rw [h, escape, if_pos rfl, List.cons_append, List.cons_append, unescape_doubled hfeed, ih,
          ← Cursor.after_append]
        rfl
      · rw [escape, if_neg h, List.cons_append, unescape_cons_of_ne h, ih, ← Cursor.after_append]
        rfl

theorem unquote_quote (hfeed : delimiter ≠ '\n') (hrest : rest.head? ≠ some delimiter)
    (text : List Char) (cursor : Cursor) :
    unquote delimiter cursor (quote delimiter text ++ rest) =
      some (text, cursor.after (quote delimiter text)) := by
  rw [quote, List.cons_append, List.append_assoc, List.singleton_append, unquote, if_pos rfl,
    Cursor.advance_one hfeed, unescape_escape hfeed hrest, ← Cursor.after_append]
  rfl

/-- What is read is an escaped text with the delimiter behind it. -/
theorem exists_rest_of_unescape (h : unescape delimiter cursor source = some (text, later)) :
    ∃ rest, source = escape delimiter text ++ delimiter :: rest ∧ rest.head? ≠ some delimiter := by
  fun_induction unescape delimiter cursor source generalizing text with
  | case1 => cases h
  | case2 =>
      cases h
      exact ⟨[], by simp [escape]⟩
  | case3 cursor rest ih =>
      obtain ⟨others, hothers, rfl⟩ := exists_of_map_cons h
      obtain ⟨after, rfl, hend⟩ := ih hothers
      exact ⟨after, by simp [escape], hend⟩
  | case4 cursor d rest hne =>
      cases h
      exact ⟨d :: rest, by simp [escape], by simpa using hne⟩
  | case5 cursor c rest hne ih =>
      obtain ⟨others, hothers, rfl⟩ := exists_of_map_cons h
      obtain ⟨after, rfl, hend⟩ := ih hothers
      exact ⟨after, by simp [escape, hne], hend⟩

/-- What is read at the front of a source is a quoted text, and the cursor comes to the place behind
it. -/
theorem exists_rest_of_unquote (hfeed : delimiter ≠ '\n')
    (h : unquote delimiter cursor source = some (text, later)) :
    ∃ rest, source = quote delimiter text ++ rest ∧ rest.head? ≠ some delimiter ∧
      later = cursor.after (quote delimiter text) := by
  cases source with
  | nil => cases h
  | cons c source =>
      rw [unquote] at h
      split at h
      case isTrue hc =>
          obtain ⟨rest, rfl, hend⟩ := exists_rest_of_unescape h
          rw [Cursor.advance_one hfeed, unescape_escape hfeed hend] at h
          cases h
          refine ⟨rest, ?_, hend, ?_⟩
          · simp [quote, hc]
          · rw [← Cursor.after_append]
            rfl
      case isFalse => cases h

/-- Whether a text is closed is settled by its characters. -/
theorem unescape_eq_none_iff (cursor other : Cursor) (source : List Char) :
    unescape delimiter cursor source = none ↔ unescape delimiter other source = none := by
  fun_induction unescape delimiter cursor source generalizing other with
  | case1 => exact Iff.rfl
  | case2 => simp [unescape]
  | case3 cursor rest ih =>
      rw [unescape, if_pos rfl, if_pos rfl, Option.map_eq_none_iff, Option.map_eq_none_iff, ih]
  | case4 cursor d rest hne => simp [unescape, hne]
  | case5 cursor c rest hne ih =>
      rw [unescape_cons_of_ne hne, Option.map_eq_none_iff, Option.map_eq_none_iff, ih]

theorem unquote_eq_none_iff (cursor other : Cursor) (source : List Char) :
    unquote delimiter cursor source = none ↔ unquote delimiter other source = none := by
  cases source with
  | nil => exact Iff.rfl
  | cons c source =>
      rw [unquote, unquote]
      split
      · exact unescape_eq_none_iff _ _ source
      · exact Iff.rfl

end Quoted
end PocketSql
