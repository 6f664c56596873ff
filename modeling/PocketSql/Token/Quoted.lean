import PocketSql.Token.Cursor
/-!
# Quoted text

A text between two delimiters, in which a delimiter of the text itself is written twice. The text
may hold any other character, line feeds included. The reader takes its cursor along: a line feed
moves it to the next line, and two written delimiters move it by two although they stand for one.
-/

namespace PocketSql.Quoted

/-- Doubles every delimiter of a text. -/
def escape (delimiter : Char) : List Char → List Char
  | [] => []
  | c :: rest =>
      if c = delimiter then delimiter :: delimiter :: escape delimiter rest
      else c :: escape delimiter rest

def quote (delimiter : Char) (text : List Char) : List Char :=
  delimiter :: (escape delimiter text ++ [delimiter])

/-- The text up to the delimiter that closes it, with the cursor behind that delimiter; `none` when
no delimiter closes it. -/
def unescape (delimiter : Char) (cursor : Cursor) : List Char → Option (List Char × Cursor)
  | [] => none
  | c :: rest =>
      if c = delimiter then
        match rest with
        | [] => some ([], cursor.advance 1)
        | d :: rest =>
            if d = delimiter then
              (unescape delimiter (cursor.advance 2) rest).map fun (text, later) =>
                (delimiter :: text, later)
            else some ([], cursor.advance 1)
      else
        (unescape delimiter (if c = '\n' then cursor.nextLine else cursor.advance 1) rest).map
          fun (text, later) => (c :: text, later)

/-- The text quoted at the front of a source, with the cursor behind it. -/
def unquote (delimiter : Char) (cursor : Cursor) : List Char → Option (List Char × Cursor)
  | [] => none
  | c :: rest => if c = delimiter then unescape delimiter (cursor.advance 1) rest else none

variable {delimiter : Char} {cursor later : Cursor} {source text : List Char}

/-- What is read from a character on begins with it, and ends where the others do. -/
theorem exists_of_map_cons {read : Option (List Char × Cursor)} {c : Char}
    (h : (read.map fun (text, later) => (c :: text, later)) = some (text, later)) :
    ∃ others, read = some (others, later) ∧ text = c :: others := by
  obtain ⟨⟨others, last⟩, hread, heq⟩ := Option.map_eq_some_iff.mp h
  obtain ⟨htext, hlast⟩ := Prod.mk.inj heq
  exact ⟨others, by rw [hread, hlast], htext.symm⟩

theorem position_lt_of_unescape (h : unescape delimiter cursor source = some (text, later)) :
    cursor.position < later.position := by
  fun_induction unescape delimiter cursor source generalizing text with
  | case1 => cases h
  | case2 =>
      cases h
      exact Nat.lt_succ_self _
  | case3 cursor rest ih =>
      obtain ⟨others, hothers, _⟩ := exists_of_map_cons h
      have hlt := ih hothers
      rw [Cursor.position_advance] at hlt
      omega
  | case4 =>
      cases h
      exact Nat.lt_succ_self _
  | case5 cursor c rest hne ih =>
      obtain ⟨others, hothers, _⟩ := exists_of_map_cons h
      have hlt := ih hothers
      have hstep : (if c = '\n' then cursor.nextLine else cursor.advance 1).position =
          cursor.position + 1 := by
        split <;> rfl
      omega

theorem position_lt_of_unquote (h : unquote delimiter cursor source = some (text, later)) :
    cursor.position < later.position := by
  cases source with
  | nil => cases h
  | cons c rest =>
      rw [unquote] at h
      split at h
      · have hlt := position_lt_of_unescape h
        rw [Cursor.position_advance] at hlt
        omega
      · cases h

end PocketSql.Quoted
