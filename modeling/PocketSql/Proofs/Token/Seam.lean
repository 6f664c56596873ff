import PocketSql.Proofs.Token.Pieces
/-!
# Texts put together

Where two texts meet, the last word of the first one gets a new character behind it. No scanner
looks further than that (`IsWord.congr_head?`), so the words before the last one stay as they were,
and in front of a blank the last one does too. Cuts are put together in this way, and the tokens
behind a text are those that its pieces have by themselves, at places moved by the text.
-/

namespace PocketSql

/-! ### What follows a word -/

namespace Symbol

variable {mark : Symbol} {rest other : List Char}

theorem length_spelling_le (mark : Symbol) : mark.spelling.toList.length ≤ 2 := by
  cases mark <;> decide

theorem not_isBlank_of_mem_spelling (mark : Symbol) :
    ∀ c ∈ mark.spelling.toList, Scanner.isBlank c = false := by
  have hall : mark.spelling.toList.all (!Scanner.isBlank ·) = true := by
    cases mark <;> decide
  simpa using hall

/-- No symbol is longer than a symbol and the next character. -/
theorem EndsBefore.congr_head? (h : mark.EndsBefore rest) (hhead : other.head? = rest.head?) :
    mark.EndsBefore other := by
  intro longer hlonger
  cases other with
  | nil =>
      have hnil : rest = [] := List.head?_eq_none_iff.mp hhead.symm
      rw [hnil] at h
      exact h longer hlonger
  | cons c other =>
      obtain ⟨rest, rfl⟩ := List.head?_eq_some_iff.mp hhead.symm
      have hpos := List.length_pos_iff.mpr (Scanner.spelling_symbol mark).2.1
      have hlength : longer.spelling.toList.length ≤ (mark.spelling.toList ++ [c]).length := by
        have hle := length_spelling_le longer
        rw [List.length_append, List.length_singleton]
        omega
      have hnext (text : List Char) :
          mark.spelling.toList ++ [c] <+: mark.spelling.toList ++ c :: text := ⟨text, by simp⟩
      apply h longer
      exact (List.prefix_of_prefix_length_le hlonger (hnext other) hlength).trans (hnext rest)

/-- A symbol ends in front of any character that no symbol has in it. -/
theorem endsBefore_of_head? {p : Char → Bool}
    (hp : ∀ longer : Symbol, ∀ c ∈ longer.spelling.toList, p c = false)
    (h : rest.head?.all p = true) : mark.EndsBefore rest := by
  intro longer hlonger
  cases rest with
  | nil =>
      rw [List.append_nil] at hlonger
      exact hlonger.length_le
  | cons c rest =>
      by_contra hlt
      -- A longer symbol would have the next character in it.
      have hnext : mark.spelling.toList ++ [c] <+: longer.spelling.toList := by
        apply List.prefix_of_prefix_length_le _ hlonger
        · rw [List.length_append, List.length_singleton]
          omega
        · exact ⟨rest, by simp⟩
      have hmem : c ∈ longer.spelling.toList := hnext.subset (by simp)
      have hno := hp longer c hmem
      simp [hno] at h

theorem endsBefore_of_blank (hblank : rest.head?.all Scanner.isBlank = true) :
    mark.EndsBefore rest :=
  endsBefore_of_head? not_isBlank_of_mem_spelling hblank

/-- A mark of punctuation ends before anything, for no other symbol begins with it. -/
theorem endsBefore_of_punctuation (h : mark ∈ punctuation) (rest : List Char) :
    mark.EndsBefore rest := by
  obtain ⟨c, hspelling, _, _, _, honly⟩ := Scanner.punctuation_spelling h
  intro longer hlonger
  rw [hspelling, List.singleton_append] at hlonger
  have hne := (Scanner.spelling_symbol longer).2.1
  obtain ⟨first, others, hlongest⟩ := List.exists_cons_of_ne_nil hne
  have hhead : longer.spelling.toList.head? = some c := by
    rw [hlongest] at hlonger ⊢
    obtain ⟨rfl, _⟩ := List.cons_prefix_cons.mp hlonger
    rfl
  rw [honly longer (by cases longer <;> decide) hhead]

end Symbol

namespace IsWord

variable {rest other chars : List Char} {value : String} {kind : TokenKind}

/-- Of the text after a word only the next character has a say. -/
theorem congr_head? (h : IsWord rest chars value kind) (hhead : other.head? = rest.head?) :
    IsWord other chars value kind := by
  cases h with
  | keyword hcase hend => exact .keyword hcase (hhead ▸ hend)
  | symbol hend => exact .symbol (hend.congr_head? hhead)
  | string hend => exact .string (hhead ▸ hend)
  | numeral hnumeral hend => exact .numeral hnumeral (hhead ▸ hend)
  | quotedName hend => exact .quotedName (hhead ▸ hend)
  | bareName hfirst hchars hfree hend => exact .bareName hfirst hchars hfree (hhead ▸ hend)

/-- A word that ends a text ends in front of a blank too. -/
theorem of_blank (h : IsWord [] chars value kind) (hblank : rest.head?.all Scanner.isBlank = true) :
    IsWord rest chars value kind := by
  have hname := any_head?_of_isBlank hblank fun _ => not_isNameChar_of_isBlank
  cases h with
  | keyword hcase _ => exact .keyword hcase hname
  | symbol _ => exact .symbol (Symbol.endsBefore_of_blank hblank)
  | string _ => exact .string (head?_ne_of_isBlank hblank rfl)
  | numeral hnumeral _ =>
      exact .numeral hnumeral (any_head?_of_isBlank hblank fun _ => not_goesOn_of_isBlank)
  | quotedName _ => exact .quotedName (head?_ne_of_isBlank hblank rfl)
  | bareName hfirst hchars hfree _ => exact .bareName hfirst hchars hfree hname

end IsWord

/-! ### Cuts put together -/

namespace Piece

variable {rest before : List Char} {pieces front back : List Piece}

theorem text_append (front back : List Piece) : text (front ++ back) = text front ++ text back :=
  List.flatMap_append

theorem text_blanks (run : List Char) : text (run.map .blank) = run := by
  rw [text, List.flatMap_map]
  exact List.flatMap_singleton' run

theorem Cut.text_ne_nil (h : Cut rest pieces) (hne : pieces ≠ []) : text pieces ≠ [] := by
  cases h with
  | nil => exact absurd rfl hne
  | blank => exact List.cons_ne_nil _ _
  | word hword _ => exact List.append_ne_nil_of_left_ne_nil hword.ne_nil _

theorem Cut.append (hfront : Cut (text back ++ rest) front) (hback : Cut rest back) :
    Cut rest (front ++ back) := by
  induction hfront with
  | nil => exact hback
  | blank hblank _ ih => exact .blank hblank ih
  | word hword _ ih =>
      rw [← List.append_assoc, ← text_append] at hword
      exact .word hword ih

theorem Cut.split (h : Cut rest (front ++ back)) :
    Cut (text back ++ rest) front ∧ Cut rest back := by
  induction front with
  | nil => exact ⟨.nil, h⟩
  | cons piece front ih =>
      cases h with
      | blank hblank h =>
          obtain ⟨hfront, hback⟩ := ih h
          exact ⟨.blank hblank hfront, hback⟩
      | word hword h =>
          obtain ⟨hfront, hback⟩ := ih h
          change IsWord (text (front ++ back) ++ rest) _ _ _ at hword
          rw [text_append, List.append_assoc] at hword
          exact ⟨.word hword hfront, hback⟩

theorem Cut.blanks (h : Cut rest back) {run : List Char}
    (hblank : ∀ c ∈ run, Scanner.isBlank c = true) : Cut rest (run.map .blank ++ back) := by
  induction run with
  | nil => exact h
  | cons c run ih =>
      obtain ⟨hc, hrun⟩ := List.forall_mem_cons.mp hblank
      exact .blank hc (ih hrun)

/-- A cut to the end of a text is one in front of more text when its last word is. -/
theorem Cut.goesOn (h : Cut [] pieces)
    (hlast : ∀ chars value kind, pieces.getLast? = some (.word chars value kind) →
      IsWord rest chars value kind) : Cut rest pieces := by
  induction h with
  | nil => exact .nil
  | @blank c pieces hblank _ ih =>
      refine .blank hblank (ih fun chars value kind hword => hlast chars value kind ?_)
      rw [List.getLast?_cons, hword]
      rfl
  | @word chars value kind pieces hword h ih =>
      refine .word ?_ (ih fun chars value kind hword => hlast chars value kind ?_)
      · by_cases hnil : pieces = []
        · subst hnil
          exact hlast chars value kind rfl
        · apply hword.congr_head?
          rw [List.head?_append_of_ne_nil _ (h.text_ne_nil hnil),
            List.head?_append_of_ne_nil _ (h.text_ne_nil hnil)]
      · rw [List.getLast?_cons, hword]
        rfl

/-- Blanks stand between any two cuts, the first of which reaches the end of its text. -/
theorem Cut.across (hfront : Cut [] front) (hback : Cut rest back) {run : List Char}
    (hne : run ≠ []) (hblank : ∀ c ∈ run, Scanner.isBlank c = true) :
    Cut rest (front ++ (run.map .blank ++ back)) := by
  refine Cut.append (hfront.goesOn fun chars value kind hlast => ?_) (hback.blanks hblank)
  obtain ⟨c, run, rfl⟩ := List.exists_cons_of_ne_nil hne
  obtain ⟨before, rfl⟩ := List.getLast?_eq_some_iff.mp hlast
  obtain ⟨_, hword⟩ := hfront.split
  cases hword with
  | word hword _ => exact hword.of_blank (hblank c List.mem_cons_self)

end Piece

/-! ### Tokens behind a text -/

/-- The token where another text stands before its own. -/
def Token.behind (before : List Char) (token : Token) : Token :=
  { token with location := token.location.behind before }

theorem Token.unlocated_behind (before : List Char) (token : Token) :
    (token.behind before).unlocated = token.unlocated := rfl

theorem map_unlocated_behind (before : List Char) (tokens : List Token) :
    (tokens.map (Token.behind before)).map Token.unlocated = tokens.map Token.unlocated := by
  rw [List.map_map]
  exact List.map_congr_left fun token _ => token.unlocated_behind before

namespace Piece

/-- A text before the pieces moves their tokens and changes nothing else. -/
theorem tokens_behind (before text : List Char) (pieces : List Piece) :
    tokens (before ++ text) pieces = (tokens text pieces).map (Token.behind before) := by
  induction pieces generalizing text with
  | nil => rfl
  | cons piece pieces ih =>
      cases piece with
      | blank c => rw [tokens, tokens, List.append_assoc, ih]
      | word chars value kind =>
          rw [tokens, tokens, List.append_assoc, ih, Location.past_append_behind]
          rfl

theorem tokens_before_append (before : List Char) (front back : List Piece) :
    tokens before (front ++ back) = tokens before front ++ tokens (before ++ text front) back := by
  induction front generalizing before with
  | nil => rw [List.nil_append, text_nil, List.append_nil, tokens, List.nil_append]
  | cons piece front ih =>
      cases piece
      all_goals
        rw [List.cons_append, tokens, tokens, ih, text_cons, ← List.append_assoc]
        rfl

/-- **The tokens of pieces put together.** -/
theorem tokens_append (front back : List Piece) :
    tokens [] (front ++ back) =
      tokens [] front ++ (tokens [] back).map (Token.behind (text front)) := by
  have hback := tokens_behind (text front) [] back
  rw [List.append_nil] at hback
  rw [tokens_before_append, List.nil_append, hback]

theorem tokens_blanks (before run : List Char) : tokens before (run.map .blank) = [] := by
  induction run generalizing before with
  | nil => rfl
  | cons c run ih => exact ih _

theorem tokens_across (front : List Piece) (run : List Char) (back : List Piece) :
    tokens [] (front ++ (run.map .blank ++ back)) =
      tokens [] front ++ (tokens [] back).map (Token.behind (text front ++ run)) := by
  rw [← List.append_assoc, tokens_append, tokens_append, tokens_blanks, List.map_nil,
    List.append_nil, text_append, text_blanks]

end Piece
end PocketSql
