import PocketSql.Proofs.Token.Seam
/-!
# Blanks between the words of a text

Blanks keep words apart. A text that is read and any other text do not touch each other across
blanks, so they are read or refused as each of them is by itself. And a text has one cut, at whose
edges blanks can be put in or changed: the tokens stay the same up to their places.
-/

namespace PocketSql

namespace Piece

variable {rest : List Char} {pieces front back : List Piece}

/-! ### A text has one cut -/

/-- What the scanners take where the piece begins. -/
def lexeme (cursor : Cursor) : Piece → Lexeme
  | .blank c => .ofBlank cursor c
  | .word chars value kind => .ofWord cursor chars value kind

theorem cursor_lexeme (cursor : Cursor) (piece : Piece) :
    (piece.lexeme cursor).cursor = cursor.after piece.chars := by
  cases piece <;> rfl

theorem length_chars_of_lexeme {cursor : Cursor} {a b : Piece}
    (h : a.lexeme cursor = b.lexeme cursor) : a.chars.length = b.chars.length := by
  have hposition := congrArg (·.cursor.position) h
  simp only [cursor_lexeme, Cursor.position_after] at hposition
  exact Nat.add_left_cancel hposition

theorem eq_of_chars_of_lexeme {cursor : Cursor} {a b : Piece} (hchars : a.chars = b.chars)
    (hlexeme : a.lexeme cursor = b.lexeme cursor) : a = b := by
  cases a <;> cases b <;> simp_all [chars, lexeme, Lexeme.ofBlank, Lexeme.ofWord]

theorem Cut.tail {piece : Piece} (h : Cut rest (piece :: pieces)) : Cut rest pieces := by
  cases h with
  | blank _ h => exact h
  | word _ h => exact h

theorem Cut.front_eq {piece : Piece} (h : Cut rest (piece :: pieces)) (cursor : Cursor) :
    Scanner.front cursor (text (piece :: pieces) ++ rest) = some (piece.lexeme cursor) := by
  rw [text_cons, List.append_assoc]
  cases h with
  | blank hblank _ => exact Scanner.front_blank hblank _
  | word hword _ => exact Scanner.front_of_isWord hword

/-- **A text is cut in one way.** -/
theorem Cut.unique (hfront : Cut rest front) (hback : Cut rest back)
    (htext : text front = text back) : front = back := by
  induction front generalizing back with
  | nil =>
      by_contra hne
      exact hback.text_ne_nil (Ne.symm hne) htext.symm
  | cons piece front ih =>
      cases back with
      | nil => exact absurd htext (hfront.text_ne_nil (List.cons_ne_nil _ _))
      | cons other back =>
          have hlexeme : piece.lexeme {} = other.lexeme {} := by
            have hsame := hfront.front_eq {}
            rw [htext, hback.front_eq] at hsame
            exact (Option.some.inj hsame).symm
          obtain ⟨hchars, hrest⟩ := List.append_inj htext (length_chars_of_lexeme hlexeme)
          rw [eq_of_chars_of_lexeme hchars hlexeme, ih hfront.tail hback.tail hrest]

end Piece

/-! ### Texts with blanks between them -/

section Texts

open Piece

variable {a b text : String} {tokens : List Token} {pieces front back : List Piece}
  {rest : List Char}

theorem lex_of_refused (hsource : text.toList = Piece.text pieces ++ rest) (hcut : Cut rest pieces)
    (hrest : rest ≠ []) (hnone : Scanner.front (.past (Piece.text pieces)) rest = none) :
    lex text = .error (.lex (.past (Piece.text pieces)) (lastValue (Piece.tokens [] pieces))) := by
  have hitems := Lexer.items_of_pieces hsource hcut
  rw [Lexer.items_of_refused hrest hnone] at hitems
  exact lex_of_items_append hitems

/-- The blanks and words that a text is read as, one after the other. -/
def Piece.Whole (text : String) (pieces : List Piece) : Prop :=
  Piece.text pieces = text.toList ∧ Cut [] pieces

theorem existsUnique_whole (h : lex text = .ok tokens) : ∃! pieces, Piece.Whole text pieces := by
  obtain ⟨pieces, hsource, _, hcut⟩ := lex_eq_ok_iff.mp h
  refine ⟨pieces, ⟨hsource, hcut⟩, fun other hother => ?_⟩
  exact hother.2.unique hcut (hother.1.trans hsource.symm)

theorem tokens_of_whole (h : lex text = .ok tokens) (hwhole : Piece.Whole text pieces) :
    Piece.tokens [] pieces = tokens := by
  have hread := lex_of_cut hwhole.1.symm hwhole.2
  exact Except.ok.inj (hread.symm.trans h)

theorem toList_across (ha : a.toList = Piece.text front) (hb : b.toList = Piece.text back ++ rest)
    (blanks : String) :
    (a ++ blanks ++ b).toList =
      Piece.text (front ++ (blanks.toList.map .blank ++ back)) ++ rest := by
  simp only [String.toList_append, ha, hb, text_append, text_blanks, List.append_assoc]

theorem lastValue_append_behind (before : List Char) (tokens others : List Token) :
    lastValue (tokens ++ others.map (Token.behind before)) =
      (lastValue others).or (lastValue tokens) := by
  rw [lastValue, List.getLast?_append, List.getLast?_map, lastValue, lastValue]
  cases others.getLast? with
  | none => rfl
  | some last => rfl

/-- **Reading is compositional across blanks.** A text that is read and then blanks go before any
other text. If that is read, its tokens are moved, and if it is refused, the place of its failure is
moved and the hint of the failure can be the last token before the blanks. The text itself has one
cut, which is that of its tokens. At any edge of it blanks can be put in, and in place of any blanks
there, and only the places of tokens change. -/
theorem lex_across_blanks (h : lex a = .ok tokens) :
    (∀ blanks b : String, blanks.toList ≠ [] →
      (∀ c ∈ blanks.toList, Scanner.isBlank c = true) →
      match lex b with
      | .ok others =>
          lex (a ++ blanks ++ b) =
            .ok (tokens ++ others.map (Token.behind (a ++ blanks).toList))
      | .error error => ∃ location hint, error = .lex location hint ∧
          lex (a ++ blanks ++ b) =
            .error (.lex (location.behind (a ++ blanks).toList) (hint.or (lastValue tokens)))) ∧
    (∃! pieces, Piece.Whole a pieces) ∧
    (∀ pieces, Piece.Whole a pieces → Piece.tokens [] pieces = tokens) ∧
    ∀ (front : List Piece) (run : List Char) (back : List Piece) (blanks : String),
      Piece.Whole a (front ++ (run.map .blank ++ back)) → blanks.toList ≠ [] →
      (∀ c ∈ blanks.toList, Scanner.isBlank c = true) →
        ∃ found, lex (String.ofList (Piece.text front) ++ blanks ++
            String.ofList (Piece.text back)) = .ok found ∧
          found.map Token.unlocated = tokens.map Token.unlocated := by
  refine ⟨fun blanks b hne hblank => ?_, existsUnique_whole h, fun _ => tokens_of_whole h, ?_⟩
  · obtain ⟨front, ha, rfl, hfront⟩ := lex_eq_ok_iff.mp h
    obtain ⟨back, rest, hb, hback, hend⟩ := exists_pieces b
    have hsource := toList_across ha.symm hb blanks
    have hcut := hfront.across hback hne hblank
    have hbefore : (a ++ blanks).toList = Piece.text front ++ blanks.toList := by
      rw [String.toList_append, ha]
    rcases hend with ⟨rfl, hitems⟩ | ⟨hrest, hnone, _⟩
    · rw [List.append_nil] at hsource
      rw [lex_of_items hitems, lex_of_cut hsource hcut, tokens_across, hbefore]
    · have hrefused := Scanner.front_eq_none_of_cursor hnone
      rw [lex_of_refused hb hback hrest hnone, lex_of_refused hsource hcut hrest (hrefused _)]
      refine ⟨_, _, rfl, ?_⟩
      rw [tokens_across, lastValue_append_behind, hbefore, ← Location.past_append_behind,
        text_append, text_append, text_blanks, List.append_assoc]
  · intro front run back blanks hwhole hne hblank
    obtain ⟨hfront, hrest⟩ := hwhole.2.split
    obtain ⟨_, hback⟩ := hrest.split
    -- What the pieces in front are does not depend on the blanks that followed them.
    rw [← List.nil_append (_ ++ _)] at hfront
    have hcut := hfront.of_append.across hback hne hblank
    have hbehind : (String.ofList (Piece.text back)).toList = Piece.text back ++ [] := by
      rw [String.toList_ofList, List.append_nil]
    have hsource := toList_across (String.toList_ofList (l := Piece.text front)) hbehind blanks
    rw [List.append_nil] at hsource
    refine ⟨_, lex_of_cut hsource hcut, ?_⟩
    rw [← tokens_of_whole h hwhole, tokens_across, tokens_across, List.map_append, List.map_append,
      map_unlocated_behind, map_unlocated_behind]

/-- A symbol that would go on with the next text, a text without tokens, and a quoted text. -/
theorem lex_across_blanks_symbol :
    let a := "'x'<"
    let tokens : List Token := [⟨"x", .string, ⟨0, 0⟩⟩, ⟨"<", .symbol, ⟨0, 3⟩⟩]
    lex a = .ok tokens ∧
      lex (a ++ "\r\n" ++ " =") = .ok (tokens ++ [⟨"=", .symbol, ⟨1, 1⟩⟩]) ∧
      lex (a ++ "\r\n" ++ " ?") = .error (.lex ⟨1, 1⟩ (some "<")) ∧
      ∃ found, lex ("'x'" ++ "\n" ++ "<") = .ok found ∧
        found.map Token.unlocated = tokens.map Token.unlocated := by
  intro a tokens
  have ha : lex a = .ok tokens := by decide +kernel
  have hblank : ∀ c ∈ "\r\n".toList, Scanner.isBlank c = true := List.all_eq_true.mp (by decide)
  obtain ⟨hjoin, _, _, hedge⟩ := lex_across_blanks ha
  refine ⟨ha, ?_, ?_, ?_⟩
  · have hb : lex " =" = .ok [⟨"=", .symbol, ⟨0, 1⟩⟩] := by decide +kernel
    have hread := hjoin "\r\n" " =" (by decide) hblank
    rw [hb] at hread
    have hmoved : [(⟨"=", .symbol, ⟨0, 1⟩⟩ : Token)].map (Token.behind (a ++ "\r\n").toList) =
        [⟨"=", .symbol, ⟨1, 1⟩⟩] := by decide +kernel
    rw [← hmoved]
    exact hread
  · have hb : lex " ?" = .error (.lex ⟨0, 1⟩ none) := by decide +kernel
    have hfails := hjoin "\r\n" " ?" (by decide) hblank
    rw [hb] at hfails
    obtain ⟨location, hint, herror, hfails⟩ := hfails
    cases herror
    have hmoved : (⟨0, 1⟩ : Location).behind (a ++ "\r\n").toList = ⟨1, 1⟩ := by decide +kernel
    rw [← hmoved]
    exact hfails
  · let front : List Piece := [.word (Quoted.quote '\'' ['x']) (String.ofList ['x']) .string]
    let back : List Piece := [.word Symbol.less.spelling.toList Symbol.less.spelling .symbol]
    have hback : Cut [] back := .word (.symbol (Symbol.endsBefore_of_blank rfl)) .nil
    have hfront : Cut [] (front ++ back) := .word (.string (by decide)) hback
    have hfeed : ∀ c ∈ "\n".toList, Scanner.isBlank c = true := List.all_eq_true.mp (by decide)
    exact hedge front [] back "\n" ⟨by decide, hfront⟩ (by decide) hfeed

end Texts

end PocketSql
