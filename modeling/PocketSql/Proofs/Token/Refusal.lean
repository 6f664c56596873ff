import PocketSql.Proofs.Token.Pieces
/-!
# A failure cuts a text in two

A lexer that fails has given the tokens before the failure, and it gives nothing after it. The place
where it fails parts the text. What is before it is read by itself as the same tokens, although the
lexer had looked beyond that place to end them, and what is behind it fails at its first character.
-/

namespace PocketSql

open Piece

/-! ### Asking a lexer again and again -/

namespace Lexer

variable {lexer later : Lexer}

/-- What a lexer gives when it has been asked that many times before. -/
def given (lexer : Lexer) : Nat → Option (Except LexFailure Token)
  | 0 => lexer.next.1
  | n + 1 => lexer.next.2.given n

/-- A lexer that gives nothing is not changed by being asked. -/
theorem next_of_next_none (h : lexer.next = (none, later)) : later.next = (none, later) := by
  fun_induction next lexer with
  | case1 lexer hfailed =>
      cases h
      exact next_of_failed hfailed
  | case2 lexer _ hrest =>
      cases h
      exact next_of_end hrest
  | case3 => cases h
  | case4 _ _ _ _ _ ih => exact ih h
  | case5 => cases h

theorem given_of_next_none (h : lexer.next = (none, later)) (n : Nat) : lexer.given n = none := by
  induction n generalizing lexer with
  | zero => rw [given, h]
  | succ n ih =>
      rw [given, h]
      exact ih (next_of_next_none h)

/-- What is given one after the other are the items, and then nothing. -/
theorem given_eq (lexer : Lexer) (n : Nat) : lexer.given n = lexer.items[n]? := by
  induction n generalizing lexer with
  | zero =>
      cases hnext : lexer.next with
      | mk item later =>
          rw [given, hnext]
          cases item with
          | none => rw [items_of_next_none hnext, List.getElem?_nil]
          | some item => rw [items_of_next hnext, List.getElem?_cons_zero]
  | succ n ih =>
      cases hnext : lexer.next with
      | mk item later =>
          cases item with
          | none => rw [given_of_next_none hnext, items_of_next_none hnext, List.getElem?_nil]
          | some item => rw [given, hnext, ih, items_of_next hnext, List.getElem?_cons_succ]

end Lexer

/-! ### Both sides of a failure -/

/-- The failure is inside of the text and has the place of the text before it and the value of the
last token as its hint. The text before it is read by itself as the tokens. The text from there on
is refused by itself at its first character, with the same remarks. -/
structure LexFailure.Cuts (failure : LexFailure) (text : String) (tokens : List Token) : Prop where
  inside : failure.position < text.toList.length
  place : failure.location = .past (text.toList.take failure.position)
  hint : failure.hint = tokens.getLast?.map (·.value)
  before : lex (String.ofList (text.toList.take failure.position)) = .ok tokens
  behind : lex (String.ofList (text.toList.drop failure.position)) = .error (.lex .start none)
  atOnce : (Lexer.ofText Scanner.all (String.ofList (text.toList.drop failure.position))).given 0 =
    some (.error { position := 0, location := .start, hint := none, remarks := failure.remarks })

/-- What a scanner remarks on is in the characters, wherever they stand. -/
theorem Scanner.remark_of_cursor (scanner : Scanner) (cursor other : Cursor) (source : List Char) :
    scanner.remark cursor source = scanner.remark other source := by
  cases scanner with
  | keyword => rfl
  | symbol => rfl
  | string => simp only [remark, remarkQuoted, Quoted.unquote_eq_none_iff cursor other]
  | numeric => rfl
  | identifier => simp only [remark, remarkQuoted, Quoted.unquote_eq_none_iff cursor other]

theorem remarks_refusal (front back : List Piece) (rest : List Char) :
    (refusal front rest).remarks = (refusal back rest).remarks := by
  have hsame (scanner : Scanner) (_ : scanner ∈ Scanner.all) :
      scanner.remark (.past (Piece.text front)) rest =
        scanner.remark (.past (Piece.text back)) rest :=
    scanner.remark_of_cursor _ _ rest
  exact List.filterMap_congr hsame

variable {text : String} {pieces : List Piece} {rest : List Char}

theorem items_of_refused_text {cursor : Cursor} (hrest : rest ≠ [])
    (hnone : Scanner.front cursor rest = none) :
    (Lexer.ofText Scanner.all (String.ofList rest)).items =
      [].map .ok ++ [.error (refusal [] rest)] := by
  have hsource : (String.ofList rest).toList = Piece.text [] ++ rest := String.toList_ofList
  have hstart : Scanner.front (.past []) rest = none := Scanner.front_eq_none_of_cursor hnone _
  rw [Lexer.items_of_pieces hsource .nil, Piece.text_nil, Lexer.items_of_refused hrest hstart]
  rfl

theorem cuts_refusal (hsource : text.toList = Piece.text pieces ++ rest) (hcut : Cut rest pieces)
    (hrest : rest ≠ []) (hnone : Scanner.front (.past (Piece.text pieces)) rest = none) :
    (refusal pieces rest).Cuts text (tokens [] pieces) := by
  have hposition : (refusal pieces rest).position = (Piece.text pieces).length := rfl
  have hbefore : text.toList.take (refusal pieces rest).position = Piece.text pieces := by
    rw [hsource, hposition, List.take_left]
  have hbehind : text.toList.drop (refusal pieces rest).position = rest := by
    rw [hsource, hposition, List.drop_left]
  have hitems := items_of_refused_text hrest hnone
  refine ⟨?_, ?_, rfl, ?_, ?_, ?_⟩
  · have hpos : 0 < rest.length := List.length_pos_iff.mpr hrest
    rw [hsource, hposition, List.length_append]
    omega
  · rw [hbefore]
    rfl
  · rw [hbefore]
    -- The words before the place end there by themselves.
    rw [← List.nil_append rest] at hcut
    exact lex_of_cut String.toList_ofList hcut.of_append
  · rw [hbehind]
    exact lex_of_items_append hitems
  · rw [hbehind, Lexer.given_eq, hitems, remarks_refusal pieces []]
    rfl

/-- **A failure cuts a text cleanly.** Asked again and again, the lexer of a text gives tokens, then
at most one failure, and then nothing. Without a failure the text is read as the tokens. With one
it is read as the failure, which cuts the text. -/
theorem given_tokens_then_failure (text : String) :
    ∃ (tokens : List Token) (failure : Option LexFailure),
      (∀ n, (Lexer.ofText Scanner.all text).given n =
        (tokens.map .ok ++ failure.toList.map .error)[n]?) ∧
      match failure with
      | none => lex text = .ok tokens
      | some failure => lex text = .error failure.toError ∧ failure.Cuts text tokens := by
  obtain ⟨pieces, rest, hsource, hcut, hend⟩ := exists_pieces text
  rcases hend with ⟨_, hitems⟩ | ⟨hrest, hnone, hitems⟩
  · refine ⟨tokens [] pieces, none, fun n => ?_, lex_of_items hitems⟩
    rw [Lexer.given_eq, hitems, Option.toList_none, List.map_nil, List.append_nil]
  · refine ⟨tokens [] pieces, some (refusal pieces rest), fun n => ?_, ?_, ?_⟩
    · rw [Lexer.given_eq, hitems]
      rfl
    · exact lex_of_items_append hitems
    · exact cuts_refusal hsource hcut hrest hnone

/-- A quote that is never closed is refused where it opens. -/
example : lex "a, 'b c" = .error (.lex ⟨0, 3⟩ (some ",")) := by
  decide +kernel

end PocketSql
