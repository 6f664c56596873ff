import PocketSql.Proofs.Token.Front
import PocketSql.Token.Lexer
/-!
# Texts that spell tokens

A text spells a list of tokens when it is made of a spelling for each of them, in order, with any
blanks around them. Such a text is read as those tokens: the lexer passes one piece of it in each
step.
-/

namespace PocketSql

/-- Spellings of the tokens, in order, and blanks. -/
inductive Spelled : List Token → List Char → Prop where
  | nil : Spelled [] []
  | blank {c : Char} {tokens : List Token} {rest : List Char} (hblank : Scanner.isBlank c = true)
      (h : Spelled tokens rest) : Spelled tokens (c :: rest)
  | token {token : Token} {tokens : List Token} {word rest : List Char}
      (hword : token.IsSpelled rest word) (h : Spelled tokens rest) :
      Spelled (token :: tokens) (word ++ rest)

/-! ### Steps of a lexer -/

namespace Lexer

variable {lexer other : Lexer} {cursor : Cursor} {token : Token}

theorem items_of_next_eq (h : lexer.next = other.next) : lexer.items = other.items := by
  rw [items, items]
  rw [h]

theorem next_of_end (hrest : lexer.rest = []) : lexer.next = (none, lexer) := by
  rw [next, dif_pos hrest, ite_self]

theorem next_of_failed (hfailed : lexer.failed = true) : lexer.next = (none, lexer) := by
  rw [next, if_pos hfailed]

theorem rest_ne_nil_of_front {lexeme : Lexeme}
    (h : Scanner.front cursor lexer.rest = some lexeme) : lexer.rest ≠ [] := by
  intro hnil
  rw [hnil] at h
  cases h

theorem lexeme?_eq_front (hall : lexer.scanners = Scanner.all) :
    lexer.lexeme? = Scanner.front lexer.toCursor lexer.rest := by
  rw [lexeme?, hall]
  rfl

theorem next_of_lexeme?_blank (h : lexer.lexeme? = some ⟨none, cursor⟩)
    (hfailed : lexer.failed = false) (hrest : lexer.rest ≠ []) :
    lexer.next = (lexer.moveTo cursor).next := by
  rw [next, if_neg (by simp [hfailed]), dif_neg hrest]
  split
  all_goals
    rename_i hfound
    rw [h] at hfound
    cases hfound
  rfl

theorem next_of_lexeme?_word (h : lexer.lexeme? = some ⟨some token, cursor⟩)
    (hfailed : lexer.failed = false) (hrest : lexer.rest ≠ []) :
    lexer.next =
      (some (.ok token), { lexer.moveTo cursor with hint := some token.value }) := by
  rw [next, if_neg (by simp [hfailed]), dif_neg hrest]
  split
  all_goals
    rename_i hfound
    rw [h] at hfound
    cases hfound
  rfl

theorem next_of_lexeme?_none (h : lexer.lexeme? = none) (hfailed : lexer.failed = false)
    (hrest : lexer.rest ≠ []) :
    lexer.next = (some (.error lexer.failure), { lexer with failed := true }) := by
  rw [next, if_neg (by simp [hfailed]), dif_neg hrest]
  split
  · rfl
  all_goals
    rename_i hfound
    rw [h] at hfound
    cases hfound

theorem next_of_blank (hall : lexer.scanners = Scanner.all) (hfailed : lexer.failed = false)
    (h : Scanner.front lexer.toCursor lexer.rest = some ⟨none, cursor⟩) :
    lexer.next = (lexer.moveTo cursor).next :=
  next_of_lexeme?_blank ((lexeme?_eq_front hall).trans h) hfailed (rest_ne_nil_of_front h)

theorem next_of_word (hall : lexer.scanners = Scanner.all) (hfailed : lexer.failed = false)
    (h : Scanner.front lexer.toCursor lexer.rest = some ⟨some token, cursor⟩) :
    lexer.next =
      (some (.ok token), { lexer.moveTo cursor with hint := some token.value }) :=
  next_of_lexeme?_word ((lexeme?_eq_front hall).trans h) hfailed (rest_ne_nil_of_front h)

theorem next_of_refused (hall : lexer.scanners = Scanner.all) (hfailed : lexer.failed = false)
    (hrest : lexer.rest ≠ []) (hnone : Scanner.front lexer.toCursor lexer.rest = none) :
    lexer.next = (some (.error lexer.failure), { lexer with failed := true }) :=
  next_of_lexeme?_none ((lexeme?_eq_front hall).trans hnone) hfailed hrest

theorem items_of_next_none (h : lexer.next = (none, other)) : lexer.items = [] := by
  rw [items]
  split
  · rfl
  · rename_i hnext
    rw [h] at hnext
    cases hnext

theorem items_of_end (hrest : lexer.rest = []) : lexer.items = [] :=
  items_of_next_none (next_of_end hrest)

theorem items_of_next {item : Except LexFailure Token} (h : lexer.next = (some item, other)) :
    lexer.items = item :: other.items := by
  rw [items]
  split
  all_goals
    rename_i hnext
    rw [h] at hnext
    cases hnext
  rfl

/-- A lexer that goes on behind some characters has the others ahead. -/
theorem rest_moveTo_after {chars rest : List Char} (hrest : lexer.rest = chars ++ rest) :
    (lexer.moveTo (lexer.toCursor.after chars)).rest = rest := by
  rw [moveTo, Cursor.position_after, Nat.add_sub_cancel_left, hrest]
  exact List.drop_left

/-- **A spelled text is read as its tokens.** -/
theorem items_of_spelled {tokens : List Token} {chars : List Char} (h : Spelled tokens chars)
    (lexer : Lexer) (hall : lexer.scanners = Scanner.all) (hfailed : lexer.failed = false)
    (hrest : lexer.rest = chars) :
    ∃ found : List Token, lexer.items = found.map .ok ∧
      found.map Token.unlocated = tokens.map Token.unlocated := by
  induction h generalizing lexer with
  | nil => exact ⟨[], items_of_end hrest, rfl⟩
  | @blank c tokens rest hblank _ ih =>
      have hfront : Scanner.front lexer.toCursor lexer.rest = some (.ofBlank lexer.toCursor c) := by
        rw [hrest]
        exact Scanner.front_blank hblank rest
      have hmoved : lexer.rest = [c] ++ rest := hrest
      obtain ⟨found, hitems, hfound⟩ :=
        ih (lexer.moveTo (lexer.toCursor.after [c])) hall hfailed (rest_moveTo_after hmoved)
      refine ⟨found, ?_, hfound⟩
      rw [items_of_next_eq (next_of_blank hall hfailed hfront), hitems]
  | @token token tokens word rest hword _ ih =>
      have hfront : Scanner.front lexer.toCursor lexer.rest =
          some (.ofWord lexer.toCursor word token.value token.kind) := by
        rw [hrest]
        exact Scanner.front_of_isSpelled hword
      have hnext := next_of_word hall hfailed hfront
      obtain ⟨found, hitems, hfound⟩ :=
        ih { lexer.moveTo (lexer.toCursor.after word) with hint := some token.value } hall hfailed
          (rest_moveTo_after hrest)
      refine ⟨{ token with location := lexer.location } :: found, ?_, ?_⟩
      · rw [items_of_next hnext, hitems]
        rfl
      · rw [List.map_cons, List.map_cons, hfound]
        rfl

end Lexer

theorem lex_of_items {text : String} {tokens : List Token}
    (h : (Lexer.ofText Scanner.all text).items = tokens.map .ok) : lex text = .ok tokens := by
  rw [lex, lexBy, h]
  exact mapM_eq_ok_iff.mpr (List.forall₂_map_left_iff.mpr (List.forall₂_same.mpr fun _ _ => rfl))

theorem lex_of_spelled {tokens : List Token} {text : String} (h : Spelled tokens text.toList) :
    ∃ found : List Token, lex text = .ok found ∧
      found.map Token.unlocated = tokens.map Token.unlocated := by
  obtain ⟨found, hitems, hfound⟩ :=
    Lexer.items_of_spelled h (Lexer.ofText Scanner.all text) rfl rfl rfl
  exact ⟨found, lex_of_items hitems, hfound⟩

end PocketSql
