import PocketSql.Proofs.Location
import PocketSql.Proofs.Token.Spelling
import PocketSql.Proofs.Token.Word
/-!
# A text in pieces

A lexer cuts a text from the front into blanks and words. Whether pieces are such a cut can be said
without a lexer: each of them is a blank, or a word where the pieces after it follow. Every text is
cut up to its end or up to a place where no scanner takes anything (`exists_cut`).

What a lexer gives is read off the cut: the tokens of the words, each with the place of the text
before it, and the failure where the cut does not reach the end. So a text is read as some tokens
exactly where it has a cut to its end with these tokens (`lex_eq_ok_iff`).
-/

namespace PocketSql

/-- A blank, or the characters of a word with the text and the kind of its token. -/
inductive Piece where
  | blank (c : Char)
  | word (chars : List Char) (value : String) (kind : TokenKind)
  deriving DecidableEq, Repr

namespace Piece

def chars : Piece → List Char
  | .blank c => [c]
  | .word chars _ _ => chars

/-- The text that the pieces make one after the other. -/
def text (pieces : List Piece) : List Char :=
  pieces.flatMap chars

/-- The tokens of pieces that stand behind a text. A token has the place where its word begins. -/
def tokens (before : List Char) : List Piece → List Token
  | [] => []
  | .blank c :: pieces => tokens (before ++ [c]) pieces
  | .word chars value kind :: pieces =>
      { value, kind, location := .past before } :: tokens (before ++ chars) pieces

/-- Each piece is a blank, or a word where the others and then `rest` follow. -/
inductive Cut (rest : List Char) : List Piece → Prop where
  | nil : Cut rest []
  | blank {c : Char} {pieces : List Piece} (hblank : Scanner.isBlank c = true)
      (h : Cut rest pieces) : Cut rest (.blank c :: pieces)
  | word {chars : List Char} {value : String} {kind : TokenKind} {pieces : List Piece}
      (hword : IsWord (text pieces ++ rest) chars value kind) (h : Cut rest pieces) :
      Cut rest (.word chars value kind :: pieces)

variable {rest more : List Char} {pieces : List Piece}

@[simp] theorem text_nil : text [] = [] := rfl

@[simp] theorem text_cons (piece : Piece) (pieces : List Piece) :
    text (piece :: pieces) = piece.chars ++ text pieces := rfl

/-- A text has a cut that ends where nothing more is taken. -/
theorem exists_cut (source : List Char) (cursor : Cursor) :
    ∃ pieces rest, source = text pieces ++ rest ∧ Cut rest pieces ∧
      Scanner.front (cursor.after (text pieces)) rest = none := by
  -- What is taken is not empty, so what is left of the source is shorter.
  induction hlength : source.length using Nat.strong_induction_on generalizing source cursor with
  | _ length ih =>
      cases hfront : Scanner.front cursor source with
      | none => exact ⟨[], source, rfl, .nil, hfront⟩
      | some lexeme =>
          rcases Scanner.exists_of_front hfront with
            ⟨c, back, rfl, hblank, _⟩ | ⟨chars, back, value, kind, rfl, hword, _⟩
          · obtain ⟨pieces, rest, rfl, hcut, hnone⟩ :=
              ih back.length (by simp [← hlength]) back (cursor.after [c]) rfl
            rw [← Cursor.after_append] at hnone
            exact ⟨.blank c :: pieces, rest, rfl, .blank hblank hcut, hnone⟩
          · have hpos := List.length_pos_iff.mpr hword.ne_nil
            have hshorter : back.length < length := by
              rw [← hlength, List.length_append]
              omega
            obtain ⟨pieces, rest, rfl, hcut, hnone⟩ :=
              ih back.length hshorter back (cursor.after chars) rfl
            rw [← Cursor.after_append] at hnone
            refine ⟨.word chars value kind :: pieces, rest, ?_, .word hword hcut, hnone⟩
            rw [text_cons, List.append_assoc]
            rfl

/-- A cut of a text stays one where the text after it is cut short. -/
theorem Cut.of_append (h : Cut (rest ++ more) pieces) : Cut rest pieces := by
  induction h with
  | nil => exact .nil
  | blank hblank _ ih => exact .blank hblank ih
  | word hword _ ih =>
      rw [← List.append_assoc] at hword
      exact .word hword.of_append ih

end Piece

/-! ### What a lexer gives -/

/-- The text of the last token, if there is one. -/
def lastValue (tokens : List Token) : Option String :=
  tokens.getLast?.map (·.value)

theorem lastValue_cons (token : Token) (tokens : List Token) :
    lastValue (token :: tokens) = (lastValue tokens).or (some token.value) := by
  rw [lastValue, lastValue, List.getLast?_cons]
  cases tokens.getLast? with
  | none => rfl
  | some last => rfl

namespace Lexer

open Piece

variable {before rest chars : List Char} {hint : Option String} {pieces : List Piece}

/-- A lexer between two parts of a text. -/
def between (before : List Char) (hint : Option String) (rest : List Char) : Lexer where
  toCursor := .past before
  scanners := Scanner.all
  rest := rest
  hint := hint

theorem moveTo_between (before : List Char) (hint : Option String) (chars rest : List Char) :
    (between before hint (chars ++ rest)).moveTo ((Cursor.past before).after chars) =
      between (before ++ chars) hint rest := by
  simp only [moveTo, between, Cursor.past_append, Cursor.position_after, Nat.add_sub_cancel_left,
    List.drop_left]

theorem moveTo_between_word (before : List Char) (hint : Option String) (chars rest : List Char)
    (value : String) :
    { (between before hint (chars ++ rest)).moveTo ((Cursor.past before).after chars) with
      hint := some value } = between (before ++ chars) (some value) rest := by
  rw [moveTo_between]
  rfl

theorem items_of_front_blank {c : Char} (hblank : Scanner.isBlank c = true) :
    (between before hint (c :: rest)).items = (between (before ++ [c]) hint rest).items := by
  have hfront : Scanner.front (.past before) (c :: rest) = _ := Scanner.front_blank hblank rest
  rw [items_of_next_eq (next_of_blank rfl rfl hfront)]
  exact congrArg items (moveTo_between before hint [c] rest)

theorem items_of_front_word {value : String} {kind : TokenKind}
    (hword : IsWord rest chars value kind) :
    (between before hint (chars ++ rest)).items =
      .ok { value, kind, location := .past before } ::
        (between (before ++ chars) (some value) rest).items := by
  have hfront : Scanner.front (.past before) (chars ++ rest) = _ := Scanner.front_of_isWord hword
  have hlater := moveTo_between_word before hint chars rest value
  rw [items_of_next (next_of_word rfl rfl hfront)]
  exact congrArg (_ :: items ·) hlater

/-- **The pieces of a cut are given one after the other.** -/
theorem items_of_cut (h : Cut rest pieces) (before : List Char) (hint : Option String) :
    (between before hint (text pieces ++ rest)).items =
      (tokens before pieces).map .ok ++
        (between (before ++ text pieces) ((lastValue (tokens before pieces)).or hint) rest).items := by
  -- What the lexer knows is the text before it and the hint, and both grow along the cut.
  induction h generalizing before hint with
  | nil =>
      rw [text_nil, List.append_nil]
      rfl
  | @blank c pieces hblank _ ih =>
      rw [text_cons, chars, List.singleton_append, List.cons_append, items_of_front_blank hblank,
        ih, List.append_assoc]
      rfl
  | @word chars value kind pieces hword _ ih =>
      -- The hint from before is forgotten with the first word.
      rw [text_cons, Piece.chars, List.append_assoc, items_of_front_word hword, ih, tokens,
        lastValue_cons, Option.or_assoc, Option.some_or, ← List.append_assoc]
      rfl

/-- Where no scanner takes anything the lexer gives its failure, and it ends with that. -/
theorem items_of_refused (hrest : rest ≠ [])
    (hnone : Scanner.front (.past before) rest = none) (hint : Option String) :
    (between before hint rest).items = [.error (between before hint rest).failure] := by
  rw [items_of_next (next_of_refused rfl rfl hrest hnone), items_of_next_none (next_of_failed rfl)]

end Lexer

/-! ### Whole texts -/

section Texts

open Piece

variable {text : String} {pieces : List Piece} {rest : List Char} {tokens : List Token}
  {failure : LexFailure}

/-- The failure of a lexer where the pieces end and nothing is taken of the rest. -/
def Piece.refusal (pieces : List Piece) (rest : List Char) : LexFailure :=
  (Lexer.between (Piece.text pieces) (lastValue (Piece.tokens [] pieces)) rest).failure

theorem Lexer.items_of_pieces (hsource : text.toList = Piece.text pieces ++ rest)
    (h : Cut rest pieces) :
    (Lexer.ofText Scanner.all text).items = (Piece.tokens [] pieces).map .ok ++
      (between (Piece.text pieces) (lastValue (Piece.tokens [] pieces)) rest).items := by
  have hstart : Lexer.ofText Scanner.all text = between [] none (Piece.text pieces ++ rest) := by
    rw [← hsource]
    rfl
  rw [hstart, items_of_cut h, Option.or_none, List.nil_append]

theorem lex_of_items_append
    (hitems : (Lexer.ofText Scanner.all text).items = tokens.map .ok ++ [.error failure]) :
    lex text = .error failure.toError := by
  rw [lex, lexBy, hitems]
  clear hitems
  induction tokens with
  | nil => rfl
  | cons token tokens ih =>
      rw [List.map_cons, List.cons_append, List.mapM_cons, ih]
      rfl

/-- **A text is read to its end or to a place where nothing is taken.** -/
theorem exists_pieces (text : String) :
    ∃ pieces rest, text.toList = Piece.text pieces ++ rest ∧ Cut rest pieces ∧
      ((rest = [] ∧
          (Lexer.ofText Scanner.all text).items = (Piece.tokens [] pieces).map .ok) ∨
        (rest ≠ [] ∧ Scanner.front (.past (Piece.text pieces)) rest = none ∧
          (Lexer.ofText Scanner.all text).items =
            (Piece.tokens [] pieces).map .ok ++ [.error (refusal pieces rest)])) := by
  obtain ⟨pieces, rest, hsource, hcut, hnone⟩ := exists_cut text.toList (.past [])
  rw [← Cursor.past_append, List.nil_append] at hnone
  refine ⟨pieces, rest, hsource, hcut, ?_⟩
  rw [Lexer.items_of_pieces hsource hcut]
  by_cases hrest : rest = []
  · rw [hrest, Lexer.items_of_end rfl, List.append_nil]
    exact .inl ⟨rfl, rfl⟩
  · rw [Lexer.items_of_refused hrest hnone]
    exact .inr ⟨hrest, hnone, rfl⟩

theorem lex_of_cut (hsource : text.toList = Piece.text pieces) (h : Cut [] pieces) :
    lex text = .ok (Piece.tokens [] pieces) := by
  rw [← List.append_nil (Piece.text pieces)] at hsource
  apply lex_of_items
  rw [Lexer.items_of_pieces hsource h, Lexer.items_of_end rfl, List.append_nil]

/-- **A text is read exactly where it is cut to its end.** -/
theorem lex_eq_ok_iff :
    lex text = .ok tokens ↔ ∃ pieces, Piece.text pieces = text.toList ∧
      Piece.tokens [] pieces = tokens ∧ Cut [] pieces := by
  constructor
  · intro h
    obtain ⟨pieces, rest, hsource, hcut, ⟨rfl, hitems⟩ | ⟨_, _, hitems⟩⟩ := exists_pieces text
    · rw [lex_of_items hitems] at h
      rw [List.append_nil] at hsource
      exact ⟨pieces, hsource.symm, Except.ok.inj h, hcut⟩
    · rw [lex_of_items_append hitems] at h
      cases h
  · rintro ⟨pieces, hsource, rfl, hcut⟩
    exact lex_of_cut hsource.symm hcut

end Texts

end PocketSql
