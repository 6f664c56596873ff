import PocketSql.Proofs.Token.Pieces
/-!
# Places of tokens

A lexer is where its scanners leave the cursor. A word on one line moves it by its characters and a
line feed moves it to the next line; in quotes a word can be several lines long and have characters
in it that stand for one. Each scanner moves the cursor exactly over what it takes, whatever that is
(`Scanner.scan_exact`). So the place of a token is what counting in the text before its word gives,
and so is the place of a failure. Places of later tokens come later.
-/

namespace PocketSql

namespace Piece

variable {before rest : List Char} {pieces front back : List Piece}

def isWord : Piece → Bool
  | .blank _ => false
  | .word _ _ _ => true

/-- There is a token for each word, in their order. Its place counts the line feeds before the word
and the characters after the last of them, and it comes before the places of the tokens after it. -/
structure Located (pieces : List Piece) (tokens : List Token) : Prop where
  length : tokens.length = pieces.countP isWord
  place : ∀ front chars value kind back, pieces = front ++ .word chars value kind :: back →
    tokens[front.countP isWord]? = some { value, kind, location := .past (text front) }
  ordered : tokens.Pairwise fun a b => a.location.Before b.location

theorem length_tokens (before : List Char) (pieces : List Piece) :
    (tokens before pieces).length = pieces.countP isWord := by
  induction pieces generalizing before with
  | nil => rfl
  | cons piece pieces ih =>
      cases piece with
      | blank c => simp [tokens, isWord, ih]
      | word chars value kind => simp [tokens, isWord, List.countP_cons, ih]

theorem getElem?_tokens (before : List Char) (front : List Piece) (chars : List Char)
    (value : String) (kind : TokenKind) (back : List Piece) :
    (tokens before (front ++ .word chars value kind :: back))[front.countP isWord]? =
      some { value, kind, location := .past (before ++ text front) } := by
  induction front generalizing before with
  | nil => simp [tokens]
  | cons piece front ih =>
      cases piece with
      | blank c =>
          have hrest := ih (before ++ [c])
          simpa [tokens, isWord, List.countP_cons, Piece.chars] using hrest
      | word chars value kind =>
          have hrest := ih (before ++ chars)
          simpa [tokens, isWord, List.countP_cons, Piece.chars] using hrest

theorem location_of_mem_tokens {token : Token} (h : token ∈ tokens before pieces) :
    ∃ between, token.location = .past (before ++ between) := by
  induction pieces generalizing before with
  | nil => simp [tokens] at h
  | cons piece pieces ih =>
      cases piece with
      | blank c =>
          obtain ⟨between, hplace⟩ := ih h
          exact ⟨[c] ++ between, by rw [hplace, List.append_assoc]⟩
      | word chars value kind =>
          rcases List.mem_cons.mp h with rfl | h
          · exact ⟨[], by rw [List.append_nil]⟩
          · obtain ⟨between, hplace⟩ := ih h
            exact ⟨chars ++ between, by rw [hplace, List.append_assoc]⟩

/-- The place behind a word comes after the place where it begins, so tokens come in order. -/
theorem Cut.pairwise_tokens (h : Cut rest pieces) (before : List Char) :
    (tokens before pieces).Pairwise fun a b => a.location.Before b.location := by
  induction h generalizing before with
  | nil => exact List.Pairwise.nil
  | blank _ _ ih => exact ih _
  | @word chars value kind pieces hword _ ih =>
      rw [tokens, List.pairwise_cons]
      refine ⟨fun later hlater => ?_, ih _⟩
      obtain ⟨between, hplace⟩ := location_of_mem_tokens hlater
      have hne : chars ++ between ≠ [] := List.append_ne_nil_of_left_ne_nil hword.ne_nil between
      rw [hplace, List.append_assoc, Location.past_append]
      exact Location.before_after hne

theorem Cut.located (h : Cut rest pieces) : Located pieces (tokens [] pieces) where
  length := length_tokens [] pieces
  place := by
    rintro front chars value kind back rfl
    exact getElem?_tokens [] front chars value kind back
  ordered := h.pairwise_tokens []

end Piece

/-- **Places are exact.** Every text is cut from the front, and what its lexer gives is a token for
each word and, where the cut does not reach the end, a failure. The places of tokens are those of
their words, and the place of the failure is that of the first character behind the cut. -/
theorem items_located (text : String) :
    ∃ (pieces : List Piece) (rest : List Char) (tokens : List Token),
      text.toList = Piece.text pieces ++ rest ∧ Piece.Cut rest pieces ∧
      Piece.Located pieces tokens ∧
      ((rest = [] ∧ (Lexer.ofText Scanner.all text).items = tokens.map .ok ∧
          lex text = .ok tokens) ∨
        (rest ≠ [] ∧ Scanner.front (.past (Piece.text pieces)) rest = none ∧ ∃ failure : LexFailure,
          (Lexer.ofText Scanner.all text).items = tokens.map .ok ++ [.error failure] ∧
          failure.position = (Piece.text pieces).length ∧
          failure.location = .past (Piece.text pieces) ∧
          lex text = .error (.lex failure.location failure.hint))) := by
  obtain ⟨pieces, rest, hsource, hcut, hend⟩ := exists_pieces text
  refine ⟨pieces, rest, Piece.tokens [] pieces, hsource, hcut, hcut.located, ?_⟩
  rcases hend with ⟨hrest, hitems⟩ | ⟨hrest, hnone, hitems⟩
  · exact .inl ⟨hrest, hitems, lex_of_items hitems⟩
  · refine .inr ⟨hrest, hnone, Piece.refusal pieces rest, hitems, rfl, rfl, ?_⟩
    exact lex_of_items_append hitems

/-- A failure behind a text of three lines and behind doubled quotes. -/
example :
    lex "'a\n''b\n' \"c\"\"d\" ?" = .error (.lex ⟨2, 9⟩ (some "c\"d")) := by
  decide +kernel

end PocketSql
