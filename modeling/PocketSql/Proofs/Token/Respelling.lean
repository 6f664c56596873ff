import PocketSql.Proofs.Token.Pieces
/-!
# A text that is read loses no character

The pieces of a text that is read make up the text, so nothing of it is dropped or read twice. Each
of them can be told from what it was read as. A blank is one of four characters, and a word spells
its token: a reserved word in any case, a quoted text with its delimiters doubled, a name without
quotes up to its case, and the others as they are.
-/

namespace PocketSql

open Unicode

/-- A letter and then characters that a name can go on with. -/
def IsBareWord (chars : List Char) : Prop :=
  chars.head?.any isAlphabetic = true ∧ ∀ c ∈ chars, Scanner.isNameChar c = true

/-- The characters spell a token of the given text, by its kind. Case is the case of ASCII letters
in reserved words and that of all letters in names. -/
def Respells (chars : List Char) (value : String) : TokenKind → Prop
  | .keyword | .bool | .null => chars.map Char.toLower = value.toList
  | .symbol | .numeric => chars = value.toList
  | .string => chars = Quoted.quote '\'' value.toList
  | .identifier => chars = Quoted.quote '"' value.toList ∨
      IsBareWord chars ∧ lowercase (String.ofList chars) = value

theorem Keyword.kind_cases (word : Keyword) :
    word.kind = .keyword ∨ word.kind = .bool ∨ word.kind = .null := by
  cases word <;> decide

theorem IsWord.respells {rest chars : List Char} {value : String} {kind : TokenKind}
    (h : IsWord rest chars value kind) : Respells chars value kind := by
  cases h with
  | @keyword word _ hcase _ =>
      rcases word.kind_cases with hkind | hkind | hkind
      all_goals
        rw [hkind]
        exact hcase
  | symbol _ => rfl
  | @string text _ =>
      show Quoted.quote '\'' text = _
      rw [String.toList_ofList]
  | numeral _ _ => exact String.toList_ofList.symm
  | @quotedName text _ =>
      apply Or.inl
      rw [String.toList_ofList]
  | bareName hfirst hchars _ _ => exact .inr ⟨⟨hfirst, hchars⟩, rfl⟩

namespace Piece

/-- The piece is one of the four blanks or respells its token. -/
def Faithful : Piece → Prop
  | .blank c => c = ' ' ∨ c = '\t' ∨ c = '\r' ∨ c = '\n'
  | .word chars value kind => Respells chars value kind

theorem Cut.faithful {rest : List Char} {pieces : List Piece} (h : Cut rest pieces) :
    ∀ piece ∈ pieces, piece.chars ≠ [] ∧ piece.Faithful := by
  induction h with
  | nil => simp
  | blank hblank _ ih =>
      refine List.forall_mem_cons.mpr ⟨⟨?_, ?_⟩, ih⟩
      · exact List.cons_ne_nil _ _
      · exact Scanner.isBlank_cases hblank
  | word hword _ ih => exact List.forall_mem_cons.mpr ⟨⟨hword.ne_nil, hword.respells⟩, ih⟩

end Piece

/-- **Reading loses no character.** A text that is read is made of pieces that are not empty. One
after the other they are blanks and spellings of the tokens, one spelling for each token. -/
theorem exists_faithful_pieces {text : String} {tokens : List Token} (h : lex text = .ok tokens) :
    ∃ pieces : List Piece, Piece.text pieces = text.toList ∧ Piece.tokens [] pieces = tokens ∧
      ∀ piece ∈ pieces, piece.chars ≠ [] ∧ piece.Faithful := by
  obtain ⟨pieces, hsource, htokens, hcut⟩ := lex_eq_ok_iff.mp h
  exact ⟨pieces, hsource, htokens, hcut.faithful⟩

/-- A reserved word in capitals, a doubled quote and a line feed inside of quotes. -/
theorem exists_faithful_pieces_quotes :
    let text := "SELECT\n\"a\"\"b\", 'x\ny'''"
    let tokens : List Token :=
      [⟨"select", .keyword, ⟨0, 0⟩⟩, ⟨"a\"b", .identifier, ⟨1, 0⟩⟩, ⟨",", .symbol, ⟨1, 6⟩⟩,
        ⟨"x\ny'", .string, ⟨1, 8⟩⟩]
    lex text = .ok tokens ∧
      ∃ pieces : List Piece, Piece.text pieces = text.toList ∧ Piece.tokens [] pieces = tokens ∧
        ∀ piece ∈ pieces, piece.chars ≠ [] ∧ piece.Faithful := by
  intro text tokens
  have hread : lex text = .ok tokens := by
    decide +kernel
  exact ⟨hread, exists_faithful_pieces hread⟩

end PocketSql
