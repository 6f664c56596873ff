import PocketSql.Proofs.Token.Pieces
/-!
# The places that a lexer comes to

The lexer of a text begins in front of it and moves on in two ways: past a blank, and past the word
of a token that it gives. Wherever it comes to, it stands between the text that it has passed and the
text that is left. What it does next is settled by what is left alone. It gives the token of a word,
which it then has passed, or the text is refused at that place.
-/

namespace PocketSql.Lexer

variable {text : String} {lexer later : Lexer} {token : Token} {before rest chars back : List Char}
  {hint : Option String} {value : String} {kind : TokenKind}

/-- The lexer of the text becomes this one after some blanks and tokens. -/
inductive Reached (text : String) : Lexer → Prop where
  | start : Reached text (ofText Scanner.all text)
  | blank {lexer : Lexer} {cursor : Cursor} (h : Reached text lexer)
      (hblank : lexer.lexeme? = some ⟨none, cursor⟩) : Reached text (lexer.moveTo cursor)
  | token {lexer later : Lexer} {token : Token} (h : Reached text lexer)
      (hnext : lexer.next = (some (.ok token), later)) : Reached text later

/-- The lexer gives a token of this text and kind for these characters. They stand in the text right
where the lexer does, the token has their place, and the lexer goes on right behind them. -/
def Gives (text : String) (lexer : Lexer) (chars : List Char) (value : String)
    (kind : TokenKind) : Prop :=
  ∃ front back later, text.toList = front ++ chars ++ back ∧ front.length = lexer.position ∧
    lexer.next = (some (.ok { value, kind, location := .past front }), later) ∧
    later.position = lexer.position + chars.length ∧ later.rest = back

/-- The lexer fails where it stands, and the text is refused at that place. -/
def Refuses (text : String) (lexer : Lexer) : Prop :=
  ∃ front back failure later, text.toList = front ++ back ∧ front.length = lexer.position ∧
    lexer.next = (some (.error failure), later) ∧ failure.position = lexer.position ∧
    failure.location = .past front ∧ lex text = .error failure.toError

/-! ### Between two parts of a text -/

/-- A lexer that gives a token has passed some blanks and the word of the token. -/
theorem between_of_next (h : (between before hint rest).next = (some (.ok token), later)) :
    ∃ blanks chars back, rest = blanks ++ (chars ++ back) ∧
      (∀ c ∈ blanks, Scanner.isBlank c = true) ∧ IsWord back chars token.value token.kind ∧
      later = between (before ++ (blanks ++ chars)) (some token.value) back := by
  generalize hlexer : between before hint rest = lexer at h
  fun_induction next lexer generalizing before rest with
  | case1 => cases h
  | case2 => cases h
  | case3 => cases h
  | case4 lexer _ _ cursor hlexeme ih =>
      subst hlexer
      rw [lexeme?_eq_front rfl] at hlexeme
      rcases Scanner.exists_of_front hlexeme with
        ⟨c, others, hrest, hblank, hone⟩ | ⟨_, _, _, _, _, _, hword⟩
      · obtain ⟨_, rfl⟩ := Lexeme.mk.inj hone
        obtain rfl : rest = [c] ++ others := hrest
        obtain ⟨blanks, chars, back, rfl, hblanks, hword, hlater⟩ :=
          ih (moveTo_between before hint [c] others).symm h
        refine ⟨c :: blanks, chars, back, rfl, ?_, hword, ?_⟩
        · exact List.forall_mem_cons.mpr ⟨hblank, hblanks⟩
        rw [hlater, List.append_assoc]
        rfl
      · cases hword
  | case5 lexer _ _ given cursor hlexeme =>
      subst hlexer
      rw [lexeme?_eq_front rfl] at hlexeme
      rcases Scanner.exists_of_front hlexeme with
        ⟨_, _, _, _, hblank⟩ | ⟨chars, back, _, _, hrest, hword, hlexeme⟩
      · cases hblank
      · cases hlexeme
        obtain rfl : rest = chars ++ back := hrest
        obtain ⟨hitem, hlater⟩ := Prod.mk.inj h
        cases hitem
        refine ⟨[], chars, back, rfl, by simp, hword, ?_⟩
        exact hlater.symm.trans (moveTo_between_word before hint chars back _)

/-- **A lexer stands between two parts of its text**, and what it still gives is the end of what the
text gives. -/
theorem Reached.exists_between (h : lexer.Reached text) :
    ∃ (before : List Char) (hint : Option String) (rest : List Char),
      lexer = between before hint rest ∧ text.toList = before ++ rest ∧
      ∃ given : List Token,
        (ofText Scanner.all text).items = given.map .ok ++ lexer.items := by
  induction h with
  | start => exact ⟨[], none, text.toList, rfl, rfl, [], rfl⟩
  | blank _ htaken ih =>
      obtain ⟨before, hint, rest, rfl, hsource, given, hitems⟩ := ih
      rw [lexeme?_eq_front rfl] at htaken
      rcases Scanner.exists_of_front htaken with
        ⟨c, others, hrest, hblank, hone⟩ | ⟨_, _, _, _, _, _, hword⟩
      · obtain ⟨_, rfl⟩ := Lexeme.mk.inj hone
        obtain rfl : rest = [c] ++ others := hrest
        have hmoved := moveTo_between before hint [c] others
        refine ⟨before ++ [c], hint, others, hmoved, ?_, given, ?_⟩
        · rw [hsource, List.append_assoc]
        · rw [hitems]
          exact congrArg (given.map .ok ++ ·)
            ((items_of_front_blank hblank).trans (congrArg items hmoved.symm))
      · cases hword
  | @token _ _ token _ hnext ih =>
      obtain ⟨before, hint, rest, rfl, hsource, given, hitems⟩ := ih
      obtain ⟨blanks, chars, back, rfl, _, _, rfl⟩ := between_of_next hnext
      refine ⟨before ++ (blanks ++ chars), _, back, rfl, ?_, given ++ [token], ?_⟩
      · rw [hsource, List.append_assoc, List.append_assoc]
      · rw [hitems, items_of_next hnext, List.map_append, List.append_assoc]
        rfl

/-! ### What a lexer does where it stands -/

theorem Reached.gives (h : lexer.Reached text) (hrest : lexer.rest = chars ++ back)
    (hword : IsWord back chars value kind) : lexer.Gives text chars value kind := by
  obtain ⟨before, hint, rest, rfl, hsource, _⟩ := h.exists_between
  obtain rfl : rest = chars ++ back := hrest
  have hnext : (between before hint (chars ++ back)).next = _ :=
    next_of_word rfl rfl (Scanner.front_of_isWord hword)
  refine ⟨before, back, _, by rw [hsource, List.append_assoc], rfl, hnext, rfl, ?_⟩
  exact congrArg rest (moveTo_between before hint chars back)

theorem Reached.refuses (h : lexer.Reached text) (hrest : lexer.rest ≠ [])
    (hnone : Scanner.front lexer.toCursor lexer.rest = none) : lexer.Refuses text := by
  obtain ⟨before, hint, rest, rfl, hsource, given, hitems⟩ := h.exists_between
  have hnext : (between before hint rest).next = _ := next_of_refused rfl rfl hrest hnone
  change rest ≠ [] at hrest
  change Scanner.front (.past before) rest = none at hnone
  rw [items_of_refused hrest hnone] at hitems
  exact ⟨before, rest, _, _, hsource, rfl, hnext, rfl, rfl, lex_of_items_append hitems⟩

end PocketSql.Lexer
