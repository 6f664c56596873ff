import PocketSql.Proofs.Token.Respacing
import PocketSql.Proofs.Unicode.Recasing
import PocketSql.Statement.Script
/-!
# Words in another case

The case of ASCII letters does not count in words without quotes. A text whose words are written in
another case is cut at the same places into the same words, so it has the same tokens at the same
places. What could move a cut is the first letter of a word, the one character that the word before
it is told by. A letter ends all words that can stand directly before it in the same way, except
that the small letter e goes on with a numeral, so a first letter e keeps its case there.
-/

namespace PocketSql

open Unicode

/-! ### A letter after a word -/

theorem Symbol.not_isAlphabetic_of_mem_spelling (mark : Symbol) :
    ∀ c ∈ mark.spelling.toList, isAlphabetic c = false := by
  have hall : mark.spelling.toList.all (!isAlphabetic ·) = true := by
    cases mark <;> decide +kernel
  simpa using hall

theorem Numeral.not_goesOn_of_isAlphabetic {c : Char} (h : isAlphabetic c = true)
    (hne : c ≠ 'e') : goesOn c = false := by
  have hdigit : isDigit c = false := by
    refine Bool.eq_false_iff.mpr fun hdigit => ?_
    have hopener : Scanner.isOpener c = true := by
      simp [Scanner.isOpener, hdigit]
    cases (Scanner.not_earlier_of_isOpener hopener).1.symm.trans h
  have hpoint : c ≠ '.' := by
    rintro rfl
    exact absurd h (by decide +kernel)
  simp [goesOn, hdigit, hpoint, hne]

namespace IsWord

variable {rest other chars : List Char} {value : String} {kind : TokenKind} {c d : Char}

/-- A word that one letter follows stays one where another letter does, the letter e apart. -/
theorem of_letter (h : IsWord (c :: rest) chars value kind) (hc : isAlphabetic c = true)
    (hd : isAlphabetic d = true) (hmark : kind = .numeric → d = 'e' → c = 'e') :
    IsWord (d :: other) chars value kind := by
  have hname := Scanner.isNameChar_of_isAlphabetic hc
  have hquote {x : Char} (hx : isAlphabetic x = false) : (d :: other).head? ≠ some x := by
    intro hhead
    cases hhead
    cases hx.symm.trans hd
  cases h with
  | keyword _ hend => cases hname.symm.trans hend
  | symbol _ =>
      exact .symbol (Symbol.endsBefore_of_head? Symbol.not_isAlphabetic_of_mem_spelling hd)
  | string _ => exact .string (hquote (by decide +kernel))
  | numeral hnumeral hend =>
      have hne : d ≠ 'e' := by
        intro hd
        cases hmark rfl hd
        cases hend
      exact .numeral hnumeral (Numeral.not_goesOn_of_isAlphabetic hd hne)
  | quotedName _ => exact .quotedName (hquote (by decide +kernel))
  | bareName _ _ _ hend => cases hname.symm.trans hend

end IsWord

/-! ### Words without quotes -/

/-- The characters of a word of the kind have no quotes around them, and the word is no numeral and
no symbol. -/
def Bare (chars : List Char) : TokenKind → Prop
  | .keyword | .bool | .null => True
  | .identifier => chars.head? ≠ some '"'
  | .symbol | .string | .numeric => False

namespace IsWord

variable {rest chars other : List Char} {value : String} {kind : TokenKind}

theorem head?_of_bare (h : IsWord rest chars value kind) (hbare : Bare chars kind) :
    chars.head?.any isAlphabetic = true := by
  cases h with
  | @keyword word _ hword _ =>
      rw [← any_head?_map_toLower isAlphabetic_toLower, hword]
      cases word <;> decide +kernel
  | symbol => cases hbare
  | string => cases hbare
  | numeral => cases hbare
  | quotedName => exact absurd rfl hbare
  | bareName hfirst _ _ _ => exact hfirst

/-- **A word without quotes is the same word in any ASCII case.** -/
theorem recased (h : IsWord rest chars value kind) (hbare : Bare chars kind)
    (hcase : other.map Char.toLower = chars.map Char.toLower) : IsWord rest other value kind := by
  cases h with
  | keyword hword hend => exact .keyword (hcase.trans hword) hend
  | symbol => cases hbare
  | string => cases hbare
  | numeral => cases hbare
  | quotedName => exact absurd rfl hbare
  | bareName hfirst hchars hfree hend =>
      have hhead := any_head?_map_toLower isAlphabetic_toLower
      have hall := all_map_toLower isNameChar_toLower
      rw [← lowercase_congr_toLower hcase]
      refine .bareName ?_ ?_ ?_ hend
      · rw [← hhead, hcase, hhead]
        exact hfirst
      · rw [← List.all_eq_true, ← hall, hcase, hall, List.all_eq_true]
        exact hchars
      · rw [hcase]
        exact hfree

end IsWord

namespace Piece

/-- The same pieces up to the case of ASCII letters in words without quotes. A word directly behind
another one, of the kind `last`, keeps the case of a first letter e if that is a numeral. -/
inductive Recased : Option TokenKind → List Piece → List Piece → Prop where
  | nil {last : Option TokenKind} : Recased last [] []
  | blank {last : Option TokenKind} {c : Char} {pieces others : List Piece}
      (h : Recased none pieces others) : Recased last (.blank c :: pieces) (.blank c :: others)
  | same {last : Option TokenKind} {chars : List Char} {value : String} {kind : TokenKind}
      {pieces others : List Piece} (h : Recased (some kind) pieces others) :
      Recased last (.word chars value kind :: pieces) (.word chars value kind :: others)
  | word {last : Option TokenKind} {chars other : List Char} {value : String} {kind : TokenKind}
      {pieces others : List Piece} (hbare : Bare chars kind)
      (hcase : other.map Char.toLower = chars.map Char.toLower)
      (hmark : last = some .numeric → chars.head?.map Char.toLower = some 'e' →
        other.head? = chars.head?)
      (h : Recased (some kind) pieces others) :
      Recased last (.word chars value kind :: pieces) (.word other value kind :: others)

variable {pieces others : List Piece} {last : Option TokenKind} {rest : List Char}

/-- What follows a word ends it in the other case too. -/
theorem Recased.isWord {chars : List Char} {value : String} {kind : TokenKind}
    (h : Recased (some kind) pieces others) (hcut : Cut rest pieces)
    (hword : IsWord (text pieces ++ rest) chars value kind) :
    IsWord (text others ++ rest) chars value kind := by
  cases h with
  | nil => exact hword
  | blank _ => exact hword.congr_head? rfl
  | same _ =>
      cases hcut with
      | word hnext _ =>
          apply hword.congr_head?
          simp only [text_cons, Piece.chars, List.append_assoc,
            List.head?_append_of_ne_nil _ hnext.ne_nil]
  | @word _ next other _ _ _ _ hbare hcase hmark _ =>
      cases hcut with
      | word hnext _ =>
          have hletter := hnext.head?_of_bare hbare
          obtain ⟨c, back, rfl⟩ := List.exists_cons_of_ne_nil hnext.ne_nil
          cases other with
          | nil => cases hcase
          | cons d front =>
              obtain ⟨hsame, _⟩ := List.cons.inj hcase
              have hother : isAlphabetic d = true := by
                rw [← isAlphabetic_toLower, hsame, isAlphabetic_toLower]
                exact hletter
              refine hword.of_letter hletter hother fun hkind hd => ?_
              subst hkind hd
              have hfirst := hmark rfl (congrArg some hsame.symm)
              exact (Option.some.inj hfirst).symm

/-- **Another case moves no cut.** -/
theorem Recased.cut (h : Recased last pieces others) (hcut : Cut rest pieces) :
    Cut rest others := by
  induction h with
  | nil => exact .nil
  | blank _ ih =>
      cases hcut with
      | blank hblank hcut => exact .blank hblank (ih hcut)
  | same h ih =>
      cases hcut with
      | word hword hcut => exact .word (h.isWord hcut hword) (ih hcut)
  | word hbare hcase _ h ih =>
      cases hcut with
      | word hword hcut => exact .word ((h.isWord hcut hword).recased hbare hcase) (ih hcut)

theorem Recased.tokens_eq (h : Recased last pieces others) {before prior : List Char}
    (hbefore : prior.map Char.toLower = before.map Char.toLower) :
    tokens prior others = tokens before pieces := by
  induction h generalizing before prior with
  | nil => rfl
  | blank _ ih =>
      rw [tokens, tokens]
      apply ih
      rw [List.map_append, List.map_append, hbefore]
  | same _ ih =>
      rw [tokens, tokens, Location.past_congr_toLower hbefore]
      refine congrArg _ (ih ?_)
      rw [List.map_append, List.map_append, hbefore]
  | word _ hcase _ _ ih =>
      rw [tokens, tokens, Location.past_congr_toLower hbefore]
      refine congrArg _ (ih ?_)
      rw [List.map_append, List.map_append, hbefore, hcase]

end Piece

/-! ### Whole texts -/

section Texts

open Piece

variable {a : String} {tokens : List Token}

/-- **The case of words without quotes does not count.** A text that is read has one cut. If words
of it without quotes are written in another ASCII case, and a first letter e directly behind a
numeral keeps its case, then the text is cut into the same words. It has the same tokens, texts,
kinds and places alike, and it is the same script or fails as one in the same way. -/
theorem lex_recased (h : lex a = .ok tokens) :
    (∃! pieces, Piece.Whole a pieces) ∧
    ∀ pieces, Piece.Whole a pieces → Piece.tokens [] pieces = tokens ∧
      ∀ (b : String) (others : List Piece), Piece.Recased none pieces others →
        b.toList = Piece.text others →
        Piece.Whole b others ∧ lex b = .ok tokens ∧ parse b = parse a := by
  refine ⟨existsUnique_whole h, fun pieces hwhole => ⟨tokens_of_whole h hwhole, ?_⟩⟩
  intro b others hcase hsource
  have hcut := hcase.cut hwhole.2
  have hread : lex b = .ok tokens := by
    rw [lex_of_cut hsource hcut, hcase.tokens_eq rfl, tokens_of_whole h hwhole]
  refine ⟨⟨hsource.symm, hcut⟩, hread, ?_⟩
  rw [parse, parse, hread, h]

/-- A name with a capital sigma directly behind a numeral, and a reserved word. -/
theorem lex_recased_behind_numeral :
    let pieces (name reserved : String) : List Piece :=
      [.word ['1'] "1" .numeric, .word name.toList "exoς" .identifier, .blank ' ',
        .word reserved.toList "select" .keyword]
    let tokens : List Token :=
      [⟨"1", .numeric, ⟨0, 0⟩⟩, ⟨"exoς", .identifier, ⟨0, 1⟩⟩, ⟨"select", .keyword, ⟨0, 6⟩⟩]
    lex "1ExoΣ select" = .ok tokens ∧
      Piece.Whole "1ExoΣ select" (pieces "ExoΣ" "select") ∧
      Piece.Recased none (pieces "ExoΣ" "select") (pieces "EXOΣ" "SELect") ∧
      lex "1EXOΣ SELect" = .ok tokens ∧ parse "1EXOΣ SELect" = parse "1ExoΣ select" := by
  intro pieces tokens
  have hread : lex "1ExoΣ select" = .ok tokens := by
    decide +kernel
  have hnumeral : IsWord "ExoΣ select".toList ['1'] "1" .numeric := by
    have hwhole : Numeral.WellFormed { whole := ['1'] } :=
      ⟨List.all_eq_true.mp (by decide), by simp, rfl, by simp⟩
    exact .numeral hwhole (by decide)
  have hname : IsWord " select".toList "ExoΣ".toList "exoς" .identifier := by
    have hlower : lowercase (String.ofList "ExoΣ".toList) = "exoς" := by
      decide +kernel
    rw [← hlower]
    refine .bareName (by decide +kernel) (List.all_eq_true.mp (by decide +kernel)) ?_ ?_
    · intro word
      cases word <;> decide
    · decide +kernel
  have hreserved : IsWord [] "select".toList "select" .keyword := by
    have hcase : "select".toList.map Char.toLower = Keyword.select.spelling.toList := by
      decide
    exact .keyword hcase rfl
  have hwhole : Piece.Whole "1ExoΣ select" (pieces "ExoΣ" "select") :=
    ⟨by decide, .word hnumeral (.word hname (.blank rfl (.word hreserved .nil)))⟩
  have hcase : Recased none (pieces "ExoΣ" "select") (pieces "EXOΣ" "SELect") := by
    have hbare : Bare "ExoΣ".toList .identifier := show "ExoΣ".toList.head? ≠ some '"' by decide
    refine .same (.word hbare (by decide) (fun _ _ => rfl) (.blank ?_))
    exact .word trivial (by decide) (fun _ => by decide) .nil
  obtain ⟨_, hrecased⟩ := lex_recased hread
  obtain ⟨_, hother⟩ := hrecased _ hwhole
  obtain ⟨_, hlex, hparse⟩ := hother "1EXOΣ SELect" _ hcase (by decide)
  exact ⟨hread, hwhole, hcase, hlex, hparse⟩

/-- In small letters the name would be an exponent without digits. -/
example : lex "1exo" = .error (.lex ⟨0, 0⟩ none) := by
  decide +kernel

end Texts

end PocketSql
