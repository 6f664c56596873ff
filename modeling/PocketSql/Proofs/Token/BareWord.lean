import PocketSql.Proofs.Token.Reached
import PocketSql.Proofs.Token.Respelling
/-!
# Words without quotes

Reserved words and names without quotes share their characters, and they are told apart by two ways
of looking at a word. A reserved word is looked for one character at a time and cut off by the
character after it; a name is put in lower case as a whole. Both come to the same: where a lexer
stands at a letter, the characters from there that a name can go on with are one word, which is
reserved if its lower-case form is, and otherwise is a name.
-/

namespace PocketSql

open Unicode

namespace Keyword

variable {text : String} {word : Keyword}

theorem spelling_inj {a b : Keyword} (h : a.spelling = b.spelling) : a = b :=
  Scanner.keyword_of_spelling (congrArg String.toList h)

theorem ofText?_eq_some_iff_lowercase :
    ofText? text = some word ↔ lowercase text = word.spelling := by
  rw [ofText?]
  constructor
  · intro h
    have hfound := List.find?_some h
    exact (eq_of_beq hfound).symm
  · intro h
    cases hfind : all.find? fun word => word.spelling == lowercase text with
    | none =>
        have hnone := List.find?_eq_none.mp hfind word (Scanner.mem_all_keyword word)
        simp [h] at hnone
    | some found =>
        have hfound := List.find?_some hfind
        rw [spelling_inj ((eq_of_beq hfound).trans h)]

/-- Only ASCII letters in some case spell a reserved word, although more characters than these have
an ASCII lower-case form. -/
theorem ofText?_eq_some_iff :
    ofText? text = some word ↔ text.toList.map Char.toLower = word.spelling.toList := by
  rw [ofText?_eq_some_iff_lowercase]
  exact lowercase_eq_iff (Scanner.ascii_of_mem_spelling word)

theorem ofText?_ofList_eq_some_iff {chars : List Char} :
    ofText? (String.ofList chars) = some word ↔
      chars.map Char.toLower = word.spelling.toList := by
  rw [ofText?_eq_some_iff, String.toList_ofList]

theorem ofText?_of_not_ascii (h : ∃ c ∈ text.toList, 128 ≤ c.toNat) : ofText? text = none := by
  refine Option.eq_none_iff_forall_ne_some.mpr fun word hword => ?_
  obtain ⟨c, hc, hlarge⟩ := h
  have hsmall := Scanner.ascii_of_map_toLower (ofText?_eq_some_iff.mp hword) c hc
  omega

end Keyword

theorem Scanner.head?_takeWhile_isNameChar {rest : List Char}
    (h : rest.head?.any isAlphabetic = true) :
    (rest.takeWhile isNameChar).head?.any isAlphabetic = true := by
  cases rest with
  | nil => cases h
  | cons c rest =>
      rw [List.takeWhile_cons_of_pos (isNameChar_of_isAlphabetic h)]
      exact h

namespace Lexer

variable {text : String} {lexer : Lexer} {word : Keyword}

theorem rest_eq_run_append (lexer : Lexer) :
    lexer.rest = lexer.rest.takeWhile Scanner.isNameChar ++
      lexer.rest.dropWhile Scanner.isNameChar :=
  List.takeWhile_append_dropWhile.symm

theorem Reached.gives_reserved (h : lexer.Reached text)
    (hword : Keyword.ofText? (String.ofList (lexer.rest.takeWhile Scanner.isNameChar)) =
      some word) :
    lexer.Gives text (lexer.rest.takeWhile Scanner.isNameChar) word.spelling word.kind := by
  have hcase := Keyword.ofText?_ofList_eq_some_iff.mp hword
  exact h.gives lexer.rest_eq_run_append (.keyword hcase (head?_dropWhile_any _ _))

theorem Reached.gives_name (h : lexer.Reached text)
    (hletter : lexer.rest.head?.any isAlphabetic = true)
    (hnone : Keyword.ofText? (String.ofList (lexer.rest.takeWhile Scanner.isNameChar)) = none) :
    lexer.Gives text (lexer.rest.takeWhile Scanner.isNameChar)
      (lowercase (String.ofList (lexer.rest.takeWhile Scanner.isNameChar))) .identifier := by
  have hfirst := Scanner.head?_takeWhile_isNameChar hletter
  refine h.gives lexer.rest_eq_run_append
    (.bareName hfirst (fun c => List.mem_takeWhile_imp) ?_ (head?_dropWhile_any _ _))
  intro word hcase
  have hsome := Keyword.ofText?_ofList_eq_some_iff.mpr hcase
  cases hnone.symm.trans hsome

theorem Gives.eq_of_next {chars : List Char} {value : String} {kind : TokenKind} {token : Token}
    {later : Lexer} (h : lexer.Gives text chars value kind)
    (hnext : lexer.next = (some (.ok token), later)) : token.value = value ∧ token.kind = kind := by
  obtain ⟨front, back, other, _, _, hgiven, _⟩ := h
  rw [hnext] at hgiven
  cases hgiven
  exact ⟨rfl, rfl⟩

/-- **A word without quotes is reserved or a name, and it is taken as a whole.** Where a lexer
stands at a letter it gives one token, for all the characters from there that a name can go on with.
If these spell a reserved word, the token is of that word, and otherwise it is a name, of the text
that they have in lower case. Only ASCII letters spell reserved words, in any case, and no such name
has the text of a reserved word. -/
theorem Reached.gives_bare_word (h : lexer.Reached text)
    (hletter : lexer.rest.head?.any isAlphabetic = true) :
    let run := lexer.rest.takeWhile Scanner.isNameChar
    (match Keyword.ofText? (String.ofList run) with
      | some word => lexer.Gives text run word.spelling word.kind
      | none => lexer.Gives text run (lowercase (String.ofList run)) .identifier) ∧
    (∀ (other : String) (word : Keyword), Keyword.ofText? other = some word ↔
      other.toList.map Char.toLower = word.spelling.toList) ∧
    (∀ other : String, (∃ c ∈ other.toList, 128 ≤ c.toNat) → Keyword.ofText? other = none) ∧
    ∀ token later, lexer.next = (some (.ok token), later) → token.kind = .identifier →
      ∀ word : Keyword, token.value ≠ word.spelling := by
  intro run
  refine ⟨?_, fun _ _ => Keyword.ofText?_eq_some_iff, fun _ => Keyword.ofText?_of_not_ascii, ?_⟩
  · cases hword : Keyword.ofText? (String.ofList run) with
    | some word => exact h.gives_reserved hword
    | none => exact h.gives_name hletter hword
  · intro token later hnext hkind word hvalue
    cases hword : Keyword.ofText? (String.ofList run) with
    | some reserved =>
        obtain ⟨_, hreserved⟩ := (h.gives_reserved hword).eq_of_next hnext
        rw [hkind] at hreserved
        rcases reserved.kind_cases with hother | hother | hother
        all_goals
          rw [hother] at hreserved
          cases hreserved
    | none =>
        obtain ⟨hname, _⟩ := (h.gives_name hletter hword).eq_of_next hnext
        have hsome := Keyword.ofText?_eq_some_iff_lowercase.mpr (hname.symm.trans hvalue)
        cases hword.symm.trans hsome

/-- A name that begins with a reserved word and ends with a capital sigma, behind a blank. -/
theorem Reached.gives_bare_word_sigma :
    let text := "SELECT selectΟΣ,"
    let first := (ofText Scanner.all text).next.2
    let lexer := first.moveTo (first.toCursor.advance 1)
    lexer.Reached text ∧ lexer.rest.head?.any isAlphabetic = true ∧
      lexer.rest.takeWhile Scanner.isNameChar = "selectΟΣ".toList ∧
      Keyword.ofText? "selectΟΣ" = none ∧
      lexer.Gives text "selectΟΣ".toList "selectος" .identifier := by
  intro text first lexer
  have hnext : (ofText Scanner.all text).next =
      (some (.ok { value := "select", kind := .keyword }), first) := by
    decide +kernel
  have hlexer : lexer.Reached text := .blank (.token .start hnext) (by decide +kernel)
  have hletter : lexer.rest.head?.any isAlphabetic = true := by
    decide +kernel
  have hrun : lexer.rest.takeWhile Scanner.isNameChar = "selectΟΣ".toList := by
    decide +kernel
  have hnone : Keyword.ofText? "selectΟΣ" = none := by
    decide +kernel
  have hlower : lowercase "selectΟΣ" = "selectος" := by
    decide +kernel
  have hgives := (hlexer.gives_bare_word hletter).1
  simp only [hrun, String.ofList_toList, hnone, hlower] at hgives
  exact ⟨hlexer, hletter, hrun, hnone, hgives⟩

end Lexer
end PocketSql
