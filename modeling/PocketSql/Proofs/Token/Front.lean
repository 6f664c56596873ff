import PocketSql.Proofs.Token.Cursor
import PocketSql.Proofs.Token.Longest
import PocketSql.Proofs.Token.Numeral
import PocketSql.Proofs.Unicode.Lowercase
import PocketSql.Token.Scanner
/-!
# The front of a text

A token can be spelled in several ways, and a spelling is read as the token when what follows does
not go on with it. The token has the place of the cursor, and the cursor is moved over the spelling,
which each scanner does in its own way. The scanners are tried in an order, so for each spelling the
ones before its own have to take nothing. What keeps them apart is the first character: a letter
begins a reserved word, and a digit, a point and the two quotes begin no symbol.
-/

namespace PocketSql

open Unicode

/-- The marks between the parts of statements. -/
def Symbol.punctuation : List Symbol :=
  [.comma, .leftParen, .rightParen, .semicolon]

/-- The characters are a spelling of the token, and they end where `rest` follows. A reserved word
can be in any case. -/
inductive Token.IsSpelled (rest : List Char) : Token → List Char → Prop where
  | keyword {word : Keyword} {chars : List Char}
      (hcase : chars.map Char.toLower = word.spelling.toList)
      (hend : rest.head?.any Scanner.isNameChar = false) : IsSpelled rest word.token chars
  | symbol {mark : Symbol} (hmark : mark ∈ Symbol.punctuation) :
      IsSpelled rest mark.token mark.spelling.toList
  | name (text : String) (hend : rest.head? ≠ some '"') :
      IsSpelled rest { value := text, kind := .identifier } (Quoted.quote '"' text.toList)
  | string (text : String) (hend : rest.head? ≠ some '\'') :
      IsSpelled rest { value := text, kind := .string } (Quoted.quote '\'' text.toList)
  | numeral {numeral : Numeral} (hnumeral : numeral.WellFormed)
      (hend : rest.head?.any Numeral.goesOn = false) :
      IsSpelled rest { value := String.ofList numeral.chars, kind := .numeric } numeral.chars

/-- A blank, with the cursor behind it. -/
def Lexeme.ofBlank (cursor : Cursor) (c : Char) : Lexeme where
  token := none
  cursor := cursor.after [c]

/-- The token of a word, with the cursor behind the characters of the word. -/
def Lexeme.ofWord (cursor : Cursor) (chars : List Char) (value : String) (kind : TokenKind) :
    Lexeme where
  token := some { value, kind, location := cursor.location }
  cursor := cursor.after chars

/-- A word on one line moves the cursor by as many columns as it has characters. -/
theorem Lexeme.ofWord_of_notMem {chars : List Char} (h : '\n' ∉ chars) (cursor : Cursor)
    (value : String) (kind : TokenKind) :
    ofWord cursor chars value kind =
      { token := some { value, kind, location := cursor.location }
        cursor := cursor.advance chars.length } := by
  rw [Cursor.advance_length h]
  rfl

theorem Lexeme.ofBlank_ne_ofWord {cursor other : Cursor} {c : Char} {chars : List Char}
    {value : String} {kind : TokenKind} : ofBlank cursor c ≠ ofWord other chars value kind := by
  simp [ofBlank, ofWord]

namespace Scanner

variable {cursor : Cursor} {source rest : List Char} {c : Char}

/-- What the first scanner takes that takes anything. -/
def front (cursor : Cursor) (source : List Char) : Option Lexeme :=
  all.findSome? (·.scan cursor source)

theorem front_eq (cursor : Cursor) (source : List Char) :
    front cursor source = (scanKeyword cursor source).or ((scanSymbol cursor source).or
      ((scanQuoted '\'' .string cursor source).or ((scanNumeral cursor source).or
        ((scanQuoted '"' .identifier cursor source).or (scanBareName cursor source))))) := by
  simp only [front, all, List.findSome?_cons, List.findSome?_nil, scan]
  cases scanKeyword cursor source <;> cases scanSymbol cursor source <;>
    cases scanQuoted '\'' .string cursor source <;> cases scanNumeral cursor source <;>
    cases (scanQuoted '"' .identifier cursor source).or (scanBareName cursor source) <;> rfl

/-! ### Reserved words -/

theorem letter_of_mem_spelling (word : Keyword) :
    ∀ c ∈ word.spelling.toList, 97 ≤ c.toNat ∧ c.toNat ≤ 122 := by
  have hall : word.spelling.toList.all (fun c => 97 ≤ c.toNat && c.toNat ≤ 122) = true := by
    cases word <;> decide
  intro c hc
  simpa using List.all_eq_true.mp hall c hc

theorem keyword_of_spelling {a b : Keyword} (h : a.spelling.toList = b.spelling.toList) :
    a = b := by
  cases a <;> cases b <;> first | rfl | exact absurd h (by decide)

theorem mem_all_keyword (word : Keyword) : word ∈ Keyword.all := by
  cases word <;> decide

/-- The characters of a reserved word, in any case, are ASCII letters. -/
theorem letter_of_map_toLower {word : Keyword} {chars : List Char}
    (hcase : chars.map Char.toLower = word.spelling.toList) :
    ∀ c ∈ chars, 97 ≤ c.toLower.toNat ∧ c.toLower.toNat ≤ 122 := by
  intro c hc
  apply letter_of_mem_spelling word
  rw [← hcase]
  exact List.mem_map_of_mem hc

theorem feed_notMem_of_map_toLower {word : Keyword} {chars : List Char}
    (hcase : chars.map Char.toLower = word.spelling.toList) : '\n' ∉ chars := by
  intro hfeed
  have hletter := letter_of_map_toLower hcase _ hfeed
  exact absurd hletter.1 (by decide)

theorem ascii_of_map_toLower {word : Keyword} {chars : List Char}
    (hcase : chars.map Char.toLower = word.spelling.toList) : ∀ c ∈ chars, c.toNat < 128 := by
  intro c hc
  have hletter := letter_of_map_toLower hcase c hc
  exact ascii_of_toLower (by omega)

/-- Every character that a reserved word covers is a letter. -/
theorem isAlphabetic_of_covers (front : List Char) {word : Keyword} {n : Nat}
    (h : Covers (front ++ c :: rest) n word.spelling.toList) (hlt : front.length < n) :
    isAlphabetic c = true := by
  obtain ⟨first, others, hlower⟩ := List.exists_cons_of_ne_nil (lowerChar_ne_nil c)
  have hfirst : first ∈ lowerChar c := by
    rw [hlower]
    exact List.mem_cons_self
  have hletter := letter_of_mem_spelling word first (h.subset hlt hfirst)
  exact isAlphabetic_of_mem_lowerChar hfirst hletter.1 hletter.2

/-- A text that does not begin with a letter does not begin with a reserved word. -/
theorem scanKeyword_of_head? (h : source.head?.any isAlphabetic = false) :
    scanKeyword cursor source = none := by
  have hnone : longestMatch Keyword.spelling Keyword.all source = none := by
    refine longestMatch_of_none fun word _ n hcovers => ?_
    cases source with
    | nil => exact not_covers_nil hcovers
    | cons c rest =>
        have halpha := isAlphabetic_of_covers [] hcovers hcovers.1
        rw [List.head?_cons, Option.any_some, halpha] at h
        cases h
  rw [scanKeyword, hnone]
  rfl

theorem scanKeyword_append {word : Keyword} {chars : List Char}
    (hcase : chars.map Char.toLower = word.spelling.toList)
    (hend : rest.head?.any isNameChar = false) :
    scanKeyword cursor (chars ++ rest) =
      some (.ofWord cursor chars word.spelling word.kind) := by
  have hlower (c) (hc : c ∈ chars) : lowerChar c = [c.toLower] :=
    lowerChar_ascii (ascii_of_map_toLower hcase c hc)
  have hcovers : Covers (chars ++ rest) chars.length word.spelling.toList := by
    refine ⟨?_, by simp, ?_⟩
    · rw [← List.length_map Char.toLower, hcase]
      cases word <;> decide
    · rw [List.take_left, ← hcase, List.map_eq_flatMap]
      exact List.flatMap_congr hlower
  have hall := mem_all_keyword word
  obtain ⟨longest, _, m, hlongest, hmost, hfound⟩ := longestMatch_of_some hall hcovers
  have hm : m = chars.length := by
    refine Nat.le_antisymm (Nat.le_of_not_lt fun hlt => ?_) (hmost word hall _ hcovers)
    -- A longer word would go on with the next character, which is then a letter.
    cases rest with
    | nil =>
        have hle := hlongest.2.1
        rw [List.append_nil] at hle
        omega
    | cons c rest =>
        have halpha := isAlphabetic_of_covers chars hlongest hlt
        simp [isNameChar, isAlphanumeric, halpha] at hend
  subst hm
  have hword : longest = word := keyword_of_spelling (hlongest.2.2.symm.trans hcovers.2.2)
  rw [scanKeyword, hfound]
  change (if ((chars ++ rest).drop chars.length).head?.any isNameChar then _ else _) = _
  rw [List.drop_left, if_neg (by simp [hend]), hword,
    Lexeme.ofWord_of_notMem (feed_notMem_of_map_toLower hcase)]

/-! ### Symbols and blanks -/

theorem isBlank_cases (h : isBlank c = true) : c = ' ' ∨ c = '\t' ∨ c = '\r' ∨ c = '\n' := by
  simpa [isBlank, or_assoc] using h

theorem isAlphabetic_of_isBlank (h : isBlank c = true) : isAlphabetic c = false := by
  rcases isBlank_cases h with rfl | rfl | rfl | rfl <;> decide

/-- A blank moves the cursor to the next line or by one column. -/
theorem scanSymbol_blank (h : isBlank c = true) (rest : List Char) :
    scanSymbol cursor (c :: rest) = some (.ofBlank cursor c) := by
  by_cases hfeed : c = '\n'
  · rw [hfeed]
    rfl
  · have hhead : (c :: rest).head? ≠ some '\n' := by
      simpa using hfeed
    have hblank : (c :: rest).head?.any isBlank = true := h
    rw [scanSymbol, if_neg hhead, if_pos hblank, Cursor.advance_one hfeed]
    rfl

theorem scanSymbol_of_not_blank (h : source.head?.any isBlank = false) :
    scanSymbol cursor source =
      (longestMatch Symbol.spelling Symbol.all source).map fun (mark, length) =>
        { token := some { value := mark.spelling, kind := .symbol, location := cursor.location }
          cursor := cursor.advance length } := by
  have hhead : source.head? ≠ some '\n' := by
    intro hfeed
    rw [hfeed] at h
    cases h
  rw [scanSymbol, if_neg hhead, h, if_neg Bool.false_ne_true]
  cases longestMatch Symbol.spelling Symbol.all source with
  | none => rfl
  | some found => rfl

theorem front_blank (h : isBlank c = true) (rest : List Char) :
    front cursor (c :: rest) = some (.ofBlank cursor c) := by
  have hkeyword : scanKeyword cursor (c :: rest) = none :=
    scanKeyword_of_head? (by simpa using isAlphabetic_of_isBlank h)
  rw [front_eq, hkeyword, scanSymbol_blank h]
  rfl

theorem feed_notMem_spelling (mark : Symbol) : '\n' ∉ mark.spelling.toList := by
  cases mark <;> decide

/-- The marks of punctuation are single characters, and no other symbol begins with them. -/
theorem punctuation_spelling {mark : Symbol} (h : mark ∈ Symbol.punctuation) :
    ∃ c : Char, mark.spelling.toList = [c] ∧ isAlphabetic c = false ∧ isBlank c = false ∧
      lowerChar c = [c] ∧
      ∀ other ∈ Symbol.all, other.spelling.toList.head? = some c → other = mark := by
  simp only [Symbol.punctuation, List.mem_cons, List.not_mem_nil, or_false] at h
  rcases h with rfl | rfl | rfl | rfl
  · exact ⟨',', by decide +kernel⟩
  · exact ⟨'(', by decide +kernel⟩
  · exact ⟨')', by decide +kernel⟩
  · exact ⟨';', by decide +kernel⟩

theorem front_symbol {mark : Symbol} (h : mark ∈ Symbol.punctuation) (rest : List Char) :
    front cursor (mark.spelling.toList ++ rest) =
      some (.ofWord cursor mark.spelling.toList mark.spelling .symbol) := by
  obtain ⟨c, hspelling, halpha, hblank, hlower, honly⟩ := punctuation_spelling h
  have hkeyword : scanKeyword cursor (c :: rest) = none :=
    scanKeyword_of_head? (by simpa using halpha)
  have hall : mark ∈ Symbol.all := by
    cases mark <;> decide
  have hcovers : Covers (c :: rest) 1 mark.spelling.toList := by
    rw [hspelling, ← hlower]
    exact covers_one c rest
  obtain ⟨longest, hmem, m, hlongest, _, hfound⟩ := longestMatch_of_some hall hcovers
  have hhead := hlongest.head?
  rw [hlower] at hhead
  have hmark : longest = mark := honly longest hmem hhead
  have hm : m = 1 := by
    rw [hmark, hspelling] at hlongest
    rcases hlongest.uncons with ⟨hm, _⟩ | ⟨_, tail, _, heq, htail⟩
    · exact hm
    · rw [hlower] at heq
      exact absurd (List.cons.inj heq).2.symm htail.ne_nil
  subst hm
  rw [Lexeme.ofWord_of_notMem (feed_notMem_spelling mark), hspelling, List.singleton_append,
    front_eq, hkeyword, scanSymbol_of_not_blank (by simpa using hblank), hfound, hmark]
  rfl

/-! ### Quoted texts and numerals -/

/-- A character that begins a numeral or a quoted text. -/
def isOpener (c : Char) : Bool :=
  Numeral.isDigit c || c == '.' || c == '\'' || c == '"'

/-- No reserved word, blank or symbol begins with an opener. -/
theorem not_earlier_of_isOpener (h : isOpener c = true) :
    isAlphabetic c = false ∧ isBlank c = false ∧ lowerChar c = [c] ∧
      ∀ mark ∈ Symbol.all, mark.spelling.toList.head? ≠ some c := by
  have hascii : c.toNat < 128 := by
    simp only [isOpener, Numeral.isDigit, Bool.or_eq_true, Bool.and_eq_true, decide_eq_true_eq,
      beq_iff_eq] at h
    rcases h with ((⟨_, hlast⟩ | rfl) | rfl) | rfl
    · have hle : c.toNat ≤ 57 := hlast
      omega
    · decide
    · decide
    · decide
  revert h
  revert c
  apply of_points
  decide +kernel

theorem front_opener (h : isOpener c = true) (rest : List Char) :
    front cursor (c :: rest) =
      (scanQuoted '\'' .string cursor (c :: rest)).or ((scanNumeral cursor (c :: rest)).or
        ((scanQuoted '"' .identifier cursor (c :: rest)).or
          (scanBareName cursor (c :: rest)))) := by
  obtain ⟨halpha, hblank, hlower, hsymbol⟩ := not_earlier_of_isOpener h
  have hkeyword : scanKeyword cursor (c :: rest) = none :=
    scanKeyword_of_head? (by simpa using halpha)
  have hnone : longestMatch Symbol.spelling Symbol.all (c :: rest) = none := by
    refine longestMatch_of_none fun mark hmark n hcovers => ?_
    have hhead := hcovers.head?
    rw [hlower] at hhead
    exact hsymbol mark hmark hhead
  have hmark : scanSymbol cursor (c :: rest) = none := by
    rw [scanSymbol_of_not_blank (by simpa using hblank), hnone]
    rfl
  rw [front_eq, hkeyword, hmark]
  rfl

theorem scanQuoted_quote {delimiter : Char} (hfeed : delimiter ≠ '\n')
    (hend : rest.head? ≠ some delimiter) (kind : TokenKind) (text : String) :
    scanQuoted delimiter kind cursor (Quoted.quote delimiter text.toList ++ rest) =
      some (.ofWord cursor (Quoted.quote delimiter text.toList) text kind) := by
  rw [scanQuoted, Quoted.unquote_quote hfeed hend]
  simp [Lexeme.ofWord]

theorem scanQuoted_of_ne {delimiter : Char} (h : c ≠ delimiter) (kind : TokenKind)
    (rest : List Char) : scanQuoted delimiter kind cursor (c :: rest) = none := by
  rw [scanQuoted, Quoted.unquote, if_neg h]
  rfl

theorem front_string (text : String) (hend : rest.head? ≠ some '\'') :
    front cursor (Quoted.quote '\'' text.toList ++ rest) =
      some (.ofWord cursor (Quoted.quote '\'' text.toList) text .string) := by
  have hquoted : scanQuoted '\'' .string cursor _ = _ := scanQuoted_quote (by decide) hend _ text
  rw [Quoted.quote, List.cons_append] at hquoted ⊢
  rw [front_opener rfl, hquoted]
  rfl

theorem front_name (text : String) (hend : rest.head? ≠ some '"') :
    front cursor (Quoted.quote '"' text.toList ++ rest) =
      some (.ofWord cursor (Quoted.quote '"' text.toList) text .identifier) := by
  have hquoted : scanQuoted '"' .identifier cursor _ = _ :=
    scanQuoted_quote (by decide) hend _ text
  rw [Quoted.quote, List.cons_append] at hquoted ⊢
  have hne : '"' ≠ '\'' := by
    decide
  rw [front_opener rfl, scanQuoted_of_ne hne, hquoted]
  rfl

theorem isOpener_of_numeral {numeral : Numeral} (h : numeral.WellFormed) :
    ∃ c others, numeral.chars = c :: others ∧ isOpener c = true ∧ c ≠ '\'' := by
  have hwhole := h.whole
  have hdigit := h.hasDigit
  obtain ⟨whole, fraction, exponent⟩ := numeral
  cases whole with
  | cons c others =>
      have hc : Numeral.isDigit c = true := hwhole c List.mem_cons_self
      refine ⟨c, _, rfl, by simp [isOpener, hc], ?_⟩
      rintro rfl
      exact absurd hc (by decide)
  | nil =>
      cases fraction with
      | none => cases hdigit
      | some digits => exact ⟨'.', _, rfl, rfl, by decide⟩

theorem scanNumeral_append {numeral : Numeral} (h : numeral.WellFormed)
    (hend : rest.head?.any Numeral.goesOn = false) :
    scanNumeral cursor (numeral.chars ++ rest) =
      some (.ofWord cursor numeral.chars (String.ofList numeral.chars) .numeric) := by
  have hfeed : '\n' ∉ numeral.chars := by
    intro hmem
    exact absurd (Numeral.printable_of_mem_chars h _ hmem).1 (by decide)
  rw [scanNumeral, Numeral.read_chars_append h hend, Lexeme.ofWord_of_notMem hfeed]

theorem front_numeral {numeral : Numeral} (h : numeral.WellFormed)
    (hend : rest.head?.any Numeral.goesOn = false) :
    front cursor (numeral.chars ++ rest) =
      some (.ofWord cursor numeral.chars (String.ofList numeral.chars) .numeric) := by
  obtain ⟨c, others, hchars, hopener, hne⟩ := isOpener_of_numeral h
  have hnumeral : scanNumeral cursor (numeral.chars ++ rest) = _ := scanNumeral_append h hend
  rw [hchars, List.cons_append] at hnumeral ⊢
  rw [front_opener hopener, scanQuoted_of_ne hne, hnumeral]
  rfl

/-- **A spelling is read as its token.** -/
theorem front_of_isSpelled {token : Token} {word : List Char} (h : token.IsSpelled rest word) :
    front cursor (word ++ rest) = some (.ofWord cursor word token.value token.kind) := by
  cases h with
  | keyword hcase hend =>
      rw [front_eq, scanKeyword_append hcase hend]
      rfl
  | symbol hmark => exact front_symbol hmark rest
  | name text hend => exact front_name text hend
  | string text hend => exact front_string text hend
  | numeral hnumeral hend => exact front_numeral hnumeral hend

end Scanner

/-! ### In front of a blank -/

theorem not_isNameChar_of_isBlank {c : Char} (h : Scanner.isBlank c = true) :
    Scanner.isNameChar c = false := by
  rcases Scanner.isBlank_cases h with rfl | rfl | rfl | rfl <;> decide +kernel

theorem not_goesOn_of_isBlank {c : Char} (h : Scanner.isBlank c = true) :
    Numeral.goesOn c = false := by
  rcases Scanner.isBlank_cases h with rfl | rfl | rfl | rfl <;> decide

theorem any_head?_of_isBlank {p : Char → Bool} {rest : List Char}
    (h : rest.head?.all Scanner.isBlank = true)
    (hp : ∀ c, Scanner.isBlank c = true → p c = false) : rest.head?.any p = false := by
  cases rest with
  | nil => rfl
  | cons c rest => exact hp c h

theorem head?_ne_of_isBlank {rest : List Char} {c : Char}
    (h : rest.head?.all Scanner.isBlank = true) (hc : Scanner.isBlank c = false) :
    rest.head? ≠ some c := by
  intro hhead
  rw [hhead, Option.all_some, hc] at h
  cases h

end PocketSql
