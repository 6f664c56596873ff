import PocketSql.Proofs.Token.Opening
import PocketSql.Proofs.Token.Reached
/-!
# The longest numeral

Where a lexer stands at a digit or a point, it looks for the longest text in front of it that the
grammar of numerals allows. That is given as one token, unless a point or an exponent mark follows;
then, and where the grammar allows nothing, the text is refused there. A longer numeral would go on
with a digit, a point or a mark, so the reader finds the longest one although it never goes back.
-/

namespace PocketSql

namespace Numeral

variable {source rest chars : List Char} {numeral : Numeral}

/-- What stands in front of an exponent: digits, digits with a point behind or among them, or digits
behind a point. -/
inductive Mantissa : List Char → Prop where
  | whole {digits : List Char} (h : Digits digits) : Mantissa digits
  | point {whole fraction : List Char} (hwhole : Digits whole)
      (hfraction : ∀ c ∈ fraction, isDigit c = true) : Mantissa (whole ++ '.' :: fraction)
  | fraction {digits : List Char} (h : Digits digits) : Mantissa ('.' :: digits)

/-- The texts `(D+ [. D*] | . D+) [e [+ or -] D+]`. -/
inductive Matches : List Char → Prop where
  | plain {chars : List Char} (h : Mantissa chars) : Matches chars
  | exponent {chars sign digits : List Char} (h : Mantissa chars)
      (hsign : sign = [] ∨ sign = ['+'] ∨ sign = ['-']) (hdigits : Digits digits) :
      Matches (chars ++ 'e' :: (sign ++ digits))

/-- The longest numeral at the front of a text. -/
structure Longest (source chars : List Char) : Prop where
  numeral : Matches chars
  front : chars <+: source
  most : ∀ other, Matches other → other <+: source → other.length ≤ chars.length

/-! ### The grammar and its parts -/

theorem isSign_iff {c : Char} : isSign c = true ↔ c = '+' ∨ c = '-' := by
  simp [isSign]

theorem Mantissa.exists_wellFormed (h : Mantissa chars) :
    ∃ whole fraction, ({ whole, fraction } : Numeral).WellFormed ∧
      ({ whole, fraction } : Numeral).chars = chars := by
  cases h with
  | whole h =>
      refine ⟨chars, none, ⟨h.2, by simp, ?_, by simp⟩, by simp [Numeral.chars]⟩
      simp [hasDigit, h.1]
  | @point whole fraction hwhole hfraction =>
      refine ⟨whole, some fraction, ⟨hwhole.2, ?_, ?_, by simp⟩, by simp [Numeral.chars]⟩
      · rintro _ ⟨⟩
        exact hfraction
      · simp [hasDigit, hwhole.1]
  | @fraction digits h =>
      refine ⟨[], some digits, ⟨by simp, ?_, ?_, by simp⟩, by simp [Numeral.chars]⟩
      · rintro _ ⟨⟩
        exact h.2
      · simp [hasDigit, h.1]

theorem mantissa_of_wellFormed {whole : List Char} {fraction : Option (List Char)}
    {exponent : Option (List Char × List Char)}
    (h : ({ whole, fraction, exponent } : Numeral).WellFormed) :
    Mantissa ({ whole, fraction } : Numeral).chars := by
  have hdigit := h.hasDigit
  cases fraction with
  | none =>
      have hne : whole ≠ [] := by simpa [hasDigit] using hdigit
      simpa [Numeral.chars] using Mantissa.whole ⟨hne, h.whole⟩
  | some digits =>
      have hdigits := h.fraction digits rfl
      by_cases hne : whole = []
      · have hfraction : digits ≠ [] := by simpa [hasDigit, hne] using hdigit
        simpa [Numeral.chars, hne] using Mantissa.fraction ⟨hfraction, hdigits⟩
      · simpa [Numeral.chars] using Mantissa.point ⟨hne, h.whole⟩ hdigits

/-- The grammar of texts is the grammar of numerals by their parts. -/
theorem matches_iff : Matches chars ↔ ∃ numeral : Numeral, numeral.WellFormed ∧
    numeral.chars = chars := by
  constructor
  · intro h
    cases h with
    | plain h =>
        obtain ⟨whole, fraction, hnumeral, hchars⟩ := h.exists_wellFormed
        exact ⟨_, hnumeral, hchars⟩
    | @exponent mantissa sign digits h hsign hdigits =>
        obtain ⟨whole, fraction, hnumeral, rfl⟩ := h.exists_wellFormed
        refine ⟨{ whole, fraction, exponent := some (sign, digits) },
          ⟨hnumeral.whole, hnumeral.fraction, hnumeral.hasDigit, ?_⟩, chars_withExponent _ _ _ _⟩
        rintro _ _ ⟨⟩
        refine ⟨?_, hdigits⟩
        rcases hsign with rfl | rfl | rfl
        · exact .inl rfl
        · exact .inr ⟨'+', rfl, rfl⟩
        · exact .inr ⟨'-', rfl, rfl⟩
  · rintro ⟨⟨whole, fraction, exponent⟩, h, rfl⟩
    have hmantissa := mantissa_of_wellFormed h
    cases exponent with
    | none => exact .plain hmantissa
    | some parts =>
        obtain ⟨sign, digits⟩ := parts
        obtain ⟨hsign, hdigits⟩ := h.exponent sign digits rfl
        rw [chars_withExponent]
        refine .exponent hmantissa ?_ hdigits
        rcases hsign with rfl | ⟨c, hc, rfl⟩
        · exact .inl rfl
        · rcases isSign_iff.mp hc with rfl | rfl
          · exact .inr (.inl rfl)
          · exact .inr (.inr rfl)

/-! ### Where a numeral ends -/

theorem Digits.concat {digits : List Char} (h : Digits digits) {c : Char}
    (hc : isDigit c = true) : Digits (digits ++ [c]) := by
  refine ⟨by simp, List.forall_mem_append.mpr ⟨h.2, ?_⟩⟩
  simpa using hc

/-- A numeral goes on with any digit. -/
theorem Matches.concat (h : Matches chars) {c : Char} (hc : isDigit c = true) :
    Matches (chars ++ [c]) := by
  cases h with
  | plain h =>
      refine .plain ?_
      cases h with
      | whole h => exact .whole (h.concat hc)
      | point hwhole hfraction =>
          rw [List.append_assoc]
          refine .point hwhole (List.forall_mem_append.mpr ⟨hfraction, ?_⟩)
          simpa using hc
      | fraction h => exact .fraction (h.concat hc)
  | exponent h hsign hdigits =>
      rw [List.append_assoc, List.cons_append, List.append_assoc]
      exact .exponent h hsign (hdigits.concat hc)

/-- The longest numeral ends in front of anything but a digit. -/
theorem Longest.not_isDigit (h : Longest (chars ++ rest) chars) :
    rest.head?.any isDigit = false := by
  cases rest with
  | nil => rfl
  | cons c rest =>
      refine Bool.eq_false_iff.mpr fun hc => ?_
      have hfront : chars ++ [c] <+: chars ++ c :: rest := ⟨rest, by simp⟩
      have hle := h.most _ (h.numeral.concat hc) hfront
      rw [List.length_append, List.length_singleton] at hle
      omega

/-- **Nothing longer is a numeral** where what follows one does not go on with it. Both would be read
from the same text. -/
theorem longest_chars (h : numeral.WellFormed) (hend : rest.head?.any goesOn = false) :
    Longest (numeral.chars ++ rest) numeral.chars := by
  refine ⟨matches_iff.mpr ⟨numeral, h, rfl⟩, List.prefix_append _ _, fun other hother hfront => ?_⟩
  obtain ⟨longer, hlonger, rfl⟩ := matches_iff.mp hother
  refine Nat.le_of_not_lt fun hlt => ?_
  obtain ⟨more, hmore⟩ :=
    List.prefix_of_prefix_length_le (List.prefix_append _ rest) hfront hlt.le
  rw [← hmore, List.prefix_append_right_inj] at hfront
  have hmoreEnd : more.head?.any goesOn = false := by
    cases more with
    | nil => rfl
    | cons c more =>
        obtain ⟨others, rfl⟩ := hfront
        exact hend
  have hread := read_chars_append h hmoreEnd
  have hreadLonger : read (longer.chars ++ []) = .ok longer := read_chars_append hlonger rfl
  rw [List.append_nil, ← hmore, hread] at hreadLonger
  rw [Except.ok.inj hreadLonger] at hlt
  exact absurd hlt (Nat.lt_irrefl _)

end Numeral

/-! ### What a lexer does at a digit or a point -/

namespace Scanner

variable {cursor : Cursor} {source : List Char}

/-- Only a numeral begins with a digit or a point. -/
theorem front_digitOrPoint (h : source.head?.any (fun c => Numeral.isDigit c || c == '.') = true) :
    front cursor source = scanNumeral cursor source := by
  cases source with
  | nil => cases h
  | cons c rest =>
      have hopens : Scanner.numeric.opens c = true := h
      have hfirst : Numeral.isDigit c = true ∨ c = '.' := by simpa using h
      have hopener : isOpener c = true := by
        rcases hfirst with hc | rfl
        · simp [isOpener, hc]
        · rfl
      exact front_of_opens hopens (not_earlier_of_isOpener hopener).1 rest

end Scanner

namespace Lexer

/-- **The longest numeral is taken, or the text is refused.** Where a lexer stands at a digit or a
point and a longest numeral stands there with no point or exponent mark behind it, the lexer gives
its characters as they are and goes on right behind them. In every other case the text is refused at
this place. -/
theorem Reached.gives_longest_numeral {text : String} {lexer : Lexer} (h : lexer.Reached text)
    (hfirst : lexer.rest.head?.any (fun c => Numeral.isDigit c || c == '.') = true) :
    (∀ chars back, lexer.rest = chars ++ back → Numeral.Longest lexer.rest chars →
      back.head? ≠ some '.' → back.head? ≠ some 'e' →
      lexer.Gives text chars (String.ofList chars) .numeric) ∧
    ((∀ chars back, lexer.rest = chars ++ back → Numeral.Longest lexer.rest chars →
      back.head? = some '.' ∨ back.head? = some 'e') →
      lexer.Refuses text) := by
  constructor
  · intro chars back hrest hlongest hpoint hmark
    obtain ⟨numeral, hnumeral, rfl⟩ := Numeral.matches_iff.mp hlongest.numeral
    rw [hrest] at hlongest
    have hend := Numeral.not_goesOn_iff.mpr ⟨hlongest.not_isDigit, hpoint, hmark⟩
    exact h.gives hrest (.numeral hnumeral hend)
  · intro hfollowed
    have hne : lexer.rest ≠ [] := by
      intro hnil
      rw [hnil] at hfirst
      cases hfirst
    refine h.refuses hne (Option.eq_none_iff_forall_ne_some.mpr fun lexeme htaken => ?_)
    rw [Scanner.front_digitOrPoint hfirst] at htaken
    obtain ⟨numeral, back, hrest, hnumeral, hend, _⟩ := Scanner.exists_of_scanNumeral htaken
    have hlongest := Numeral.longest_chars hnumeral hend
    rw [← hrest] at hlongest
    obtain ⟨_, hpoint, hmark⟩ := Numeral.not_goesOn_iff.mp hend
    rcases hfollowed _ _ hrest hlongest with hback | hback
    · exact hpoint hback
    · exact hmark hback

/-- A point without digits behind it and an exponent with a sign, behind a name and a blank and in
front of a capital E, which is no exponent mark. -/
theorem Reached.gives_longest_numeral_exponent :
    let text := "a 12.e-3E4"
    let first := (ofText Scanner.all text).next.2
    let lexer := first.moveTo (first.toCursor.advance 1)
    lexer.Reached text ∧
      lexer.rest.head?.any (fun c => Numeral.isDigit c || c == '.') = true ∧
      Numeral.Longest lexer.rest "12.e-3".toList ∧
      lexer.Gives text "12.e-3".toList "12.e-3" .numeric := by
  intro text first lexer
  have hnext : (ofText Scanner.all text).next =
      (some (.ok { value := "a", kind := .identifier }), first) := by
    decide +kernel
  have hlexer : lexer.Reached text := .blank (.token .start hnext) (by decide +kernel)
  have hrest : lexer.rest = "12.e-3".toList ++ "E4".toList := by
    decide +kernel
  have hfirst : lexer.rest.head?.any (fun c => Numeral.isDigit c || c == '.') = true := by
    rw [hrest]
    decide
  have hnumeral : Numeral.read lexer.rest = .ok
      { whole := ['1', '2'], fraction := some [], exponent := some (['-'], ['3']) } := by
    rw [hrest]
    decide +kernel
  have hlongest : Numeral.Longest lexer.rest "12.e-3".toList := by
    have hlongest := Numeral.longest_chars (Numeral.wellFormed_of_read hnumeral)
      (show "E4".toList.head?.any Numeral.goesOn = false by decide)
    rw [hrest]
    exact hlongest
  have hgives := (hlexer.gives_longest_numeral hfirst).1 _ _ hrest hlongest (by decide) (by decide)
  exact ⟨hlexer, hfirst, hlongest, by rwa [String.ofList_toList] at hgives⟩

/-- A second point behind the longest numeral refuses the text where the numeral begins. -/
example : lex "a 1.2.3" = .error (.lex ⟨0, 2⟩ (some "a")) := by
  decide +kernel

end Lexer
end PocketSql
