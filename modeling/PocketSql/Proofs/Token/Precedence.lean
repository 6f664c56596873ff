import PocketSql.Proofs.Token.Opening
import PocketSql.Proofs.Token.Spelling
/-!
# The order of the scanners

A text is read by the first scanner that takes anything, so what is read could depend on the order
in which they are tried. But where two scanners take something they are those for reserved words and
for names. Of all orders those read every text alike in which reserved words come before names, and
no others: the same is taken in front of every text, so each step of a lexer gives the same, and
with that a whole run (`lexBy_reordered`).
-/

namespace PocketSql

namespace Scanner

variable {a b : Scanner}

/-! ### The answer of the first scanner that has one -/

section Order

variable {α : Type} {f : Scanner → Option α} {scanners others front back : List Scanner}
  {first second : Scanner} {found : α}

/-- Of all scanners only these two can answer together. -/
def Rivals (f : Scanner → Option α) (first second : Scanner) : Prop :=
  ∀ a b x y, f a = some x → f b = some y →
    a = b ∨ a = first ∧ b = second ∨ a = second ∧ b = first

theorem Rivals.symm (h : Rivals f first second) : Rivals f second first :=
  fun a b x y hx hy => (h a b x y hx hy).imp_right Or.symm

theorem mem_of_idxOf_lt (h : (front ++ b :: back).idxOf a < (front ++ b :: back).idxOf b) :
    a ∈ front := by
  by_contra hnot
  have hself : (front ++ b :: back).idxOf b ≤ front.length := by
    by_cases hmem : b ∈ front
    · rw [List.idxOf_append_of_mem hmem]
      exact List.idxOf_le_length
    · rw [List.idxOf_append_of_notMem hmem, List.idxOf_cons_self]
      exact Nat.le_refl _
  rw [List.idxOf_append_of_notMem hnot] at h
  omega

theorem exists_of_findSome? (hfirst : scanners.idxOf first < scanners.idxOf second)
    (h : scanners.findSome? f = some found) :
    ∃ scanner, f scanner = some found ∧ (scanner = second → f first = none) := by
  obtain ⟨front, scanner, back, rfl, hfound, hnone⟩ := List.findSome?_eq_some_iff.mp h
  refine ⟨scanner, hfound, ?_⟩
  rintro rfl
  exact hnone first (mem_of_idxOf_lt hfirst)

/-- The answer is that of any scanner that has one, but for the second rival only where the first
has none. The order of the others is left out of this. -/
theorem findSome?_eq_some_iff (hall : ∀ scanner, scanner ∈ scanners)
    (hfirst : scanners.idxOf first < scanners.idxOf second) (hf : Rivals f first second) :
    scanners.findSome? f = some found ↔
      ∃ scanner, f scanner = some found ∧ (scanner = second → f first = none) := by
  refine ⟨exists_of_findSome? hfirst, ?_⟩
  rintro ⟨scanner, hfound, hfree⟩
  cases hother : scanners.findSome? f with
  | none =>
      have hnone := List.findSome?_eq_none_iff.mp hother scanner (hall scanner)
      cases hnone.symm.trans hfound
  | some other =>
      obtain ⟨tried, htried, hfree'⟩ := exists_of_findSome? hfirst hother
      rcases hf _ _ _ _ hfound htried with rfl | ⟨rfl, rfl⟩ | ⟨rfl, rfl⟩
      · exact htried.symm.trans hfound
      · cases (hfree' rfl).symm.trans hfound
      · cases (hfree rfl).symm.trans htried

theorem findSome?_eq_of_idxOf (hscanners : ∀ scanner, scanner ∈ scanners)
    (hothers : ∀ scanner, scanner ∈ others)
    (hfirst : scanners.idxOf first < scanners.idxOf second)
    (hfirst' : others.idxOf first < others.idxOf second) (hf : Rivals f first second) :
    scanners.findSome? f = others.findSome? f := by
  apply Option.ext
  intro found
  rw [findSome?_eq_some_iff hscanners hfirst hf, findSome?_eq_some_iff hothers hfirst' hf]

/-- Where one scanner alone can answer, all answers together are that one. -/
theorem filterMap_eq_toList_findSome? (hnodup : scanners.Nodup)
    (hf : ∀ a b x y, f a = some x → f b = some y → a = b) :
    scanners.filterMap f = (scanners.findSome? f).toList := by
  induction scanners with
  | nil => rfl
  | cons scanner scanners ih =>
      obtain ⟨hnot, hnodup⟩ := List.nodup_cons.mp hnodup
      cases hscanner : f scanner with
      | none =>
          rw [List.filterMap_cons_none hscanner, ih hnodup, List.findSome?_cons, hscanner]
      | some found =>
          have hothers : scanners.filterMap f = [] := by
            rw [List.filterMap_eq_nil_iff]
            intro other hother
            refine Option.eq_none_iff_forall_ne_some.mpr fun answer hanswer => hnot ?_
            rwa [hf _ _ _ _ hscanner hanswer]
          rw [List.filterMap_cons_some hscanner, hothers, List.findSome?_cons, hscanner]
          rfl

end Order

theorem rivals_scan (cursor : Cursor) (source : List Char) :
    Rivals (·.scan cursor source) .keyword .identifier :=
  fun _ _ _ _ hx hy => (scan_exclusive hx hy).1

theorem remark_unique {cursor : Cursor} {source : List Char} {first second : Remark}
    (ha : a.remark cursor source = some first) (hb : b.remark cursor source = some second) :
    a = b := by
  rcases eq_or_of_head? (opens_of_remark ha) (opens_of_remark hb) with h | ⟨rfl, _⟩ | ⟨_, rfl⟩
  · exact h
  -- A reserved word is never remarked on.
  · cases ha
  · cases hb

/-- The orders take the same at the front of every text, and have the same remarks. -/
structure Agree (scanners others : List Scanner) : Prop where
  scan (cursor : Cursor) (source : List Char) :
    scanners.findSome? (·.scan cursor source) = others.findSome? (·.scan cursor source)
  remarks (cursor : Cursor) (source : List Char) :
    scanners.filterMap (·.remark cursor source) = others.filterMap (·.remark cursor source)

/-- **Orders agree in which reserved words come before names.** -/
theorem agree_of_perm {scanners : List Scanner} (hperm : scanners.Perm all)
    (hfirst : scanners.idxOf .keyword < scanners.idxOf .identifier) : Agree scanners all := by
  have hmem (scanner : Scanner) : scanner ∈ scanners := hperm.mem_iff.mpr scanner.mem_all_scanner
  have hall : all.idxOf .keyword < all.idxOf .identifier := by
    decide
  constructor
  · intro cursor source
    exact findSome?_eq_of_idxOf hmem mem_all_scanner hfirst hall (rivals_scan cursor source)
  · intro cursor source
    have hone : ∀ a b x y, remark a cursor source = some x → remark b cursor source = some y →
        a = b :=
      fun _ _ _ _ => remark_unique
    have hnodup : all.Nodup := by
      decide
    rw [filterMap_eq_toList_findSome? (hperm.nodup_iff.mpr hnodup) hone,
      filterMap_eq_toList_findSome? hnodup hone]
    refine congrArg Option.toList (findSome?_eq_of_idxOf hmem mem_all_scanner hfirst hall ?_)
    exact fun a b x y hx hy => .inl (hone a b x y hx hy)

end Scanner

/-! ### Lexers with other scanners -/

namespace Lexer

variable {lexer : Lexer} {others : List Scanner}

/-- The lexer where it stands, with other scanners. -/
def withScanners (lexer : Lexer) (scanners : List Scanner) : Lexer :=
  { lexer with scanners }

theorem lexeme?_withScanners (h : Scanner.Agree lexer.scanners others) :
    (lexer.withScanners others).lexeme? = lexer.lexeme? :=
  (h.scan lexer.toCursor lexer.rest).symm

theorem failure_withScanners (h : Scanner.Agree lexer.scanners others) :
    (lexer.withScanners others).failure = lexer.failure := by
  have hremarks := h.remarks lexer.toCursor lexer.rest
  rw [failure, failure, hremarks]
  rfl

theorem scanners_of_next (lexer : Lexer) : lexer.next.2.scanners = lexer.scanners := by
  fun_induction next lexer with
  | case1 => rfl
  | case2 => rfl
  | case3 => rfl
  | case4 _ _ _ _ _ ih => exact ih
  | case5 => rfl

/-- A step gives the same with scanners that agree. -/
theorem next_withScanners (h : Scanner.Agree lexer.scanners others) :
    (lexer.withScanners others).next = (lexer.next.1, lexer.next.2.withScanners others) := by
  have hlexeme := lexeme?_withScanners h
  fun_induction next lexer with
  | case1 lexer hfailed => exact next_of_failed hfailed
  | case2 lexer _ hrest => exact next_of_end hrest
  | case3 lexer hfailed hrest hnone =>
      rw [next_of_lexeme?_none (hlexeme.trans hnone) (Bool.eq_false_iff.mpr hfailed) hrest,
        failure_withScanners h]
      rfl
  | case4 lexer hfailed hrest cursor hblank ih =>
      rw [next_of_lexeme?_blank (hlexeme.trans hblank) (Bool.eq_false_iff.mpr hfailed) hrest]
      exact ih h (lexeme?_withScanners h)
  | case5 lexer hfailed hrest token cursor hword =>
      rw [next_of_lexeme?_word (hlexeme.trans hword) (Bool.eq_false_iff.mpr hfailed) hrest]
      rfl

/-- And so does a whole run. -/
theorem items_withScanners (h : Scanner.Agree lexer.scanners others) :
    (lexer.withScanners others).items = lexer.items := by
  fun_induction items lexer with
  | case1 lexer later hnext =>
      have hother := next_withScanners h
      rw [hnext] at hother
      exact items_of_next_none hother
  | case2 lexer item later hnext ih =>
      have hother := next_withScanners h
      have hscanners := lexer.scanners_of_next
      rw [hnext] at hother hscanners
      rw [items_of_next hother, ih (hscanners ▸ h)]

end Lexer

theorem items_of_agree {scanners : List Scanner} (h : Scanner.Agree scanners Scanner.all)
    (text : String) :
    (Lexer.ofText scanners text).items = (Lexer.ofText Scanner.all text).items := by
  have hagree : Scanner.Agree (Lexer.ofText scanners text).scanners Scanner.all := h
  rw [← Lexer.items_withScanners hagree]
  rfl

/-- With names before reserved words, a reserved word is read as a name. -/
theorem items_names_first {scanners : List Scanner} (hall : ∀ scanner, scanner ∈ scanners)
    (hfirst : scanners.idxOf .identifier < scanners.idxOf .keyword) :
    (Lexer.ofText scanners "as").items ≠ (Lexer.ofText Scanner.all "as").items := by
  let name : Lexeme :=
    { token := some { value := "as", kind := .identifier }, cursor := Cursor.advance {} 2 }
  have hname : Scanner.identifier.scan {} "as".toList = some name := by
    decide +kernel
  have hlexeme : (Lexer.ofText scanners "as").lexeme? = some name :=
    (Scanner.findSome?_eq_some_iff hall hfirst (Scanner.rivals_scan _ _).symm).mpr
      ⟨.identifier, hname, fun h => by cases h⟩
  have hrest : "as".toList ≠ [] := by
    decide
  have hreserved : (Lexer.ofText Scanner.all "as").items =
      [.ok { value := "as", kind := .keyword }] := by
    decide +kernel
  rw [Lexer.items_of_next (Lexer.next_of_lexeme?_word hlexeme rfl hrest), hreserved]
  intro hsame
  cases (List.cons.inj hsame).1

/-- **The order of the scanners matters for reserved words before names, and for nothing else.**
Wherever in a text two scanners take something, they are those for reserved words and for names, and
they take the same characters, so that they leave their cursors at one place. What is taken is at
least one character and ends in the text. So any order of all scanners gives the same tokens, places
and failures for every text, remarks included, exactly if reserved words come before names in it. -/
theorem lexBy_reordered :
    (∀ (text : String) (cursor : Cursor) (a b : Scanner) (x y : Lexeme),
      a.scan cursor (text.toList.drop cursor.position) = some x →
      b.scan cursor (text.toList.drop cursor.position) = some y →
        (a = b ∨ a = .keyword ∧ b = .identifier ∨ a = .identifier ∧ b = .keyword) ∧
          x.cursor = y.cursor) ∧
    (∀ (text : String) (cursor : Cursor) (scanner : Scanner) (lexeme : Lexeme),
      scanner.scan cursor (text.toList.drop cursor.position) = some lexeme →
        cursor.position < lexeme.cursor.position ∧ lexeme.cursor.position ≤ text.length) ∧
    ∀ scanners : List Scanner, scanners.Perm Scanner.all →
      (scanners.idxOf .keyword < scanners.idxOf .identifier ↔
        ∀ text, (Lexer.ofText scanners text).items = (Lexer.ofText Scanner.all text).items ∧
          lexBy scanners text = lex text) := by
  refine ⟨fun text cursor a b x y => Scanner.scan_exclusive, ?_, ?_⟩
  · intro text cursor scanner lexeme htaken
    have hlt := Scanner.position_lt_of_scan htaken
    obtain ⟨chars, rest, hsource, hcursor, _⟩ := Scanner.scan_exact htaken
    have hlength := congrArg List.length hsource
    rw [List.length_drop, List.length_append, String.length_toList] at hlength
    rw [hcursor, Cursor.position_after] at hlt ⊢
    omega
  · intro scanners hperm
    constructor
    · intro hfirst text
      have hitems := items_of_agree (Scanner.agree_of_perm hperm hfirst) text
      exact ⟨hitems, by rw [lex, lexBy, lexBy, hitems]⟩
    · intro hsame
      have hall (scanner : Scanner) : scanner ∈ scanners :=
        hperm.mem_iff.mpr scanner.mem_all_scanner
      by_contra hnot
      have hne : scanners.idxOf .identifier ≠ scanners.idxOf .keyword := by
        intro heq
        cases (List.idxOf_inj (hall _)).mp heq
      exact items_names_first hall (by omega) (hsame "as").1

/-- A reserved word that could be a name, behind a name and in front of a numeral with two points,
with the scanner for numerals first and the one for symbols last. -/
theorem lexBy_reordered_select :
    let text := "x SELECT 1.2.3"
    let scanners : List Scanner := [.numeric, .keyword, .string, .identifier, .symbol]
    let cursor : Cursor := ⟨2, ⟨0, 2⟩⟩
    let word : Lexeme := ⟨some ⟨"select", .keyword, ⟨0, 2⟩⟩, ⟨8, ⟨0, 8⟩⟩⟩
    let name : Lexeme := ⟨some ⟨"select", .identifier, ⟨0, 2⟩⟩, ⟨8, ⟨0, 8⟩⟩⟩
    Scanner.keyword.scan cursor (text.toList.drop 2) = some word ∧
      Scanner.identifier.scan cursor (text.toList.drop 2) = some name ∧
      word.cursor = name.cursor ∧ word.cursor.position ≤ text.length ∧
      scanners.Perm Scanner.all ∧ scanners.idxOf .keyword < scanners.idxOf .identifier ∧
      lexBy scanners text = .error (.lex ⟨0, 9⟩ (some "select")) := by
  intro text scanners cursor word name
  obtain ⟨hexclusive, hinside, horder⟩ := lexBy_reordered
  have hword : Scanner.keyword.scan cursor (text.toList.drop 2) = some word := by
    decide +kernel
  have hname : Scanner.identifier.scan cursor (text.toList.drop 2) = some name := by
    decide +kernel
  have hperm : scanners.Perm Scanner.all := by
    decide
  have hfirst : scanners.idxOf .keyword < scanners.idxOf .identifier := by
    decide
  have hrefused : lex text = .error (.lex ⟨0, 9⟩ (some "select")) := by
    decide +kernel
  exact ⟨hword, hname, (hexclusive text cursor _ _ _ _ hword hname).2,
    (hinside text cursor _ _ hword).2, hperm, hfirst,
    (((horder scanners hperm).mp hfirst text).2).trans hrefused⟩

end PocketSql
