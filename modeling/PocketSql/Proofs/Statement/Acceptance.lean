import PocketSql.Proofs.Sequence
import PocketSql.Proofs.Statement.Prediction
/-!
# Reading accepts exactly the grammar

`script_eq_ok_iff_isScript` says that a list of tokens is read as a script if and only if the
grammar derives that script from it. Since reading is a function, no list of tokens has two
derivations with different scripts.

That what is read is derivable comes from `reads_statement`. The other direction goes through the
forms again: each piece of a derivation is read back whole, because the token behind it is one that
stops it.
-/

namespace PocketSql
namespace Parser

open Grammar

/-! ### Stops -/

theorem accepts_eq_false_of_kind {wanted : Terminal} {token : Token}
    (h : token.kind ≠ wanted.token.kind) : wanted.accepts token = false :=
  Bool.eq_false_iff.mpr fun haccepts => h (accepts_iff_stands.mp haccepts).2

theorem accepts_eq_false_of_value {wanted : Terminal} {token : Token}
    (h : token.value ≠ wanted.token.value) : wanted.accepts token = false :=
  Bool.eq_false_iff.mpr fun haccepts => h (accepts_iff_stands.mp haccepts).1

/-- A terminal in place of another one. -/
theorem accepts_eq_false_of_stands {wanted other : Terminal} {token : Token}
    (h : Stands other token) (hne : other.token.value ≠ wanted.token.value) :
    wanted.accepts token = false :=
  accepts_eq_false_of_value (h.1 ▸ hne)

/-- The stops of the lists in statements. -/
def IsStops (stops : List Terminal) : Prop :=
  ∀ stop ∈ stops, (stop.token.kind = .keyword ∨ stop.token.kind = .symbol) ∧
    Symbol.comma.token.value ≠ stop.token.value

variable {stops : List Terminal}

theorem any_accepts_eq_false {token : Token} (h : ∀ stop ∈ stops, stop.accepts token = false) :
    stops.any (·.accepts token) = false :=
  List.any_eq_false.mpr fun stop hstop => by simp [h stop hstop]

theorem comma_not_stop (hstops : IsStops stops) {token : Token}
    (h : Stands (.symbol .comma) token) : stops.any (·.accepts token) = false :=
  any_accepts_eq_false fun stop hstop => accepts_eq_false_of_stands h (hstops stop hstop).2

/-- A token that is neither a reserved word nor a symbol. -/
theorem operand_not_stop (hstops : IsStops stops) {token : Token} (hword : token.kind ≠ .keyword)
    (hmark : token.kind ≠ .symbol) : stops.any (·.accepts token) = false := by
  refine any_accepts_eq_false fun stop hstop => accepts_eq_false_of_kind ?_
  rcases (hstops stop hstop).1 with hkind | hkind
  · rwa [hkind]
  · rwa [hkind]

theorem expression_not_stop (hstops : IsStops stops) {front : List Token} {value : Expression}
    (h : IsExpression front value) :
    ∃ token back, front = token :: back ∧ stops.any (·.accepts token) = false := by
  cases h with
  | @literal token hkind =>
      refine ⟨token, [], rfl, operand_not_stop hstops ?_ ?_⟩
      · intro hword
        simp [hword] at hkind
      · intro hmark
        simp [hmark] at hkind

theorem column_not_stop (hstops : IsStops stops) {front : List Token}
    {value : ColumnDefinition} (h : IsColumn front value) :
    ∃ token back, front = token :: back ∧ stops.any (·.accepts token) = false := by
  cases h with
  | @define name datatype hname hdatatype =>
      refine ⟨name, [datatype], rfl, operand_not_stop hstops ?_ ?_⟩
      · simp [hname]
      · simp [hname]

theorem expressions_append (hstops : IsStops stops) {tokens : List Token}
    {items : List Expression} (h : IsList IsExpression tokens items) {stop : Token}
    (hstop : stops.any (·.accepts stop) = true) (rest : List Token) :
    expressions stops (tokens ++ stop :: rest) = .ok (items, stop :: rest) :=
  separated_append expression_append (comma_not_stop hstops) (expression_not_stop hstops) h hstop
    rest

theorem columns_append (hstops : IsStops stops) {tokens : List Token}
    {definitions : List ColumnDefinition} (h : IsList IsColumn tokens definitions) {stop : Token}
    (hstop : stops.any (·.accepts stop) = true) (rest : List Token) :
    columns stops (tokens ++ stop :: rest) = .ok (definitions, stop :: rest) :=
  separated_append column_append (comma_not_stop hstops) (column_not_stop hstops) h hstop rest

theorem any_accepts_of_stands {wanted : Terminal} (hmem : wanted ∈ stops) {token : Token}
    (h : Stands wanted token) : stops.any (·.accepts token) = true :=
  List.any_eq_true.mpr ⟨wanted, hmem, accepts_iff_stands.mpr h⟩

theorem isStops_select : IsStops [.keyword Keyword.from, .symbol .semicolon] := by
  simp [IsStops, Terminal.token, Keyword.token, Symbol.token, Keyword.kind, Keyword.spelling,
    Symbol.spelling]

theorem isStops_rightParen : IsStops [.symbol .rightParen] := by
  simp [IsStops, Terminal.token, Symbol.token, Symbol.spelling]

/-! ### A derived statement is read back -/

theorem select_append {front : List Token} {query : Select} (h : IsSelect front query)
    {mark : Token} (hmark : Stands (.symbol .semicolon) mark) (rest : List Token) :
    select (front ++ mark :: rest) = .ok (query, mark :: rest) := by
  obtain ⟨hword, hitems, hfrom⟩ := h
  rw [List.cons_append, List.append_assoc]
  refine (bind_of_ok (terminal_cons hword _)).trans ?_
  cases hfrom with
  | missing =>
      have hlist := expressions_append isStops_select hitems
        (any_accepts_of_stands (by simp) hmark) rest
      have hnone : fromClause (mark :: rest) = .ok (none, mark :: rest) :=
        fromClause_of_head? (accepts_eq_false_of_stands hmark (by decide))
      exact (bind_of_ok hlist).trans (bind_of_ok hnone)
  | @table word table hfrom htable =>
      have hlist := expressions_append isStops_select hitems
        (any_accepts_of_stands (by simp) hfrom) (table :: mark :: rest)
      have hsome : fromClause (word :: table :: mark :: rest) = .ok (some table, mark :: rest) := by
        rw [fromClause_cons hfrom]
        exact map_of_ok (ofKind_cons htable _)
      exact (bind_of_ok hlist).trans (bind_of_ok hsome)

theorem insert_append {front : List Token} {insertion : Insert} (h : IsInsert front insertion)
    (rest : List Token) : insert (front ++ rest) = .ok (insertion, rest) := by
  obtain ⟨hword, hinto, htable, hword', hleft, hvalues, hright⟩ := h
  have hlist := expressions_append isStops_rightParen hvalues
    (any_accepts_of_stands (by simp) hright) rest
  simp only [List.cons_append, List.append_assoc, List.nil_append]
  refine (bind_of_ok (terminal_cons hword _)).trans ?_
  refine (bind_of_ok (terminal_cons hinto _)).trans ?_
  refine (bind_of_ok (ofKind_cons htable _)).trans ?_
  refine (bind_of_ok (terminal_cons hword' _)).trans ?_
  refine (bind_of_ok (terminal_cons hleft _)).trans ?_
  refine (bind_of_ok hlist).trans ?_
  exact bind_of_ok (terminal_cons hright rest)

theorem createTable_append {front : List Token} {creation : CreateTable}
    (h : IsCreateTable front creation) (rest : List Token) :
    createTable (front ++ rest) = .ok (creation, rest) := by
  obtain ⟨hword, hword', htable, hleft, hcolumns, hright⟩ := h
  have hlist := columns_append isStops_rightParen hcolumns
    (any_accepts_of_stands (by simp) hright) rest
  simp only [List.cons_append, List.append_assoc, List.nil_append]
  refine (bind_of_ok (terminal_cons hword _)).trans ?_
  refine (bind_of_ok (terminal_cons hword' _)).trans ?_
  refine (bind_of_ok (ofKind_cons htable _)).trans ?_
  refine (bind_of_ok (terminal_cons hleft _)).trans ?_
  refine (bind_of_ok hlist).trans ?_
  exact bind_of_ok (terminal_cons hright rest)

/-- The form of a statement. -/
theorem exists_form_append {front : List Token} {value : Statement} (h : IsStatement front value)
    {mark : Token} (hmark : Stands (.symbol .semicolon) mark) (rest : List Token) :
    ∃ form : Form, form.parser (front ++ mark :: rest) = .ok (value, mark :: rest) := by
  cases h with
  | select h => exact ⟨.select, map_of_ok (select_append h hmark rest)⟩
  | insert h => exact ⟨.insert, map_of_ok (insert_append h _)⟩
  | createTable h => exact ⟨.createTable, map_of_ok (createTable_append h _)⟩

theorem statement_append {front : List Token} {value : Statement} (h : IsStatement front value)
    {mark : Token} (hmark : Stands (.symbol .semicolon) mark) (rest : List Token) :
    statement (front ++ mark :: rest) = .ok (value, mark :: rest) := by
  obtain ⟨form, hform⟩ := exists_form_append h hmark rest
  have hnext : Form.next? (front ++ mark :: rest) = some form := by
    by_cases hnext : Form.next? (front ++ mark :: rest) = some form
    · exact hnext
    · rw [Form.parser_of_next?_ne hnext] at hform
      cases hform
  rw [statement_eq, predicted_of_next? hnext, hform]

/-! ### Scripts -/

theorem isSemicolon_iff {token : Token} :
    isSemicolon token = true ↔ Stands (.symbol .semicolon) token :=
  accepts_iff_stands

theorem ne_nil_of_statement {tokens rest : List Token} {first : Statement}
    (h : statement tokens = .ok (first, rest)) : tokens ≠ [] := by
  rintro rfl
  cases h

theorem script_of_refused {tokens : List Token} {failure : ParseFailure} (hne : tokens ≠ [])
    (h : statement tokens = .error failure) : script tokens = .error failure := by
  rw [script, if_neg hne]
  split
  all_goals
    rename_i hstatement
    rw [h] at hstatement
    cases hstatement
  rfl

theorem script_of_unended {tokens rest : List Token} {first : Statement}
    (h : statement tokens = .ok (first, rest)) (hhead : rest.head?.any isSemicolon = false) :
    script tokens = .error ⟨rest, .semicolon⟩ := by
  rw [script, if_neg (ne_nil_of_statement h)]
  split
  all_goals
    rename_i hstatement
    rw [h] at hstatement
    cases hstatement
  · rfl
  · rw [if_neg (by simpa using hhead)]

theorem script_of_ended {tokens rest : List Token} {first : Statement} {mark : Token}
    (h : statement tokens = .ok (first, mark :: rest)) (hmark : isSemicolon mark = true) :
    script tokens = (script (rest.dropWhile isSemicolon)).map (first :: ·) := by
  rw [script, if_neg (ne_nil_of_statement h)]
  split
  all_goals
    rename_i hstatement
    rw [h] at hstatement
    cases hstatement
  rw [if_pos hmark]
  cases script (rest.dropWhile isSemicolon) <;> rfl

theorem isScript_of_script {tokens : List Token} {script' : Script}
    (h : script tokens = .ok script') : IsScript tokens script' := by
  fun_induction script tokens generalizing script' with
  | case1 =>
      cases h
      exact .nil
  | case2 => cases h
  | case3 => cases h
  | case4 => cases h
  | case5 tokens hne first token rest hfirst hsemicolon others hothers ih =>
      cases h
      obtain ⟨front, rfl, hfront, _⟩ := reads_statement.ok hfirst
      have hmarks : ∀ mark ∈ token :: rest.takeWhile isSemicolon,
          Stands (.symbol .semicolon) mark := by
        intro mark hmark
        rcases List.mem_cons.mp hmark with rfl | hmark
        · exact isSemicolon_iff.mp hsemicolon
        · exact isSemicolon_iff.mp (List.all_eq_true.mp List.all_takeWhile mark hmark)
      have hscript := IsScript.cons hfront (List.cons_ne_nil _ _) hmarks (ih hothers)
      rwa [List.cons_append, List.takeWhile_append_dropWhile] at hscript
  | case6 => cases h

theorem dropWhile_isSemicolon {semicolons : List Token} {rest : List Token} {script' : Script}
    (hsemicolons : ∀ token ∈ semicolons, Stands (.symbol .semicolon) token)
    (hrest : IsScript rest script') : (semicolons ++ rest).dropWhile isSemicolon = rest := by
  refine dropWhile_append_of_head? (fun token h => isSemicolon_iff.mpr (hsemicolons token h)) ?_
  cases hrest with
  | nil => rfl
  | cons hfirst _ _ _ =>
      obtain ⟨token, back, rfl, hkind⟩ := hfirst.head
      refine accepts_eq_false_of_kind ?_
      rw [hkind]
      decide

theorem script_of_isScript {tokens : List Token} {script' : Script}
    (h : IsScript tokens script') : script tokens = .ok script' := by
  induction h with
  | nil => rw [script, if_pos rfl]
  | @cons first semicolons rest statement' script' hfirst hsome hsemicolons hrest ih =>
      obtain ⟨mark, marks, rfl⟩ := List.exists_cons_of_ne_nil hsome
      have hmark := hsemicolons mark List.mem_cons_self
      have hmarks := fun token htoken => hsemicolons token (List.mem_cons_of_mem mark htoken)
      rw [List.cons_append, script_of_ended (statement_append hfirst hmark _)
        (isSemicolon_iff.mpr hmark), dropWhile_isSemicolon hmarks hrest, ih]
      rfl

theorem script_eq_ok_iff_isScript {tokens : List Token} {script' : Script} :
    script tokens = .ok script' ↔ IsScript tokens script' :=
  ⟨isScript_of_script, script_of_isScript⟩

end Parser

open Grammar

theorem parseTokens_eq_ok_iff_script {tokens : List Token} {script : Script} :
    parseTokens tokens = .ok script ↔ Parser.script tokens = .ok script := by
  rw [parseTokens]
  cases Parser.script tokens <;> simp [Except.mapError]

theorem parse_of_lex {text : String} {tokens : List Token} (h : lex text = .ok tokens) :
    parse text = parseTokens tokens := by
  rw [parse, h]
  rfl

theorem parse_of_lex_error {text : String} {error : Error} (h : lex text = .error error) :
    parse text = .error error := by
  rw [parse, h]
  rfl

theorem parse_eq_ok_iff {text : String} {script : Script} :
    parse text = .ok script ↔ ∃ tokens, lex text = .ok tokens ∧ IsScript tokens script := by
  cases hlex : lex text with
  | error error =>
      rw [parse_of_lex_error hlex]
      constructor
      · intro h
        cases h
      · rintro ⟨_, h, _⟩
        cases h
  | ok tokens =>
      rw [parse_of_lex hlex]
      have hread : parseTokens tokens = .ok script ↔ IsScript tokens script :=
        parseTokens_eq_ok_iff_script.trans Parser.script_eq_ok_iff_isScript
      constructor
      · exact fun h => ⟨tokens, rfl, hread.mp h⟩
      · rintro ⟨_, h, hscript⟩
        cases h
        exact hread.mpr hscript

/-- **Reading accepts exactly the grammar**, and the grammar is unambiguous. -/
theorem parseTokens_eq_ok_iff_isScript :
    (∀ (tokens : List Token) (script : Script),
      parseTokens tokens = .ok script ↔ IsScript tokens script) ∧
    ∀ (tokens : List Token) (script other : Script),
      IsScript tokens script → IsScript tokens other → script = other := by
  have hiff : ∀ (tokens : List Token) (script : Script),
      parseTokens tokens = .ok script ↔ IsScript tokens script := fun _ _ =>
    parseTokens_eq_ok_iff_script.trans Parser.script_eq_ok_iff_isScript
  refine ⟨hiff, fun tokens script other hscript hother => ?_⟩
  have hsame := ((hiff _ _).mpr hscript).symm.trans ((hiff _ _).mpr hother)
  exact Except.ok.inj hsame

/-- A selection of two columns, with a semicolon too many. -/
theorem parseTokens_two_columns :
    let a : Token := { value := "a", kind := .identifier }
    let b : Token := { value := "b", kind := .identifier }
    let tokens := [Keyword.select.token, a, Symbol.comma.token, b, Keyword.from.token, a,
      Symbol.semicolon.token, Symbol.semicolon.token]
    let script : Script := [.select { items := [.literal a, .literal b], table := some a }]
    IsScript tokens script ∧ ∀ other, IsScript tokens other → other = script := by
  intro a b tokens script
  have hread : parseTokens tokens = .ok script := by
    with_unfolding_all rfl
  have hscript := (parseTokens_eq_ok_iff_isScript.1 _ _).mp hread
  exact ⟨hscript, fun other hother => parseTokens_eq_ok_iff_isScript.2 _ _ _ hother hscript⟩

end PocketSql
