import PocketSql.Proofs.Statement.Places
import PocketSql.Proofs.Statement.Printing
import PocketSql.Proofs.Token.Lexical
/-!
# Printing and reading are inverse

A script is well formed when its names are identifiers, its expressions are names, strings or
numerals, and its column types are reserved words. Names and strings can be any text. These are
exactly the scripts that texts give: a well-formed script is read back from its printed form, and a
script that was read from a text is well formed, since its tokens are lexical and stand where the
grammar wants them. Equality is up to the places of tokens, which printing does not keep.
-/

namespace PocketSql

open Grammar

/-- An identifier or a string with any text, or a numeral. -/
def Expression.WellFormed : Expression → Prop
  | .literal token => token.kind = .identifier ∨ token.kind = .string ∨ token.IsNumeral

structure ColumnDefinition.WellFormed (definition : ColumnDefinition) : Prop where
  name : definition.name.kind = .identifier
  datatype : definition.datatype.IsReserved

structure Select.WellFormed (query : Select) : Prop where
  items : ∀ item ∈ query.items, item.WellFormed
  table : ∀ table, query.table = some table → table.kind = .identifier

structure Insert.WellFormed (insertion : Insert) : Prop where
  table : insertion.table.kind = .identifier
  values : ∀ value ∈ insertion.values, value.WellFormed

structure CreateTable.WellFormed (creation : CreateTable) : Prop where
  table : creation.table.kind = .identifier
  columns : ∀ column ∈ creation.columns, column.WellFormed

def Statement.WellFormed : Statement → Prop
  | .select query => query.WellFormed
  | .insert insertion => insertion.WellFormed
  | .createTable creation => creation.WellFormed

def Script.WellFormed (script : Script) : Prop :=
  ∀ statement ∈ script, statement.WellFormed

variable {text : String} {token : Token} {tokens : List Token} {script : Script}

/-! ### The tokens of a well-formed script are derived -/

theorem Expression.WellFormed.isExpression {value : Expression} (h : value.WellFormed) :
    IsExpression value.tokens value := by
  obtain ⟨token⟩ := value
  rcases h with hname | hstring | hnumeral
  · exact .literal (.inl hname)
  · exact .literal (.inr (.inr hstring))
  · exact .literal (.inr (.inl hnumeral.1))

theorem ColumnDefinition.WellFormed.isColumn {definition : ColumnDefinition}
    (h : definition.WellFormed) : IsColumn definition.tokens definition :=
  .define h.name h.datatype.1

theorem Statement.WellFormed.isStatement {statement : Statement} (h : statement.WellFormed) :
    IsStatement statement.tokens statement := by
  cases statement with
  | select query =>
      exact isStatement_tokens_select (fun item hitem => (h.items item hitem).isExpression) h.table
  | insert insertion =>
      exact isStatement_tokens_insert h.table fun value hvalue => (h.values value hvalue).isExpression
  | createTable creation =>
      exact isStatement_tokens_createTable h.table
        fun column hcolumn => (h.columns column hcolumn).isColumn

/-! ### The text of a well-formed script spells its tokens -/

theorem printable_of_name (h : token.kind = .identifier) : token.unlocated.Printable := by
  rw [Token.unlocated, h]
  exact printable_name token.value

theorem printable_of_isReserved (h : token.IsReserved) : token.unlocated.Printable := by
  obtain ⟨hkind, word, hword, hvalue⟩ := h
  rw [Token.unlocated, hkind, hvalue, ← word.kind_eq_keyword_iff.mpr hword]
  exact printable_keyword word

theorem Expression.WellFormed.printable {value : Expression} (h : value.WellFormed) :
    ∀ token ∈ value.unlocated.tokens, token.Printable := by
  obtain ⟨token⟩ := value
  refine List.forall_mem_singleton.mpr ?_
  rcases h with hname | hstring | ⟨hkind, numeral, hnumeral, hvalue⟩
  · exact printable_of_name hname
  · rw [Token.unlocated, hstring]
    exact printable_string token.value
  · rw [Token.unlocated, hkind, hvalue]
    exact printable_numeral hnumeral

theorem ColumnDefinition.WellFormed.printable {definition : ColumnDefinition}
    (h : definition.WellFormed) : ∀ token ∈ definition.unlocated.tokens, token.Printable := by
  refine List.forall_mem_cons.mpr ⟨printable_of_name h.name, ?_⟩
  exact List.forall_mem_singleton.mpr (printable_of_isReserved h.datatype)

theorem Statement.WellFormed.printable {statement : Statement} (h : statement.WellFormed) :
    ∀ token ∈ statement.unlocated.tokens, token.Printable := by
  cases statement with
  | select query =>
      apply printable_tokens_select
      · exact List.forall_mem_map.mpr fun item hitem => (h.items item hitem).printable
      · intro table htable
        obtain ⟨own, hown, rfl⟩ := Option.map_eq_some_iff.mp htable
        exact printable_of_name (h.table own hown)
  | insert insertion =>
      apply printable_tokens_insert (printable_of_name h.table)
      exact List.forall_mem_map.mpr fun value hvalue => (h.values value hvalue).printable
  | createTable creation =>
      apply printable_tokens_createTable (printable_of_name h.table)
      exact List.forall_mem_map.mpr fun column hcolumn => (h.columns column hcolumn).printable

/-! ### Printing does not keep places -/

theorem commaSeparated_unlocated {α : Type} {forget : α → α} {tokens : α → List Token}
    (h : ∀ value, tokens (forget value) = (tokens value).map Token.unlocated) (values : List α) :
    commaSeparated ((values.map forget).map tokens) =
      (commaSeparated (values.map tokens)).map Token.unlocated := by
  have hmap : (values.map forget).map tokens =
      (values.map tokens).map (·.map Token.unlocated) := by
    rw [List.map_map, List.map_map]
    exact List.map_congr_left fun value _ => h value
  rw [hmap]
  cases values.map tokens with
  | nil => rfl
  | cons first others =>
      simp only [List.map_cons, commaSeparated_cons, List.map_append, List.map_flatMap,
        List.flatMap_map]
      rfl

theorem Expression.tokens_unlocated (value : Expression) :
    value.unlocated.tokens = value.tokens.map Token.unlocated := rfl

theorem ColumnDefinition.tokens_unlocated (definition : ColumnDefinition) :
    definition.unlocated.tokens = definition.tokens.map Token.unlocated := rfl

theorem Statement.tokens_unlocated (statement : Statement) :
    statement.unlocated.tokens = statement.tokens.map Token.unlocated := by
  cases statement with
  | select query =>
      obtain ⟨items, table⟩ := query
      have hitems := commaSeparated_unlocated Expression.tokens_unlocated items
      simp only [unlocated, Select.unlocated, tokens, Select.tokens, hitems, List.map_append]
      cases table <;> rfl
  | insert insertion =>
      have hvalues := commaSeparated_unlocated Expression.tokens_unlocated insertion.values
      simp only [unlocated, Insert.unlocated, tokens, Insert.tokens, hvalues, List.map_append]
      rfl
  | createTable creation =>
      have hcolumns :=
        commaSeparated_unlocated ColumnDefinition.tokens_unlocated creation.columns
      simp only [unlocated, CreateTable.unlocated, tokens, CreateTable.tokens, hcolumns,
        List.map_append]
      rfl

theorem Script.tokens_unlocated (script : Script) :
    script.unlocated.tokens = script.tokens.map Token.unlocated := by
  simp only [Script.unlocated, Script.tokens, List.flatMap_map, List.map_flatMap, List.map_append,
    Statement.tokens_unlocated]
  rfl

theorem Script.render_unlocated (script : Script) : script.unlocated.render = script.render := by
  rw [render, render, tokens_unlocated, List.map_map]
  rfl

/-- A well-formed script is read back from its printed form. -/
theorem Script.WellFormed.exists_parse_render (h : script.WellFormed) :
    ∃ read, parse script.render = .ok read ∧ read.unlocated = script.unlocated := by
  have hscript : IsScript script.tokens script :=
    isScript_tokens fun statement hstatement => (h statement hstatement).isStatement
  have hprintable : ∀ token ∈ script.unlocated.tokens, token.Printable :=
    printable_tokens_script
      (List.forall_mem_map.mpr fun statement hstatement => (h statement hstatement).printable)
  have hspelled := spelled_render hprintable
  rw [Script.tokens_unlocated, Script.render_unlocated] at hspelled
  obtain ⟨found, hlex, hfound⟩ := lex_of_spelled hspelled
  rw [List.map_map] at hfound
  exact parse_of_map_unlocated hscript hlex hfound

/-! ### What is read is well formed -/

theorem wellFormed_of_isExpression {value : Expression} (h : IsExpression tokens value)
    (hlexical : ∀ token ∈ tokens, token.Lexical) : value.WellFormed := by
  obtain ⟨hkind⟩ := h
  have htoken := hlexical _ List.mem_cons_self
  rcases hkind with hname | hnumeral | hstring
  · exact .inl hname
  · exact .inr (.inr (htoken.numeral hnumeral))
  · exact .inr (.inl hstring)

theorem wellFormed_of_isColumn {definition : ColumnDefinition} (h : IsColumn tokens definition)
    (hlexical : ∀ token ∈ tokens, token.Lexical) : definition.WellFormed := by
  obtain ⟨hname, hdatatype⟩ := h
  have htoken := hlexical _ (List.mem_cons_of_mem _ List.mem_cons_self)
  exact ⟨hname, htoken.reserved hdatatype⟩

section Lists

variable {α : Type} {Member : List Token → α → Prop} {P : α → Prop} {values : List α}

theorem forall_mem_of_isTail
    (hmember : ∀ front value, Member front value → (∀ token ∈ front, token.Lexical) → P value)
    (h : IsTail Member tokens values) (hlexical : ∀ token ∈ tokens, token.Lexical) :
    ∀ value ∈ values, P value := by
  induction h with
  | nil => simp
  | cons _ hvalue _ ih =>
      obtain ⟨_, hlexical⟩ := List.forall_mem_cons.mp hlexical
      obtain ⟨hfront, hback⟩ := List.forall_mem_append.mp hlexical
      exact List.forall_mem_cons.mpr ⟨hmember _ _ hvalue hfront, ih hback⟩

theorem forall_mem_of_isList
    (hmember : ∀ front value, Member front value → (∀ token ∈ front, token.Lexical) → P value)
    (h : IsList Member tokens values) (hlexical : ∀ token ∈ tokens, token.Lexical) :
    ∀ value ∈ values, P value := by
  cases h with
  | missing => simp
  | members hvalue htail =>
      obtain ⟨hfront, hback⟩ := List.forall_mem_append.mp hlexical
      exact List.forall_mem_cons.mpr
        ⟨hmember _ _ hvalue hfront, forall_mem_of_isTail hmember htail hback⟩

end Lists

theorem wellFormed_of_isStatement {statement : Statement} (h : IsStatement tokens statement)
    (hlexical : ∀ token ∈ tokens, token.Lexical) : statement.WellFormed := by
  cases h with
  | select h =>
      obtain ⟨_, hitems, hfrom⟩ := h
      simp only [List.forall_mem_cons, List.forall_mem_append] at hlexical
      refine ⟨forall_mem_of_isList (fun _ _ => wellFormed_of_isExpression) hitems hlexical.2.1, ?_⟩
      intro table htable
      cases htable
      cases hfrom with
      | table _ hname => exact hname
  | insert h =>
      obtain ⟨_, _, htable, _, _, hvalues, _⟩ := h
      simp only [List.forall_mem_cons, List.forall_mem_append] at hlexical
      obtain ⟨_, _, _, _, _, hlexical, _⟩ := hlexical
      exact ⟨htable, forall_mem_of_isList (fun _ _ => wellFormed_of_isExpression) hvalues hlexical⟩
  | createTable h =>
      obtain ⟨_, _, htable, _, hcolumns, _⟩ := h
      simp only [List.forall_mem_cons, List.forall_mem_append] at hlexical
      obtain ⟨_, _, _, _, hlexical, _⟩ := hlexical
      exact ⟨htable, forall_mem_of_isList (fun _ _ => wellFormed_of_isColumn) hcolumns hlexical⟩

theorem wellFormed_of_isScript (h : IsScript tokens script)
    (hlexical : ∀ token ∈ tokens, token.Lexical) : script.WellFormed := by
  induction h with
  | nil => exact List.forall_mem_nil _
  | cons hfirst _ _ _ ih =>
      simp only [List.forall_mem_append] at hlexical
      obtain ⟨hstatement, _, hrest⟩ := hlexical
      exact List.forall_mem_cons.mpr ⟨wellFormed_of_isStatement hfirst hstatement, ih hrest⟩

theorem wellFormed_of_parse (h : parse text = .ok script) : script.WellFormed := by
  obtain ⟨tokens, hlex, hscript⟩ := parse_eq_ok_iff.mp h
  exact wellFormed_of_isScript hscript (lexical_of_lex hlex)

/-- **Printing and reading are inverse.** Every well-formed script is read back from its printed
form, and the scripts that texts give are well formed. -/
theorem parse_render_inverse :
    (∀ script : Script, script.WellFormed →
      ∃ read, parse script.render = .ok read ∧ read.unlocated = script.unlocated) ∧
    ∀ text script, parse text = .ok script →
      script.WellFormed ∧
        ∃ read, parse script.render = .ok read ∧ read.unlocated = script.unlocated := by
  refine ⟨fun script h => h.exists_parse_render, fun text script h => ?_⟩
  have hscript := wellFormed_of_parse h
  exact ⟨hscript, hscript.exists_parse_render⟩

/-- Reserved words as a name and as a column type, a numeral with an exponent, and quotes. -/
theorem parse_render_inverse_quotes :
    let text := "CREATE TABLE \"select\" (\"a\"\"b\" Into); SELECT 1.5e-3, 'it''s' FROM T;;"
    let script : Script :=
      [.createTable
        { table := ⟨"select", .identifier, ⟨0, 13⟩⟩
          columns := [⟨⟨"a\"b", .identifier, ⟨0, 23⟩⟩, ⟨"into", .keyword, ⟨0, 30⟩⟩⟩] },
        .select
          { items := [.literal ⟨"1.5e-3", .numeric, ⟨0, 44⟩⟩, .literal ⟨"it's", .string, ⟨0, 52⟩⟩]
            table := some ⟨"t", .identifier, ⟨0, 65⟩⟩ }]
    parse text = .ok script ∧ script.WellFormed ∧
      ∃ read, parse script.render = .ok read ∧ read.unlocated = script.unlocated := by
  intro text script
  have hparse : parse text = .ok script := eq_ok_of_toOption (by decide +kernel)
  obtain ⟨hscript, _⟩ := parse_render_inverse.2 text script hparse
  exact ⟨hparse, hscript, parse_render_inverse.1 script hscript⟩

end PocketSql
