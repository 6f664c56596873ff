import PocketSql.Proofs.Statement.Grammar
import PocketSql.Proofs.Token.Spelling
import PocketSql.Statement.Printer
/-!
# Printed scripts

The tokens of a statement are derived from it by the grammar, when the parts that it holds are
tokens of the right kinds. The text that a script is printed as spells its tokens, so it is one of
the texts that are read as the script.
-/

namespace PocketSql

open Grammar

/-! ### The tokens of a statement -/

theorem commaSeparated_cons (first : List Token) (others : List (List Token)) :
    commaSeparated (first :: others) =
      first ++ others.flatMap (Symbol.comma.token :: ·) := by
  induction others generalizing first with
  | nil => rw [commaSeparated, List.intercalate_singleton, List.flatMap_nil, List.append_nil]
  | cons second others ih =>
      have hrest := ih second
      rw [commaSeparated] at hrest ⊢
      rw [List.intercalate_cons_cons, hrest, List.flatMap_cons, List.append_assoc]
      rfl

theorem isTail_flatMap {α : Type} {Member : List Token → α → Prop} {tokens : α → List Token}
    {values : List α} (h : ∀ value ∈ values, Member (tokens value) value) :
    IsTail Member ((values.map tokens).flatMap (Symbol.comma.token :: ·)) values := by
  induction values with
  | nil => exact .nil
  | cons value values ih =>
      rw [List.map_cons, List.flatMap_cons, List.cons_append]
      refine .cons (stands_token (.symbol .comma)) (h value List.mem_cons_self) (ih ?_)
      exact fun other hother => h other (List.mem_cons_of_mem _ hother)

theorem isList_commaSeparated {α : Type} {Member : List Token → α → Prop}
    {tokens : α → List Token} {values : List α}
    (h : ∀ value ∈ values, Member (tokens value) value) :
    IsList Member (commaSeparated (values.map tokens)) values := by
  cases values with
  | nil => exact .missing
  | cons value values =>
      rw [List.map_cons, commaSeparated_cons]
      refine .members (h value List.mem_cons_self) (isTail_flatMap ?_)
      exact fun other hother => h other (List.mem_cons_of_mem _ hother)

theorem isStatement_tokens_select {query : Select}
    (hitems : ∀ item ∈ query.items, IsExpression item.tokens item)
    (htable : ∀ table, query.table = some table → table.kind = .identifier) :
    IsStatement (Statement.select query).tokens (.select query) := by
  obtain ⟨items, table⟩ := query
  have hlist := isList_commaSeparated hitems
  cases table with
  | none => exact .select (.select (stands_token (.keyword .select)) hlist .missing)
  | some table =>
      have hclause := IsFrom.table (stands_token (.keyword Keyword.from)) (htable table rfl)
      exact .select (.select (stands_token (.keyword .select)) hlist hclause)

theorem isStatement_tokens_insert {insertion : Insert}
    (htable : insertion.table.kind = .identifier)
    (hvalues : ∀ value ∈ insertion.values, IsExpression value.tokens value) :
    IsStatement (Statement.insert insertion).tokens (.insert insertion) :=
  .insert (.insert (stands_token (.keyword .insert)) (stands_token (.keyword .into)) htable
    (stands_token (.keyword .values)) (stands_token (.symbol .leftParen))
    (isList_commaSeparated hvalues) (stands_token (.symbol .rightParen)))

theorem isStatement_tokens_createTable {creation : CreateTable}
    (htable : creation.table.kind = .identifier)
    (hcolumns : ∀ column ∈ creation.columns, IsColumn column.tokens column) :
    IsStatement (Statement.createTable creation).tokens (.createTable creation) :=
  .createTable (.create (stands_token (.keyword .create)) (stands_token (.keyword .table)) htable
    (stands_token (.symbol .leftParen)) (isList_commaSeparated hcolumns)
    (stands_token (.symbol .rightParen)))

theorem isScript_tokens {script : Script}
    (h : ∀ statement ∈ script, IsStatement statement.tokens statement) :
    IsScript script.tokens script := by
  induction script with
  | nil => exact .nil
  | cons statement script ih =>
      rw [Script.tokens, List.flatMap_cons, List.append_assoc]
      refine .cons (h statement List.mem_cons_self) (List.cons_ne_nil _ _) stands_semicolon (ih ?_)
      exact fun other hother => h other (List.mem_cons_of_mem _ hother)

/-! ### The text of a script -/

/-- The printed form of the token is a spelling of it in front of a blank and at the end. -/
def Token.Printable (token : Token) : Prop :=
  ∀ rest : List Char, rest.head?.all Scanner.isBlank = true → token.IsSpelled rest token.chars

theorem printable_keyword (word : Keyword) : word.token.Printable := by
  intro rest hrest
  have hchars : word.token.chars = word.spelling.toList := by
    cases word <;> rfl
  rw [hchars]
  refine .keyword ?_ (any_head?_of_isBlank hrest fun _ => not_isNameChar_of_isBlank)
  cases word <;> decide

theorem printable_punctuation {mark : Symbol} (h : mark ∈ Symbol.punctuation) :
    mark.token.Printable :=
  fun _ _ => .symbol h

theorem printable_name (text : String) :
    ({ value := text, kind := .identifier } : Token).Printable :=
  fun _ hrest => .name text (head?_ne_of_isBlank hrest rfl)

theorem printable_string (text : String) :
    ({ value := text, kind := .string } : Token).Printable :=
  fun _ hrest => .string text (head?_ne_of_isBlank hrest rfl)

theorem printable_numeral {numeral : Numeral} (h : numeral.WellFormed) :
    ({ value := String.ofList numeral.chars, kind := .numeric } : Token).Printable := by
  intro rest hrest
  have hspelled := Token.IsSpelled.numeral h
    (any_head?_of_isBlank hrest fun _ => not_goesOn_of_isBlank)
  rwa [Token.chars, String.toList_ofList]

theorem forall_mem_commaSeparated {P : Token → Prop} {members : List (List Token)}
    (hcomma : P Symbol.comma.token) (h : ∀ member ∈ members, ∀ token ∈ member, P token) :
    ∀ token ∈ commaSeparated members, P token := by
  intro token htoken
  cases members with
  | nil => cases htoken
  | cons first others =>
      rw [commaSeparated_cons, List.mem_append, List.mem_flatMap] at htoken
      rcases htoken with htoken | ⟨member, hmember, htoken⟩
      · exact h first List.mem_cons_self token htoken
      · rcases List.mem_cons.mp htoken with rfl | htoken
        · exact hcomma
        · exact h member (List.mem_cons_of_mem _ hmember) token htoken

theorem forall_mem_map_tokens {α : Type} {P : Token → Prop} {tokens : α → List Token}
    {values : List α} (h : ∀ value ∈ values, ∀ token ∈ tokens value, P token) :
    ∀ member ∈ values.map tokens, ∀ token ∈ member, P token := by
  intro member hmember
  obtain ⟨value, hvalue, rfl⟩ := List.mem_map.mp hmember
  exact h value hvalue

theorem printable_tokens_select {query : Select}
    (hitems : ∀ item ∈ query.items, ∀ token ∈ item.tokens, token.Printable)
    (htable : ∀ table, query.table = some table → table.Printable) :
    ∀ token ∈ (Statement.select query).tokens, token.Printable := by
  have hlist := forall_mem_commaSeparated (printable_punctuation (by decide))
    (forall_mem_map_tokens hitems)
  have hword := printable_keyword .select
  obtain ⟨items, table⟩ := query
  cases table with
  | none =>
      simp only [Statement.tokens, Select.tokens, List.forall_mem_append, List.forall_mem_singleton]
      exact ⟨⟨hword, hlist⟩, List.forall_mem_nil _⟩
  | some table =>
      simp only [Statement.tokens, Select.tokens, List.forall_mem_append, List.forall_mem_singleton,
        List.forall_mem_cons]
      exact ⟨⟨hword, hlist⟩, printable_keyword Keyword.from, htable table rfl⟩

theorem printable_tokens_insert {insertion : Insert} (htable : insertion.table.Printable)
    (hvalues : ∀ value ∈ insertion.values, ∀ token ∈ value.tokens, token.Printable) :
    ∀ token ∈ (Statement.insert insertion).tokens, token.Printable := by
  have hlist := forall_mem_commaSeparated (printable_punctuation (by decide))
    (forall_mem_map_tokens hvalues)
  simp only [Statement.tokens, Insert.tokens, List.forall_mem_append, List.forall_mem_singleton,
    List.forall_mem_cons]
  refine ⟨⟨⟨printable_keyword .insert, printable_keyword .into, htable, printable_keyword .values,
    ?_⟩, hlist⟩, ?_⟩
  · exact printable_punctuation (by decide)
  · exact printable_punctuation (by decide)

theorem printable_tokens_createTable {creation : CreateTable} (htable : creation.table.Printable)
    (hcolumns : ∀ column ∈ creation.columns, ∀ token ∈ column.tokens, token.Printable) :
    ∀ token ∈ (Statement.createTable creation).tokens, token.Printable := by
  have hlist := forall_mem_commaSeparated (printable_punctuation (by decide))
    (forall_mem_map_tokens hcolumns)
  simp only [Statement.tokens, CreateTable.tokens, List.forall_mem_append,
    List.forall_mem_singleton, List.forall_mem_cons]
  refine ⟨⟨⟨printable_keyword .create, printable_keyword .table, htable, ?_⟩, hlist⟩, ?_⟩
  · exact printable_punctuation (by decide)
  · exact printable_punctuation (by decide)

theorem printable_tokens_script {script : Script}
    (h : ∀ statement ∈ script, ∀ token ∈ statement.tokens, token.Printable) :
    ∀ token ∈ script.tokens, token.Printable := by
  intro token htoken
  obtain ⟨statement, hstatement, htoken⟩ := List.mem_flatMap.mp htoken
  rcases List.mem_append.mp htoken with htoken | htoken
  · exact h statement hstatement token htoken
  · rw [List.mem_singleton.mp htoken]
    exact printable_punctuation (by decide)

theorem spelled_intercalate {tokens : List Token} (h : ∀ token ∈ tokens, token.Printable) :
    Spelled tokens ([' '].intercalate (tokens.map Token.chars)) := by
  induction tokens with
  | nil => exact .nil
  | cons token tokens ih =>
      have htoken := h token List.mem_cons_self
      have hrest := ih fun other hother => h other (List.mem_cons_of_mem _ hother)
      cases tokens with
      | nil =>
          rw [List.map_cons, List.map_nil, List.intercalate_singleton,
            ← List.append_nil token.chars]
          exact .token (htoken [] rfl) .nil
      | cons second tokens =>
          rw [List.map_cons, List.map_cons, List.intercalate_cons_cons, ← List.map_cons,
            List.append_assoc]
          exact .token (htoken _ rfl) (.blank rfl hrest)

theorem spelled_render {script : Script} (h : ∀ token ∈ script.tokens, token.Printable) :
    Spelled script.tokens script.render.toList := by
  rw [Script.render, String.toList_ofList]
  exact spelled_intercalate h

end PocketSql
