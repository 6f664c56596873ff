import PocketSql.Statement.Script
/-!
# The grammar of scripts as a relation

Which tokens are a script, and which statements they are, said without a reader:

    script  = { stmt ";" { ";" } }
    stmt    = SELECT [exprs] [FROM name]
            | INSERT INTO name VALUES "(" [exprs] ")"
            | CREATE TABLE name "(" [columns] ")"
    exprs   = expr { "," expr }
    columns = name type { "," name type }

A name is any token of the identifier kind, a type any token of the keyword kind, and an expression
any identifier, numeral or string. A phrase is related to the very tokens that it is made of, places
included.
-/

namespace PocketSql.Grammar

/-- A token with the text and the kind that a terminal asks for. -/
def Stands (terminal : Terminal) (token : Token) : Prop :=
  token.value = terminal.token.value ∧ token.kind = terminal.token.kind

theorem accepts_iff_stands {terminal : Terminal} {token : Token} :
    terminal.accepts token = true ↔ Stands terminal token := by
  simp [Terminal.accepts, Token.alike, Stands]

theorem stands_token (terminal : Terminal) : Stands terminal terminal.token := ⟨rfl, rfl⟩

theorem stands_semicolon :
    ∀ token ∈ [Symbol.semicolon.token], Stands (.symbol .semicolon) token :=
  List.forall_mem_singleton.mpr (stands_token (.symbol .semicolon))

inductive IsExpression : List Token → Expression → Prop where
  | literal {token : Token}
      (hkind : token.kind = .identifier ∨ token.kind = .numeric ∨ token.kind = .string) :
      IsExpression [token] (.literal token)

inductive IsColumn : List Token → ColumnDefinition → Prop where
  | define {name datatype : Token} (hname : name.kind = .identifier)
      (hdatatype : datatype.kind = .keyword) : IsColumn [name, datatype] { name, datatype }

section Lists

variable {α : Type} (Member : List Token → α → Prop)

/-- Members that go on with a list, each after a comma. -/
inductive IsTail : List Token → List α → Prop where
  | nil : IsTail [] []
  | cons {comma : Token} {front back : List Token} {value : α} {values : List α}
      (hcomma : Stands (.symbol .comma) comma) (hmember : Member front value)
      (htail : IsTail back values) : IsTail (comma :: (front ++ back)) (value :: values)

/-- A list of members with commas between them, which may be missing. -/
inductive IsList : List Token → List α → Prop where
  | missing : IsList [] []
  | members {front back : List Token} {value : α} {values : List α}
      (hmember : Member front value) (htail : IsTail Member back values) :
      IsList (front ++ back) (value :: values)

end Lists

/-- The clause that names the table of a selection, which may be missing. -/
inductive IsFrom : List Token → Option Token → Prop where
  | missing : IsFrom [] none
  | table {word table : Token} (hword : Stands (.keyword Keyword.from) word)
      (htable : table.kind = .identifier) : IsFrom [word, table] (some table)

inductive IsSelect : List Token → Select → Prop where
  | select {word : Token} {exprs clause : List Token} {items : List Expression}
      {table : Option Token} (hword : Stands (.keyword .select) word)
      (hitems : IsList IsExpression exprs items) (hfrom : IsFrom clause table) :
      IsSelect (word :: (exprs ++ clause)) { items, table }

inductive IsInsert : List Token → Insert → Prop where
  | insert {word into table word' left right : Token} {exprs : List Token}
      {values : List Expression} (hword : Stands (.keyword .insert) word)
      (hinto : Stands (.keyword .into) into) (htable : table.kind = .identifier)
      (hword' : Stands (.keyword .values) word') (hleft : Stands (.symbol .leftParen) left)
      (hvalues : IsList IsExpression exprs values)
      (hright : Stands (.symbol .rightParen) right) :
      IsInsert (word :: into :: table :: word' :: left :: (exprs ++ [right])) { table, values }

inductive IsCreateTable : List Token → CreateTable → Prop where
  | create {word word' table left right : Token} {definitions : List Token}
      {columns : List ColumnDefinition} (hword : Stands (.keyword .create) word)
      (hword' : Stands (.keyword .table) word') (htable : table.kind = .identifier)
      (hleft : Stands (.symbol .leftParen) left)
      (hcolumns : IsList IsColumn definitions columns)
      (hright : Stands (.symbol .rightParen) right) :
      IsCreateTable (word :: word' :: table :: left :: (definitions ++ [right]))
        { table, columns }

inductive IsStatement : List Token → Statement → Prop where
  | select {tokens : List Token} {query : Select} (h : IsSelect tokens query) :
      IsStatement tokens (.select query)
  | insert {tokens : List Token} {insertion : Insert} (h : IsInsert tokens insertion) :
      IsStatement tokens (.insert insertion)
  | createTable {tokens : List Token} {creation : CreateTable}
      (h : IsCreateTable tokens creation) : IsStatement tokens (.createTable creation)

inductive IsScript : List Token → Script → Prop where
  | nil : IsScript [] []
  | cons {first semicolons rest : List Token} {statement : Statement} {script : Script}
      (hfirst : IsStatement first statement) (hsome : semicolons ≠ [])
      (hsemicolons : ∀ token ∈ semicolons, Stands (.symbol .semicolon) token)
      (hrest : IsScript rest script) :
      IsScript (first ++ (semicolons ++ rest)) (statement :: script)

/-- A statement begins with a reserved word. -/
theorem IsStatement.head {tokens : List Token} {statement : Statement}
    (h : IsStatement tokens statement) :
    ∃ token rest, tokens = token :: rest ∧ token.kind = .keyword := by
  cases h with
  | select h =>
      obtain ⟨hword, _, _⟩ := h
      exact ⟨_, _, rfl, hword.2⟩
  | insert h =>
      obtain ⟨hword, _, _, _, _, _, _⟩ := h
      exact ⟨_, _, rfl, hword.2⟩
  | createTable h =>
      obtain ⟨hword, _, _, _, _, _⟩ := h
      exact ⟨_, _, rfl, hword.2⟩

/-- The shortest statement. -/
theorem isStatement_select :
    IsStatement [Keyword.select.token] (.select { items := [], table := none }) :=
  .select (.select (stands_token _) .missing .missing)

/-- A script of a single statement. -/
theorem IsStatement.isScript {tokens : List Token} {statement : Statement}
    (h : IsStatement tokens statement) :
    IsScript (tokens ++ [Symbol.semicolon.token]) [statement] :=
  .cons h (List.cons_ne_nil _ _) stands_semicolon .nil

theorem IsScript.append {front back : List Token} {script other : Script}
    (hfront : IsScript front script) (hback : IsScript back other) :
    IsScript (front ++ back) (script ++ other) := by
  induction hfront with
  | nil => exact hback
  | cons hfirst hsome hsemicolons _ ih =>
      rw [List.append_assoc, List.append_assoc]
      exact .cons hfirst hsome hsemicolons ih

/-- A script ends with a semicolon. -/
theorem IsScript.getLast? {tokens : List Token} {script : Script} (h : IsScript tokens script) :
    ∀ token, tokens.getLast? = some token → Stands (.symbol .semicolon) token := by
  induction h with
  | nil => simp
  | cons _ hsome hsemicolons _ ih =>
      intro token htoken
      rw [List.getLast?_append, List.getLast?_append, Option.or_assoc,
        Option.or_eq_some_iff] at htoken
      rcases htoken with hrest | ⟨_, htoken⟩
      · exact ih token hrest
      · rw [List.getLast?_eq_some_getLast hsome, Option.some_or] at htoken
        cases htoken
        exact hsemicolons _ (List.getLast_mem hsome)

end PocketSql.Grammar
