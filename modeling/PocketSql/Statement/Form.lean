import PocketSql.Statement.Basic
import PocketSql.Statement.Parser
/-!
# The forms of statements

The grammar of a statement, over tokens:

    select  = SELECT [exprs] [FROM name]
    insert  = INSERT INTO name VALUES "(" [exprs] ")"
    create  = CREATE TABLE name "(" [columns] ")"
    exprs   = expr { "," expr }
    columns = name type { "," name type }

The forms are tried one after the other, and of their failures the furthest is reported. Where no
form takes even its first token, a statement was expected.
-/

namespace PocketSql.Parser

/-- Whether a token can stand as an expression. -/
def isOperand (token : Token) : Bool :=
  token.kind == .identifier || token.kind == .numeric || token.kind == .string

def expression : Member Expression where
  parser := do
    let token ← one isOperand .expression
    return .literal token
  shrinks := (shrinks_one _ _).bind fun _ => keeps_pure _

def column : Member ColumnDefinition where
  parser := do
    let name ← ofKind .identifier .columnName
    let datatype ← ofKind .keyword .columnType
    return { name, datatype }
  shrinks := (shrinks_one _ _).bind fun _ =>
    ((shrinks_one _ _).bind fun _ => keeps_pure _).keeps

def expressions (stops : List Terminal) : Parser (List Expression) :=
  separated expression stops (.endOfExpressions stops)

def columns (stops : List Terminal) : Parser (List ColumnDefinition) :=
  separated column stops (.endOfColumns stops)

/-- The table that a selection reads, if it names one. -/
def fromClause : Parser (Option Token) := fun tokens =>
  match tokens with
  | [] => .ok (none, [])
  | token :: rest =>
      if (Terminal.keyword Keyword.from).accepts token then
        (some <$> ofKind .identifier .tableNameAfterFrom) rest
      else .ok (none, token :: rest)

def select : Parser Select := do
  let _ ← terminal (.keyword .select)
  let items ← expressions [.keyword Keyword.from, .symbol .semicolon]
  let table ← fromClause
  return { items, table }

def insert : Parser Insert := do
  let _ ← terminal (.keyword .insert)
  let _ ← terminal (.keyword .into)
  let table ← ofKind .identifier .tableName
  let _ ← terminal (.keyword .values)
  let _ ← terminal (.symbol .leftParen)
  let values ← expressions [.symbol .rightParen]
  let _ ← terminal (.symbol .rightParen)
  return { table, values }

def createTable : Parser CreateTable := do
  let _ ← terminal (.keyword .create)
  let _ ← terminal (.keyword .table)
  let table ← ofKind .identifier .tableName
  let _ ← terminal (.symbol .leftParen)
  let columns ← columns [.symbol .rightParen]
  let _ ← terminal (.symbol .rightParen)
  return { table, columns }

/-- The forms of statements. -/
inductive Form where
  | select
  | insert
  | createTable
  deriving DecidableEq, Repr

namespace Form

/-- Every form, in the order in which they are tried. -/
def all : List Form :=
  [.select, .insert, .createTable]

def parser : Form → Parser Statement
  | .select => Statement.select <$> Parser.select
  | .insert => Statement.insert <$> Parser.insert
  | .createTable => Statement.createTable <$> Parser.createTable

end Form

/-- The first form in the order that succeeds, or the furthest failure. -/
def firstOf : List Form → Parser Statement
  | [], tokens => .error ⟨tokens, .statement⟩
  | form :: forms, tokens =>
      match form.parser tokens with
      | .ok result => .ok result
      | .error failure =>
          match firstOf forms tokens with
          | .ok result => .ok result
          | .error other => .error (failure.further other)

/-- One statement, its forms tried in the given order. -/
def statementBy (forms : List Form) : Parser Statement := fun tokens =>
  match firstOf forms tokens with
  | .ok result => .ok result
  | .error failure =>
      if failure.rest.length = tokens.length then .error ⟨tokens, .statement⟩
      else .error failure

def statement : Parser Statement :=
  statementBy Form.all

theorem keeps_fromClause : fromClause.Keeps := by
  intro tokens value rest h
  unfold fromClause at h
  split at h
  · cases h
    exact Nat.le_refl _
  · split at h
    · have hlt := shrinks_map some (shrinks_one _ _) _ _ _ h
      simp only [List.length_cons]
      omega
    · cases h
      exact Nat.le_refl _

theorem shrinks_select : select.Shrinks :=
  (shrinks_one _ _).bind fun _ => (keeps_separated _ _ _).bind fun _ =>
    keeps_fromClause.bind fun _ => keeps_pure _

theorem shrinks_insert : insert.Shrinks :=
  (shrinks_one _ _).bind fun _ => (shrinks_one _ _).keeps.bind fun _ =>
    (shrinks_one _ _).keeps.bind fun _ => (shrinks_one _ _).keeps.bind fun _ =>
    (shrinks_one _ _).keeps.bind fun _ => (keeps_separated _ _ _).bind fun _ =>
    (shrinks_one _ _).keeps.bind fun _ => keeps_pure _

theorem shrinks_createTable : createTable.Shrinks :=
  (shrinks_one _ _).bind fun _ => (shrinks_one _ _).keeps.bind fun _ =>
    (shrinks_one _ _).keeps.bind fun _ => (shrinks_one _ _).keeps.bind fun _ =>
    (keeps_separated _ _ _).bind fun _ => (shrinks_one _ _).keeps.bind fun _ => keeps_pure _

theorem Form.shrinks_parser (form : Form) : form.parser.Shrinks := by
  cases form with
  | select => exact shrinks_map _ shrinks_select
  | insert => exact shrinks_map _ shrinks_insert
  | createTable => exact shrinks_map _ shrinks_createTable

theorem shrinks_firstOf (forms : List Form) : (firstOf forms).Shrinks := by
  induction forms with
  | nil => intro tokens value rest h; cases h
  | cons form forms ih =>
      intro tokens value rest h
      unfold firstOf at h
      split at h
      · rename_i hform
        cases h
        exact form.shrinks_parser _ _ _ hform
      · split at h
        · rename_i hforms
          cases h
          exact ih _ _ _ hforms
        · cases h

theorem shrinks_statementBy (forms : List Form) : (statementBy forms).Shrinks := by
  intro tokens value rest h
  unfold statementBy at h
  split at h
  · rename_i hfirst
    cases h
    exact shrinks_firstOf forms _ _ _ hfirst
  · split at h <;> cases h

end PocketSql.Parser
