import PocketSql.Proofs.Statement.Reading
/-!
# A statement is known by its first word

The forms of statements are tried one after the other, but they begin with different reserved words,
so at most one of them takes a token. `statementBy_eq` says that trying them is the same as looking
at the next token and reading the form that it announces, in whatever order the forms are given. The
merging of failures never has a choice to make.

With it, reading a statement is reading one of three sequences of tokens, lists and clauses, and
`reads_statement` puts together what is known about those.
-/

namespace PocketSql.Parser

open Grammar

/-! ### The parts of the forms -/

theorem reads_expression : expression.parser.Reads IsExpression := by
  have hsample : isOperand { value := "", kind := .identifier } = true := rfl
  have htoken := reads_one isOperand .expression hsample
  refine (htoken.bind fun token => reads_pure (Expression.literal token)).mono ?_
  rintro tokens value ⟨front, back, token, rfl, ⟨rfl, htoken⟩, rfl, rfl⟩
  exact .literal (by simpa [isOperand, or_assoc] using htoken)

theorem expression_append {front : List Token} {value : Expression}
    (h : IsExpression front value) (rest : List Token) :
    expression.parser (front ++ rest) = .ok (value, rest) := by
  cases h with
  | @literal token hkind =>
      have hoperand : isOperand token = true := by simpa [isOperand, or_assoc] using hkind
      exact bind_of_ok (one_cons hoperand rest)

theorem reads_column : column.parser.Reads IsColumn := by
  refine ((reads_ofKind .identifier .columnName).bind fun name =>
    (reads_ofKind .keyword .columnType).bind fun datatype =>
      reads_pure ({ name, datatype } : ColumnDefinition)).mono ?_
  rintro tokens value
    ⟨_, _, name, rfl, ⟨rfl, hname⟩, _, _, datatype, rfl, ⟨rfl, hdatatype⟩, rfl, rfl⟩
  exact .define hname hdatatype

theorem column_append {front : List Token} {value : ColumnDefinition}
    (h : IsColumn front value) (rest : List Token) :
    column.parser (front ++ rest) = .ok (value, rest) := by
  cases h with
  | define hname hdatatype =>
      refine (bind_of_ok (ofKind_cons hname _)).trans ?_
      exact bind_of_ok (ofKind_cons hdatatype rest)

theorem fromClause_of_head? {tokens : List Token}
    (h : tokens.head?.any (Terminal.keyword Keyword.from).accepts = false) :
    fromClause tokens = .ok (none, tokens) := by
  cases tokens with
  | nil => rfl
  | cons token rest => rw [fromClause, if_neg (by simpa using h)]

theorem fromClause_cons {word : Token} (hword : Stands (.keyword Keyword.from) word)
    (rest : List Token) :
    fromClause (word :: rest) = (some <$> ofKind .identifier .tableNameAfterFrom) rest := by
  rw [fromClause, if_pos (accepts_iff_stands.mpr hword)]

theorem reads_fromClause : fromClause.Reads IsFrom := by
  have htable := (reads_ofKind .identifier .tableNameAfterFrom).map some
  have hcases : ∀ tokens : List Token,
      tokens.head?.any (Terminal.keyword Keyword.from).accepts = false ∨
        ∃ word rest, tokens = word :: rest ∧ Stands (.keyword Keyword.from) word := by
    intro tokens
    cases tokens with
    | nil => exact .inl rfl
    | cons word rest =>
        by_cases hword : (Terminal.keyword Keyword.from).accepts word = true
        · exact .inr ⟨word, rest, rfl, accepts_iff_stands.mp hword⟩
        · exact .inl (by simpa using hword)
  constructor
  · exact ⟨[], none, .missing⟩
  · intro tokens value rest hok
    rcases hcases tokens with hhead | ⟨word, after, rfl, hword⟩
    · rw [fromClause_of_head? hhead] at hok
      cases hok
      refine ⟨[], rfl, .missing, fun other hother => fromClause_of_head? ?_⟩
      rwa [List.nil_append, hother]
    · rw [fromClause_cons hword] at hok
      obtain ⟨front, rfl, ⟨table, ⟨rfl, hkind⟩, rfl⟩, hother⟩ := htable.ok hok
      refine ⟨[word, table], rfl, .table hword hkind, fun other hsame => ?_⟩
      rw [List.cons_append, fromClause_cons hword]
      exact hother other hsame
  · intro tokens failure herror
    rcases hcases tokens with hhead | ⟨word, after, rfl, hword⟩
    · rw [fromClause_of_head? hhead] at herror
      cases herror
    · rw [fromClause_cons hword] at herror
      obtain ⟨front, rfl, ⟨more, _, table, ⟨hfront, hkind⟩, rfl⟩, hother⟩ := htable.error herror
      refine ⟨word :: front, rfl, ⟨more, some table, ?_⟩, fun other hsame => ?_⟩
      · rw [List.cons_append, hfront]
        exact .table hword hkind
      · rw [List.cons_append, fromClause_cons hword]
        exact hother other hsame

/-! ### Forms and the words that announce them -/

/-- A parser for phrases that begin with a reserved word. Any other token it refuses at once, and a
failure that comes after the word has taken it. -/
structure Announced {α : Type} (parser : Parser α) (word : Keyword)
    (phrase : List Token → α → Prop) : Prop where
  reads : parser.Reads phrase
  refuses : ∀ {tokens : List Token}, tokens.head?.any (Terminal.keyword word).accepts = false →
    parser tokens = .error ⟨tokens, .terminal (.keyword word)⟩
  advances : ∀ {tokens : List Token} {failure},
    tokens.head?.any (Terminal.keyword word).accepts = true → parser tokens = .error failure →
    failure.rest.length < tokens.length

section Announced

variable {α β : Type} {word : Keyword}

theorem announced_bind {next : Token → Parser β} {second : Token → List Token → β → Prop}
    (hnext : ∀ token, (next token).Reads (second token)) :
    Announced (terminal (.keyword word) >>= next) word
      (InTurn (fun tokens token => tokens = [token] ∧ Stands (.keyword word) token) second) where
  reads := (reads_terminal _).bind hnext
  refuses := by
    intro tokens hhead
    refine bind_of_error (one_of_head? ?_)
    cases tokens with
    | nil => rfl
    | cons token rest => simpa using hhead
  advances := by
    intro tokens failure hhead herror
    cases tokens with
    | nil => cases hhead
    | cons token rest =>
        have hfirst := terminal_cons (accepts_iff_stands.mp (by simpa using hhead)) rest
        rw [bind_of_ok hfirst] at herror
        obtain ⟨front, hrest, _⟩ := (hnext token).error herror
        rw [hrest, List.length_cons, List.length_append]
        omega

theorem Announced.mono {parser : Parser α} {phrase wider : List Token → α → Prop}
    (h : Announced parser word phrase)
    (hwider : ∀ {tokens value}, phrase tokens value → wider tokens value) :
    Announced parser word wider :=
  ⟨h.reads.mono hwider, h.refuses, h.advances⟩

theorem Announced.map {parser : Parser α} {phrase : List Token → α → Prop}
    (h : Announced parser word phrase) (f : α → β) :
    Announced (f <$> parser) word
      fun tokens value => ∃ inner, phrase tokens inner ∧ value = f inner where
  reads := h.reads.map f
  refuses hhead := map_of_error (h.refuses hhead)
  advances := by
    intro tokens failure hhead herror
    cases hparser : parser tokens with
    | error failure' =>
        rw [map_of_error hparser] at herror
        cases herror
        exact h.advances hhead hparser
    | ok result =>
        rw [map_of_ok hparser] at herror
        cases herror

end Announced

theorem announced_select : Announced select .select IsSelect := by
  refine (announced_bind fun _ => (reads_separated _ _ reads_expression).bind fun items =>
    reads_fromClause.bind fun table => reads_pure ({ items, table } : Select)).mono ?_
  rintro tokens value
    ⟨_, _, _, rfl, ⟨rfl, hword⟩, exprs, _, items, rfl, hitems, clause, _, table, rfl, hfrom, rfl,
      rfl⟩
  simpa using IsSelect.select hword hitems hfrom

theorem announced_insert : Announced insert .insert IsInsert := by
  refine (announced_bind fun _ => (reads_terminal _).bind fun _ =>
    (reads_ofKind _ _).bind fun table => (reads_terminal _).bind fun _ =>
    (reads_terminal _).bind fun _ => (reads_separated _ _ reads_expression).bind fun values =>
    (reads_terminal _).bind fun _ => reads_pure ({ table, values } : Insert)).mono ?_
  rintro tokens value
    ⟨_, _, _, rfl, ⟨rfl, hword⟩, _, _, _, rfl, ⟨rfl, hinto⟩, _, _, table, rfl, ⟨rfl, htable⟩,
      _, _, _, rfl, ⟨rfl, hword'⟩, _, _, _, rfl, ⟨rfl, hleft⟩, exprs, _, values, rfl, hvalues,
      _, _, _, rfl, ⟨rfl, hright⟩, rfl, rfl⟩
  exact .insert hword hinto htable hword' hleft hvalues hright

theorem announced_createTable : Announced createTable .create IsCreateTable := by
  refine (announced_bind fun _ => (reads_terminal _).bind fun _ =>
    (reads_ofKind _ _).bind fun table => (reads_terminal _).bind fun _ =>
    (reads_separated _ _ reads_column).bind fun columns =>
    (reads_terminal _).bind fun _ => reads_pure ({ table, columns } : CreateTable)).mono ?_
  rintro tokens value
    ⟨_, _, _, rfl, ⟨rfl, hword⟩, _, _, _, rfl, ⟨rfl, hword'⟩, _, _, table, rfl, ⟨rfl, htable⟩,
      _, _, _, rfl, ⟨rfl, hleft⟩, definitions, _, columns, rfl, hcolumns, _, _, _, rfl,
      ⟨rfl, hright⟩, rfl, rfl⟩
  exact .create hword hword' htable hleft hcolumns hright

/-! ### Choosing a form -/

namespace Form

/-- The word that a form begins with. -/
def word : Form → Keyword
  | .select => .select
  | .insert => .insert
  | .createTable => .create

def begins (form : Form) (token : Token) : Bool :=
  (Terminal.keyword form.word).accepts token

/-- The form that the next token announces. -/
def next? (tokens : List Token) : Option Form :=
  tokens.head?.bind fun token => all.find? (·.begins token)

theorem mem_all (form : Form) : form ∈ all := by
  cases form <;> decide

theorem begins_unique {form other : Form} {token : Token} (h : form.begins token = true)
    (hother : other.begins token = true) : form = other := by
  have hword := (accepts_iff_stands.mp h).1.symm.trans (accepts_iff_stands.mp hother).1
  revert hword
  cases form <;> cases other <;> decide

theorem next?_eq_some_iff {tokens : List Token} {form : Form} :
    next? tokens = some form ↔ tokens.head?.any form.begins = true := by
  cases tokens with
  | nil => simp [next?]
  | cons token rest =>
      change all.find? (·.begins token) = some form ↔ form.begins token = true
      constructor
      · exact fun h => List.find?_some (p := fun form : Form => form.begins token) h
      · intro h
        cases hfind : all.find? (·.begins token) with
        | none => exact absurd h (List.find?_eq_none.mp hfind form form.mem_all)
        | some other =>
            have hother : other.begins token = true :=
              List.find?_some (p := fun form : Form => form.begins token) hfind
            rw [begins_unique hother h]

theorem announced (form : Form) : Announced form.parser form.word IsStatement := by
  cases form with
  | select =>
      refine (announced_select.map Statement.select).mono ?_
      rintro tokens value ⟨query, hquery, rfl⟩
      exact .select hquery
  | insert =>
      refine (announced_insert.map Statement.insert).mono ?_
      rintro tokens value ⟨insertion, hinsertion, rfl⟩
      exact .insert hinsertion
  | createTable =>
      refine (announced_createTable.map Statement.createTable).mono ?_
      rintro tokens value ⟨creation, hcreation, rfl⟩
      exact .createTable hcreation

/-- A form that is not announced takes nothing. -/
theorem parser_of_next?_ne {form : Form} {tokens : List Token} (h : next? tokens ≠ some form) :
    form.parser tokens = .error ⟨tokens, .terminal (.keyword form.word)⟩ := by
  refine form.announced.refuses (Bool.eq_false_iff.mpr fun hhead => h ?_)
  exact next?_eq_some_iff.mpr hhead

theorem length_lt_of_next? {form : Form} {tokens : List Token} {failure : ParseFailure}
    (h : next? tokens = some form) (herror : form.parser tokens = .error failure) :
    failure.rest.length < tokens.length :=
  form.announced.advances (next?_eq_some_iff.mp h) herror

end Form

theorem further_of_le {a b : ParseFailure} (h : a.rest.length ≤ b.rest.length) :
    a.further b = a :=
  if_neg (Nat.not_lt.mpr h)

theorem further_of_lt {a b : ParseFailure} (h : b.rest.length < a.rest.length) :
    a.further b = b :=
  if_pos h

section FirstOf

variable {form : Form} {forms : List Form} {tokens : List Token}

theorem firstOf_cons_of_ok {result : Statement × List Token}
    (h : form.parser tokens = .ok result) : firstOf (form :: forms) tokens = .ok result := by
  rw [firstOf, h]

theorem firstOf_cons_of_later {failure : ParseFailure} {result : Statement × List Token}
    (h : form.parser tokens = .error failure) (hlater : firstOf forms tokens = .ok result) :
    firstOf (form :: forms) tokens = .ok result := by
  rw [firstOf, h, hlater]

theorem firstOf_cons_of_error {failure other : ParseFailure}
    (h : form.parser tokens = .error failure) (hlater : firstOf forms tokens = .error other) :
    firstOf (form :: forms) tokens = .error (failure.further other) := by
  rw [firstOf, h, hlater]

theorem firstOf_of_next?_not_mem (h : ∀ form ∈ forms, Form.next? tokens ≠ some form) :
    ∃ expected, firstOf forms tokens = .error ⟨tokens, expected⟩ := by
  induction forms with
  | nil => exact ⟨_, rfl⟩
  | cons form forms ih =>
      obtain ⟨expected, hforms⟩ := ih fun other hother => h other (List.mem_cons_of_mem _ hother)
      have hform := Form.parser_of_next?_ne (h form List.mem_cons_self)
      refine ⟨.terminal (.keyword form.word), ?_⟩
      rw [firstOf_cons_of_error hform hforms]
      exact congrArg _ (further_of_le (Nat.le_refl tokens.length))

/-- Among any forms the announced one decides: the others fail without having taken a token, so that
their failures are never further than its own. -/
theorem firstOf_of_next? (h : Form.next? tokens = some form) (hmem : form ∈ forms) :
    firstOf forms tokens = form.parser tokens := by
  induction forms with
  | nil => cases hmem
  | cons head forms ih =>
      by_cases hhead : head = form
      · subst hhead
        cases hparser : head.parser tokens with
        | ok result => rw [firstOf_cons_of_ok hparser]
        | error failure =>
            have hlt := Form.length_lt_of_next? h hparser
            by_cases hagain : head ∈ forms
            · rw [firstOf_cons_of_error hparser ((ih hagain).trans hparser),
                further_of_le (Nat.le_refl _)]
            · have hothers : ∀ other ∈ forms, Form.next? tokens ≠ some other := by
                rintro other hother hnext
                cases h.symm.trans hnext
                exact hagain hother
              obtain ⟨expected, hforms⟩ := firstOf_of_next?_not_mem hothers
              rw [firstOf_cons_of_error hparser hforms, further_of_le (Nat.le_of_lt hlt)]
      · have hne : Form.next? tokens ≠ some head := by
          rw [h]
          exact fun heq => hhead (Option.some.inj heq).symm
        have hrefused := Form.parser_of_next?_ne hne
        have hforms := ih ((List.mem_cons.mp hmem).resolve_left (Ne.symm hhead))
        cases hparser : form.parser tokens with
        | ok result => rw [firstOf_cons_of_later hrefused (hforms.trans hparser)]
        | error failure =>
            rw [firstOf_cons_of_error hrefused (hforms.trans hparser),
              further_of_lt (Form.length_lt_of_next? h hparser)]

end FirstOf

/-- A statement read by looking at the next token only. -/
def predicted : Parser Statement := fun tokens =>
  match Form.next? tokens with
  | some form => form.parser tokens
  | none => .error ⟨tokens, .statement⟩

theorem statementBy_eq {forms : List Form} (hforms : ∀ form, form ∈ forms) :
    statementBy forms = predicted := by
  funext tokens
  cases hnext : Form.next? tokens with
  | none =>
      have hnone : ∀ form ∈ forms, Form.next? tokens ≠ some form := by
        intro form _
        rw [hnext]
        exact Option.some_ne_none form |>.symm
      obtain ⟨expected, hfirst⟩ := firstOf_of_next?_not_mem hnone
      rw [statementBy, hfirst, predicted, hnext]
      exact if_pos rfl
  | some form =>
      rw [statementBy, firstOf_of_next? hnext (hforms form), predicted, hnext]
      cases hparser : form.parser tokens with
      | ok result => simp only [hparser]
      | error failure =>
          have hlt := Form.length_lt_of_next? hnext hparser
          simp only [hparser, if_neg (Nat.ne_of_lt hlt)]

theorem statement_eq : statement = predicted :=
  statementBy_eq Form.mem_all

theorem Form.next?_congr {tokens other : List Token} (h : other.head? = tokens.head?) :
    next? other = next? tokens := by
  rw [next?, next?, h]

theorem predicted_of_next? {form : Form} {tokens : List Token}
    (h : Form.next? tokens = some form) : predicted tokens = form.parser tokens := by
  rw [predicted, h]

theorem predicted_of_none {tokens : List Token} (h : Form.next? tokens = none) :
    predicted tokens = .error ⟨tokens, .statement⟩ := by
  rw [predicted, h]

theorem reads_statement : statement.Reads IsStatement := by
  rw [statement_eq]
  constructor
  · exact ⟨_, _, isStatement_select⟩
  · intro tokens value rest hok
    cases hnext : Form.next? tokens with
    | none =>
        rw [predicted_of_none hnext] at hok
        cases hok
    | some form =>
        rw [predicted_of_next? hnext] at hok
        obtain ⟨front, rfl, hphrase, hother⟩ := form.announced.reads.ok hok
        refine ⟨front, rfl, hphrase, fun other hsame => ?_⟩
        rw [predicted_of_next? ((Form.next?_congr (head?_append_congr hsame front)).trans hnext)]
        exact hother other hsame
  · intro tokens failure herror
    cases hnext : Form.next? tokens with
    | none =>
        rw [predicted_of_none hnext] at herror
        cases herror
        refine ⟨[], rfl, ⟨_, _, isStatement_select⟩, fun other hsame => ?_⟩
        exact predicted_of_none ((Form.next?_congr hsame).trans hnext)
    | some form =>
        rw [predicted_of_next? hnext] at herror
        obtain ⟨front, rfl, hviable, hother⟩ := form.announced.reads.error herror
        refine ⟨front, rfl, hviable, fun other hsame => ?_⟩
        rw [predicted_of_next? ((Form.next?_congr (head?_append_congr hsame front)).trans hnext)]
        exact hother other hsame

end PocketSql.Parser
