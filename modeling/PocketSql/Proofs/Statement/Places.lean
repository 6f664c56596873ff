import PocketSql.Proofs.Statement.Acceptance
/-!
# Places do not matter to a parser

A parser looks at the text and the kind of a token, and never at its place. So a parser commutes
with forgetting the places of all tokens: it succeeds with the same value up to places, or it fails
at the same token with the same expectation.
-/

namespace PocketSql

namespace Parser

open Grammar

variable {α β : Type}

/-- The outcome of a parser with the places forgotten. -/
def strip (forget : α → α) :
    Except ParseFailure (α × List Token) → Except ParseFailure (α × List Token)
  | .ok (value, rest) => .ok (forget value, rest.map Token.unlocated)
  | .error failure => .error ⟨failure.rest.map Token.unlocated, failure.expected⟩

/-- The second parser does without places what the first one does with them. -/
def Follows (parser : Parser α) (forget : α → α) (follower : Parser α) : Prop :=
  ∀ tokens : List Token, follower (tokens.map Token.unlocated) = strip forget (parser tokens)

section Sequencing

variable {parser follower : Parser α} {next next' : α → Parser β} {forget : α → α}
  {forget' : β → β}

theorem Follows.ok (h : Follows parser forget follower) {tokens rest : List Token} {value : α}
    (hparser : parser tokens = .ok (value, rest)) :
    follower (tokens.map Token.unlocated) = .ok (forget value, rest.map Token.unlocated) := by
  rw [h tokens, hparser]
  rfl

theorem Follows.error (h : Follows parser forget follower) {tokens : List Token}
    {failure : ParseFailure} (hparser : parser tokens = .error failure) :
    follower (tokens.map Token.unlocated) =
      .error ⟨failure.rest.map Token.unlocated, failure.expected⟩ := by
  rw [h tokens, hparser]
  rfl

theorem follows_pure {value value' : α} (h : forget value = value') :
    Follows (pure value) forget (pure value') := by
  intro tokens
  rw [← h]
  rfl

theorem Follows.bind (h : Follows parser forget follower)
    (hnext : ∀ value, Follows (next value) forget' (next' (forget value))) :
    Follows (parser >>= next) forget' (follower >>= next') := by
  intro tokens
  cases hparser : parser tokens with
  | error failure =>
      rw [bind_of_error hparser, bind_of_error (h.error hparser)]
      rfl
  | ok result =>
      obtain ⟨value, rest⟩ := result
      rw [bind_of_ok hparser, bind_of_ok (h.ok hparser)]
      exact hnext value rest

theorem Follows.map {f f' : α → β} (h : Follows parser forget follower)
    (hf : ∀ value, forget' (f value) = f' (forget value)) :
    Follows (f <$> parser) forget' (f' <$> follower) := by
  rw [← bind_pure_comp, ← bind_pure_comp]
  exact h.bind fun value => follows_pure (hf value)

end Sequencing

/-! ### Tokens and lists -/

theorem follows_one {condition : Token → Bool} (expected : Expected)
    (h : ∀ token : Token, condition token.unlocated = condition token) :
    Follows (one condition expected) Token.unlocated (one condition expected) := by
  intro tokens
  cases tokens with
  | nil => rfl
  | cons token rest =>
      rw [List.map_cons, one, one, h]
      split <;> rfl

@[simp] theorem accepts_unlocated (wanted : Terminal) (token : Token) :
    wanted.accepts token.unlocated = wanted.accepts token := rfl

theorem follows_terminal (wanted : Terminal) :
    Follows (terminal wanted) Token.unlocated (terminal wanted) :=
  follows_one _ fun _ => rfl

theorem follows_ofKind (kind : TokenKind) (expected : Expected) :
    Follows (ofKind kind expected) Token.unlocated (ofKind kind expected) :=
  follows_one _ fun _ => rfl

theorem follows_expression :
    Follows expression.parser Expression.unlocated expression.parser :=
  (follows_one _ fun _ => rfl).bind fun _ => follows_pure rfl

theorem follows_column : Follows column.parser ColumnDefinition.unlocated column.parser :=
  (follows_ofKind _ _).bind fun _ => (follows_ofKind _ _).bind fun _ => follows_pure rfl

section Lists

variable {member : Member α} {forget : α → α} {stops : List Terminal}

theorem follows_members (stops : List Terminal) (unended : Expected)
    (h : Follows member.parser forget member.parser) :
    Follows (members member stops unended) (List.map forget) (members member stops unended) := by
  intro tokens
  fun_induction members member stops unended tokens with
  | case1 => exact members_nil
  | case2 token rest hstop =>
      exact members_stop (show stops.any (·.accepts token.unlocated) = true from hstop) _
  | case3 token rest hstop hcomma failure hvalue =>
      rw [List.map_cons, members_comma (by simpa using hstop) (by simpa using hcomma),
        memberAndTail, bind_of_error (h.error hvalue)]
      rfl
  | case4 token rest hstop hcomma value middle hvalue failure hvalues ih =>
      rw [hvalues] at ih
      rw [List.map_cons, members_comma (by simpa using hstop) (by simpa using hcomma),
        memberAndTail, bind_of_ok (h.ok hvalue), map_of_error ih]
      rfl
  | case5 token rest hstop hcomma value middle hvalue values rest' hvalues ih =>
      rw [hvalues] at ih
      rw [List.map_cons, members_comma (by simpa using hstop) (by simpa using hcomma),
        memberAndTail, bind_of_ok (h.ok hvalue), map_of_ok ih]
      rfl
  | case6 token rest hstop hcomma =>
      exact members_of_head? rfl (by simpa using hstop) (by simpa using hcomma)

theorem follows_separated (stops : List Terminal) (unended : Expected)
    (h : Follows member.parser forget member.parser) :
    Follows (separated member stops unended) (List.map forget)
      (separated member stops unended) := by
  have hlist : Follows (memberAndTail member stops unended) (List.map forget)
      (memberAndTail member stops unended) :=
    h.bind fun value => (follows_members stops unended h).map fun _ => rfl
  intro tokens
  cases tokens with
  | nil => rfl
  | cons token rest =>
      cases hstop : stops.any (·.accepts token) with
      | true =>
          have hnone : separated member stops unended (token :: rest) = .ok ([], token :: rest) :=
            separated_of_stop rfl hstop
          have hstop' : stops.any (·.accepts token.unlocated) = true := hstop
          rw [hnone]
          exact separated_of_stop rfl hstop'
      | false =>
          have hsome : separated member stops unended (token :: rest) =
              memberAndTail member stops unended (token :: rest) := separated_of_head? rfl hstop
          have hstop' : stops.any (·.accepts token.unlocated) = false := hstop
          rw [hsome, ← hlist]
          exact separated_of_head? rfl hstop'

end Lists

/-! ### Statements -/

theorem follows_fromClause :
    Follows fromClause (Option.map Token.unlocated) fromClause := by
  have htable : Follows (some <$> ofKind .identifier .tableNameAfterFrom)
      (Option.map Token.unlocated) (some <$> ofKind .identifier .tableNameAfterFrom) :=
    (follows_ofKind _ _).map fun _ => rfl
  intro tokens
  cases tokens with
  | nil => rfl
  | cons token rest =>
      rw [List.map_cons, fromClause, fromClause, accepts_unlocated]
      split
      · exact htable rest
      · rfl

theorem follows_select : Follows select Select.unlocated select :=
  (follows_terminal _).bind fun _ => (follows_separated _ _ follows_expression).bind fun _ =>
    follows_fromClause.bind fun _ => follows_pure rfl

theorem follows_insert : Follows insert Insert.unlocated insert :=
  (follows_terminal _).bind fun _ => (follows_terminal _).bind fun _ =>
    (follows_ofKind _ _).bind fun _ => (follows_terminal _).bind fun _ =>
    (follows_terminal _).bind fun _ => (follows_separated _ _ follows_expression).bind fun _ =>
    (follows_terminal _).bind fun _ => follows_pure rfl

theorem follows_createTable : Follows createTable CreateTable.unlocated createTable :=
  (follows_terminal _).bind fun _ => (follows_terminal _).bind fun _ =>
    (follows_ofKind _ _).bind fun _ => (follows_terminal _).bind fun _ =>
    (follows_separated _ _ follows_column).bind fun _ => (follows_terminal _).bind fun _ =>
    follows_pure rfl

theorem Form.follows_parser (form : Form) :
    Follows form.parser Statement.unlocated form.parser := by
  cases form with
  | select => exact follows_select.map fun _ => rfl
  | insert => exact follows_insert.map fun _ => rfl
  | createTable => exact follows_createTable.map fun _ => rfl

theorem follows_firstOf (forms : List Form) :
    Follows (firstOf forms) Statement.unlocated (firstOf forms) := by
  induction forms with
  | nil => exact fun _ => rfl
  | cons form forms ih =>
      intro tokens
      have hforms := ih tokens
      rw [firstOf, firstOf]
      cases hparser : form.parser tokens with
      | ok result =>
          rw [form.follows_parser.ok hparser]
          rfl
      | error failure =>
          rw [form.follows_parser.error hparser]
          dsimp only
          rw [hforms]
          cases firstOf forms tokens with
          | ok result => rfl
          | error other =>
              simp only [strip, ParseFailure.further, List.length_map]
              split <;> rfl

theorem follows_statementBy (forms : List Form) :
    Follows (statementBy forms) Statement.unlocated (statementBy forms) := by
  intro tokens
  rw [statementBy, statementBy]
  cases hfirst : firstOf forms tokens with
  | ok result =>
      rw [(follows_firstOf forms).ok hfirst]
      rfl
  | error failure =>
      rw [(follows_firstOf forms).error hfirst]
      simp only [strip, List.length_map]
      split <;> rfl

@[simp] theorem isSemicolon_unlocated (token : Token) :
    isSemicolon token.unlocated = isSemicolon token := rfl

theorem follows_statement : Follows statement Statement.unlocated statement :=
  follows_statementBy Form.all

/-- **Reading a script does not depend on the places of its tokens.** -/
theorem script_map_unlocated (tokens : List Token) :
    script (tokens.map Token.unlocated) = match script tokens with
      | .ok script => .ok script.unlocated
      | .error failure => .error ⟨failure.rest.map Token.unlocated, failure.expected⟩ := by
  fun_induction script tokens with
  | case1 => exact script_of_isScript .nil
  | case2 tokens hne failure hstatement =>
      exact script_of_refused (by simpa using hne) (follows_statement.error hstatement)
  | case3 tokens hne first hstatement =>
      exact script_of_unended (follows_statement.ok hstatement) rfl
  | case4 tokens hne first token rest hstatement hmark failure hrest ih =>
      rw [hrest] at ih
      rw [script_of_ended (follows_statement.ok hstatement) hmark, List.dropWhile_map]
      exact congrArg (Except.map _) ih
  | case5 tokens hne first token rest hstatement hmark others hrest ih =>
      rw [hrest] at ih
      rw [script_of_ended (follows_statement.ok hstatement) hmark, List.dropWhile_map]
      exact congrArg (Except.map _) ih
  | case6 tokens hne first token rest hstatement hmark =>
      exact script_of_unended (follows_statement.ok hstatement) (by simpa using hmark)

/-- Tokens that differ from refused ones in their places only are refused at the same token. -/
theorem script_error_of_map_unlocated {tokens found : List Token} {failure : ParseFailure}
    (h : script tokens = .error failure)
    (hsame : found.map Token.unlocated = tokens.map Token.unlocated) :
    ∃ other, script found = .error other ∧ other.expected = failure.expected ∧
      other.rest.map Token.unlocated = failure.rest.map Token.unlocated := by
  have hscript := script_map_unlocated tokens
  have hother := script_map_unlocated found
  rw [h, ← hsame] at hscript
  cases hfound : script found with
  | ok script =>
      rw [hfound] at hother
      cases hother.symm.trans hscript
  | error other =>
      rw [hfound] at hother
      have herror := Except.error.inj (hother.symm.trans hscript)
      obtain ⟨hrest, hexpected⟩ := ParseFailure.mk.inj herror
      exact ⟨other, rfl, hexpected, hrest⟩

end Parser

open Grammar

/-- Tokens that differ from those of a script in their places only are that script, up to places. -/
theorem parseTokens_of_map_unlocated {tokens found : List Token} {script : Script}
    (h : IsScript tokens script) (hsame : found.map Token.unlocated = tokens.map Token.unlocated) :
    ∃ other, parseTokens found = .ok other ∧ other.unlocated = script.unlocated := by
  have hscript := Parser.script_map_unlocated tokens
  have hother := Parser.script_map_unlocated found
  rw [Parser.script_of_isScript h, ← hsame] at hscript
  cases hfound : Parser.script found with
  | error failure =>
      rw [hfound] at hother
      cases hother.symm.trans hscript
  | ok other =>
      rw [hfound] at hother
      refine ⟨other, parseTokens_eq_ok_iff_script.mpr hfound, ?_⟩
      exact Except.ok.inj (hother.symm.trans hscript)

theorem parse_of_map_unlocated {text : String} {tokens found : List Token} {script : Script}
    (h : IsScript tokens script) (hlex : lex text = .ok found)
    (hsame : found.map Token.unlocated = tokens.map Token.unlocated) :
    ∃ read, parse text = .ok read ∧ read.unlocated = script.unlocated := by
  rw [parse_of_lex hlex]
  exact parseTokens_of_map_unlocated h hsame

end PocketSql
