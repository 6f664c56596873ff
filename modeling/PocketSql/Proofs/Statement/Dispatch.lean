import PocketSql.Proofs.Statement.Prediction
/-!
# Statements at a place in a list of tokens

A statement is read from some place on and leaves the tokens behind it. Whatever the order in which
its forms are tried, the outcome is that of the form whose word stands at the place, and the place
is where a statement was expected if there is no such word. A statement takes at least one token,
and neither a statement nor a failure goes back or beyond the end.
-/

namespace PocketSql.Parser

open Grammar

variable {tokens front rest : List Token} {cursor : Nat} {forms : List Form}

theorem drop_of_drop_eq_append (hcursor : cursor ≤ tokens.length)
    (h : tokens.drop cursor = front ++ rest) :
    rest = tokens.drop (cursor + front.length) ∧ cursor + front.length ≤ tokens.length := by
  constructor
  · rw [← List.drop_drop, h, List.drop_left]
  · have hlength := congrArg List.length h
    rw [List.length_drop, List.length_append] at hlength
    omega

theorem Form.next?_drop_eq_some_iff {form : Form} :
    next? (tokens.drop cursor) = some form ↔
      ∃ word, tokens[cursor]? = some word ∧ Stands (.keyword form.word) word := by
  rw [next?_eq_some_iff, List.head?_drop, Option.any_eq_true]
  simp only [begins, accepts_iff_stands]

/-- **Trying the forms is looking at the next word.** From any place in a list of tokens, and in
whatever order of the forms, reading a statement is reading the form whose word stands there, with
its value and the tokens that it leaves or with its own failure. Where no such word stands, a
statement was expected at this place. A statement takes a token at least, a failure is not before
the place, and what either leaves is an end of the list. -/
theorem statementBy_drop (hcursor : cursor ≤ tokens.length) (hforms : forms.Perm Form.all) :
    let outcome := statementBy forms (tokens.drop cursor)
    (∀ others : List Form, others.Perm Form.all →
      statementBy others (tokens.drop cursor) = outcome) ∧
    (∀ (form : Form) word, tokens[cursor]? = some word → Stands (.keyword form.word) word →
      outcome = form.parser (tokens.drop cursor)) ∧
    ((∀ (form : Form) word, tokens[cursor]? = some word → ¬Stands (.keyword form.word) word) →
      ∃ failure, outcome = .error failure ∧ failure.rest = tokens.drop cursor ∧
        failure.expected.message = "expected statement") ∧
    (∀ value rest, outcome = .ok (value, rest) →
      ∃ next, rest = tokens.drop next ∧ cursor < next ∧ next ≤ tokens.length) ∧
    ∀ failure, outcome = .error failure →
      ∃ stop, failure.rest = tokens.drop stop ∧ cursor ≤ stop ∧ stop ≤ tokens.length := by
  intro outcome
  have hpredicted (others : List Form) (hothers : others.Perm Form.all) :
      statementBy others (tokens.drop cursor) = predicted (tokens.drop cursor) :=
    congrFun (statementBy_eq fun form => hothers.mem_iff.mpr form.mem_all) _
  have houtcome : outcome = predicted (tokens.drop cursor) := hpredicted forms hforms
  refine ⟨fun others hothers => (hpredicted others hothers).trans houtcome.symm, ?_, ?_, ?_, ?_⟩
  · intro form word hword hstands
    rw [houtcome, predicted_of_next? (Form.next?_drop_eq_some_iff.mpr ⟨word, hword, hstands⟩)]
  · intro hnone
    have hnext : Form.next? (tokens.drop cursor) = none := by
      refine Option.eq_none_iff_forall_ne_some.mpr fun form hform => ?_
      obtain ⟨word, hword, hstands⟩ := Form.next?_drop_eq_some_iff.mp hform
      exact hnone form word hword hstands
    exact ⟨_, houtcome.trans (predicted_of_none hnext), rfl, rfl⟩
  · intro value rest hok
    rw [houtcome, ← statement_eq] at hok
    obtain ⟨front, hfront, hphrase, _⟩ := reads_statement.ok hok
    obtain ⟨token, others, rfl, _⟩ := hphrase.head
    obtain ⟨hrest, hle⟩ := drop_of_drop_eq_append hcursor hfront
    refine ⟨_, hrest, ?_, hle⟩
    rw [List.length_cons]
    omega
  · intro failure herror
    rw [houtcome, ← statement_eq] at herror
    obtain ⟨front, hfront, _⟩ := reads_statement.error herror
    obtain ⟨hrest, hle⟩ := drop_of_drop_eq_append hcursor hfront
    exact ⟨_, hrest, Nat.le_add_right _ _, hle⟩

/-- An insertion into something that is no name, behind a semicolon and with the forms in
reverse. -/
theorem statementBy_drop_insert :
    let five : Token := { value := "5", kind := .numeric }
    let tokens := [Symbol.semicolon.token, Keyword.insert.token, Keyword.into.token, five]
    let forms : List Form := [.createTable, .insert, .select]
    1 ≤ tokens.length ∧ forms.Perm Form.all ∧
      statementBy forms (tokens.drop 1) = .error ⟨[five], .tableName⟩ ∧
      ∃ stop, [five] = tokens.drop stop ∧ 1 ≤ stop ∧ stop ≤ tokens.length := by
  intro five tokens forms
  have hcursor : 1 ≤ tokens.length := by
    decide
  have hforms : forms.Perm Form.all := by
    decide
  obtain ⟨_, hword, _, _, hstop⟩ := statementBy_drop hcursor hforms
  have hrefused : Form.insert.parser (tokens.drop 1) = .error ⟨[five], .tableName⟩ := rfl
  have houtcome := (hword .insert Keyword.insert.token rfl (stands_token _)).trans hrefused
  exact ⟨hcursor, hforms, houtcome, hstop _ houtcome⟩

end PocketSql.Parser
