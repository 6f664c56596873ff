import PocketSql.Proofs.Statement.Acceptance
/-!
# Errors point at the end of the longest viable prefix

A failure of reading keeps the tokens that were left, so it also says how many were taken. The
tokens taken can always be completed to a script, and as soon as the next one is added they cannot.
Both follow from what a failure of a single statement is, carried through the semicolons: taking
longer would be too late, and stopping earlier would be too early.
-/

namespace PocketSql
namespace Parser

open Grammar

/-- Where a semicolon is missing. -/
theorem script_error_of_unended {tokens rest : List Token} {first : Statement}
    (h : statement tokens = .ok (first, rest)) (hhead : rest.head?.any isSemicolon = false) :
    ∃ front, tokens = front ++ rest ∧ (∃ more script', IsScript (front ++ more) script') ∧
      ∀ other : List Token, other.head? = rest.head? →
        script (front ++ other) = .error ⟨other, .semicolon⟩ := by
  obtain ⟨front, rfl, hphrase, hother⟩ := reads_statement.ok h
  refine ⟨front, rfl, ⟨_, _, hphrase.isScript⟩, fun other hsame => ?_⟩
  exact script_of_unended (hother other hsame) (by rw [hsame, hhead])

/-- A failure of reading a script: what was taken begins a script, and the failure stays the same
whatever follows the next token. -/
theorem script_error {tokens : List Token} {failure : ParseFailure}
    (h : script tokens = .error failure) :
    ∃ front, tokens = front ++ failure.rest ∧
      (∃ more script', IsScript (front ++ more) script') ∧
      ∀ other : List Token, other.head? = failure.rest.head? →
        script (front ++ other) = .error ⟨other, failure.expected⟩ := by
  fun_induction script tokens generalizing failure with
  | case1 => cases h
  | case2 tokens hne failure' hfirst =>
      cases h
      obtain ⟨front, rfl, ⟨more, first, hphrase⟩, hother⟩ := reads_statement.error hfirst
      refine ⟨front, rfl, ⟨_, _, by simpa using hphrase.isScript⟩, fun other hsame => ?_⟩
      refine script_of_refused (fun hnil => hne ?_) (hother other hsame)
      obtain ⟨rfl, rfl⟩ := List.append_eq_nil_iff.mp hnil
      exact List.head?_eq_none_iff.mp hsame.symm
  | case3 tokens hne first hfirst =>
      cases h
      exact script_error_of_unended hfirst rfl
  | case4 tokens hne first token rest hfirst hmark failure' hothers ih =>
      cases h
      obtain ⟨front, rfl, hphrase, hother⟩ := reads_statement.ok hfirst
      obtain ⟨back, hback, ⟨more, others, hviable⟩, hsame⟩ := ih hothers
      let marks := rest.takeWhile isSemicolon
      have hmarks : ∀ mark ∈ marks, isSemicolon mark = true :=
        List.all_eq_true.mp List.all_takeWhile
      have hrest : rest = marks ++ (back ++ failure'.rest) := by
        rw [← hback, List.takeWhile_append_dropWhile]
      refine ⟨front ++ token :: (marks ++ back), by simp [hrest], ⟨more, first :: others, ?_⟩, ?_⟩
      · have hsemicolons : ∀ mark ∈ token :: marks, Stands (.symbol .semicolon) mark := by
          intro mark hmem
          rcases List.mem_cons.mp hmem with rfl | hmem
          · exact isSemicolon_iff.mp hmark
          · exact isSemicolon_iff.mp (hmarks mark hmem)
        simpa using IsScript.cons hphrase (List.cons_ne_nil _ _) hsemicolons hviable
      · intro other hhead
        have hstatement : statement (front ++ token :: (marks ++ (back ++ other))) =
            .ok (first, token :: (marks ++ (back ++ other))) := hother _ rfl
        have hnext : (back ++ other).head?.any isSemicolon = false := by
          rw [head?_append_congr hhead, ← hback]
          have hdrop := List.head?_dropWhile_not isSemicolon rest
          cases hfirst : (rest.dropWhile isSemicolon).head? with
          | none => rfl
          | some next =>
              rw [hfirst] at hdrop
              exact hdrop
        rw [List.append_assoc, List.cons_append, List.append_assoc,
          script_of_ended hstatement hmark, dropWhile_append_of_head? hmarks hnext,
          hsame other hhead]
        rfl
  | case5 => cases h
  | case6 tokens hne first token rest hfirst hmark =>
      cases h
      exact script_error_of_unended hfirst (by simpa using hmark)

theorem ne_nil_of_script_error {tokens : List Token} {failure : ParseFailure}
    (h : script tokens = .error failure) : tokens ≠ [] := by
  rintro rfl
  cases (script_of_isScript .nil).symm.trans h

end Parser

theorem parseTokens_of_script_error {tokens : List Token} {failure : ParseFailure}
    (h : Parser.script tokens = .error failure) :
    parseTokens tokens = .error (failure.toError tokens) := by
  rw [parseTokens, h]
  rfl

theorem script_error_of_parseTokens {tokens : List Token} {error : Error}
    (h : parseTokens tokens = .error error) :
    ∃ failure, Parser.script tokens = .error failure ∧ error = failure.toError tokens := by
  cases hscript : Parser.script tokens with
  | error failure =>
      rw [parseTokens_of_script_error hscript] at h
      exact ⟨failure, rfl, (Except.error.inj h).symm⟩
  | ok script =>
      rw [parseTokens_eq_ok_iff_script.mpr hscript] at h
      cases h

/-- **A parse error points at the end of the longest viable prefix.** The failure has taken `c`
tokens: they can be completed to a script, and with the next token they cannot. The error shows that
token, or the last one when there is no next. -/
theorem parseTokens_error_viable {tokens : List Token} {error : Error}
    (h : parseTokens tokens = .error error) :
    ∃ (failure : ParseFailure) (c : Nat),
      Parser.script tokens = .error failure ∧ failure.rest = tokens.drop c ∧
      c ≤ tokens.length ∧
      (∃ more script, parseTokens (tokens.take c ++ more) = .ok script) ∧
      (c < tokens.length →
        ∀ more script, parseTokens (tokens.take (c + 1) ++ more) ≠ .ok script) ∧
      (∀ hlt : c < tokens.length,
        error = .parse tokens[c].location tokens[c].value failure.expected.message) ∧
      (c = tokens.length → ∃ hne : tokens ≠ [], error =
        .parse (tokens.getLast hne).location (tokens.getLast hne).value
          failure.expected.message) := by
  obtain ⟨failure, hscript, rfl⟩ := script_error_of_parseTokens h
  obtain ⟨front, htokens, ⟨more, script, hviable⟩, hother⟩ := Parser.script_error hscript
  have hrest : failure.rest = tokens.drop front.length := by
    rw [htokens, List.drop_left]
  have htake : tokens.take front.length = front := by
    rw [htokens, List.take_left]
  refine ⟨failure, front.length, hscript, hrest, ?_, ⟨more, script, ?_⟩, ?_, ?_, ?_⟩
  · rw [htokens, List.length_append]
    omega
  · rw [htake]
    exact parseTokens_eq_ok_iff_script.mpr (Parser.script_of_isScript hviable)
  · intro hlt more script hok
    have hnext : failure.rest.head? = some tokens[front.length] := by
      rw [hrest, List.head?_drop, List.getElem?_eq_getElem hlt]
    rw [List.take_succ_eq_append_getElem hlt, htake, List.append_assoc] at hok
    have hsame := hother (tokens[front.length] :: more) hnext.symm
    have hscript' := parseTokens_eq_ok_iff_script.mp hok
    cases hscript'.symm.trans hsame
  · intro hlt
    have hnext : failure.rest.head? = some tokens[front.length] := by
      rw [hrest, List.head?_drop, List.getElem?_eq_getElem hlt]
    rw [ParseFailure.toError, hnext]
    rfl
  · intro hend
    have hne : tokens ≠ [] := by
      rintro rfl
      cases (Parser.script_of_isScript .nil).symm.trans hscript
    have hnil : failure.rest = [] := by rw [hrest, hend, List.drop_length]
    refine ⟨hne, ?_⟩
    rw [ParseFailure.toError, hnil, List.getLast?_eq_some_getLast hne]
    rfl

/-- Two operands without a comma between them. -/
theorem parseTokens_error_viable_operands :
    let tokens : List Token := [Keyword.select.token, { value := "a", kind := .identifier },
      { value := "b", kind := .identifier, location := ⟨0, 9⟩ }]
    parseTokens tokens = .error (.parse ⟨0, 9⟩ "b" "expected ,") ∧
      ∃ (failure : ParseFailure) (c : Nat),
        Parser.script tokens = .error failure ∧ failure.rest = tokens.drop c ∧
        (∃ more script, parseTokens (tokens.take c ++ more) = .ok script) := by
  intro tokens
  have hfails : parseTokens tokens = .error (.parse ⟨0, 9⟩ "b" "expected ,") := by
    with_unfolding_all rfl
  obtain ⟨failure, c, hscript, hrest, _, hviable, _⟩ := parseTokens_error_viable hfails
  exact ⟨hfails, failure, c, hscript, hrest, hviable⟩

end PocketSql
