import PocketSql.Proofs.Session
import PocketSql.Proofs.Statement.Places
import PocketSql.Proofs.Statement.Viability
/-!
# Places serve messages only

Two texts whose tokens have the same texts and kinds can still have them at different places.
Nothing but the place in an error of reading tells the two apart: they are the same script or are
refused at the token of the same number, and a session does the same with both.
-/

namespace PocketSql

open Grammar

variable {tokens others : List Token} {failure : ParseFailure}

theorem forall₂_alike_iff :
    List.Forall₂ (fun token other => token.alike other = true) tokens others ↔
      tokens.map Token.unlocated = others.map Token.unlocated := by
  simp only [Token.alike_iff, ← List.forall₂_eq_eq_eq, List.forall₂_map_left_iff,
    List.forall₂_map_right_iff]

/-- The number of the token that the error for a failure shows. -/
def ParseFailure.index (tokens : List Token) (failure : ParseFailure) : Nat :=
  min (tokens.length - failure.rest.length) (tokens.length - 1)

theorem ParseFailure.exists_shown (h : Parser.script tokens = .error failure) :
    ∃ token, tokens[failure.index tokens]? = some token ∧
      failure.toError tokens = .parse token.location token.value failure.expected.message := by
  obtain ⟨front, htokens, _⟩ := Parser.script_error h
  have hshown : failure.rest.head?.or tokens.getLast? = tokens[failure.index tokens]? := by
    cases hrest : failure.rest with
    | nil =>
        have hindex : failure.index tokens = tokens.length - 1 := by
          simp [index, hrest]
        rw [hindex, ← List.getLast?_eq_getElem?]
        rfl
    | cons token rest =>
        rw [hrest] at htokens
        have hindex : failure.index tokens = front.length := by
          rw [index, hrest, htokens, List.length_append, List.length_cons]
          omega
        rw [hindex, htokens, List.getElem?_append_right (Nat.le_refl _), Nat.sub_self]
        rfl
  have hlt : failure.index tokens < tokens.length := by
    have hpos := List.length_pos_iff.mpr (Parser.ne_nil_of_script_error h)
    rw [index]
    omega
  refine ⟨tokens[failure.index tokens], List.getElem?_eq_getElem hlt, ?_⟩
  rw [toError, hshown, List.getElem?_eq_getElem hlt]

/-- Two errors of reading show the tokens of the same number, with the same text and message. -/
def Error.SameToken (tokens others : List Token) (error other : Error) : Prop :=
  ∃ (index : Nat) (shown shown' : Token) (message : String),
    tokens[index]? = some shown ∧ others[index]? = some shown' ∧ shown.value = shown'.value ∧
      error = .parse shown.location shown.value message ∧
      other = .parse shown'.location shown'.value message

theorem Error.sameToken_toError {failure' : ParseFailure}
    (hscript : Parser.script tokens = .error failure)
    (hscript' : Parser.script others = .error failure')
    (hexpected : failure'.expected = failure.expected)
    (hrest : failure'.rest.length = failure.rest.length)
    (hsame : tokens.map Token.unlocated = others.map Token.unlocated) :
    (failure.toError tokens).SameToken tokens others (failure'.toError others) := by
  obtain ⟨shown, hshown, herror⟩ := ParseFailure.exists_shown hscript
  obtain ⟨shown', hshown', herror'⟩ := ParseFailure.exists_shown hscript'
  have hlength : tokens.length = others.length := by
    simpa using congrArg List.length hsame
  have hindex : failure'.index others = failure.index tokens := by
    rw [ParseFailure.index, ParseFailure.index, hrest, hlength]
  rw [hindex] at hshown'
  have hunlocated : shown.unlocated = shown'.unlocated := by
    have hat := congrArg (·[failure.index tokens]?) hsame
    simpa [hshown, hshown'] using hat
  have hvalue : shown.unlocated.value = shown'.unlocated.value := by rw [hunlocated]
  rw [hexpected] at herror'
  exact ⟨failure.index tokens, shown, shown', failure.expected.message, hshown, hshown', hvalue,
    herror, herror'⟩

/-- **Reading looks at places for errors only.** -/
theorem parseTokens_of_alike
    (h : List.Forall₂ (fun token other => token.alike other = true) tokens others) :
    (∃ script script', parseTokens tokens = .ok script ∧ parseTokens others = .ok script' ∧
      script.unlocated = script'.unlocated) ∨
    ∃ error error', parseTokens tokens = .error error ∧ parseTokens others = .error error' ∧
      error.SameToken tokens others error' := by
  have hsame := forall₂_alike_iff.mp h
  cases hscript : Parser.script tokens with
  | ok script =>
      obtain ⟨script', hothers, hunlocated⟩ :=
        parseTokens_of_map_unlocated (Parser.isScript_of_script hscript) hsame.symm
      exact .inl ⟨script, script', parseTokens_eq_ok_iff_script.mpr hscript, hothers,
        hunlocated.symm⟩
  | error failure =>
      obtain ⟨failure', hscript', hexpected, hrest⟩ :=
        Parser.script_error_of_map_unlocated hscript hsame.symm
      have hlength : failure'.rest.length = failure.rest.length := by
        simpa using congrArg List.length hrest
      exact .inr ⟨_, _, parseTokens_of_script_error hscript, parseTokens_of_script_error hscript',
        Error.sameToken_toError hscript hscript' hexpected hlength hsame⟩

/-- **Texts with the same tokens up to places are run alike.** They are the same script up to
places, or the errors of reading them show the token of the same number, with one text and one
message. A session has the same answers and stores for both of them, but for such an error. -/
theorem execute_of_alike {a b : String} (ha : lex a = .ok tokens) (hb : lex b = .ok others)
    (halike : List.Forall₂ (fun token other => token.alike other = true) tokens others) :
    ((∃ script script', parse a = .ok script ∧ parse b = .ok script' ∧
        script.unlocated = script'.unlocated) ∨
      ∃ error error', parse a = .error error ∧ parse b = .error error' ∧
        error.SameToken tokens others error') ∧
    ∀ store : Store,
      let outcome := Session.execute a store
      let outcome' := Session.execute b store
      outcome.state = outcome'.state ∧
        (outcome.answer = outcome'.answer ∨
          ∃ error error', outcome.answer = .error error ∧ outcome'.answer = .error error' ∧
            error.SameToken tokens others error') := by
  have hread := parseTokens_of_alike halike
  rw [← parse_of_lex ha, ← parse_of_lex hb] at hread
  refine ⟨hread, fun store => ?_⟩
  obtain ⟨script, script', hscript, hscript', hsame⟩ | ⟨error, error', herror, herror', htoken⟩ :=
    hread
  · obtain ⟨hanswer, hstate⟩ := Session.execute_of_parse hscript store
    obtain ⟨hanswer', hstate'⟩ := Session.execute_of_parse hscript' store
    rw [Store.executeAll_congr hsame] at hanswer hstate
    exact ⟨hstate.trans hstate'.symm, .inl (hanswer.trans hanswer'.symm)⟩
  · obtain ⟨hanswer, hstate⟩ := Session.execute_of_parse_error herror store
    obtain ⟨hanswer', hstate'⟩ := Session.execute_of_parse_error herror' store
    exact ⟨hstate.trans hstate'.symm, .inr ⟨error, error', hanswer, hanswer', htoken⟩⟩

/-- Two operands without a comma between them, once on two lines and once on one. -/
theorem execute_of_alike_lines :
    let a := "SELECT a\nb;"
    let b := "select  a b;"
    let tokens : List Token := [⟨"select", .keyword, ⟨0, 0⟩⟩, ⟨"a", .identifier, ⟨0, 7⟩⟩,
      ⟨"b", .identifier, ⟨1, 0⟩⟩, ⟨";", .symbol, ⟨1, 1⟩⟩]
    let others : List Token := [⟨"select", .keyword, ⟨0, 0⟩⟩, ⟨"a", .identifier, ⟨0, 8⟩⟩,
      ⟨"b", .identifier, ⟨0, 10⟩⟩, ⟨";", .symbol, ⟨0, 11⟩⟩]
    lex a = .ok tokens ∧ lex b = .ok others ∧
      parse a = .error (.parse ⟨1, 0⟩ "b" "expected ,") ∧
      (∃ error', parse b = .error error' ∧
        (Error.parse ⟨1, 0⟩ "b" "expected ,").SameToken tokens others error') ∧
      (Session.execute a Store.empty).state = (Session.execute b Store.empty).state := by
  intro a b tokens others
  have ha : lex a = .ok tokens := by decide +kernel
  have hb : lex b = .ok others := by decide +kernel
  have hsame : tokens.map Token.unlocated = others.map Token.unlocated := by decide
  have halike := forall₂_alike_iff.mpr hsame
  have hfails : parse a = .error (.parse ⟨1, 0⟩ "b" "expected ,") := by decide +kernel
  obtain ⟨hread, hrun⟩ := execute_of_alike ha hb halike
  refine ⟨ha, hb, hfails, ?_, (hrun Store.empty).1⟩
  obtain ⟨script, _, hscript, _⟩ | ⟨error, error', herror, herror', htoken⟩ := hread
  · cases hfails.symm.trans hscript
  · cases hfails.symm.trans herror
    exact ⟨error', herror', htoken⟩

end PocketSql
