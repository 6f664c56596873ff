import PocketSql.Proofs.Literal
import PocketSql.Proofs.Store.Cells
import PocketSql.Proofs.Texts
/-!
# No text stores a negative integer

No token begins with a minus, and inside a numeral a sign only stands behind the exponent mark. So
the literals of a script that was read from a text are of natural numbers, if they are of integers
at all, and nothing else becomes a cell. What texts make of a store that was empty has therefore
only natural numbers in its columns of integers, and only those are ever selected.
-/

namespace PocketSql

/-- An integer that is not negative, or a text. -/
def Value.Natural : Value → Prop
  | .int n => 0 ≤ n.toInt ∧ n.toInt ≤ 2147483647
  | .text _ => True

/-- The cell is read as such a value. -/
def Cell.Natural (cell : Cell) (column : Column) : Prop :=
  ∃ value, cell.decode column.type = .ok value ∧ value.Natural

/-- The results can be decoded, to such values only. -/
def Results.Natural (results : Results) : Prop :=
  ∃ rows, results.decodedRows = .ok rows ∧ ∀ row ∈ rows, ∀ value ∈ row, value.Natural

theorem Token.IsNumeral.nonneg {token : Token} {n : Int32} (h : token.IsNumeral)
    (hn : Integer.int32? token.value = some n) : 0 ≤ n.toInt := by
  obtain ⟨_, numeral, hnumeral, hvalue⟩ := h
  have hsign := numeral.not_isSign_head?_chars hnumeral
  rw [hvalue] at hn
  refine Integer.nonneg_of_int32? ?_ hn
  rwa [String.toList_ofList]

/-- A literal of a script becomes a natural number or a text, whatever its column is. -/
theorem Expression.WellFormed.natural {value : Expression} (h : value.WellFormed) :
    value.Gives Cell.Natural := by
  obtain ⟨token⟩ := value
  intro column cell hcell
  change Cell.ofLiteral token column = .ok cell at hcell
  obtain ⟨n, hkind, htype, hn, hmade⟩ | ⟨_, htype, hmade⟩ | ⟨_, hmade⟩ :=
    Cell.ofLiteral_cases token column
  all_goals
    rw [hcell] at hmade
    cases hmade
  · obtain hname | hstring | hnumeral := h
    · cases hname.symm.trans hkind
    · cases hstring.symm.trans hkind
    · have hupper := n.toInt_lt
      refine ⟨.int n, ?_, hnumeral.nonneg hn, by omega⟩
      rw [htype]
      exact Cell.decode_ofValue (.int n)
  · refine ⟨.text token.value, ?_, trivial⟩
    rw [htype]
    exact Cell.decode_ofValue (.text token.value)

theorem Cell.Natural.int {cell : Cell} {column : Column} (h : cell.Natural column)
    (htype : column.type = .int) :
    ∃ n : Int32, cell.decode .int = .ok (.int n) ∧ 0 ≤ n.toInt ∧ n.toInt ≤ 2147483647 := by
  obtain ⟨value, hdecode, hvalue⟩ := h
  rw [htype] at hdecode
  obtain ⟨n, _, rfl⟩ := map_eq_ok_iff.mp hdecode
  exact ⟨n, hdecode, hvalue⟩

theorem Results.natural_of_forall₂ {results : Results}
    (h : ∀ row ∈ results.rows, List.Forall₂ Cell.Natural row results.columns) :
    results.Natural := by
  refine exists_mapM_of_forall fun row hrow => ?_
  have hcells : List.Forall₂ (fun cell column => ∃ value, cell.decode column.type = .ok value ∧
      value.Natural ∧ True) row results.columns :=
    (h row hrow).imp fun _ _ ⟨value, hdecode, hvalue⟩ => ⟨value, hdecode, hvalue, trivial⟩
  obtain ⟨values, hvalues, hnatural⟩ := decodeRow_of_forall₂ hcells
  exact ⟨values, hvalues, ((List.forall₂_and_left _ _).mp hnatural).1⟩

namespace Store

variable {a b : Store} {step : Step}

theorem Cells.leads (h : a.Cells Cell.Natural) (hleads : Leads step a b) :
    b.Cells Cell.Natural := by
  cases hleads with
  | @step statement hstatement =>
      refine h.execute fun value hvalue => Expression.WellFormed.natural ?_
      cases statement with
      | insert insertion => exact hstatement.values value hvalue
      | _ => cases hvalue

theorem natural_of_leads (h : a.Cells Cell.Natural) (hleads : Leads step a b)
    {results : Results} (hanswer : step.answer = .ok (.selected results)) : results.Natural := by
  cases hleads with
  | @step statement hstatement =>
      cases statement with
      | select query =>
          change (Store.select query a).map _ = _ at hanswer
          obtain ⟨found, hselect, hfound⟩ := map_eq_ok_iff.mp hanswer
          cases hfound
          exact Results.natural_of_forall₂ (h.select hselect)
      | insert insertion =>
          change (insert insertion a).answer.map _ = _ at hanswer
          obtain ⟨_, _, hother⟩ := map_eq_ok_iff.mp hanswer
          cases hother
      | createTable creation =>
          change (createTable creation a).answer.map _ = _ at hanswer
          obtain ⟨_, _, hother⟩ := map_eq_ok_iff.mp hanswer
          cases hother

end Store

namespace Session

/-- **Texts store natural numbers only.** Every cell of a column of integers is read as one, in
every store that texts make of the empty store. Every integer that a selection of the texts gives is
one, whether its text succeeds or fails later. A statement that was not read from a text can store
a negative integer. -/
theorem natural_of_texts (texts : List String) :
    (∀ name table, (run Store.empty texts).state.table? name = some table →
      ∀ row ∈ table.rows, List.Forall₂ (fun cell column => column.type = .int →
        ∃ n : Int32, cell.decode .int = .ok (.int n) ∧ 0 ≤ n.toInt ∧ n.toInt ≤ 2147483647)
        row table.columns) ∧
    (∀ step ∈ steps Store.empty texts, ∀ results, step.answer = .ok (.selected results) →
      results.Natural) ∧
    (∀ answers, .ok answers ∈ (run Store.empty texts).answers →
      ∀ results, .selected results ∈ answers → results.Natural) ∧
    ∃ script, (Engine.executeAll Store.empty script).state.table? "t" =
      some { columns := [⟨"a", .int⟩], rows := [[.ofInt (-1)]] } := by
  obtain ⟨hcells, hsteps⟩ := (path_steps Store.empty texts).invariant
    (fun hleads h => Store.Cells.leads h hleads) Store.cells_empty
  have hselected : ∀ step ∈ steps Store.empty texts, ∀ results,
      step.answer = .ok (.selected results) → results.Natural := by
    intro step hstep results hanswer
    obtain ⟨a, b, hleads, h⟩ := hsteps step hstep
    exact Store.natural_of_leads h hleads hanswer
  refine ⟨fun name table htable row hrow => ?_, hselected, fun answers hanswers results hmem => ?_,
    ?_⟩
  · exact (hcells name table htable row hrow).imp fun _ _ h htype => h.int htype
  · obtain ⟨step, hstep, hanswer⟩ := exists_step_of_mem_answers hanswers hmem
    exact hselected step hstep results hanswer
  · let table : Token := { value := "t", kind := .identifier }
    let column : Token := { value := "a", kind := .identifier }
    let negative : Token := { value := "-1", kind := .numeric }
    refine ⟨[.createTable ⟨table, [⟨column, Keyword.int.token⟩]⟩,
      .insert ⟨table, [.literal negative]⟩], ?_⟩
    decide +kernel

end Session
end PocketSql
