import PocketSql.Proofs.Literal
import PocketSql.Proofs.Store.Operations
import PocketSql.Session
/-!
# Which rows are appended

An insertion goes through its checks in an order: that the table is there, that there are as many
values as columns, and that each value suits its column, from left to right. It is refused by the
first check that fails and changes nothing then. Past all of them it appends the row of its values
and changes nothing else.
-/

namespace PocketSql.Store

variable {values : List Expression} {columns : List Column}

theorem newRow_of_not_suits {front back : List (Expression × Column)} {value : Expression}
    {column : Column} (hpairs : values.zip columns = front ++ (value, column) :: back)
    (hfront : ∀ pair ∈ front, pair.1.token.Suits pair.2.type)
    (h : ¬value.token.Suits column.type) :
    newRow values columns = .error (.invalidDataType (Cell.misfit value.token column)) := by
  rw [newRow, hpairs]
  refine mapM_of_first_error (fun pair hpair => ?_) (Cell.ofLiteral_of_not_suits h)
  obtain ⟨cell, hcell, _⟩ := Cell.exists_ofLiteral_of_suits (hfront pair hpair)
  exact ⟨cell, hcell⟩

theorem exists_newRow_of_suits (h : ∀ pair ∈ values.zip columns, pair.1.token.Suits pair.2.type) :
    ∃ row, newRow values columns = .ok row ∧
      List.Forall₂ (fun pair cell => cell.Represents pair.1.token pair.2.type)
        (values.zip columns) row := by
  exact exists_mapM_of_forall₂ fun pair hpair => Cell.exists_ofLiteral_of_suits (h pair hpair)

/-- **Exactly the rows of suitable values are appended.** An insertion is refused for a table that is
not there, then for a wrong number of values, then for the first value that does not suit its column,
and it leaves the store as it was. If every value suits its column, the row of their cells is put
behind the others of the table, and the other tables stay as they were. -/
theorem insert_suitable (store : Store) (insertion : Insert) :
    let name := insertion.table.value
    let outcome := insert insertion store
    match store.table? name with
    | none => outcome.answer = .error (.tableDoesNotExist name) ∧ outcome.state = store
    | some table =>
        let pairs := insertion.values.zip table.columns
        (insertion.values.length ≠ table.columns.length →
          outcome.answer =
              .error (.missingValues table.columns.length insertion.values.length) ∧
            outcome.state = store) ∧
        (insertion.values.length = table.columns.length →
          (∀ front value column back, pairs = front ++ (value, column) :: back →
            (∀ pair ∈ front, pair.1.token.Suits pair.2.type) → ¬value.token.Suits column.type →
            outcome.answer = .error (.invalidDataType (Cell.misfit value.token column)) ∧
              outcome.state = store) ∧
          ((∀ pair ∈ pairs, pair.1.token.Suits pair.2.type) →
            ∃ row, List.Forall₂ (fun pair cell => cell.Represents pair.1.token pair.2.type)
                pairs row ∧
              outcome.answer = .ok () ∧
              outcome.state.table? name = some { table with rows := table.rows ++ [row] } ∧
              ∀ other, other ≠ name → outcome.state.table? other = store.table? other)) := by
  intro name outcome
  cases htable : store.table? name with
  | none =>
      have hrefused : outcome = .fail store (.tableDoesNotExist name) := insert_of_no_table htable
      rw [hrefused]
      exact ⟨rfl, rfl⟩
  | some table =>
      refine ⟨fun hcount => ?_, fun hcount => ⟨?_, fun hsuits => ?_⟩⟩
      · have hrefused : outcome = _ := insert_of_wrong_count htable hcount
        rw [hrefused]
        exact ⟨rfl, rfl⟩
      · intro front value column back hpairs hfront hvalue
        have hrefused : outcome = _ :=
          insert_of_error htable hcount (newRow_of_not_suits hpairs hfront hvalue)
        rw [hrefused]
        exact ⟨rfl, rfl⟩
      · obtain ⟨row, hrow, hcells⟩ := exists_newRow_of_suits hsuits
        have happended : outcome = _ := insert_of_row htable hcount hrow
        refine ⟨row, hcells, ?_, ?_, fun other hother => ?_⟩
        · rw [happended]
        · rw [happended, table?_put, if_pos rfl]
        · rw [happended, table?_put, if_neg (Ne.symm hother)]

/-- The largest integer is appended behind zeros, and the next one is refused. -/
example :
    let outcome := Session.execute "CREATE TABLE t (a INT); INSERT INTO t VALUES (002147483647);
      INSERT INTO t VALUES (2147483648);" empty
    outcome.answer =
        .error (.invalidDataType "2147483648 is not a 32-bit integer for column a") ∧
      outcome.state.table? "t" =
        some { columns := [⟨"a", .int⟩], rows := [[⟨[127, 255, 255, 255]⟩]] } := by
  decide +kernel

end PocketSql.Store
