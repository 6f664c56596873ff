import PocketSql.Proofs.Literal
import PocketSql.Proofs.Store.Cells
/-!
# Stores of typed cells

In every store that statements can make, each row has one cell for each column and each cell fits
the type of its column. That is an invariant of every statement, whatever its tokens are, and it
rules out what the unchecked parts of the store rely on: a row that is appended has the right width,
a selection finds every entry that it looks for, and what it selects can be decoded.
-/

namespace PocketSql

/-- One cell for each column, of the type of the column. -/
def Row.Fits (row : Row) (columns : List Column) : Prop :=
  List.Forall₂ (fun cell column => cell.Fits column.type) row columns

def Table.Typed (table : Table) : Prop :=
  ∀ row ∈ table.rows, row.Fits table.columns

theorem Cell.fits_of_ofLiteral {token : Token} {column : Column} {cell : Cell}
    (h : ofLiteral token column = .ok cell) : cell.Fits column.type := by
  obtain ⟨n, _, htype, _, hcell⟩ | ⟨_, htype, hcell⟩ | ⟨_, hcell⟩ := ofLiteral_cases token column
  all_goals
    rw [h] at hcell
    cases hcell
  · rw [htype]
    exact fits_ofValue (.int n)
  · rw [htype]
    exact fits_ofValue (.text token.value)

theorem Cell.invalidDataType_of_ofLiteral {token : Token} {column : Column} {error : Error}
    (h : ofLiteral token column = .error error) : ∃ text, error = .invalidDataType text := by
  obtain ⟨_, _, _, _, hcell⟩ | ⟨_, _, hcell⟩ | ⟨_, hcell⟩ := ofLiteral_cases token column
  all_goals
    rw [h] at hcell
    cases hcell
  exact ⟨_, rfl⟩

/-- A row of fitting cells is decoded, to one value of the type of each column. -/
theorem Row.Fits.decodeRow {row : Row} {columns : List Column} (h : Row.Fits row columns) :
    ∃ values, Results.decodeRow columns row = .ok values ∧
      List.Forall₂ (fun value column => value.type = column.type) values columns :=
  Results.decodeRow_of_forall₂ (List.Forall₂.imp (fun _ _ => Cell.exists_decode_of_fits) h)

/-! ### The invariant -/

namespace Store

variable {store other : Store} {table : Table} {row : Row}

def Typed (store : Store) : Prop :=
  ∀ name table, store.table? name = some table → table.Typed

theorem typed_empty : empty.Typed := by
  intro name table h
  rw [table?_empty] at h
  cases h

theorem Typed.put (h : store.Typed) (name : String) (htable : table.Typed) :
    (store.put name table).Typed := by
  intro other found hfound
  rw [table?_put] at hfound
  split at hfound
  · cases hfound
    exact htable
  · exact h other found hfound

theorem Typed.change (h : store.Typed) (hchange : Change store other) : other.Typed := by
  cases hchange with
  | none => exact h
  | created name columns =>
      refine h.put name fun row hmem => ?_
      cases hmem
  | appended name htable hcount hrow =>
      refine h.put name fun row hmem => ?_
      rcases List.mem_append.mp hmem with hmem | hmem
      · exact h name _ htable row hmem
      · cases List.mem_singleton.mp hmem
        exact forall₂_of_newRow hcount hrow fun _ _ _ _ => Cell.fits_of_ofLiteral

/-- The stores that finitely many statements make of the empty store. The tokens of the statements
are arbitrary, and a statement that fails is a step too. -/
inductive Reachable : Store → Prop where
  | empty : Reachable empty
  | step {store : Store} (statement : Statement) (h : Reachable store) :
      Reachable (Engine.execute store statement).state

theorem Reachable.typed (h : store.Reachable) : store.Typed := by
  induction h with
  | empty => exact typed_empty
  | step statement _ ih => exact ih.change (change_of_execute _ statement)

/-! ### What the invariant rules out -/

/-- A row that was made for the columns of a table is always appended. -/
theorem append_of_rowOf {values : List Expression} (hcount : values.length = table.columns.length)
    (h : (rowOf (values.zip table.columns)).1 = .ok row) :
    table.append row = .ok { table with rows := table.rows ++ [row] } := by
  rw [rowOf_eq] at h
  exact append_of_length (length_of_newRow hcount h)

/-- What an insertion can fail on. -/
theorem insert_eq_error {insertion : Insert} {error : Error}
    (herror : (insert insertion store).answer = .error error) :
    (∃ name, error = .tableDoesNotExist name) ∨
      (∃ expected got, error = .missingValues expected got) ∨
      ∃ text, error = .invalidDataType text := by
  cases h : store.table? insertion.table.value with
  | none =>
      rw [insert_of_no_table h] at herror
      exact .inl ⟨_, (Except.error.inj herror).symm⟩
  | some table =>
      by_cases hcount : insertion.values.length = table.columns.length
      · cases hrow : newRow insertion.values table.columns with
        | error failure =>
            rw [insert_of_error h hcount hrow] at herror
            obtain rfl := Except.error.inj herror
            obtain ⟨pair, _, hcell⟩ := exists_of_mapM_eq_error hrow
            exact .inr (.inr (Cell.invalidDataType_of_ofLiteral hcell))
        | ok row =>
            rw [insert_of_row h hcount hrow] at herror
            cases herror
      · rw [insert_of_wrong_count h hcount] at herror
        exact .inr (.inl ⟨_, _, (Except.error.inj herror).symm⟩)

theorem insert_ne_internal (store : Store) (insertion : Insert) (message : String) :
    (insert insertion store).answer ≠ .error (.internal message) := by
  intro hanswer
  obtain ⟨_, h⟩ | ⟨_, _, h⟩ | ⟨_, h⟩ := insert_eq_error hanswer
  · cases h
  · cases h
  · cases h

/-- Results that can be decoded, to rows of some width and of the types of the columns. -/
def Decodable (results : Results) (width : Nat) : Prop :=
  ∃ rows, results.decodedRows = .ok rows ∧
    ∀ values ∈ rows, values.length = width ∧
      List.Forall₂ (fun value column => value.type = column.type) values results.columns

theorem decodable_of_fits {results : Results} {width : Nat}
    (hwidth : results.columns.length = width)
    (h : ∀ row ∈ results.rows, row.Fits results.columns) : Decodable results width := by
  refine exists_mapM_of_forall fun row hmem => ?_
  obtain ⟨values, hvalues, htypes⟩ := (h row hmem).decodeRow
  exact ⟨values, hvalues, htypes.length_eq.trans hwidth, htypes⟩

/-- What a selection comes to in a table of fitting rows. -/
theorem select_of_typed (h : table.Typed) (items : List Expression) :
    (∃ results, table.select items = .ok results ∧ Decodable results items.length) ∨
      ∃ name, table.select items = .error (.columnDoesNotExist name) := by
  by_cases hrows : table.rows = []
  · refine .inl ⟨{}, Table.select_of_empty hrows, [], rfl, ?_⟩
    intro values hmem
    cases hmem
  · have hwidth (row) (hmem : row ∈ table.rows) : row.length = table.columns.length :=
      (h row hmem).length_eq
    cases hindices : items.mapM table.resolve with
    | error error =>
        obtain ⟨item, _, hitem⟩ := exists_of_mapM_eq_error hindices
        obtain ⟨name, rfl⟩ := Table.resolve_eq_error hitem
        exact .inr ⟨name, Table.select_of_unresolved hrows hwidth hindices⟩
    | ok indices =>
        have hlt := Table.lt_of_mapM_resolve hindices
        refine .inl ⟨_, Table.select_of_resolved hrows hwidth hindices, decodable_of_fits ?_ ?_⟩
        · rw [Table.length_project hlt]
          exact (mapM_eq_ok_iff.mp hindices).length_eq.symm
        · intro row hmem
          obtain ⟨stored, hstored, rfl⟩ := List.mem_map.mp hmem
          exact Table.forall₂_project (h stored hstored) hlt

/-- **Every reachable store is typed, and nothing can go wrong inside it.** Every row has one cell
of the right type for each column. So an insertion never fails on the width of its row, nor on
anything else inside the store; a name that a selection finds leads to an entry of the columns and
of every row; and a selection gives results that can be decoded, with one value of the type of its
column for each item, or it names a table or a column that does not exist. -/
theorem typed_of_reachable (h : store.Reachable) :
    (∀ name table, store.table? name = some table → ∀ row ∈ table.rows,
      List.Forall₂ (fun cell column => cell.Fits column.type) row table.columns) ∧
    (∀ (insertion : Insert) table row, store.table? insertion.table.value = some table →
      insertion.values.length = table.columns.length →
      (rowOf (insertion.values.zip table.columns)).1 = .ok row →
      table.append row = .ok { table with rows := table.rows ++ [row] }) ∧
    (∀ insertion message, (insert insertion store).answer ≠ .error (.internal message)) ∧
    (∀ name table item index, store.table? name = some table → table.resolve item = .ok index →
      index < table.columns.length ∧ ∀ row ∈ table.rows, index < row.length) ∧
    (∀ query,
      (∃ results, select query store = .ok results ∧ Decodable results query.items.length) ∨
      (∃ name, select query store = .error (.tableDoesNotExist name)) ∨
      ∃ name, select query store = .error (.columnDoesNotExist name)) := by
  have htyped := h.typed
  refine ⟨htyped, ?_, insert_ne_internal store, ?_, ?_⟩
  · intro insertion table row _ hcount hrow
    exact append_of_rowOf hcount hrow
  · intro name table item index htable hindex
    have hlt := Table.lt_of_resolve hindex
    refine ⟨hlt, fun row hmem => ?_⟩
    rwa [(htyped name table htable row hmem).length_eq]
  · intro query
    rw [select]
    cases htable : store.table? ((query.table.map (·.value)).getD "") with
    | none => exact .inr (.inl ⟨_, rfl⟩)
    | some table =>
        rcases select_of_typed (htyped _ table htable) query.items with hselect | hselect
        · exact .inl hselect
        · exact .inr (.inr hselect)

/-- The store after a table of an integer and a text was made and one row was appended. -/
theorem typed_of_reachable_row :
    let name : Token := { value := "t", kind := .identifier }
    let a : Token := { value := "a", kind := .identifier }
    let b : Token := { value := "b", kind := .identifier }
    let made := Engine.execute empty
      (.createTable ⟨name, [⟨a, Keyword.int.token⟩, ⟨b, Keyword.text.token⟩]⟩)
    let number : Token := { value := "-7", kind := .numeric }
    let letter : Token := { value := "é", kind := .string }
    let store := (Engine.execute made.state
      (.insert ⟨name, [.literal number, .literal letter]⟩)).state
    ∃ table, store.table? "t" = some table ∧ table.rows.length = 1 ∧
      ∀ row ∈ table.rows,
        List.Forall₂ (fun cell column => cell.Fits column.type) row table.columns := by
  intro name a b made number letter store
  have htyped := typed_of_reachable (.step _ (.step _ .empty) : store.Reachable)
  have htable : store.table? "t" = some
      { columns := [⟨"a", .int⟩, ⟨"b", .text⟩]
        rows := [[⟨[255, 255, 255, 249]⟩, ⟨[195, 169]⟩]] } := by
    decide +kernel
  exact ⟨_, htable, rfl, htyped.1 _ _ htable⟩

end Store
end PocketSql
