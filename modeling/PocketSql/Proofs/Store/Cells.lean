import PocketSql.Proofs.Store.History
import PocketSql.Proofs.Table
/-!
# What holds of every cell of a store

Cells come into a store by insertions only, each made from a literal for its column, and a selection
takes them out together with their columns. So what holds of every cell that a literal can become
holds of the cells of all rows that are stored, and of all rows that are selected.
-/

namespace PocketSql

/-- Whatever cell the value becomes in a column has the property. -/
def Expression.Gives (P : Cell → Column → Prop) (value : Expression) : Prop :=
  ∀ column cell, Cell.ofLiteral value.token column = .ok cell → P cell column

/-- The values that a statement inserts. -/
def Statement.values : Statement → List Expression
  | .insert insertion => insertion.values
  | _ => []

/-- Every row has one cell for each column, and the cell has the property there. -/
def Store.Cells (P : Cell → Column → Prop) (store : Store) : Prop :=
  ∀ name table, store.table? name = some table →
    ∀ row ∈ table.rows, List.Forall₂ P row table.columns

variable {P : Cell → Column → Prop} {row : Row} {columns : List Column}

/-- A row of cells that can be decoded is decoded. -/
theorem Results.decodeRow_of_forall₂ {Q : Value → Column → Prop}
    (h : List.Forall₂ (fun cell column => ∃ value, cell.decode column.type = .ok value ∧
      Q value column) row columns) :
    ∃ values, decodeRow columns row = .ok values ∧ List.Forall₂ Q values columns := by
  have hvalues : ∃ values,
      List.Forall₂ (fun pair value =>
          (pair.1.decode pair.2.type).mapError Cell.Fault.toError = .ok value)
        (row.zip columns) values ∧
      List.Forall₂ Q values columns := by
    induction h with
    | nil => exact ⟨[], .nil, .nil⟩
    | cons hcell hrest ih =>
        obtain ⟨value, hdecode, hvalue⟩ := hcell
        obtain ⟨values, hdecoded, hvalues⟩ := ih
        refine ⟨value :: values, .cons ?_ hdecoded, .cons hvalue hvalues⟩
        rw [hdecode]
        rfl
  obtain ⟨values, hdecoded, hvalues⟩ := hvalues
  refine ⟨values, ?_, hvalues⟩
  rw [decodeRow, if_neg (by simpa using h.length_eq)]
  exact mapM_eq_ok_iff.mpr hdecoded

namespace Store

theorem forall₂_of_newRow {values : List Expression} (hcount : values.length = columns.length)
    (h : newRow values columns = .ok row) (hgives : ∀ value ∈ values, value.Gives P) :
    List.Forall₂ P row columns := by
  have hcells := mapM_eq_ok_iff.mp h
  clear h
  induction columns generalizing values row with
  | nil =>
      rw [List.zip_nil_right] at hcells
      cases hcells
      exact .nil
  | cons column columns ih =>
      cases values with
      | nil => cases hcount
      | cons value values =>
          rw [List.zip_cons_cons] at hcells
          obtain ⟨hvalue, hvalues⟩ := List.forall_mem_cons.mp hgives
          cases hcells with
          | cons hcell hrest =>
              exact .cons (hvalue _ _ hcell) (ih (Nat.succ.inj hcount) hvalues hrest)

theorem cells_empty : empty.Cells P := by
  intro name table h
  rw [table?_empty] at h
  cases h

/-- **A statement keeps a property of all cells** if the values that it inserts have it. -/
theorem Cells.execute {store : Store} (h : store.Cells P) {statement : Statement}
    (hgives : ∀ value ∈ statement.values, value.Gives P) :
    (Engine.execute store statement).state.Cells P := by
  intro name table htable
  have heffect := effect_of_execute store statement name
  rw [htable] at heffect
  cases hbefore : store.table? name with
  | none =>
      rw [hbefore] at heffect
      cases heffect with
      | created => simp
  | some before =>
      rw [hbefore] at heffect
      have hrows := h name before hbefore
      cases heffect with
      | created => simp
      | kept => exact hrows
      | appended _ hinsertion hstores =>
          obtain ⟨_, hentry, _⟩ := Entry.exists_of_insertion? hinsertion
          obtain ⟨rfl, _⟩ := Entry.mk.inj hentry
          obtain ⟨hcount, hcells⟩ := hstores
          have hnew := forall₂_of_newRow hcount (mapM_eq_ok_iff.mpr hcells) hgives
          intro row hrow
          rcases List.mem_append.mp hrow with hrow | hrow
          · exact hrows row hrow
          · rwa [List.mem_singleton.mp hrow]

/-- The rows that are selected have the property under the columns that are selected. -/
theorem Cells.select {store : Store} (h : store.Cells P) {query : Select} {results : Results}
    (hselect : Store.select query store = .ok results) :
    ∀ row ∈ results.rows, List.Forall₂ P row results.columns := by
  cases htable : store.table? ((query.table.map (·.value)).getD "") with
  | none =>
      rw [select_of_no_table htable] at hselect
      cases hselect
  | some table =>
      have hrows := h _ table htable
      rw [select_of_table htable] at hselect
      by_cases hempty : table.rows = []
      · rw [Table.select_of_empty hempty] at hselect
        cases hselect
        simp
      · have hwidth (row) (hrow : row ∈ table.rows) := (hrows row hrow).length_eq
        cases hindices : query.items.mapM table.resolve with
        | error error =>
            rw [Table.select_of_unresolved hempty hwidth hindices] at hselect
            cases hselect
        | ok indices =>
            rw [Table.select_of_resolved hempty hwidth hindices] at hselect
            cases hselect
            intro row hrow
            obtain ⟨stored, hstored, rfl⟩ := List.mem_map.mp hrow
            exact Table.forall₂_project (hrows stored hstored) (Table.lt_of_mapM_resolve hindices)

end Store
end PocketSql
