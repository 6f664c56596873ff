import PocketSql.Table
import PocketSql.Proofs.Sequence
/-!
# Selecting from a table

A selection goes through the rows, and in each row through the items, which it looks up anew. It
carries what it has so far: the columns of the results, the rows, and the cells of the row that it
is in. Looking up depends on the columns of the table alone, so all rows find the same indices or
fail on the same item, and the columns are added once, in the first row. In a table whose rows are
as wide as its columns every entry that a name leads to is there, so the loop comes to the
projection of the columns and of every row to these indices (`select_of_resolved`), and a name that
is not a column is all that it can fail on.
-/

namespace PocketSql.Table

variable {α : Type} {table : Table} {item : Expression} {items : List Expression}
  {index number : Nat} {indices : List Nat} {row : Row} {columns : List Column} {cells : Row}

/-- The entries of a list at some indices. -/
def project (indices : List Nat) (list : List α) : List α :=
  indices.filterMap (list[·]?)

theorem entry_of_lt {list : List α} (h : index < list.length) :
    entry list index = .ok list[index] := by
  rw [entry, List.getElem?_eq_getElem h]

theorem project_cons {list : List α} (h : index < list.length) (indices : List Nat) :
    project (index :: indices) list = list[index] :: project indices list := by
  rw [project, List.filterMap_cons, List.getElem?_eq_getElem h]
  rfl

theorem project_append (front back : List Nat) (list : List α) :
    project (front ++ back) list = project front list ++ project back list :=
  List.filterMap_append

theorem length_project {list : List α} (h : ∀ index ∈ indices, index < list.length) :
    (project indices list).length = indices.length := by
  induction indices with
  | nil => rfl
  | cons index indices ih =>
      rw [project_cons (h index List.mem_cons_self), List.length_cons, List.length_cons,
        ih fun other hother => h other (List.mem_cons_of_mem _ hother)]

theorem forall₂_project {β : Type} {R : α → β → Prop} {list : List α} {other : List β}
    (h : List.Forall₂ R list other) (hlt : ∀ index ∈ indices, index < other.length) :
    List.Forall₂ R (project indices list) (project indices other) := by
  induction indices with
  | nil => exact .nil
  | cons index indices ih =>
      have hother := hlt index List.mem_cons_self
      have hlist : index < list.length := by rwa [h.length_eq]
      rw [project_cons hlist, project_cons hother]
      refine .cons ((List.forall₂_iff_get.mp h).2 index hlist hother) (ih fun later hmem => ?_)
      exact hlt later (List.mem_cons_of_mem _ hmem)

theorem project_range (list : List α) : project (List.range list.length) list = list := by
  induction list with
  | nil => rfl
  | cons member list ih =>
      rw [List.length_cons, List.range_succ_eq_map, project_cons (Nat.succ_pos _), project,
        List.filterMap_map]
      exact congrArg (member :: ·) ih

theorem resolve_eq_ok_iff :
    table.resolve item = .ok index ↔ item.identifier?.bind table.columnIndex? = some index := by
  rw [resolve]
  cases item.identifier?.bind table.columnIndex? with
  | none =>
      constructor
      · intro h
        cases h
      · intro h
        cases h
  | some found =>
      constructor
      · intro h
        cases h
        rfl
      · intro h
        cases h
        rfl

theorem lt_of_resolve (h : table.resolve item = .ok index) : index < table.columns.length := by
  obtain ⟨name, _, hindex⟩ := Option.bind_eq_some_iff.mp (resolve_eq_ok_iff.mp h)
  exact (List.findIdx?_eq_some_iff_getElem.mp hindex).1

theorem resolve_eq_error {error : Error} (h : table.resolve item = .error error) :
    ∃ name, error = .columnDoesNotExist name := by
  rw [resolve] at h
  split at h
  · cases h
  · exact ⟨_, (Except.error.inj h).symm⟩

theorem lt_of_mapM_resolve (h : items.mapM table.resolve = .ok indices) :
    ∀ index ∈ indices, index < table.columns.length := by
  have hall := mapM_eq_ok_iff.mp h
  induction hall with
  | nil => intro index hmem; cases hmem
  | cons hfirst hrest ih =>
      intro index hmem
      rcases List.mem_cons.mp hmem with rfl | hmem
      · exact lt_of_resolve hfirst
      · exact ih (mapM_eq_ok_iff.mpr hrest) index hmem

/-- When no two columns have the same name, a name leads to its own column. -/
theorem resolve_name (h : (table.columns.map (·.name)).Nodup) (hlt : index < table.columns.length) :
    table.resolve (.literal { value := table.columns[index].name, kind := .identifier }) =
      .ok index := by
  refine resolve_eq_ok_iff.mpr (Option.bind_eq_some_iff.mpr ⟨_, rfl, ?_⟩)
  refine List.findIdx?_eq_some_iff_getElem.mpr ⟨hlt, beq_self_eq_true _, fun j hj => ?_⟩
  intro hsame
  have hj' : j < table.columns.length := Nat.lt_trans hj hlt
  have hne := List.pairwise_iff_getElem.mp h j index (by simpa using hj') (by simpa using hlt) hj
  rw [List.getElem_map, List.getElem_map] at hne
  exact hne (eq_of_beq hsame)

theorem entry_eq_error {list : List α} {error : Error} (h : entry list index = .error error) :
    ∃ message, error = .internal message := by
  rw [entry] at h
  split at h
  · cases h
  · exact ⟨_, (Except.error.inj h).symm⟩

/-! ### One row -/

/-- The columns that a row of a number adds to the results. -/
def captured (table : Table) (number : Nat) (indices : List Nat) : List Column :=
  if number = 0 then project indices table.columns else []

theorem captured_append (table : Table) (number : Nat) (front back : List Nat) :
    table.captured number (front ++ back) =
      table.captured number front ++ table.captured number back := by
  simp only [captured]
  split
  · exact project_append front back table.columns
  · rfl

theorem capture_of_lt (h : index < table.columns.length) (number : Nat) (columns : List Column) :
    table.capture number columns index = .ok (columns ++ table.captured number [index]) := by
  rw [capture, captured]
  split
  · rw [entry_of_lt h, project_cons h]
    rfl
  · rw [List.append_nil]

theorem selectItem_of_resolve (hwidth : row.length = table.columns.length)
    (h : table.resolve item = .ok index) :
    table.selectItem number row (columns, cells) item =
      .ok (columns ++ table.captured number [index], cells ++ project [index] row) := by
  have hcolumn := lt_of_resolve h
  have hcell : index < row.length := by rwa [hwidth]
  rw [selectItem, h, project_cons hcell]
  show (table.capture number columns index >>= _) = _
  rw [capture_of_lt hcolumn]
  show (entry row index >>= _) = _
  rw [entry_of_lt hcell]
  rfl

theorem selectItem_of_unresolved {error : Error} (h : table.resolve item = .error error)
    (number : Nat) (row : Row) (state : List Column × Row) :
    table.selectItem number row state item = .error error := by
  rw [selectItem, h]
  rfl

/-- What a row adds are the columns, if it is the first row, and its cells. -/
theorem foldlM_selectItem (hwidth : row.length = table.columns.length)
    (h : items.mapM table.resolve = .ok indices) (columns : List Column) (cells : Row) :
    items.foldlM (table.selectItem number row) (columns, cells) =
      .ok (columns ++ table.captured number indices, cells ++ project indices row) := by
  have hall := mapM_eq_ok_iff.mp h
  clear h
  induction hall generalizing columns cells with
  | nil =>
      have hnone : table.captured number [] = [] := ite_self _
      rw [hnone, List.append_nil]
      exact congrArg (fun cells => Except.ok (columns, cells)) (List.append_nil cells).symm
  | @cons item index items indices hitem _ ih =>
      have hrest := ih (columns ++ table.captured number [index]) (cells ++ project [index] row)
      rw [List.append_assoc, List.append_assoc, ← captured_append, ← project_append] at hrest
      rw [List.foldlM_cons, selectItem_of_resolve hwidth hitem]
      exact hrest

/-- The first item that names no column ends a row, whatever the items before it gave. -/
theorem foldlM_selectItem_of_unresolved {error : Error} (hwidth : row.length = table.columns.length)
    (h : items.mapM table.resolve = .error error) (columns : List Column) (cells : Row) :
    items.foldlM (table.selectItem number row) (columns, cells) = .error error := by
  induction items generalizing columns cells with
  | nil => cases h
  | cons item items ih =>
      rw [List.mapM_cons] at h
      rw [List.foldlM_cons]
      obtain hitem | ⟨index, hitem, h⟩ := eq_error_of_bind h
      · rw [selectItem_of_unresolved hitem]
        rfl
      obtain hitems | ⟨indices, _, hpure⟩ := eq_error_of_bind h
      · rw [selectItem_of_resolve hwidth hitem]
        exact ih hitems _ _
      · cases hpure

/-! ### All rows -/

variable {results : Results} {rows : List Row}

theorem selectRow_of_resolved (hwidth : row.length = table.columns.length)
    (h : items.mapM table.resolve = .ok indices) :
    table.selectRow items results (row, number) =
      .ok
        { columns := results.columns ++ table.captured number indices
          rows := results.rows ++ [project indices row] } := by
  rw [selectRow, foldlM_selectItem hwidth h]
  rfl

/-- The rows after the first one add their cells and no columns. -/
theorem foldlM_selectRow (hwidth : ∀ row ∈ rows, row.length = table.columns.length)
    (h : items.mapM table.resolve = .ok indices) (number : Nat) (results : Results) :
    (rows.zipIdx (number + 1)).foldlM (table.selectRow items) results =
      .ok { results with rows := results.rows ++ rows.map (project indices) } := by
  induction rows generalizing number results with
  | nil =>
      rw [List.map_nil, List.append_nil]
      rfl
  | cons row rows ih =>
      obtain ⟨hrow, hrows⟩ := List.forall_mem_cons.mp hwidth
      have hnone : table.captured (number + 1) indices = [] := if_neg (Nat.succ_ne_zero number)
      have hrest := ih hrows (number + 1)
        { results with rows := results.rows ++ [project indices row] }
      rw [List.append_assoc, List.singleton_append] at hrest
      rw [List.zipIdx_cons, List.foldlM_cons, selectRow_of_resolved hrow h, hnone, List.append_nil]
      exact hrest

theorem select_of_empty (h : table.rows = []) : table.select items = .ok {} := by
  rw [select, h]
  rfl

theorem select_of_unresolved {error : Error} (hrows : table.rows ≠ [])
    (hwidth : ∀ row ∈ table.rows, row.length = table.columns.length)
    (h : items.mapM table.resolve = .error error) : table.select items = .error error := by
  obtain ⟨row, rows, hcons⟩ := List.exists_cons_of_ne_nil hrows
  rw [hcons] at hwidth
  rw [select, hcons, List.zipIdx_cons, List.foldlM_cons, selectRow,
    foldlM_selectItem_of_unresolved (hwidth row List.mem_cons_self) h]
  rfl

/-- **A selection is a projection.** Where every item names a column, the loop over the rows comes
to the columns of the items and their cells in every row. -/
theorem select_of_resolved (hrows : table.rows ≠ [])
    (hwidth : ∀ row ∈ table.rows, row.length = table.columns.length)
    (h : items.mapM table.resolve = .ok indices) :
    table.select items =
      .ok
        { columns := project indices table.columns
          rows := table.rows.map (project indices) } := by
  obtain ⟨row, rows, hcons⟩ := List.exists_cons_of_ne_nil hrows
  rw [hcons] at hwidth
  obtain ⟨hrow, hothers⟩ := List.forall_mem_cons.mp hwidth
  rw [select, hcons, List.zipIdx_cons, List.foldlM_cons, selectRow_of_resolved hrow h]
  exact foldlM_selectRow hothers h 0 _

/-! ### Failures -/

theorem selectItem_eq_error {state : List Column × Row} {error : Error}
    (h : table.selectItem number row state item = .error error) :
    (∃ name, error = .columnDoesNotExist name) ∨ ∃ message, error = .internal message := by
  rw [selectItem] at h
  obtain hresolve | ⟨index, _, h⟩ := eq_error_of_bind h
  · exact .inl (resolve_eq_error hresolve)
  obtain hcolumn | ⟨columns, _, h⟩ := eq_error_of_bind h
  · rw [capture] at hcolumn
    split at hcolumn
    · exact .inr (entry_eq_error (map_eq_error_iff.mp hcolumn))
    · cases hcolumn
  obtain hcell | ⟨cell, _, h⟩ := eq_error_of_bind h
  · exact .inr (entry_eq_error hcell)
  · cases h

/-- A selection from a table fails on a name that is no column, or on what is inside the table. -/
theorem select_eq_error {error : Error} (h : table.select items = .error error) :
    (∃ name, error = .columnDoesNotExist name) ∨ ∃ message, error = .internal message := by
  obtain ⟨⟨row, number⟩, _, results, hrow⟩ := exists_of_foldlM_eq_error h
  rw [selectRow] at hrow
  obtain hitems | ⟨state, _, hpure⟩ := eq_error_of_bind hrow
  · obtain ⟨item, _, state, hitem⟩ := exists_of_foldlM_eq_error hitems
    exact selectItem_eq_error hitem
  · cases hpure

end PocketSql.Table
