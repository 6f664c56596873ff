import PocketSql.Proofs.Store.Typed
/-!
# A selection is a projection

What a selection gives is said here without the order in which it is computed. A name means the
first column that has it, and the results are these columns with the cells that every row has there.
The names are looked up again for each row, and all of them find the same. So a selection fails on
the first item that means no column or it gives the projection, and a table without rows is asked
nothing.
-/

namespace PocketSql

namespace Table

variable {table : Table} {item : Expression} {items : List Expression} {index : Nat}

/-- The item is a name, and the first column of this name has the index. -/
structure Means (table : Table) (item : Expression) (index : Nat) : Prop where
  kind : item.token.kind = .identifier
  name : (table.columns.map (·.name))[index]? = some item.token.value
  first : ∀ earlier < index, (table.columns.map (·.name))[earlier]? ≠ some item.token.value

/-- The item is a name, and some column has it. -/
def Named (table : Table) (item : Expression) : Prop :=
  item.token.kind = .identifier ∧ item.token.value ∈ table.columns.map (·.name)

/-- The results are the columns that the items mean, one for each item, and for every row the cells
that it has there. -/
def Projects (table : Table) (items : List Expression) (results : Results) : Prop :=
  ∃ indices, List.Forall₂ table.Means items indices ∧
    List.Forall₂ (fun index column => table.columns[index]? = some column) indices
      results.columns ∧
    List.Forall₂
      (fun row cells => List.Forall₂ (fun index cell => row[index]? = some cell) indices cells)
      table.rows results.rows

/-! ### What an item means -/

theorem columnIndex?_eq_some_iff {name : String} :
    table.columnIndex? name = some index ↔ (table.columns.map (·.name))[index]? = some name ∧
      ∀ earlier < index, (table.columns.map (·.name))[earlier]? ≠ some name := by
  rw [columnIndex?, List.findIdx?_eq_some_iff_getElem]
  constructor
  · rintro ⟨hlt, hname, hfirst⟩
    refine ⟨?_, fun earlier hearlier hsame => hfirst earlier hearlier ?_⟩
    · rw [List.getElem?_map, List.getElem?_eq_getElem hlt, Option.map_some, eq_of_beq hname]
    · have hlt' : earlier < table.columns.length := Nat.lt_trans hearlier hlt
      rw [List.getElem?_map, List.getElem?_eq_getElem hlt', Option.map_some] at hsame
      exact beq_iff_eq.mpr (Option.some.inj hsame)
  · rintro ⟨hname, hfirst⟩
    rw [List.getElem?_map] at hname
    obtain ⟨column, hcolumn, rfl⟩ := Option.map_eq_some_iff.mp hname
    obtain ⟨hlt, rfl⟩ := List.getElem?_eq_some_iff.mp hcolumn
    refine ⟨hlt, beq_self_eq_true _, fun earlier hearlier hsame => hfirst earlier hearlier ?_⟩
    have hlt' : earlier < table.columns.length := Nat.lt_trans hearlier hlt
    rw [List.getElem?_map, List.getElem?_eq_getElem hlt', Option.map_some, eq_of_beq hsame]

theorem resolve_eq_ok_iff_means : table.resolve item = .ok index ↔ table.Means item index := by
  obtain ⟨token⟩ := item
  rw [resolve_eq_ok_iff, Expression.identifier?_literal]
  split
  case isTrue hkind =>
      rw [Option.bind_some, columnIndex?_eq_some_iff]
      exact ⟨fun ⟨hname, hfirst⟩ => ⟨hkind, hname, hfirst⟩, fun h => ⟨h.name, h.first⟩⟩
  case isFalse hkind =>
      rw [Option.bind_none]
      refine ⟨fun h => ?_, fun h => absurd h.kind hkind⟩
      cases h

/-- Among the columns of a name there is a first one, and the name leads to it. -/
theorem Named.exists_resolve (h : table.Named item) :
    ∃ index, table.resolve item = .ok index ∧ table.Means item index := by
  obtain ⟨hkind, hname⟩ := h
  cases hindex : table.columnIndex? item.token.value with
  | some index =>
      obtain ⟨hvalue, hfirst⟩ := columnIndex?_eq_some_iff.mp hindex
      have hmeans : table.Means item index := ⟨hkind, hvalue, hfirst⟩
      exact ⟨index, resolve_eq_ok_iff_means.mpr hmeans, hmeans⟩
  | none =>
      obtain ⟨column, hmem, hcolumn⟩ := List.mem_map.mp hname
      have hnone := List.findIdx?_eq_none_iff.mp hindex column hmem
      exact absurd (beq_iff_eq.mpr hcolumn) (by simp [hnone])

theorem Means.named (h : table.Means item index) : table.Named item :=
  ⟨h.kind, List.mem_of_getElem? h.name⟩

theorem resolve_of_not_named (h : ¬table.Named item) :
    table.resolve item = .error (.columnDoesNotExist item.token.value) := by
  cases hresolve : table.resolve item with
  | ok index => exact absurd (resolve_eq_ok_iff_means.mp hresolve).named h
  | error error =>
      obtain ⟨token⟩ := item
      rw [resolve] at hresolve
      split at hresolve
      · cases hresolve
      · cases hresolve
        rfl

/-! ### The whole selection -/

theorem forall₂_getElem?_project {α : Type} {list : List α} {indices : List Nat}
    (h : ∀ index ∈ indices, index < list.length) :
    List.Forall₂ (fun index member => list[index]? = some member) indices
      (project indices list) := by
  induction indices with
  | nil => exact .nil
  | cons index indices ih =>
      obtain ⟨hindex, hindices⟩ := List.forall_mem_cons.mp h
      rw [project_cons hindex]
      exact .cons (List.getElem?_eq_getElem hindex) (ih hindices)

theorem select_of_not_named {front back : List Expression} (hrows : table.rows ≠ [])
    (hwidth : ∀ row ∈ table.rows, row.length = table.columns.length)
    (hfront : ∀ other ∈ front, table.Named other) (h : ¬table.Named item) :
    table.select (front ++ item :: back) = .error (.columnDoesNotExist item.token.value) := by
  refine select_of_unresolved hrows hwidth (mapM_of_first_error (fun other hother => ?_) ?_)
  · obtain ⟨index, hresolve, _⟩ := (hfront other hother).exists_resolve
    exact ⟨index, hresolve⟩
  · exact resolve_of_not_named h

theorem exists_select_of_named (hrows : table.rows ≠ [])
    (hwidth : ∀ row ∈ table.rows, row.length = table.columns.length)
    (h : ∀ item ∈ items, table.Named item) :
    ∃ results, table.select items = .ok results ∧ table.Projects items results := by
  obtain ⟨indices, hindices, hmeans⟩ :=
    exists_mapM_of_forall₂ fun item hitem => (h item hitem).exists_resolve
  have hlt := lt_of_mapM_resolve hindices
  refine ⟨_, select_of_resolved hrows hwidth hindices, indices, hmeans, ?_, ?_⟩
  · exact forall₂_getElem?_project hlt
  · refine List.forall₂_map_right_iff.mpr (List.forall₂_same.mpr fun row hrow => ?_)
    refine forall₂_getElem?_project fun index hindex => ?_
    rw [hwidth row hrow]
    exact hlt index hindex

end Table

namespace Store

/-- **A selection is the projection of its table.** In every reachable store it is refused for a
table that is not there, and it gives nothing at all for a table without rows. Otherwise it is
refused for the first item that is not the name of a column, or all items are and it gives the
columns that they mean with the cells of every row. It never changes the store. -/
theorem select_projects {store : Store} (h : store.Reachable) (items : List Expression)
    (name : Token) :
    let outcome := Engine.execute store (.select { items, table := some name })
    outcome.state = store ∧
    match store.table? name.value with
    | none => outcome.answer = .error (.tableDoesNotExist name.value)
    | some table =>
        (table.rows = [] → outcome.answer = .ok (.selected { columns := [], rows := [] })) ∧
        (table.rows ≠ [] →
          (∀ front item back, items = front ++ item :: back →
            (∀ other ∈ front, table.Named other) → ¬table.Named item →
            outcome.answer = .error (.columnDoesNotExist item.token.value)) ∧
          ((∀ item ∈ items, table.Named item) →
            ∃ results, outcome.answer = .ok (.selected results) ∧
              table.Projects items results)) := by
  intro outcome
  have hanswer : outcome.answer =
      (select { items, table := some name } store).map .selected := rfl
  refine ⟨rfl, ?_⟩
  cases htable : store.table? name.value with
  | none =>
      have hnone : store.table? (((some name).map (·.value)).getD "") = none := htable
      rw [hanswer, select_of_no_table hnone]
      rfl
  | some table =>
      have hsome : store.table? (((some name).map (·.value)).getD "") = some table := htable
      have hwidth (row) (hrow : row ∈ table.rows) : row.length = table.columns.length :=
        (h.typed _ table htable row hrow).length_eq
      rw [hanswer, select_of_table hsome]
      refine ⟨fun hrows => ?_, fun hrows => ⟨?_, fun hnamed => ?_⟩⟩
      · rw [Table.select_of_empty hrows]
        rfl
      · rintro front item back rfl hfront hitem
        rw [Table.select_of_not_named hrows hwidth hfront hitem]
        rfl
      · obtain ⟨results, hselect, hprojects⟩ := Table.exists_select_of_named hrows hwidth hnamed
        exact ⟨results, by rw [hselect]; rfl, hprojects⟩

/-- Two columns of one name, of which the first is meant, and an item that is repeated. -/
theorem select_projects_repeated :
    let t : Token := { value := "t", kind := .identifier }
    let a : Token := { value := "a", kind := .identifier }
    let b : Token := { value := "b", kind := .identifier }
    let number : Token := { value := "7", kind := .numeric }
    let letter : Token := { value := "x", kind := .string }
    let made := Engine.execute empty (.createTable
      ⟨t, [⟨a, Keyword.int.token⟩, ⟨b, Keyword.text.token⟩, ⟨a, Keyword.text.token⟩]⟩)
    let store := (Engine.execute made.state
      (.insert ⟨t, [.literal number, .literal letter, .literal letter]⟩)).state
    let items : List Expression := [.literal b, .literal a, .literal b]
    let table : Table :=
      { columns := [⟨"a", .int⟩, ⟨"b", .text⟩, ⟨"a", .text⟩]
        rows := [[.ofInt 7, .ofText "x", .ofText "x"]] }
    let results : Results :=
      { columns := [⟨"b", .text⟩, ⟨"a", .int⟩, ⟨"b", .text⟩]
        rows := [[.ofText "x", .ofInt 7, .ofText "x"]] }
    store.table? "t" = some table ∧ table.rows ≠ [] ∧ (∀ item ∈ items, table.Named item) ∧
      (Engine.execute store (.select { items, table := some t })).answer =
        .ok (.selected results) ∧ table.Projects items results := by
  intro t a b number letter made store items table results
  have htable : store.table? t.value = some table := by
    decide +kernel
  have hrows : table.rows ≠ [] := List.cons_ne_nil _ _
  have hnamed : ∀ item ∈ items, table.Named item := by
    simp [items, a, b, table, Table.Named, Expression.token]
  have hprojects := (select_projects (.step _ (.step _ .empty) : store.Reachable) items t).2
  rw [htable] at hprojects
  obtain ⟨found, hanswer, hfound⟩ := (hprojects.2 hrows).2 hnamed
  have hgiven : (Engine.execute store (.select { items, table := some t })).answer =
      .ok (.selected results) := by
    decide +kernel
  obtain rfl : results = found := by
    rw [hgiven] at hanswer
    exact Answer.selected.inj (Except.ok.inj hanswer)
  exact ⟨htable, hrows, hnamed, hgiven, hfound⟩

end Store
end PocketSql
