import PocketSql.Proofs.Engine
import PocketSql.Proofs.Integer
import PocketSql.Proofs.Statement.Places
import PocketSql.Proofs.Statement.Printing
import PocketSql.Proofs.Store.Typed
import PocketSql.Session
/-!
# Values survive the way from a text to a result

A table of values is written as a script that makes the table, inserts its rows one by one and
selects all of its columns. Every text that spells this script, the printed one among them, gives
the same rows back when a session runs it, in whatever store.

On the way a value is a literal in a text, a token, a cell and a value again. Each step has its own
lemma before: a spelled text is read as its tokens, tokens are read as the script up to places,
places make no difference to a run, and cells are decoded to the values that they were written from.
-/

namespace PocketSql

open Grammar

/-! ### Tables as scripts -/

/-- A name as a token. -/
def Token.name (text : String) : Token :=
  { value := text, kind := .identifier }

/-- The literal of a value. -/
def Value.token : Value → Token
  | .int n => { value := (Value.int n).display, kind := .numeric }
  | .text s => { value := s, kind := .string }

/-- A value that a single literal denotes, which an integer below zero is not. -/
def Value.IsLiteral : Value → Prop
  | .int n => 0 ≤ n.toInt
  | .text _ => True

/-- The reserved word for a column type. -/
def ColumnType.keyword : ColumnType → Keyword
  | .int => .int
  | .text => .text

def Column.definition (column : Column) : ColumnDefinition where
  name := .name column.name
  datatype := column.type.keyword.token

/-- One value of the right type for each column. -/
def IsRow (columns : List Column) (values : List Value) : Prop :=
  List.Forall₂ (fun value column => value.IsLiteral ∧ value.type = column.type) values columns

def creationOf (name : String) (columns : List Column) : CreateTable where
  table := .name name
  columns := columns.map (·.definition)

def insertionOf (name : String) (values : List Value) : Insert where
  table := .name name
  values := values.map fun value => .literal value.token

/-- The selection of all columns. -/
def selectionOf (name : String) (columns : List Column) : Select where
  items := columns.map fun column => .literal (.name column.name)
  table := some (.name name)

/-- Makes a table, inserts its rows and selects all of its columns. -/
def tableScript (name : String) (columns : List Column) (rows : List (List Value)) : Script :=
  .createTable (creationOf name columns) ::
    (rows.map (fun values => .insert (insertionOf name values)) ++
      [.select (selectionOf name columns)])

variable {name : String} {columns : List Column} {rows : List (List Value)} {values : List Value}
  {store : Store}

theorem IsRow.isLiteral (h : IsRow columns values) {value : Value} (hmem : value ∈ values) :
    value.IsLiteral := by
  induction h with
  | nil => cases hmem
  | cons hfirst _ ih =>
      rcases List.mem_cons.mp hmem with rfl | hmem
      · exact hfirst.1
      · exact ih hmem

theorem Value.token_eq_numeral {n : Int32} (h : 0 ≤ n.toInt) :
    (Value.int n).token =
      { value := String.ofList (Numeral.ofNat n.toInt.toNat).chars, kind := .numeric } := by
  rw [Value.token, Numeral.chars_ofNat, ← Integer.toList_display h, String.ofList_toList]

theorem printable_token {value : Value} (h : value.IsLiteral) : value.token.Printable := by
  cases value with
  | int n =>
      rw [Value.token_eq_numeral h]
      exact printable_numeral (Numeral.wellFormed_ofNat _)
  | text s => exact printable_string s

theorem isExpression_token (value : Value) : IsExpression [value.token] (.literal value.token) := by
  cases value with
  | int n => exact .literal (.inr (.inl rfl))
  | text s => exact .literal (.inr (.inr rfl))

/-! ### The script is printed and read -/

theorem isStatement_creationOf (name : String) (columns : List Column) :
    IsStatement (Statement.createTable (creationOf name columns)).tokens
      (.createTable (creationOf name columns)) := by
  refine isStatement_tokens_createTable rfl fun definition hdefinition => ?_
  obtain ⟨column, _, rfl⟩ := List.mem_map.mp hdefinition
  have hkind : column.type.keyword.kind = .keyword := by
    cases column.type <;> rfl
  exact .define rfl hkind

theorem isStatement_insertionOf (name : String) (values : List Value) :
    IsStatement (Statement.insert (insertionOf name values)).tokens
      (.insert (insertionOf name values)) := by
  refine isStatement_tokens_insert rfl fun expression hexpression => ?_
  obtain ⟨value, _, rfl⟩ := List.mem_map.mp hexpression
  exact isExpression_token value

theorem isStatement_selectionOf (name : String) (columns : List Column) :
    IsStatement (Statement.select (selectionOf name columns)).tokens
      (.select (selectionOf name columns)) := by
  refine isStatement_tokens_select (fun expression hexpression => ?_) fun table htable => ?_
  · obtain ⟨column, _, rfl⟩ := List.mem_map.mp hexpression
    exact .literal (.inl rfl)
  · cases htable
    rfl

theorem isScript_tableScript (name : String) (columns : List Column) (rows : List (List Value)) :
    IsScript (tableScript name columns rows).tokens (tableScript name columns rows) := by
  refine isScript_tokens (List.forall_mem_cons.mpr ⟨isStatement_creationOf name columns, ?_⟩)
  refine List.forall_mem_append.mpr ⟨fun statement hstatement => ?_, ?_⟩
  · obtain ⟨values, _, rfl⟩ := List.mem_map.mp hstatement
    exact isStatement_insertionOf name values
  · exact List.forall_mem_singleton.mpr (isStatement_selectionOf name columns)

theorem spelled_tableScript (hrows : ∀ values ∈ rows, IsRow columns values) :
    Spelled (tableScript name columns rows).tokens
      (tableScript name columns rows).render.toList := by
  refine spelled_render (printable_tokens_script (List.forall_mem_cons.mpr ⟨?_, ?_⟩))
  · refine printable_tokens_createTable (printable_name name) fun definition hdefinition => ?_
    obtain ⟨column, _, rfl⟩ := List.mem_map.mp hdefinition
    refine List.forall_mem_cons.mpr ⟨printable_name column.name, ?_⟩
    exact List.forall_mem_singleton.mpr (printable_keyword _)
  · refine List.forall_mem_append.mpr ⟨fun statement hstatement => ?_, ?_⟩
    · obtain ⟨values, hvalues, rfl⟩ := List.mem_map.mp hstatement
      refine printable_tokens_insert (printable_name name) fun expression hexpression => ?_
      obtain ⟨value, hvalue, rfl⟩ := List.mem_map.mp hexpression
      have hliteral := (hrows values hvalues).isLiteral hvalue
      exact List.forall_mem_singleton.mpr (printable_token hliteral)
    · refine List.forall_mem_singleton.mpr (printable_tokens_select ?_ ?_)
      · intro item hitem
        obtain ⟨column, _, rfl⟩ := List.mem_map.mp hitem
        exact List.forall_mem_singleton.mpr (printable_name column.name)
      · intro table htable
        cases htable
        exact printable_name name

theorem parse_of_spelled {text : String}
    (h : Spelled (tableScript name columns rows).tokens text.toList) :
    ∃ script, parse text = .ok script ∧
      script.unlocated = (tableScript name columns rows).unlocated := by
  obtain ⟨found, hlex, hfound⟩ := lex_of_spelled h
  exact parse_of_map_unlocated (isScript_tableScript name columns rows) hlex hfound

/-! ### The script is run -/

theorem ofDefinition_definition (column : Column) :
    Column.ofDefinition column.definition = .ok column := by
  obtain ⟨name, type⟩ := column
  have htype : ColumnType.ofDatatype? type.keyword.spelling = some type := by
    cases type <;> decide +kernel
  simp only [Column.ofDefinition, Column.definition, Keyword.token, htype]
  rfl

theorem ofLiteral_token {value : Value} {column : Column} (h : value.IsLiteral)
    (htype : value.type = column.type) :
    Cell.ofLiteral value.token column = .ok (Cell.ofValue value) := by
  obtain ⟨name, type⟩ := column
  cases htype
  cases value with
  | int n =>
      have hread := Integer.int32?_display h
      simp only [Cell.ofLiteral, Value.token, hread]
      rfl
  | text s => rfl

theorem newRow_insertionOf (h : IsRow columns values) :
    Store.newRow (insertionOf name values).values columns = .ok (values.map Cell.ofValue) := by
  refine mapM_eq_ok_iff.mpr ?_
  rw [insertionOf]
  induction h with
  | nil => exact .nil
  | cons hfirst _ ih => exact .cons (ofLiteral_token hfirst.1 hfirst.2) ih

theorem execute_creationOf (store : Store) (name : String) (columns : List Column) :
    (Engine.execute store (.createTable (creationOf name columns))).answer =
        .ok (.tableCreated name) ∧
      (Engine.execute store (.createTable (creationOf name columns))).state =
        store.put name { columns } := by
  have hcolumns : (creationOf name columns).columns.mapM Column.ofDefinition = .ok columns := by
    refine mapM_eq_ok_iff.mpr (List.forall₂_map_left_iff.mpr (List.forall₂_same.mpr ?_))
    exact fun column _ => ofDefinition_definition column
  exact Store.execute_createTable_of_ok hcolumns

theorem execute_insertionOf {table : Table} (htable : store.table? name = some table)
    (h : IsRow table.columns values) :
    (Engine.execute store (.insert (insertionOf name values))).answer = .ok (.inserted 1) ∧
      (Engine.execute store (.insert (insertionOf name values))).state =
        store.put name { table with rows := table.rows ++ [values.map Cell.ofValue] } := by
  have hcount : (insertionOf name values).values.length = table.columns.length := by
    rw [insertionOf, List.length_map]
    exact h.length_eq
  have hinsert : Engine.execute store (.insert (insertionOf name values)) =
      (Store.insert (insertionOf name values) store).map fun _ => .inserted 1 := rfl
  rw [hinsert, Store.insert_of_row htable hcount (newRow_insertionOf h)]
  exact ⟨rfl, rfl⟩

/-- Inserting rows one by one appends their cells, whatever rows there were. -/
theorem executeAll_insertions (store : Store) (name : String)
    (hrows : ∀ values ∈ rows, IsRow columns values) (before : List Row) :
    (Engine.executeAll (store.put name { columns, rows := before })
        (rows.map fun values => .insert (insertionOf name values))).answer =
      .ok (List.replicate rows.length (.inserted 1)) ∧
    (Engine.executeAll (store.put name { columns, rows := before })
        (rows.map fun values => .insert (insertionOf name values))).state =
      store.put name { columns, rows := before ++ rows.map (·.map Cell.ofValue) } := by
  induction rows generalizing before with
  | nil =>
      rw [List.map_nil, List.map_nil, List.append_nil]
      exact ⟨rfl, rfl⟩
  | cons values rows ih =>
      have htable : (store.put name { columns, rows := before }).table? name =
          some { columns, rows := before } := by
        rw [Store.table?_put, if_pos rfl]
      obtain ⟨hanswer, hstate⟩ := execute_insertionOf htable (hrows values List.mem_cons_self)
      rw [Store.put_put] at hstate
      have hothers := fun other hother => hrows other (List.mem_cons_of_mem values hother)
      obtain ⟨hanswers, hfinal⟩ := ih hothers (before ++ [values.map Cell.ofValue])
      rw [List.map_cons, Engine.executeAll_cons_of_ok hanswer, hstate, hanswers, hfinal,
        List.append_assoc]
      exact ⟨rfl, rfl⟩

theorem resolve_selectionOf (name : String) {table : Table}
    (hnames : (table.columns.map (·.name)).Nodup) :
    (selectionOf name table.columns).items.mapM table.resolve =
      .ok (List.range table.columns.length) := by
  refine mapM_eq_ok_iff.mpr (List.forall₂_iff_get.mpr ⟨?_, fun index hitem hindex => ?_⟩)
  · rw [selectionOf, List.length_map, List.length_range]
  · have hlt : index < table.columns.length := by
      rwa [List.length_range] at hindex
    rw [List.get_eq_getElem, List.get_eq_getElem, List.getElem_range]
    simp only [selectionOf, List.getElem_map]
    exact Table.resolve_name hnames hlt

theorem decodeRow_ofValue (h : IsRow columns values) :
    Results.decodeRow columns (values.map Cell.ofValue) = .ok values := by
  have hlength : (values.map Cell.ofValue).length = columns.length := by
    rw [List.length_map]
    exact h.length_eq
  rw [Results.decodeRow, if_neg (by simpa using hlength)]
  refine mapM_eq_ok_iff.mpr ?_
  clear hlength
  induction h with
  | nil => exact .nil
  | @cons value column _ _ hfirst _ ih =>
      refine .cons ?_ ih
      have hdecode := Cell.decode_ofValue value
      rw [hfirst.2] at hdecode
      exact congrArg (Except.mapError _) hdecode

theorem select_cells (name : String) {table : Table} (hnames : (table.columns.map (·.name)).Nodup)
    (hcells : table.rows = rows.map (·.map Cell.ofValue))
    (hrows : ∀ values ∈ rows, IsRow table.columns values) :
    ∃ results, table.select (selectionOf name table.columns).items = .ok results ∧
      results.decodedRows = .ok rows ∧ (rows ≠ [] → results.columns = table.columns) := by
  have hwidth (row) (hmem : row ∈ table.rows) : row.length = table.columns.length := by
    rw [hcells] at hmem
    obtain ⟨values, hvalues, rfl⟩ := List.mem_map.mp hmem
    rw [List.length_map]
    exact (hrows values hvalues).length_eq
  by_cases hempty : rows = []
  · subst hempty
    exact ⟨{}, Table.select_of_empty hcells, rfl, fun hne => absurd rfl hne⟩
  · have hne : table.rows ≠ [] := by
      rw [hcells]
      simpa using hempty
    have hselect := Table.select_of_resolved hne hwidth (resolve_selectionOf name hnames)
    refine ⟨_, hselect, ?_, fun _ => Table.project_range _⟩
    have hproject : table.rows.map (Table.project (List.range table.columns.length)) =
        table.rows := by
      refine (List.map_congr_left fun row hmem => ?_).trans (List.map_id _)
      rw [← hwidth row hmem]
      exact Table.project_range row
    rw [Results.decodedRows, hproject, Table.project_range, hcells]
    refine mapM_eq_ok_iff.mpr (List.forall₂_map_left_iff.mpr (List.forall₂_same.mpr ?_))
    exact fun values hvalues => decodeRow_ofValue (hrows values hvalues)

theorem execute_selectionOf {table : Table} {results : Results}
    (htable : store.table? name = some table)
    (h : table.select (selectionOf name table.columns).items = .ok results) :
    (Engine.execute store (.select (selectionOf name table.columns))).answer =
      .ok (.selected results) := by
  have hselect : Store.select (selectionOf name table.columns) store = .ok results := by
    have hname : ((selectionOf name table.columns).table.map (·.value)).getD "" = name := rfl
    simp only [Store.select, hname, htable]
    exact h
  exact congrArg (Except.map Answer.selected) hselect

theorem executeAll_tableScript (store : Store) (name : String)
    (hnames : (columns.map (·.name)).Nodup) (hrows : ∀ values ∈ rows, IsRow columns values) :
    ∃ results, (Engine.executeAll store (tableScript name columns rows)).answer =
        .ok (.tableCreated name ::
          (List.replicate rows.length (.inserted 1) ++ [.selected results])) ∧
      results.decodedRows = .ok rows ∧ (rows ≠ [] → results.columns = columns) := by
  let filled : Table := { columns, rows := rows.map (·.map Cell.ofValue) }
  obtain ⟨hcreated, hempty⟩ := execute_creationOf store name columns
  obtain ⟨hinserted, hfilled⟩ := executeAll_insertions store name hrows []
  obtain ⟨results, hselect, hdecoded, hcolumns⟩ :=
    select_cells name (show (filled.columns.map (·.name)).Nodup from hnames) rfl hrows
  have htable : (store.put name filled).table? name = some filled := by
    rw [Store.table?_put, if_pos rfl]
  have hselected := execute_selectionOf htable hselect
  refine ⟨results, ?_, hdecoded, hcolumns⟩
  rw [tableScript, Engine.executeAll_cons_of_ok hcreated, hempty,
    Engine.executeAll_append_of_ok hinserted, hfilled, List.nil_append,
    Engine.executeAll_cons_of_ok hselected]
  rfl

/-- **Values survive the way from a text to a result.** The printed script is one of the texts that
spell it. Each of them runs without a failure, with an answer for each statement, and the last answer
is decoded to the rows that were written, in their order. Results without rows have no columns. -/
theorem execute_tableScript (store : Store) (name : String) (columns : List Column)
    (rows : List (List Value)) (hnames : (columns.map (·.name)).Nodup)
    (hrows : ∀ values ∈ rows, IsRow columns values) :
    Spelled (tableScript name columns rows).tokens (tableScript name columns rows).render.toList ∧
    ∀ text : String, Spelled (tableScript name columns rows).tokens text.toList →
      ∃ results, (Session.execute text store).answer =
          .ok (.tableCreated name ::
            (List.replicate rows.length (.inserted 1) ++ [.selected results])) ∧
        results.decodedRows = .ok rows ∧ (rows ≠ [] → results.columns = columns) := by
  refine ⟨spelled_tableScript hrows, fun text htext => ?_⟩
  obtain ⟨script, hparse, hscript⟩ := parse_of_spelled htext
  obtain ⟨results, hanswer, hresults⟩ := executeAll_tableScript store name hnames hrows
  refine ⟨results, ?_, hresults⟩
  rw [Session.execute, hparse]
  change (Engine.executeAll store script).answer = _
  rw [← Store.executeAll_unlocated, hscript, Store.executeAll_unlocated, hanswer]

/-- A reserved word as a name, and a text with a quote and a semicolon in it. -/
theorem execute_tableScript_quotes :
    let columns : List Column := [⟨"select", .int⟩, ⟨"b", .text⟩]
    let rows : List (List Value) := [[.int 7, .text "it's; no"]]
    let text := "create table \"t\" ( \"select\" int , \"b\" text ) ; " ++
      "insert into \"t\" values ( 7 , 'it''s; no' ) ; select \"select\" , \"b\" from \"t\" ;"
    ∃ results, (Session.execute text Store.empty).answer =
        .ok [.tableCreated "t", .inserted 1, .selected results] ∧
      results.decodedRows = .ok rows ∧ results.columns = columns := by
  intro columns rows text
  have hrows : ∀ values ∈ rows, IsRow columns values := by
    refine List.forall_mem_singleton.mpr (.cons ⟨?_, rfl⟩ (.cons ⟨trivial, rfl⟩ .nil))
    show (0 : Int) ≤ Int32.toInt 7
    decide
  obtain ⟨hprinted, hrun⟩ :=
    execute_tableScript Store.empty "t" columns rows (by decide) hrows
  have htext : (tableScript "t" columns rows).render = text := by
    decide +kernel
  rw [htext] at hprinted
  obtain ⟨results, hanswer, hdecoded, hcolumns⟩ := hrun text hprinted
  exact ⟨results, hanswer, hdecoded, hcolumns (List.cons_ne_nil _ _)⟩

end PocketSql
