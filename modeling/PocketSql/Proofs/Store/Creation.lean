import PocketSql.Proofs.Store.Operations
import PocketSql.Proofs.Token.Word
/-!
# Which tables are made

A table is made of all its columns or not at all. The words for the types of its columns are looked
at in their order before anything is changed, and the first one that names no type refuses the
creation. Otherwise the table has the columns as they are listed and no rows, in place of any table
that had its name, and the other tables stay as they were.
-/

namespace PocketSql

/-- The word is the name of the type, in any case of ASCII letters. -/
def ColumnType.IsNamed (type : ColumnType) (word : String) : Prop :=
  word.toList.map Char.toLower = type.name.toList.map Char.toLower

/-- No word with other characters names a type, although some of them have ASCII lower-case
forms. -/
theorem ColumnType.ofDatatype?_eq_some_iff {type : ColumnType} {word : String} :
    ofDatatype? word = some type ↔ type.IsNamed word := by
  have hint : Unicode.lowercase word = "int" ↔ int.IsNamed word :=
    Unicode.lowercase_eq_iff (Scanner.ascii_of_mem_spelling .int)
  have htext : Unicode.lowercase word = "text" ↔ text.IsNamed word :=
    Unicode.lowercase_eq_iff (Scanner.ascii_of_mem_spelling .text)
  rw [ofDatatype?]
  by_cases hword : Unicode.lowercase word = "int"
  · rw [if_pos hword]
    cases type with
    | int => simp [hint.mp hword]
    | text => simp [← htext, hword]
  · rw [if_neg hword]
    cases type with
    | int => simp [← hint, hword]
    | text => simp [← htext]

namespace ColumnDefinition

variable {definition : ColumnDefinition} {column : Column}

/-- The word for the type of the column names a type. -/
def Supported (definition : ColumnDefinition) : Prop :=
  ∃ type : ColumnType, type.IsNamed definition.datatype.value

/-- The column has the name of the definition and the type that it names. -/
structure Defines (definition : ColumnDefinition) (column : Column) : Prop where
  name : column.name = definition.name.value
  type : column.type.IsNamed definition.datatype.value

theorem ofDefinition_eq_ok_iff :
    Column.ofDefinition definition = .ok column ↔ definition.Defines column := by
  obtain ⟨name, type⟩ := column
  rw [Column.ofDefinition]
  constructor
  · intro h
    split at h
    case h_1 found hfound =>
        cases h
        exact ⟨rfl, ColumnType.ofDatatype?_eq_some_iff.mp hfound⟩
    case h_2 => cases h
  · rintro ⟨rfl, htype⟩
    rw [ColumnType.ofDatatype?_eq_some_iff.mpr htype]

theorem supported_iff :
    definition.Supported ↔ ∃ column, Column.ofDefinition definition = .ok column := by
  constructor
  · rintro ⟨type, htype⟩
    exact ⟨⟨definition.name.value, type⟩, ofDefinition_eq_ok_iff.mpr ⟨rfl, htype⟩⟩
  · rintro ⟨column, hcolumn⟩
    exact ⟨column.type, (ofDefinition_eq_ok_iff.mp hcolumn).type⟩

theorem ofDefinition_of_not_supported (h : ¬definition.Supported) :
    Column.ofDefinition definition = .error (.invalidDataType definition.datatype.value) := by
  have hnone : ColumnType.ofDatatype? definition.datatype.value = none := by
    refine Option.eq_none_iff_forall_ne_some.mpr fun type htype => h ?_
    exact ⟨type, ColumnType.ofDatatype?_eq_some_iff.mp htype⟩
  rw [Column.ofDefinition, hnone]

end ColumnDefinition

namespace Store

variable {creation : CreateTable}

theorem exists_columns_of_supported (h : ∀ definition ∈ creation.columns, definition.Supported) :
    ∃ columns, creation.columns.mapM Column.ofDefinition = .ok columns ∧
      List.Forall₂ ColumnDefinition.Defines creation.columns columns := by
  refine exists_mapM_of_forall₂ fun definition hdefinition => ?_
  obtain ⟨column, hcolumn⟩ := ColumnDefinition.supported_iff.mp (h definition hdefinition)
  exact ⟨column, hcolumn, ColumnDefinition.ofDefinition_eq_ok_iff.mp hcolumn⟩

theorem columns_of_not_supported {front back : List ColumnDefinition}
    {definition : ColumnDefinition} (hcolumns : creation.columns = front ++ definition :: back)
    (hfront : ∀ other ∈ front, other.Supported) (h : ¬definition.Supported) :
    creation.columns.mapM Column.ofDefinition =
      .error (.invalidDataType definition.datatype.value) := by
  rw [hcolumns]
  refine mapM_of_first_error (fun other hother => ?_)
    (ColumnDefinition.ofDefinition_of_not_supported h)
  exact ColumnDefinition.supported_iff.mp (hfront other hother)

/-- **A table is made whole or not at all.** It is made exactly where the word for the type of each
column is the name of one, in any case of ASCII letters. Then it has the columns as they are listed
and no rows, whatever had its name before, and the other tables stay as they were. Otherwise the
first word that names no type is what the creation is refused for, and the whole store stays as it
was. -/
theorem createTable_whole (store : Store) (creation : CreateTable) :
    let name := creation.table.value
    let outcome := Engine.execute store (.createTable creation)
    (outcome.answer = .ok (.tableCreated name) ↔
      ∀ definition ∈ creation.columns, definition.Supported) ∧
    ((∀ definition ∈ creation.columns, definition.Supported) →
      ∃ columns, List.Forall₂ ColumnDefinition.Defines creation.columns columns ∧
        outcome.state.table? name = some { columns, rows := [] } ∧
        ∀ other, other ≠ name → outcome.state.table? other = store.table? other) ∧
    ∀ front definition back, creation.columns = front ++ definition :: back →
      (∀ other ∈ front, other.Supported) → ¬definition.Supported →
      outcome.answer = .error (.invalidDataType definition.datatype.value) ∧
        outcome.state = store := by
  intro name outcome
  refine ⟨⟨fun hanswer definition hdefinition => ?_, fun hsupported => ?_⟩, ?_, ?_⟩
  · cases hcolumns : creation.columns.mapM Column.ofDefinition with
    | error error =>
        have hrefused : outcome.answer = .error error := (execute_createTable_of_error hcolumns).1
        cases hrefused.symm.trans hanswer
    | ok columns =>
        exact ColumnDefinition.supported_iff.mpr (exists_ok_of_mem hcolumns definition hdefinition)
  · obtain ⟨columns, hcolumns, _⟩ := exists_columns_of_supported hsupported
    exact (execute_createTable_of_ok hcolumns).1
  · intro hsupported
    obtain ⟨columns, hcolumns, hdefines⟩ := exists_columns_of_supported hsupported
    have hstate : outcome.state = store.put name { columns } :=
      (execute_createTable_of_ok hcolumns).2
    refine ⟨columns, hdefines, ?_, fun other hother => ?_⟩
    · rw [hstate, table?_put, if_pos rfl]
    · rw [hstate, table?_put, if_neg (Ne.symm hother)]
  · intro front definition back hcolumns hfront hdefinition
    exact execute_createTable_of_error (columns_of_not_supported hcolumns hfront hdefinition)

/-- A type in mixed case, and then two words that name none. The first of them begins with a letter
that has an ASCII letter in its lower-case form. -/
example :
    let column (datatype : String) : ColumnDefinition :=
      { name := { value := "a", kind := .identifier }
        datatype := { value := datatype, kind := .keyword } }
    let creation (datatypes : List String) : CreateTable :=
      { table := { value := "t", kind := .identifier }, columns := datatypes.map column }
    let made := Engine.execute empty (.createTable (creation ["iNt", "TEXT"]))
    let refused := Engine.execute made.state (.createTable (creation ["int", "İNT", "bool"]))
    refused.answer = .error (.invalidDataType "İNT") ∧
      refused.state.table? "t" = some { columns := [⟨"a", .int⟩, ⟨"a", .text⟩] } := by
  decide +kernel

end Store
end PocketSql
