import PocketSql.Proofs.Store.Typed
/-!
# What results are decoded to

Rows are decoded one after the other and cells from left to right, and the first thing that does not
fit refuses the whole. A row of another width than the columns is refused for that, before any of its
cells is looked at, so pairing its cells with the columns leaves none out. What is decoded has a value
for each cell, of the type of its column, and the cells of the values are the ones that were decoded.
-/

namespace PocketSql

variable {columns : List Column} {row : Row} {values : List Value} {error : Error}

/-- What a row is refused for under the columns: for its width, or for its first cell that cannot be
read by the type of its column. -/
inductive Row.Refused (columns : List Column) (row : Row) : Error → Prop where
  | width (h : row.length ≠ columns.length) :
      Refused columns row (.internal ("row has " ++ toString row.length ++
        " cells but results have " ++ toString columns.length ++ " columns"))
  | cell {front back : Row} {before after : List Column} {cell : Cell} {column : Column}
      {fault : Cell.Fault} (hwidth : row.length = columns.length)
      (hrow : row = front ++ cell :: back) (hcolumns : columns = before ++ column :: after)
      (hfront : Row.Fits front before) (hcell : cell.decode column.type = .error fault) :
      Refused columns row fault.toError

namespace Results

theorem forall₂_decode_iff (hwidth : row.length = columns.length) :
    List.Forall₂ (fun pair value =>
        (pair.1.decode pair.2.type).mapError Cell.Fault.toError = .ok value)
      (row.zip columns) values ↔
    values.map Cell.ofValue = row ∧ values.map Value.type = columns.map Column.type := by
  induction columns generalizing row values with
  | nil =>
      obtain rfl := List.length_eq_zero_iff.mp hwidth
      simp
  | cons column columns ih =>
      cases row with
      | nil => cases hwidth
      | cons cell row =>
          cases values with
          | nil => simp
          | cons value values =>
              rw [List.zip_cons_cons, List.forall₂_cons, ih (Nat.succ.inj hwidth),
                mapError_eq_ok_iff, Cell.decode_eq_ok_iff]
              simp only [List.map_cons, List.cons.injEq]
              tauto

/-- **A row is decoded to the values that its cells are written from.** -/
theorem decodeRow_eq_ok_iff :
    decodeRow columns row = .ok values ↔
      values.map Cell.ofValue = row ∧ values.map Value.type = columns.map Column.type := by
  rw [decodeRow]
  split
  case isTrue hwidth =>
      constructor
      · intro h
        cases h
      · rintro ⟨rfl, htypes⟩
        have hlength := congrArg List.length htypes
        simp only [List.length_map] at hlength hwidth
        exact absurd hlength hwidth
  case isFalse hwidth => exact mapM_eq_ok_iff.trans (forall₂_decode_iff (not_not.mp hwidth))

/-- A row that is decoded has a cell for each column, and each cell fits it. -/
theorem exists_decodeRow_iff :
    (∃ values, decodeRow columns row = .ok values) ↔ row.Fits columns := by
  constructor
  · rintro ⟨values, hvalues⟩
    obtain ⟨rfl, htypes⟩ := decodeRow_eq_ok_iff.mp hvalues
    rw [← List.forall₂_eq_eq_eq, List.forall₂_map_left_iff, List.forall₂_map_right_iff] at htypes
    rw [Row.Fits, List.forall₂_map_left_iff]
    refine htypes.imp fun value column htype => ?_
    rw [← htype]
    exact Cell.fits_ofValue value
  · intro h
    obtain ⟨values, hvalues, _⟩ := h.decodeRow
    exact ⟨values, hvalues⟩

theorem fits_of_forall_zip {front : Row} {before : List Column}
    (hlength : front.length = before.length)
    (h : ∀ pair ∈ front.zip before,
      ∃ value, (pair.1.decode pair.2.type).mapError Cell.Fault.toError = .ok value) :
    Row.Fits front before := by
  refine List.forall₂_iff_zip.mpr ⟨hlength, fun {cell column} hpair => ?_⟩
  obtain ⟨value, hvalue⟩ := h (cell, column) hpair
  exact Cell.fits_iff.mpr ⟨value, Cell.decode_eq_ok_iff.mp (mapError_eq_ok_iff.mp hvalue)⟩

theorem decodeRow_eq_error_iff :
    decodeRow columns row = .error error ↔ Row.Refused columns row error := by
  rw [decodeRow]
  constructor
  · intro h
    split at h
    case isTrue hwidth =>
        cases h
        exact .width hwidth
    case isFalse hwidth =>
        obtain ⟨pairs, ⟨cell, column⟩, others, hzip, hpairs, hcell⟩ := mapM_eq_error_iff.mp h
        obtain ⟨fault, hfault, rfl⟩ := mapError_eq_error_iff.mp hcell
        obtain ⟨front, _, before, _, hlength, hrow, hcolumns, rfl, hback⟩ :=
          List.zip_eq_append_iff.mp hzip
        obtain ⟨back, after, rfl, rfl, _⟩ := List.zip_eq_cons_iff.mp hback.symm
        exact .cell (not_not.mp hwidth) hrow hcolumns (fits_of_forall_zip hlength hpairs) hfault
  · intro h
    cases h with
    | width hwidth => rw [if_pos hwidth]
    | @cell front back before after cell column fault hwidth hrow hcolumns hfront hcell =>
        have hzip : row.zip columns = front.zip before ++ (cell, column) :: back.zip after := by
          rw [hrow, hcolumns, List.zip_append hfront.length_eq, List.zip_cons_cons]
        rw [if_neg (not_not.mpr hwidth), hzip]
        have herror : (cell.decode column.type).mapError Cell.Fault.toError =
            .error fault.toError :=
          mapError_eq_error_iff.mpr ⟨_, hcell, rfl⟩
        refine mapM_of_first_error (fun pair hpair => ?_) herror
        obtain ⟨_, hfits⟩ := List.forall₂_iff_zip.mp hfront
        obtain ⟨value, hvalue, _⟩ := Cell.exists_decode_of_fits (hfits hpair)
        exact ⟨value, mapError_eq_ok_iff.mpr hvalue⟩

/-- **Results are decoded exactly, or refused for what is first wrong with them.** They are decoded
just where each row has as many cells as there are columns, four bytes in each cell of integers and
UTF-8 in each cell of text. They are decoded to some rows of values just where these have the types
of the columns and are written as the cells, byte for byte. Otherwise the error is that of the first
row that does not fit, for its width or else for its first cell that cannot be read. -/
theorem decodedRows_exact (results : Results) :
    ((∃ rows, results.decodedRows = .ok rows) ↔
      ∀ row ∈ results.rows, row.Fits results.columns) ∧
    (∀ rows, results.decodedRows = .ok rows ↔
      rows.map (List.map Cell.ofValue) = results.rows ∧
        ∀ values ∈ rows, values.map Value.type = results.columns.map Column.type) ∧
    ∀ error, results.decodedRows = .error error ↔
      ∃ front row back, results.rows = front ++ row :: back ∧
        (∀ other ∈ front, other.Fits results.columns) ∧
        Row.Refused results.columns row error := by
  refine ⟨⟨?_, fun hfits => ?_⟩, fun rows => ?_, fun error => ?_⟩
  · rintro ⟨rows, hrows⟩ row hrow
    exact exists_decodeRow_iff.mp (exists_ok_of_mem hrows row hrow)
  · obtain ⟨rows, hrows, _⟩ := Store.decodable_of_fits rfl hfits
    exact ⟨rows, hrows⟩
  · rw [decodedRows, mapM_eq_ok_iff]
    simp only [decodeRow_eq_ok_iff]
    exact forall₂_image_iff
  · rw [decodedRows, mapM_eq_error_iff]
    simp only [exists_decodeRow_iff, decodeRow_eq_error_iff]

/-- A row with a cell too many comes before one with a surrogate in its text, and then not. -/
example :
    let columns : List Column := [⟨"a", .int⟩, ⟨"b", .text⟩]
    let number : Cell := ⟨[0xFF, 0xFF, 0xFF, 0xFE]⟩
    let fits : Row := [number, ⟨[0x61]⟩]
    let broken : Row := [number, ⟨[0xED, 0xA0, 0x80]⟩]
    decodedRows ⟨columns, [fits, fits]⟩ =
        .ok [[.int (-2), .text "a"], [.int (-2), .text "a"]] ∧
      decodedRows ⟨columns, [fits, number :: fits, broken]⟩ =
        .error (.internal "row has 3 cells but results have 2 columns") ∧
      decodedRows ⟨columns, [fits, broken, number :: fits]⟩ =
        .error (.internal "invalid utf-8 sequence of 1 bytes from index 0") := by
  decide +kernel

end Results
end PocketSql
