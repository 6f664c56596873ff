import PocketSql.Cell
/-!
# Results of a selection

The columns that were selected and the selected cells of every row. Results can come from a remote
store, so their rows need not fit their columns; decoding checks that they do.
-/

namespace PocketSql

structure Results where
  columns : List Column := []
  rows : List Row := []
  deriving DecidableEq, Repr

namespace Results

/-- The values of a row under the given columns. -/
def decodeRow (columns : List Column) (row : Row) : Except Error (List Value) :=
  if row.length ≠ columns.length then
    .error (.internal ("row has " ++ toString row.length ++ " cells but results have " ++
      toString columns.length ++ " columns"))
  else
    (row.zip columns).mapM fun (cell, column) =>
      (cell.decode column.type).mapError Cell.Fault.toError

/-- The values of every row, or the error of the first row that cannot be decoded. -/
def decodedRows (results : Results) : Except Error (List (List Value)) :=
  results.rows.mapM (decodeRow results.columns)

end Results
end PocketSql
