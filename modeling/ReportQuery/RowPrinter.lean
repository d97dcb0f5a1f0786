/-
# Printing rows

A handler that prints each row as one line: a running label, and each column
with its value.

    1. id=1, name=a
    2. id=2, name=NULL

A value is shown by the first type that can read it, of those in `cellTypes`.  A
text that reads as a date or as a date-time is thus shown in their normal form,
and a value that no type can read is shown as a question mark.  Which types can read
a value is told for SQLite; with MySQL and PostgreSQL others are skipped.
-/

import ReportQuery.Execution
import ReportQuery.Label

namespace ReportQuery

/-- The types by which a value is read for printing, in the order in which they are tried. -/
def cellTypes : List ScalarType :=
  [.int64, .int32, .int16, .float64, .float32, .bool, .date, .dateTime, .string]

/-- The text of a scalar that may be missing. -/
def scalarText : Option Scalar → String
  | some value => value.text
  | none => "NULL"

/-- The text of a stored value in a line. -/
def cellText (c : Cell) : String :=
  ((cellTypes.findSome? fun t => (t.decodeOptional c).toOption).map scalarText).getD "?"

/-- What a printer keeps: the names of the columns, the labels to come, the number
of rows and the lines printed. -/
structure RowPrinter where
  columns : List String := []
  labels : LabelSequence := {}
  rows : Nat := 0
  lines : List String := []
deriving DecidableEq

namespace RowPrinter

/-- The line of a row under a label. -/
def line (columns : List String) (label : String) (cells : List Cell) : String :=
  label ++ ". " ++
    ", ".intercalate ((columns.zip cells).map fun (column, c) => column ++ "=" ++ cellText c)

/-- Prints a row. -/
def print (p : RowPrinter) (row : Row) : RowPrinter :=
  let (label, labels) := p.labels.next
  { p with
    labels
    rows := p.rows + 1
    lines := p.lines ++ [line p.columns label row.cells] }

/-- The printer as a handler. -/
def handler : Handler RowPrinter where
  init columns p := (.ok (), { p with columns })
  handle row p := (.ok (), p.print row)

end RowPrinter

end ReportQuery
