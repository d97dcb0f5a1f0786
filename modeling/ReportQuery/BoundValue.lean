/-
# Bound values

A value that rides beside the text of a query and takes the place of one of its
placeholders.  Its kind is part of it: the same number bound at two widths is
two values.

A list of bound values is shown as a JSON list.  Dates and date-times are shown
as strings there, the latter with a `T` between date and time.
-/

import ReportQuery.Calendar.DateTime
import ReportQuery.Json.Write

namespace ReportQuery

/-- A bound value. -/
inductive BoundValue where
  | string (s : String)
  | int64 (n : Int64)
  | int32 (n : Int32)
  | int16 (n : Int16)
  | float64 (x : Float)
  | float32 (x : Float32)
  | bool (b : Bool)
  | date (d : Calendar.Date)
  | dateTime (t : Calendar.DateTime)
  | null
deriving DecidableEq

namespace BoundValue

/-- A value that may be missing, which is then null. -/
def ofOption {α : Type} (toBind : α → BoundValue) : Option α → BoundValue
  | some a => toBind a
  | none => .null

/-- The JSON text of a bound value. -/
def json : BoundValue → String
  | .string s => Json.quote s
  | .int64 n => toString n.toInt
  | .int32 n => toString n.toInt
  | .int16 n => toString n.toInt
  | .float64 x => Json.real x
  | .float32 x => Json.real32 x
  | .bool b => Json.bool b
  | .date d => Json.quote d.text
  | .dateTime t => Json.quote (t.text "T")
  | .null => "null"

/-- The JSON text of a list of bound values. -/
def listJson (binds : List BoundValue) : String := Json.list (binds.map json)

end BoundValue

end ReportQuery
