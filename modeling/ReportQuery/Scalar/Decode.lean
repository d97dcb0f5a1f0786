/-
# Reading stored values as scalars

A stored value is read as a scalar of a type that accepts its class.  Null is
read as no value where a value may be missing (`ScalarType.decodeOptional`);
where one is required it is read like a zero or an empty text, whatever the type
(`ScalarType.decode`).

A date-time may be stored as a text, as seconds since the start of 1970 or as a
Julian day.

These are the rules of SQLite.  A `Row` holds SQLite values whatever database it is
said to come from, so what a value is read as is told for SQLite only; a row that is
passed on and not read may stand for one of any database.
-/

import ReportQuery.Calendar.Pattern
import ReportQuery.Error

namespace ReportQuery

/-- An integer within the bounds of a type. -/
def withinBounds (least largest n : Int) : Except DecodeFault Int :=
  if n < least then .error .tooSmall
  else if largest < n then .error .tooLarge
  else .ok n

namespace Cell

/-- How a database turns a real into a text: fifteen digits at most, always with
a point, and a zero without a sign. -/
def realText : Decimal.Layout :=
  { precision := .significant 15
    positional := some (-4, 14)
    pointZero := true
    plusExponent := true
    pointZeroExponent := true
    exponentWidth := 2
    signedZero := false
    infinity := "Inf"
    minusInfinity := "-Inf"
    notANumber := "" }

/-- A stored value as an integer. -/
def toInt : Cell → Int
  | .integer n => n.toInt
  | _ => 0

/-- A stored value as a real. -/
def toFloat : Cell → Float
  | .real x => x
  | _ => 0.0

/-- A stored value as a text. -/
def toText : Cell → String
  | .text s => s
  | .integer n => toString n.toInt
  | .real x => realText.write (Decimal.readFloat x)
  | _ => ""

/-- A stored value as a date-time. -/
def toDateTime? : Cell → Option Calendar.DateTime
  | .integer n => Calendar.DateTime.ofUnix? n.toInt 0
  | .real x => Calendar.DateTime.ofJulianDay? x
  | c => Calendar.readDateTime? c.toText

end Cell

namespace ScalarType

/-- Reads a stored value whose class the type accepts, and which is no garbled text. -/
def convertReadable (t : ScalarType) (c : Cell) : Except DecodeFault Scalar :=
  match t with
  | .int64 => .ok (.int64 (Int64.ofInt c.toInt))
  | .int32 => (withinBounds (-2147483648) 2147483647 c.toInt).map fun n => .int32 (Int32.ofInt n)
  | .int16 => (withinBounds (-32768) 32767 c.toInt).map fun n => .int16 (Int16.ofInt n)
  | .float64 => .ok (.float64 c.toFloat)
  | .float32 => .ok (.float32 c.toFloat.toFloat32)
  | .bool => .ok (.bool (c.toInt != 0))
  | .string => .ok (.string c.toText)
  | .date => (Calendar.readDate c.toText).mapError .notADate |>.map .date
  | .dateTime =>
    match c.toDateTime? with
    | some t => .ok (.dateTime t)
    | none => .error (.notADateTime c.toText)

/-- Reads a stored value whose class the type accepts. -/
def convert (t : ScalarType) (c : Cell) : Except DecodeFault Scalar :=
  match c with
  | .garbled bytes =>
    match Text.readUtf8? bytes with
    | .ok s => t.convertReadable (.text s)
    | .error fault => .error (.notUtf8 fault)
  | c => t.convertReadable c

/-- Reads a stored value where a value is required. -/
def decode (t : ScalarType) (c : Cell) : Except DecodeFault Scalar :=
  if c = .null ∨ t.accepts c.storageClass then t.convert c
  else .error (.mismatch t false c.storageClass)

/-- Reads a stored value where a value may be missing. -/
def decodeOptional (t : ScalarType) (c : Cell) : Except DecodeFault (Option Scalar) :=
  if c = .null then .ok none
  else if t.accepts c.storageClass then (t.convert c).map some
  else .error (.mismatch t true c.storageClass)

end ScalarType

/-- A row of a result: the names of its columns, and its values as SQLite stores them. -/
structure Row where
  columns : List String
  cells : List Cell
deriving DecidableEq

namespace Row

/-- Reads the value at an index in some way. -/
def read {α : Type} (r : Row) (decode : Cell → Except DecodeFault α) (index : Nat) :
    Except DatabaseError α :=
  match r.cells[index]? with
  | none => .error (.columnOutOfBounds index r.cells.length)
  | some c => (decode c).mapError (.decoding index)

end Row

end ReportQuery
