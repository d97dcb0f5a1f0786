/-
# Stored values and scalars

A `Cell` is a value as an SQLite database stores it, in one of five classes.  A
`Scalar` is a value of one of the types that a caller can ask for; each type
names the classes that it accepts.  MySQL and PostgreSQL have classes and types of
their own, which are not described here.

| type | declared as | accepts |
| --- | --- | --- |
| 64, 32 and 16-bit integers | `INTEGER` | integers |
| 64 and 32-bit reals | `REAL` | reals |
| truth values | `BOOLEAN` | integers |
| strings | `TEXT` | texts |
| dates | `DATE` | texts |
| date-times | `DATETIME` | texts, integers, reals |
-/

import ReportQuery.BoundValue

namespace ReportQuery

/-- The classes of stored values. -/
inductive StorageClass where
  | null
  | integer
  | real
  | text
  | blob
deriving DecidableEq, Repr

/-- The name of a class. -/
def StorageClass.name : StorageClass → String
  | .null => "NULL"
  | .integer => "INTEGER"
  | .real => "REAL"
  | .text => "TEXT"
  | .blob => "BLOB"

/-- A value as SQLite stores it. -/
inductive Cell where
  | null
  | integer (n : Int64)
  | real (x : Float)
  | text (s : String)
  | blob (bytes : List UInt8)
  /-- A text whose bytes encode no characters. -/
  | garbled (bytes : List UInt8)
deriving DecidableEq

namespace Cell

/-- The class of a stored value. -/
def storageClass : Cell → StorageClass
  | .null => .null
  | .integer _ => .integer
  | .real _ => .real
  | .text _ | .garbled _ => .text
  | .blob _ => .blob

/-- A real, as it is stored: what is not a number is null. -/
def ofReal (x : Float) : Cell := if x.isNaN then .null else .real x

/-- A bound value, as an SQLite database gets it.  All integers and truth values
are integers, dates and date-times are texts, the latter with a blank between
date and time. -/
def ofBound : BoundValue → Cell
  | .string s => .text s
  | .int64 n => .integer n
  | .int32 n => .integer n.toInt64
  | .int16 n => .integer n.toInt64
  | .float64 x => ofReal x
  | .float32 x => ofReal x.toFloat
  | .bool b => .integer (if b then 1 else 0)
  | .date d => .text d.text
  | .dateTime t => .text (t.text " ")
  | .null => .null

end Cell

/-- The types of scalars. -/
inductive ScalarType where
  | int64
  | int32
  | int16
  | float64
  | float32
  | bool
  | string
  | date
  | dateTime
deriving DecidableEq, Repr

namespace ScalarType

/-- The name of a type in messages. -/
def name : ScalarType → String
  | .int64 => "i64"
  | .int32 => "i32"
  | .int16 => "i16"
  | .float64 => "f64"
  | .float32 => "f32"
  | .bool => "bool"
  | .string => "alloc::string::String"
  | .date => "chrono::naive::date::NaiveDate"
  | .dateTime => "chrono::naive::datetime::NaiveDateTime"

/-- How a column of a type is declared. -/
def declared : ScalarType → String
  | .int64 | .int32 | .int16 => "INTEGER"
  | .float64 | .float32 => "REAL"
  | .bool => "BOOLEAN"
  | .string => "TEXT"
  | .date => "DATE"
  | .dateTime => "DATETIME"

/-- Whether a type accepts values of a class, apart from null. -/
def accepts : ScalarType → StorageClass → Bool
  | .int64, .integer | .int32, .integer | .int16, .integer => true
  | .float64, .real | .float32, .real => true
  | .bool, .integer => true
  | .string, .text | .date, .text => true
  | .dateTime, .text | .dateTime, .integer | .dateTime, .real => true
  | _, _ => false

end ScalarType

/-- A value of one of the scalar types. -/
inductive Scalar where
  | int64 (n : Int64)
  | int32 (n : Int32)
  | int16 (n : Int16)
  | float64 (x : Float)
  | float32 (x : Float32)
  | bool (b : Bool)
  | string (s : String)
  | date (d : Calendar.Date)
  | dateTime (t : Calendar.DateTime)
deriving DecidableEq

namespace Scalar

/-- How reals are shown: the shortest digits, the larger of two equally near
ones, never with an exponent. -/
def shown : Decimal.Layout :=
  { precision := .shortest .away
    positional := none
    pointZero := false
    plusExponent := false
    infinity := "inf"
    minusInfinity := "-inf"
    notANumber := "NaN" }

/-- The text of a scalar. -/
def text : Scalar → String
  | .int64 n => toString n.toInt
  | .int32 n => toString n.toInt
  | .int16 n => toString n.toInt
  | .float64 x => shown.write (Decimal.readFloat x)
  | .float32 x => shown.write (Decimal.readFloat32 x)
  | .bool b => if b then "true" else "false"
  | .string s => s
  | .date d => d.text
  | .dateTime t => t.text " "

end Scalar

end ReportQuery
