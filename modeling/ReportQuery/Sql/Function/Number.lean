/-
# Functions of numbers

The absolute value, the sign, and rounding to decimal places.  What is no number counts
for the number that it begins with.
-/

import ReportQuery.Sql.Fault
import ReportQuery.Sql.Value

namespace ReportQuery
namespace Sql

/-- The absolute value. -/
def absolute : Value → Except Fault Value
  | .null => .ok .null
  | .integer n =>
    if n = Int64.minValue then .error .integerOverflow else .ok (.integer (if n < 0 then -n else n))
  | c => .ok (.real (if c.asReal < 0.0 then -c.asReal else c.asReal))

/-- The sign of a number: -1, 0 or 1; null for anything else. -/
def signOf (c : Value) : Value :=
  match c.numberIfComplete with
  | .integer n => .integer (if n < 0 then -1 else if 0 < n then 1 else 0)
  | .real x => .integer (if x < 0.0 then -1 else if 0.0 < x then 1 else 0)
  | _ => .null

/-- The largest real beyond which there are no fractions. -/
def largestFraction : Float := 4503599627370496.0

/-- A magnitude rounded to some decimal places, a half away from zero. -/
def roundedAt (places : Nat) (m : Decimal.Magnitude) : Decimal.Numeral :=
  let (value, power) := m.leading
  if 0 ≤ power + places then ⟨false, value, power⟩
  else
    let step := Nat.pow 10 (-(power + places)).toNat
    ⟨false, (2 * value + step) / (2 * step), -(places : Int)⟩

/-- A real rounded to some decimal places. -/
def roundReal (places : Nat) (x : Float) : Float :=
  if x < -largestFraction || largestFraction < x then x
  else if places = 0 then (x + (if x < 0.0 then -0.5 else 0.5)).toInt64.toFloat
  else match Decimal.readFloat x with
    | .finite negative m =>
      let rounded := (roundedAt places m).scaled
      if negative then -rounded else rounded
    | _ => x

/-- The most decimal places that are rounded to. -/
def mostPlaces : Nat := 30

/-- The number of places that a value asks for. -/
def placesOf (c : Value) : Nat := min mostPlaces c.asInteger.toInt32.toInt.toNat

end Sql
end ReportQuery
