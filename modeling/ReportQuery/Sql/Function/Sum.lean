/-
# Running sums

A sum of numbers that is kept while values come and go.  It is an integer as long as there
are only integers and they fit; from then on it is a real, with the error that its roundings
have left, and it stays one also when the values are gone that made it so.
-/

import ReportQuery.Sql.Fault
import ReportQuery.Sql.Value

namespace ReportQuery
namespace Sql

/-- A sum of reals with the error that its roundings have left. -/
structure RealSum where
  sum : Float := 0.0
  error : Float := 0.0

namespace RealSum

/-- Adds a real, and keeps what rounding takes away. -/
def add (s : RealSum) (x : Float) : RealSum :=
  let total := s.sum + x
  let lost :=
    if x.abs < s.sum.abs then (s.sum - total) + x else (x - total) + s.sum
  ⟨total, s.error + lost⟩

/-- An integer as reals that hold it exactly: itself, or two parts if it is too large. -/
def parts (n : Int) : List Float :=
  if -4503599627370496 < n ∧ n < 4503599627370496 then [Float.ofInt n]
  else
    let small := Int.tmod n 16384
    [Float.ofInt (n - small), Float.ofInt small]

/-- Adds an integer. -/
def addWhole (s : RealSum) (n : Int) : RealSum := (parts n).foldl add s

/-- An integer to begin with. -/
def ofWhole (n : Int) : RealSum :=
  match parts n with
  | [large, small] => ⟨large, small⟩
  | parts => ⟨parts.headD 0.0, 0.0⟩

/-- The sum with its error. -/
def value (s : RealSum) : Float := if s.error.isFinite then s.sum + s.error else s.sum

end RealSum

/-- A sum of so many numbers, which is a real if there is one. -/
structure RunningSum where
  count : Nat := 0
  whole : Int64 := 0
  real : Option RealSum := none
  /-- Whether integers have left their bounds, with no real behind them. -/
  isTooLarge : Bool := false

namespace RunningSum

/-- Adds a value; null is left out. -/
def add (s : RunningSum) (v : Value) : RunningSum :=
  if v = .null then s
  else
    let s := { s with count := s.count + 1 }
    match s.real, v.numberIfComplete with
    | none, .integer n =>
      if fits (s.whole.toInt + n.toInt) then { s with whole := s.whole + n }
      else { s with
        real := some ((RealSum.ofWhole s.whole.toInt).addWhole n.toInt)
        isTooLarge := true }
    | none, v => { s with real := some ((RealSum.ofWhole s.whole.toInt).add v.asReal) }
    | some r, .integer n => { s with real := some (r.addWhole n.toInt) }
    | some r, v => { s with real := some (r.add v.asReal), isTooLarge := false }

/-- Takes a value away that has been added. -/
def remove (s : RunningSum) (v : Value) : RunningSum :=
  if v = .null then s
  else
    let s := { s with count := s.count - 1 }
    match s.real, v.numberIfComplete with
    | none, v => { s with whole := s.whole - v.asInteger }
    | some r, .integer n =>
      if n = Int64.minValue then
        { s with real := some ((r.addWhole Int64.maxValue.toInt).addWhole 1) }
      else { s with real := some (r.addWhole (-n.toInt)) }
    | some r, v => { s with real := some (r.add (-v.asReal)) }

/-- The sum as a real. -/
def toFloat (s : RunningSum) : Float :=
  match s.real with
  | none => s.whole.toFloat
  | some r => r.value

/-- What `sum`, `total` or `avg` makes of the sum. -/
def value (name : String) (s : RunningSum) : Except Fault Value :=
  match name with
  | "total" => .ok (.ofReal s.toFloat)
  | "avg" => .ok (if s.count = 0 then .null else .ofReal (s.toFloat / s.count.toFloat))
  | _ =>
    if s.count = 0 then .ok .null
    else match s.real with
      | none => .ok (.integer s.whole)
      | some r => if s.isTooLarge then .error .integerOverflow else .ok (.ofReal r.value)

end RunningSum

end Sql
end ReportQuery
