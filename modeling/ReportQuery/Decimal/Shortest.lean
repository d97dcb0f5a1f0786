/-
# The decimal digits of a binary number

A decimal reads back to a binary number when it lies in the number's rounding
interval: the reals that are nearer to it than to any other number of its
format, with the two end points when the significand is even.  Of the decimals
in that interval the shortest are wanted, and of these the nearest.

With `v = m · 2 ^ q` and `s = max (-q) 0`, the value is a whole number of units
of `10 ^ -s`, and so are the end points after scaling by 4 (`Scaled`).  The
search then runs over multiples of `10 ^ z` for falling `z`: at each `z` only
the two multiples next to the value can be nearest (`Scaled.nearest?`), and at
`z = 0` the value itself is a candidate, so the search ends with digits that
read back.  When both neighbours are equally near, the choice is the printer's
(`Tie`).
-/

import ReportQuery.Decimal.Binary

namespace ReportQuery
namespace Decimal

/-- Which of two equally near candidates is taken. -/
inductive Tie where
  /-- The one whose last digit is even. -/
  | toEven
  /-- The larger one. -/
  | away
deriving DecidableEq, Repr

/-- A number and its rounding interval in quarters of `10 ^ -scale`. -/
structure Scaled where
  /-- The value in units of `10 ^ -scale`. -/
  value : Nat
  /-- The lower end of the interval, in quarter units. -/
  low : Nat
  /-- The upper end of the interval, in quarter units. -/
  high : Nat
  /-- Whether the ends belong to the interval. -/
  closed : Bool
  scale : Nat
deriving DecidableEq, Repr

/-- The rounding interval of a magnitude, in units that make it whole. -/
def Magnitude.scaled (m : Magnitude) : Scaled :=
  let scale := (-m.exponent).toNat
  let unit := Nat.pow 5 scale * Nat.pow 2 m.exponent.toNat
  { value := m.significand * unit
    low := (4 * m.significand - if m.narrowBelow then 1 else 2) * unit
    high := (4 * m.significand + 2) * unit
    closed := m.significand % 2 == 0
    scale }

namespace Scaled

/-- Whether `c` units of `10 ^ -scale` read back to the number. -/
def contains (s : Scaled) (c : Nat) : Bool :=
  if s.closed then s.low ≤ 4 * c && 4 * c ≤ s.high else s.low < 4 * c && 4 * c < s.high

/-- How many steps of `step` the nearest multiple of it in the interval has, if
one of the two multiples next to the value is in the interval at all. -/
def nearest? (s : Scaled) (tie : Tie) (step : Nat) : Option Nat :=
  let below := s.value / step
  let left := s.value % step
  let above := below + 1
  match s.contains (below * step), s.contains (above * step) with
  | false, false => none
  | true, false => some below
  | false, true => some above
  | true, true =>
    if 2 * left < step then some below
    else if step < 2 * left then some above
    else match tie with
      | .toEven => if below % 2 = 0 then some below else some above
      | .away => some above

/-- The coarsest grid of `10 ^ z` units, `z ≤ zeros`, with a point that reads
back: how many steps that point has, and `z`. -/
def search (s : Scaled) (tie : Tie) : Nat → Nat × Nat
  | 0 => (s.value, 0)
  | zeros + 1 =>
    match s.nearest? tie (Nat.pow 10 (zeros + 1)) with
    | some steps => (steps, zeros + 1)
    | none => s.search tie zeros

end Scaled

/-- How many decimal digits a natural number has. -/
def digitCount (n : Nat) : Nat := (Nat.toDigits 10 n).length

/-- Digits of a positive decimal: `0.d₁d₂… · 10 ^ pointAt`. -/
structure Digits where
  digits : List Char
  /-- How many digits stand before the decimal point; negative for zeros after it. -/
  pointAt : Int
deriving DecidableEq, Repr

/-- Drops the zeros at the end of a list of digits. -/
def dropFinalZeros (ds : List Char) : List Char := (ds.reverse.dropWhile (· == '0')).reverse

/-- The shortest digits that read back to the magnitude, and of these the nearest. -/
def Magnitude.shortest (m : Magnitude) (tie : Tie) : Digits :=
  let s := m.scaled
  let (steps, zeros) := s.search tie (digitCount s.value - 1)
  let ds := Nat.toDigits 10 steps
  { digits := dropFinalZeros ds
    pointAt := ds.length + (zeros : Int) - s.scale }

end Decimal
end ReportQuery
