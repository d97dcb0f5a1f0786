/-
# Reading decimals in extended precision

A decimal is read as a whole number of its leading digits and a power of ten, and the
whole number is scaled in extended precision: by hundreds of powers, then by tens, then
by single ones.  Each step rounds, so the 64-bit number that comes out is near the
decimal, but not always the nearest one.

Digits are taken as long as the whole number stays below a tenth of what a word of 64
bits holds, and further ones only count (`absorb`).
-/

import ReportQuery.Decimal.Extended
import ReportQuery.Decimal.Reading

namespace ReportQuery
namespace Decimal

/-- From here on no digit is taken. -/
def absorbedBound : Nat := 1844674407370955160

/-- The number of the first digits behind others, and how many digits are left over. -/
def absorb (value : Nat) : List Char → Nat × Nat
  | [] => (value, 0)
  | c :: cs =>
    if absorbedBound ≤ value then (value, cs.length + 1)
    else absorb (10 * value + (c.toNat - '0'.toNat)) cs

/-- Takes powers of ten into a number as long as it is small; so many steps at most. -/
def absorbPowers : Nat → Nat × Int → Nat × Int
  | 0, s => s
  | steps + 1, (value, power) =>
    if 0 < power ∧ value ≤ absorbedBound then absorbPowers steps (10 * value, power - 1)
    else (value, power)

/-- Takes powers of ten out of a number as long as it can be divided; so many steps at
most. -/
def releasePowers : Nat → Nat × Int → Nat × Int
  | 0, s => s
  | steps + 1, (value, power) =>
    if power < 0 ∧ value % 10 = 0 then releasePowers steps (value / 10, power + 1)
    else (value, power)

namespace Extended

/-- A number times a power of ten, as many times. -/
def times (power : Int) : Nat → Extended → Extended
  | 0, x => x
  | count + 1, x => times power count (x.mul (.powerOfTen power))

/-- A number times a power of ten, by hundreds, by tens and by single powers. -/
def scale (power : Int) (x : Extended) : Extended :=
  let count := power.natAbs
  let unit : Int := if power < 0 then -1 else 1
  times unit (count % 10) (times (10 * unit) (count / 10 % 10) (times (100 * unit) (count / 100) x))

/-- The largest 64-bit number. -/
def largestFloat : Extended := ⟨9007199254740991, 971⟩

/-- The nearest 64-bit number; beyond the largest one there is only infinity. -/
def toFloat (x : Extended) : Float :=
  if !x.le largestFloat then 1.0 / 0.0
  else
    let places := (-x.exponent).toNat
    (Denoted.numeral
      ⟨false, x.significand * Nat.pow 2 x.exponent.toNat * Nat.pow 5 places, -(places : Int)⟩).toFloat

end Extended

/-- The 64-bit number that scaling in extended precision finds. -/
def Numeral.scaled (n : Numeral) : Float :=
  let n := n.clamped
  let (value, left) := absorb 0 (Nat.toDigits 10 n.significand)
  let (value, power) := releasePowers 20 (absorbPowers 20 (value, n.exponent + left))
  let x := if value = 0 then 0.0 else ((Extended.mk value 0).scale power).toFloat
  if n.negative then -x else x

end Decimal
end ReportQuery
