/-
# Digits found in extended precision

A number of extended precision has a significand of 64 bits.  Products are
rounded to it, to the nearest and on a tie to an even significand.

The leading digits of a binary number are found by scaling it with powers of ten
in this precision until its whole part has eighteen or nineteen digits
(`Magnitude.leading`).  The scaling is not exact, so the last of these digits may
be off; fewer digits are then made from them by rounding once more
(`Magnitude.significant`), and what lies a little below a half may be taken for
the half.
-/

import ReportQuery.Decimal.Shortest

namespace ReportQuery
namespace Decimal

/-- The number `significand · 2 ^ exponent`. -/
structure Extended where
  significand : Nat
  exponent : Int
deriving DecidableEq, Repr

namespace Extended

/-- How many bits a significand has at most. -/
def precision : Nat := 64

/-- The number of extended precision nearest to `n · 2 ^ exponent`. -/
def nearest (n : Nat) (exponent : Int) : Extended :=
  let excess := n.log2 + 1 - precision
  let unit := Nat.pow 2 excess
  let below := n / unit
  let left := n % unit
  let up := unit < 2 * left || (2 * left == unit && below % 2 == 1)
  ⟨if up then below + 1 else below, exponent + excess⟩

/-- The power of ten nearest to `10 ^ n`.  Of a fraction, which never ends in
binary, as many bits are taken as the rounding looks at. -/
def powerOfTen : Int → Extended
  | .ofNat n => nearest (Nat.pow 5 n) n
  | .negSucc n =>
    let five := Nat.pow 5 (n + 1)
    let shift := precision + 2 + five.log2
    nearest (2 * (Nat.pow 2 shift / five) + 1) (-(shift + 1 : Nat) - (n + 1 : Nat))

/-- The product of two numbers. -/
def mul (x y : Extended) : Extended :=
  nearest (x.significand * y.significand) (x.exponent + y.exponent)

/-- Whether a number is not above another one. -/
def le (x y : Extended) : Bool :=
  let least := min x.exponent y.exponent
  x.significand * Nat.pow 2 (x.exponent - least).toNat ≤
    y.significand * Nat.pow 2 (y.exponent - least).toNat

/-- The whole part of a number. -/
def wholePart (x : Extended) : Nat :=
  x.significand * Nat.pow 2 x.exponent.toNat / Nat.pow 2 (-x.exponent).toNat

end Extended

/-- A number of extended precision times a power of ten. -/
structure Shifted where
  number : Extended
  power : Int
deriving DecidableEq, Repr

namespace Shifted

/-- Moves some powers of ten out of the number. -/
def shift (s : Shifted) (powers : Int) : Shifted :=
  ⟨s.number.mul (.powerOfTen (-powers)), s.power + powers⟩

/-- Moves powers of ten out of the number as long as it is at least `10 ^ bound`,
so many times at most. -/
def shrink (powers bound : Nat) : Nat → Shifted → Shifted
  | 0, s => s
  | times + 1, s =>
    if (Extended.powerOfTen bound).le s.number then shrink powers bound times (s.shift powers)
    else s

/-- Moves powers of ten into the number as long as it is less than `10 ^ bound`,
so many times at most. -/
def enlarge (powers : Nat) (bound : Int) : Nat → Shifted → Shifted
  | 0, s => s
  | times + 1, s =>
    if (Extended.powerOfTen bound).le s.number then s
    else enlarge powers bound times (s.shift (-powers))

end Shifted

/-- The whole number of eighteen or nineteen digits that begins a magnitude, and the
power of ten that it is to be multiplied with.  The hundred steps do not end any of
the loops before its bound is reached. -/
def Magnitude.leading (m : Magnitude) : Nat × Int :=
  let s : Shifted := ⟨⟨m.significand, m.exponent⟩, 0⟩
  let s :=
    if (Extended.powerOfTen 19).le s.number then
      ((s.shrink 100 119 100).shrink 10 29 100).shrink 1 19 100
    else ((s.enlarge 100 (-97) 100).enlarge 10 7 100).enlarge 1 17 100
  (s.number.wholePart, s.power)

/-- The first `count` digits of the magnitude, a half of the leading digits going up. -/
def Magnitude.significant (m : Magnitude) (count : Nat) : Digits :=
  let (value, power) := m.leading
  let size := digitCount value
  let step := Nat.pow 10 (size - count)
  let ds := Nat.toDigits 10 ((2 * value + step) / (2 * step))
  { digits := dropFinalZeros ds
    pointAt := ds.length + ((size - count : Nat) : Int) + power }

/-- How far digits are written. -/
inductive Extent where
  /-- Up to so many places behind the point. -/
  | places (count : Nat)
  /-- So many digits from the first one on. -/
  | digits (count : Nat)
deriving DecidableEq, Repr

/-- The first digits of the magnitude, no more than `most`.  Where none of them is wanted,
but the place in front of them, a half still goes up to it. -/
def Magnitude.rounded (m : Magnitude) (most : Nat) (extent : Extent) : Digits :=
  let (value, power) := m.leading
  let size := digitCount value
  let pointAt := (size : Int) + power
  let wanted : Int := match extent with
    | .places count => pointAt + count
    | .digits count => count
  let kept := if wanted < 0 then size else min wanted.toNat most
  let step := Nat.pow 10 (size - kept)
  if kept < size ∧ (0 < kept ∨ step ≤ 2 * value) then
    let ds := Nat.toDigits 10 ((2 * value + step) / (2 * step))
    ⟨dropFinalZeros ds, ds.length + ((size - kept : Nat) : Int) + power⟩
  else ⟨dropFinalZeros (Nat.toDigits 10 value), pointAt⟩

end Decimal
end ReportQuery
