/-
# How a number's digits are laid out as text

A `Layout` settles the text of a binary floating-point number: which digits are
written, between which exponents they stand around a decimal point, whether a
whole number ends in `.0`, how an exponent looks, and how the values without
digits are spelt.  The exponent meant is that of the leading digit, so 1 has
exponent 0 and 0.1 has exponent -1.
-/

import ReportQuery.Decimal.Extended

namespace ReportQuery
namespace Decimal

/-- Which digits of a number are written. -/
inductive Precision where
  /-- The fewest that read back to it. -/
  | shortest (tie : Tie)
  /-- So many, found in extended precision, without the zeros at their end. -/
  | significant (count : Nat)
deriving DecidableEq, Repr

/-- The digits of a magnitude at a precision. -/
def Magnitude.digitsAt (m : Magnitude) : Precision → Digits
  | .shortest tie => m.shortest tie
  | .significant count => m.significant count

/-- The decisions of one way of writing floating-point numbers. -/
structure Layout where
  precision : Precision
  /-- The least and the largest exponent of the leading digit that are written
  without an exponent; `none` if all are. -/
  positional : Option (Int × Int)
  /-- Whether a whole number written without an exponent ends in `.0`. -/
  pointZero : Bool
  /-- Whether a positive exponent is written with a plus sign. -/
  plusExponent : Bool
  /-- Whether a lone digit before an exponent is followed by `.0`. -/
  pointZeroExponent : Bool := false
  /-- The least number of digits of an exponent. -/
  exponentWidth : Nat := 1
  /-- Whether a zero keeps its sign. -/
  signedZero : Bool := true
  infinity : String
  minusInfinity : String
  notANumber : String
deriving DecidableEq, Repr

namespace Layout

/-- The sign that is written in front of a number. -/
def sign (negative : Bool) : String := if negative then "-" else ""

/-- Digits around a decimal point, without an exponent. -/
def point (l : Layout) (d : Digits) : String :=
  let count := d.digits.length
  if d.pointAt ≤ 0 then
    "0." ++ String.ofList (List.replicate (-d.pointAt).toNat '0' ++ d.digits)
  else if d.pointAt.toNat < count then
    String.ofList (d.digits.take d.pointAt.toNat) ++ "." ++
      String.ofList (d.digits.drop d.pointAt.toNat)
  else
    String.ofList (d.digits ++ List.replicate (d.pointAt.toNat - count) '0') ++
      if l.pointZero then ".0" else ""

/-- The text of an exponent of ten. -/
def exponentText (l : Layout) (exponent : Int) : String :=
  let ds := Nat.toDigits 10 exponent.natAbs
  "e" ++ (if exponent < 0 then "-" else if l.plusExponent then "+" else "") ++
    String.ofList (List.replicate (l.exponentWidth - ds.length) '0' ++ ds)

/-- One digit before the point, and the exponent of ten. -/
def scientific (l : Layout) (d : Digits) : String :=
  let fraction := d.digits.drop 1
  String.ofList (d.digits.take 1) ++
    (if fraction.isEmpty then (if l.pointZeroExponent then ".0" else "")
      else "." ++ String.ofList fraction) ++
    l.exponentText (d.pointAt - 1)

/-- Whether a leading digit of this exponent is written without an exponent. -/
def isPositional (l : Layout) (exponent : Int) : Bool :=
  match l.positional with
  | none => true
  | some (least, largest) => least ≤ exponent && exponent ≤ largest

/-- The text of a positive number of these digits. -/
def digits (l : Layout) (d : Digits) : String :=
  if l.isPositional (d.pointAt - 1) then l.point d else l.scientific d

/-- The text of a reading. -/
def write (l : Layout) : Reading → String
  | .notANumber => l.notANumber
  | .infinite negative => if negative then l.minusInfinity else l.infinity
  | .finite negative m =>
    sign (negative && (l.signedZero || m.significand != 0)) ++
      if m.significand = 0 then (if l.pointZero then "0.0" else "0")
      else l.digits (m.digitsAt l.precision)

end Layout

end Decimal
end ReportQuery
