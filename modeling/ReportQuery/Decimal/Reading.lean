/-
# Reading decimal texts as binary numbers

A decimal text is an optional sign, digits with at most one decimal point among
or around them, and an optional exponent; `inf`, `infinity` and `nan` in any
case are the values without digits.  The value read is the nearest one of the
format, also when the decimal overflows (an infinity) or underflows (a zero of
its sign).

The exponent is looked at before any power of ten is formed: beyond
`10 ^ 400` every decimal rounds to an infinity and below `10 ^ -400` every
decimal rounds to zero, in both formats (`Numeral.clamped`).
-/

namespace ReportQuery
namespace Decimal

/-- A decimal `± significand · 10 ^ exponent`. -/
structure Numeral where
  negative : Bool
  significand : Nat
  exponent : Int
deriving DecidableEq, Repr

/-- What a decimal text denotes before it is rounded. -/
inductive Denoted where
  | numeral (n : Numeral)
  | infinite (negative : Bool)
  | notANumber
deriving DecidableEq, Repr

/-- The number that a list of decimal digits denotes. -/
def ofDigits (ds : List Char) : Nat := ds.foldl (fun n c => 10 * n + (c.toNat - '0'.toNat)) 0

theorem ofDigits_toDigits (n : Nat) : ofDigits (Nat.toDigits 10 n) = n :=
  Nat.ofDigitChars_ten_toDigits

/-- Splits a sign off; a missing sign is positive. -/
def takeSign : List Char → Bool × List Char
  | '-' :: cs => (true, cs)
  | '+' :: cs => (false, cs)
  | cs => (false, cs)

/-- An exponent part up to the end of the text; no exponent part is zero. -/
def readExponent? : List Char → Option Int
  | [] => some 0
  | c :: cs =>
    let (negative, ds) := takeSign cs
    if (c == 'e' || c == 'E') && !ds.isEmpty && ds.all Char.isDigit then
      some (if negative then -(ofDigits ds : Int) else ofDigits ds)
    else none

/-- An unsigned decimal up to the end of the text. -/
def readUnsigned? (negative : Bool) (cs : List Char) : Option Denoted :=
  let whole := cs.takeWhile Char.isDigit
  let rest := cs.dropWhile Char.isDigit
  let (fraction, rest) := match rest with
    | '.' :: rest => (rest.takeWhile Char.isDigit, rest.dropWhile Char.isDigit)
    | _ => ([], rest)
  if whole.isEmpty && fraction.isEmpty then
    match String.ofList (cs.map Char.toLower) with
    | "inf" | "infinity" => some (.infinite negative)
    | "nan" => some .notANumber
    | _ => none
  else
    (readExponent? rest).map fun exponent =>
      .numeral ⟨negative, ofDigits (whole ++ fraction), exponent - fraction.length⟩

/-- What a decimal text denotes, if it is one. -/
def read? (text : String) : Option Denoted :=
  let (negative, cs) := takeSign text.toList
  readUnsigned? negative cs

/-- The numeral with an exponent small enough to compute with, of the same
rounded value in both formats. -/
def Numeral.clamped (n : Numeral) : Numeral :=
  let size : Int := (Nat.toDigits 10 n.significand).length
  if n.significand = 0 then ⟨n.negative, 0, 0⟩
  else if 400 < size + n.exponent then ⟨n.negative, 1, 400⟩
  else if size + n.exponent < -400 then ⟨n.negative, 1, -400⟩
  else n

/-- The nearest 64-bit number. -/
def Denoted.toFloat : Denoted → Float
  | .notANumber => 0.0 / 0.0
  | .infinite negative => if negative then -(1.0 / 0.0) else 1.0 / 0.0
  | .numeral n =>
    let n := n.clamped
    let x := Float.ofScientific n.significand (n.exponent < 0) n.exponent.natAbs
    if n.negative then -x else x

/-- The nearest 32-bit number. -/
def Denoted.toFloat32 : Denoted → Float32
  | .notANumber => 0.0 / 0.0
  | .infinite negative => if negative then -(1.0 / 0.0) else 1.0 / 0.0
  | .numeral n =>
    let n := n.clamped
    let x := Float32.ofScientific n.significand (n.exponent < 0) n.exponent.natAbs
    if n.negative then -x else x

/-- The 64-bit number that a decimal text denotes. -/
def readFloat? (text : String) : Option Float := (read? text).map Denoted.toFloat

/-- The 32-bit number that a decimal text denotes. -/
def readFloat32? (text : String) : Option Float32 := (read? text).map Denoted.toFloat32

end Decimal
end ReportQuery
