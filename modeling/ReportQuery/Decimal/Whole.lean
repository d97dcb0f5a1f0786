/-
# Reading whole numbers within bounds

A whole number is a list of decimal digits, with or without a plus sign, whose
value is not above a bound.  The first character that is no digit is a fault,
unless the digits before it are too large already.
-/

import ReportQuery.Decimal.Reading

namespace ReportQuery
namespace Decimal

/-- Why a text is no whole number within a bound. -/
inductive WholeFault where
  | empty
  | invalidDigit
  | tooLarge
deriving DecidableEq, Repr

/-- The wording of a fault in a whole number. -/
def WholeFault.message : WholeFault → String
  | .empty => "cannot parse integer from empty string"
  | .invalidDigit => "invalid digit found in string"
  | .tooLarge => "number too large to fit in target type"

/-- Reads digits behind the digits of a number that is known. -/
def readDigits (largest value : Nat) : List Char → Except WholeFault Nat
  | [] => .ok value
  | c :: cs =>
    let next := 10 * value + (c.toNat - '0'.toNat)
    if !c.isDigit then .error .invalidDigit
    else if largest < next then .error .tooLarge
    else readDigits largest next cs

/-- Reads a whole number of at most the value `largest`. -/
def readWhole (largest : Nat) : List Char → Except WholeFault Nat
  | [] => .error .empty
  | ['+'] | ['-'] => .error .invalidDigit
  | '+' :: cs => readDigits largest 0 cs
  | cs => readDigits largest 0 cs

end Decimal
end ReportQuery
