/-
# Binary floating-point numbers, read exactly

A word of an IEEE 754 binary format is a sign bit, an exponent field and a
fraction field.  This module reads the fields of the two formats in use and
gives the value of a finite word exactly, as `significand · 2 ^ exponent`:

| format | exponent bits | fraction bits | bias |
| --- | ---: | ---: | ---: |
| `binary64` | 11 | 52 | 1023 |
| `binary32` | 8 | 23 | 127 |

An exponent field of all ones is an infinity or a NaN, an exponent field of
zero has no hidden bit.  Only the smallest significand of a binade above the
first normal one has a gap below it that is half the gap above it
(`Magnitude.narrowBelow`), which is what a printer of shortest digits needs.
-/

namespace ReportQuery
namespace Decimal

/-- The widths of the two fields of a binary interchange format. -/
structure BinaryFormat where
  exponentBits : Nat
  fractionBits : Nat
deriving DecidableEq, Repr

/-- The 64-bit format. -/
def binary64 : BinaryFormat := ⟨11, 52⟩

/-- The 32-bit format. -/
def binary32 : BinaryFormat := ⟨8, 23⟩

namespace BinaryFormat

/-- What the exponent field of 1 stands for below zero. -/
def bias (f : BinaryFormat) : Nat := Nat.pow 2 (f.exponentBits - 1) - 1

/-- The exponent of the last fraction bit in the first two binades. -/
def leastExponent (f : BinaryFormat) : Int := 1 - (f.bias : Int) - f.fractionBits

end BinaryFormat

/-- The absolute value `significand · 2 ^ exponent` of a finite word. -/
structure Magnitude where
  significand : Nat
  exponent : Int
  /-- The next smaller value is only half as far away as the next larger one. -/
  narrowBelow : Bool
deriving DecidableEq, Repr

/-- The whole part of a magnitude. -/
def Magnitude.wholePart (m : Magnitude) : Nat :=
  m.significand * Nat.pow 2 m.exponent.toNat / Nat.pow 2 (-m.exponent).toNat

/-- What a word stands for; the flag says whether the sign bit is set. -/
inductive Reading where
  | finite (negative : Bool) (magnitude : Magnitude)
  | infinite (negative : Bool)
  | notANumber
deriving DecidableEq, Repr

namespace BinaryFormat

/-- The fields of a word: sign bit, exponent field, fraction field. -/
def fields (f : BinaryFormat) (word : Nat) : Bool × Nat × Nat :=
  (word / Nat.pow 2 (f.fractionBits + f.exponentBits) % 2 == 1,
    word / Nat.pow 2 f.fractionBits % Nat.pow 2 f.exponentBits,
    word % Nat.pow 2 f.fractionBits)

/-- Reads a word of the format. -/
def read (f : BinaryFormat) (word : Nat) : Reading :=
  let (negative, field, fraction) := f.fields word
  if field = Nat.pow 2 f.exponentBits - 1 then
    if fraction = 0 then .infinite negative else .notANumber
  else if field = 0 then
    .finite negative ⟨fraction, f.leastExponent, false⟩
  else
    .finite negative
      ⟨Nat.pow 2 f.fractionBits + fraction, f.leastExponent + (field - 1 : Nat),
        fraction == 0 && decide (1 < field)⟩

end BinaryFormat

/-- Reads a 64-bit number. -/
def readFloat (x : Float) : Reading := binary64.read x.toBits.toNat

/-- Reads a 32-bit number. -/
def readFloat32 (x : Float32) : Reading := binary32.read x.toBits.toNat

end Decimal
end ReportQuery
