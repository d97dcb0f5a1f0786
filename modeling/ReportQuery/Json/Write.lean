/-
# Writing JSON

The compact text of strings, lists and objects: no space between lexemes, and in
strings an escape only where one is needed.  Quotes, backslashes and control
characters are escaped, with a letter where there is one and else as `\u00xx`;
every other character stands for itself.

A binary floating-point number is written with the shortest digits that read
back to it in its own width, a half going to the even digit, and as `null` if it
is not finite.
-/

import ReportQuery.Decimal.Layout
import ReportQuery.Text.Hex

namespace ReportQuery
namespace Json

/-- The text of a character inside a string. -/
def escape (c : Char) : List Char :=
  match c with
  | '"' => ['\\', '"']
  | '\\' => ['\\', '\\']
  | '\x08' => ['\\', 'b']
  | '\x0c' => ['\\', 'f']
  | '\n' => ['\\', 'n']
  | '\r' => ['\\', 'r']
  | '\t' => ['\\', 't']
  | c =>
    if c.toNat < 0x20 then
      ['\\', 'u', '0', '0', Text.hexDigit (c.toNat / 16), Text.hexDigit (c.toNat % 16)]
    else [c]

/-- The text of a string. -/
def quote (s : String) : String := "\"" ++ String.ofList (s.toList.flatMap escape) ++ "\""

/-- The layout of 64-bit numbers: leading digits from `10 ^ -5` to `10 ^ 15`
without an exponent, always with a point. -/
def layout64 : Decimal.Layout :=
  { precision := .shortest .toEven
    positional := some (-5, 15)
    pointZero := true
    plusExponent := true
    infinity := "null"
    minusInfinity := "null"
    notANumber := "null" }

/-- The layout of 32-bit numbers: leading digits from `10 ^ -6` to `10 ^ 12`
without an exponent. -/
def layout32 : Decimal.Layout := { layout64 with positional := some (-6, 12) }

/-- The text of a 64-bit number. -/
def real (x : Float) : String := layout64.write (Decimal.readFloat x)

/-- The text of a 32-bit number. -/
def real32 (x : Float32) : String := layout32.write (Decimal.readFloat32 x)

/-- The text of a truth value. -/
def bool (b : Bool) : String := if b then "true" else "false"

/-- The text of a list of values, from their texts. -/
def list (values : List String) : String := "[" ++ ",".intercalate values ++ "]"

/-- The text of an object, from its keys and the texts of its values. -/
def object (members : List (String × String)) : String :=
  "\x7b" ++ ",".intercalate (members.map fun (key, value) => quote key ++ ":" ++ value) ++ "\x7d"

end Json
end ReportQuery
