/-
# Escapes and parameters of a URL

In a URL `%` with two hexadecimal digits stands for a byte.  The bytes of a name or
a path are read as UTF-8, where it is a fault if they are none.

The part behind the question mark is a list of parameters, `name=value` joined by
`&`.  There a plus stands for a blank, and what is no UTF-8 is replaced.  Empty
parts are left out, and a part without `=` has an empty value.
-/

import ReportQuery.Error
import ReportQuery.Text.Cut
import ReportQuery.Text.Hex

namespace ReportQuery
namespace Endpoint

/-- The value of two bytes that are hexadecimal digits. -/
def escapedByte? (high low : UInt8) : Option UInt8 := do
  let h ← Text.hexValue? (Char.ofNat high.toNat)
  let l ← Text.hexValue? (Char.ofNat low.toNat)
  return (h * 16 + l).toUInt8

/-- Puts a byte in the place of each `%` with two digits. -/
def unescape : List UInt8 → List UInt8
  | [] => []
  | b :: bytes =>
    match bytes with
    | high :: low :: rest =>
      if b = '%'.toUInt8 then
        match escapedByte? high low with
        | some byte => byte :: unescape rest
        | none => b :: unescape (high :: low :: rest)
      else b :: unescape (high :: low :: rest)
    | bytes => b :: bytes

/-- The text that stands in a URL in escaped form. -/
def decode (cs : List Char) : Except SettingsFault String :=
  (Text.readUtf8? (unescape (Text.bytes cs))).mapError .notUtf8

/-- The text that stands in a name or value in escaped form. -/
def decodeParameter (cs : List Char) : String :=
  Text.readUtf8 (unescape (Text.bytes (cs.map fun c => if c = '+' then ' ' else c)))

/-- The names and values of a list of parameters. -/
def parameters (cs : List Char) : List (String × String) :=
  ((Text.parts '&' cs).filter (· != [])).map fun part =>
    let (name, value) := Text.cut '=' part
    (decodeParameter name, decodeParameter value)

end Endpoint
end ReportQuery
