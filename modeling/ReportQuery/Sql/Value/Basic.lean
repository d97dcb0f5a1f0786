/-
# Values in statements

A value within a statement is a stored value.  A text may also be known to be a JSON
document, as long as it goes from one function of documents to another one, or it may be
garbled: its bytes encode no characters.  Most of what is computed of a text takes a garbled
one for the characters that can be read of it, with U+FFFD for all else.
-/

import ReportQuery.Scalar.Decode

namespace ReportQuery
namespace Sql

/-- A value within a statement. -/
inductive Value where
  | null
  | integer (n : Int64)
  | real (x : Float)
  | text (s : String)
  | blob (bytes : List UInt8)
  /-- A text that is known to be a JSON document. -/
  | document (s : String)
  | garbled (bytes : List UInt8)
deriving DecidableEq

namespace Value

/-- A stored value within a statement. -/
def ofCell : Cell → Value
  | .null => .null
  | .integer n => .integer n
  | .real x => .real x
  | .text s => .text s
  | .blob bytes => .blob bytes
  | .garbled bytes => .garbled bytes

/-- A value as it is stored. -/
def toCell : Value → Cell
  | .null => .null
  | .integer n => .integer n
  | .real x => .real x
  | .text s | .document s => .text s
  | .blob bytes => .blob bytes
  | .garbled bytes => .garbled bytes

/-- A value of which it is not known that it is a document. -/
def plain : Value → Value
  | .document s => .text s
  | v => v

/-- The class of a value. -/
def storageClass (v : Value) : StorageClass := v.toCell.storageClass

/-- A real as a value: what is not a number is null. -/
def ofReal (x : Float) : Value := if x.isNaN then .null else .real x

/-- The text of bytes, which is garbled if they encode no characters. -/
def ofTextBytes (bytes : List UInt8) : Value :=
  match Text.readUtf8? bytes with
  | .ok s => .text s
  | .error _ => .garbled bytes

/-- The text of an integer. -/
def integerText (n : Int64) : String := toString n.toInt

/-- The text of a real. -/
def realText (x : Float) : String := Cell.realText.write (Decimal.readFloat x)

/-- The bytes of a value: those of its text form, unless it has bytes itself. -/
def bytes : Value → List UInt8
  | .null => []
  | .integer n => Text.bytes (integerText n).toList
  | .real x => Text.bytes (realText x).toList
  | .text s | .document s => Text.bytes s.toList
  | .blob bytes | .garbled bytes => bytes

/-- The characters of a value: those of its text form, or those that its bytes encode. -/
def chars : Value → List Char
  | .null => []
  | .integer n => (integerText n).toList
  | .real x => (realText x).toList
  | .text s | .document s => s.toList
  | .blob bytes | .garbled bytes => (Text.readUtf8 bytes).toList

end Value

/-- The bytes of the character of a number, or of U+FFFD if there is none.  Halves of
surrogate pairs have bytes as if they were characters. -/
def letterOf (n : Int) : List UInt8 :=
  let n := if n < 0 ∨ 0x10FFFF < n then 0xFFFD else n.toNat
  if 0xD800 ≤ n ∧ n < 0xE000 then
    [0xED, UInt8.ofNat (0x80 + n / 64 % 64), UInt8.ofNat (0x80 + n % 64)]
  else Text.bytes [Char.ofNat n]

/-- A text as a value. -/
def textValue (cs : List Char) : Value := .text (String.ofList cs)

end Sql
end ReportQuery
