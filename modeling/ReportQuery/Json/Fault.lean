/-
# What can be wrong with a JSON text, and where

A reader of this library works on the characters that are left of the text and
fails with a `Fault`: the reason, and how many bytes of the text are left at the
place that is meant.  A fault at a character that was only looked at counts one
byte of that character as read (`Fault.atNext`); at the end of the text there is
no such byte.

The place is shown as a line, counted from 1, and a column, the number of bytes
of that line that are read.  A line feed that is read begins a new line.
-/

import ReportQuery.Json.Write
import ReportQuery.Text.Quoted

namespace ReportQuery
namespace Json

/-- What was found where something else was wanted. -/
inductive Found where
  | null
  | boolean (b : Bool)
  | integer (n : Int)
  | real (x : Float)
  | string (s : String)
  | list
  | object
deriving DecidableEq

/-- The wording of what was found. -/
def Found.message : Found → String
  | .null => "null"
  | .boolean b => "boolean `" ++ Json.bool b ++ "`"
  | .integer n => "integer `" ++ toString n ++ "`"
  | .real x => "floating point `" ++ Json.real x ++ "`"
  | .string s => "string " ++ Text.quoted s
  | .list => "sequence"
  | .object => "map"

/-- What is wrong with a text. -/
inductive Reason where
  | endInValue
  | endInList
  | endInObject
  | endInString
  | expectedValue
  | expectedWord
  | expectedColon
  | expectedListComma
  | expectedObjectComma
  | invalidNumber
  | numberOutOfRange
  | invalidEscape
  | loneSurrogate
  | endOfSurrogate
  | controlCharacter
  | keyNotString
  | trailingComma
  | trailingCharacters
  | duplicateField (name : String)
  | unknownName (name : String) (known : List String)
  | wrongType (found : Found) (wanted : String)
  | wrongValue (found : Found) (wanted : String)
deriving DecidableEq

/-- The message about a name that is none of the known ones. -/
def unknownNameMessage (name : String) (known : List String) : String :=
  "unknown variant `" ++ name ++ "`, expected one of " ++
    ", ".intercalate (known.map fun k => "`" ++ k ++ "`")

/-- The wording of a reason. -/
def Reason.message : Reason → String
  | .endInValue => "EOF while parsing a value"
  | .endInList => "EOF while parsing a list"
  | .endInObject => "EOF while parsing an object"
  | .endInString => "EOF while parsing a string"
  | .expectedValue => "expected value"
  | .expectedWord => "expected ident"
  | .expectedColon => "expected `:`"
  | .expectedListComma => "expected `,` or `]`"
  | .expectedObjectComma => "expected `,` or `\x7d`"
  | .invalidNumber => "invalid number"
  | .numberOutOfRange => "number out of range"
  | .invalidEscape => "invalid escape"
  | .loneSurrogate => "lone leading surrogate in hex escape"
  | .endOfSurrogate => "unexpected end of hex escape"
  | .controlCharacter => "control character (\\u0000-\\u001F) found while parsing a string"
  | .keyNotString => "key must be a string"
  | .trailingComma => "trailing comma"
  | .trailingCharacters => "trailing characters"
  | .duplicateField name => "duplicate field `" ++ name ++ "`"
  | .unknownName name known => unknownNameMessage name known
  | .wrongType found wanted => "invalid type: " ++ found.message ++ ", expected " ++ wanted
  | .wrongValue found wanted => "invalid value: " ++ found.message ++ ", expected " ++ wanted

/-- The number of bytes that characters take up. -/
def byteSize : List Char → Nat
  | [] => 0
  | c :: cs => c.utf8Size + byteSize cs

/-- What is wrong with a text, and how many of its bytes are left at that place. -/
structure Fault where
  reason : Reason
  left : Nat
deriving DecidableEq

namespace Fault

/-- A fault behind all that has been read. -/
def before (reason : Reason) (rest : List Char) : Fault := ⟨reason, byteSize rest⟩

/-- A fault at the next character, of which one byte counts as read. -/
def atNext (reason : Reason) (rest : List Char) : Fault := ⟨reason, byteSize rest - 1⟩

end Fault

/-- A place in a text: the line from 1, and the bytes of that line before it. -/
structure Position where
  line : Nat := 1
  column : Nat := 0
deriving DecidableEq, Repr

namespace Position

/-- The position after some more bytes of the text. -/
def advance (p : Position) : List Char → Nat → Position
  | [], _ => p
  | c :: cs, bytes =>
    if bytes = 0 then p
    else if c = '\n' then advance ⟨p.line + 1, 0⟩ cs (bytes - 1)
    else
      let read := min bytes c.utf8Size
      advance ⟨p.line, p.column + read⟩ cs (bytes - read)

end Position

namespace Fault

/-- The position of a fault in the text that was read. -/
def position (f : Fault) (text : String) : Position :=
  Position.advance {} text.toList (byteSize text.toList - f.left)

/-- The message about a fault in a text. -/
def message (f : Fault) (text : String) : String :=
  let p := f.position text
  f.reason.message ++ " at line " ++ toString p.line ++ " column " ++ toString p.column

end Fault

end Json
end ReportQuery
