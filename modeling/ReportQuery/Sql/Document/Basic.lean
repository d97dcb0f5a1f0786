/-
# Documents

A document is what a JSON text says.  Its numbers and texts are kept as they are written, so
that they are written again without a change; what is not JSON but is read as if it were, such
as a hexadecimal number, is written as JSON.

| spelling | the characters of a text |
| --- | --- |
| plain | stand for themselves, and none of them has to be escaped |
| escaped | may be escapes of JSON |
| extended | may be escapes that JSON does not have, or characters that it escapes |
| raw | stand for themselves, and are escaped when they are written |

An object may have members of one label; of these the first one counts.
-/

import ReportQuery.Json.Write
import ReportQuery.Sql.Fault
import ReportQuery.Sql.Value
import ReportQuery.Text.Hex

namespace ReportQuery
namespace Sql

/-- How the characters of a text in a document are written. -/
inductive Spelling where
  | plain
  | escaped
  | extended
  | raw
deriving DecidableEq, Repr

/-- A text in a document, as it is written between its quotes. -/
structure Wording where
  spelling : Spelling
  written : List Char
deriving DecidableEq, Repr

mutual

/-- A document. -/
inductive Document where
  | null
  | truth (value : Bool)
  | integer (written : List Char)
  | hexadecimal (written : List Char)
  /-- A real, which is loose if there is no digit on one side of its point. -/
  | real (isLoose : Bool) (written : List Char)
  | text (wording : Wording)
  | array (elements : List Document)
  | object (members : List Member)

/-- A member of an object. -/
inductive Member where
  | mk (label : Wording) (value : Document)

end

/-! ## Texts -/

/-- The number of hexadecimal digits. -/
def hexadecimalNumber (digits : List Char) : Nat :=
  digits.foldl (fun n c => n * 16 + (Text.hexValue? c).getD 0) 0

/-- What stands for no character. -/
def noCharacter : Nat := 0x99999

/-- Whether a character ends a line: an escaped end of a line stands for nothing. -/
def endsLine (c : Char) : Bool := c == '\n' || c == '\r' || c == '\u2028' || c == '\u2029'

/-- The character that an escape of one letter stands for. -/
def escapedCode (c : Char) : Nat :=
  match c with
  | 'b' => 8
  | 'f' => 12
  | 'n' => 10
  | 'r' => 13
  | 't' => 9
  | 'v' => 11
  | '0' => 0
  | '\'' | '"' | '/' | '\\' => c.toNat
  | _ => noCharacter

/-- The code of a pair of halves, if the first number and the second one are halves. -/
def pairCode? (high low : Nat) : Option Nat :=
  if high / 1024 = 0x36 ∧ low / 1024 = 0x37 then
    some (high % 1024 * 1024 + low % 1024 + 0x10000)
  else none

/-- The codes of the characters that a text with escapes stands for. -/
def escapedCodes : List Char → List Nat
  | [] => []
  | ['\\'] => [noCharacter]
  | '\\' :: 'u' :: a :: b :: c :: d :: '\\' :: 'u' :: e :: f :: g :: h :: cs =>
    let first := hexadecimalNumber [a, b, c, d]
    match pairCode? first (hexadecimalNumber [e, f, g, h]) with
    | some code => code :: escapedCodes cs
    | none => first :: escapedCodes ('\\' :: 'u' :: e :: f :: g :: h :: cs)
  | '\\' :: 'u' :: a :: b :: c :: d :: cs => hexadecimalNumber [a, b, c, d] :: escapedCodes cs
  | '\\' :: 'x' :: a :: b :: cs => hexadecimalNumber [a, b] :: escapedCodes cs
  | '\\' :: '\r' :: '\n' :: cs => if cs.isEmpty then [0] else escapedCodes cs
  | '\\' :: c :: cs =>
    -- an escape that lacks some of its digits
    if c = 'u' ∨ c = 'x' then [noCharacter]
    else if endsLine c then if cs.isEmpty then [0] else escapedCodes cs
    else escapedCode c :: escapedCodes cs
  | c :: cs => c.toNat :: escapedCodes cs
termination_by cs => cs.length
decreasing_by all_goals simp only [List.length_cons]; omega

namespace Wording

/-- Whether the characters of a text stand for themselves. -/
def isLiteral (w : Wording) : Bool := w.spelling == .plain || w.spelling == .raw

/-- The codes of the characters of a text. -/
def codes (w : Wording) : List Nat :=
  if w.isLiteral then w.written.map Char.toNat else escapedCodes w.written

/-- Whether two texts are the same.  Where one has escapes, both end at a null. -/
def same (a b : Wording) : Bool :=
  if a.isLiteral && b.isLiteral then a.written == b.written
  else a.codes.takeWhile (· != 0) == b.codes.takeWhile (· != 0)

/-- A text as a value. -/
def value (w : Wording) : Value :=
  if w.isLiteral then textValue w.written
  else .ofTextBytes ((w.codes.filter (· != noCharacter)).flatMap fun (code : Nat) => letterOf code)

/-- A text with further escapes, written with those of JSON.  A vertical tabulator is written as a
horizontal one. -/
def writeExtended : List Char → List Char
  | [] => []
  | '\\' :: 'v' :: cs => "\\u0009".toList ++ writeExtended cs
  | '\\' :: '0' :: cs => "\\u0000".toList ++ writeExtended cs
  | '\\' :: '\'' :: cs => '\'' :: writeExtended cs
  | '\\' :: 'x' :: a :: b :: cs => "\\u00".toList ++ a :: b :: writeExtended cs
  | '\\' :: '\r' :: '\n' :: cs => writeExtended cs
  | '\\' :: c :: cs =>
    if endsLine c then writeExtended cs else '\\' :: c :: writeExtended cs
  | c :: cs => (if c == '\\' then ['\\'] else Json.escape c) ++ writeExtended cs

/-- Writes a text, with its quotes. -/
def write (w : Wording) : List Char :=
  let written := match w.spelling with
    | .plain | .escaped => w.written
    | .extended => writeExtended w.written
    | .raw => w.written.flatMap Json.escape
  '"' :: written ++ ['"']

end Wording

/-! ## Numbers -/

/-- The sign of a number, and its digits in base 16 behind their mark. -/
def hexadecimalDigits (written : List Char) : Bool × List Char :=
  match written with
  | '-' :: _ :: _ :: digits => (true, digits)
  | _ :: _ :: digits => (false, digits)
  | _ => (false, [])

/-- A hexadecimal number in decimal digits.  One of more than 64 bits is as large as any. -/
def writeHexadecimal (written : List Char) : List Char :=
  let (negative, digits) := hexadecimalDigits written
  let n := hexadecimalNumber digits
  (if negative then ['-'] else []) ++
    (if n < 18446744073709551616 then toString n else "9.0e999").toList

/-- A real with a digit on both sides of its point. -/
def writeLoose : List Char → List Char
  | '-' :: '.' :: cs => "-0.".toList ++ behindPoint cs
  | '.' :: cs => "0.".toList ++ behindPoint cs
  | cs =>
    match cs.span (· != '.') with
    | (whole, '.' :: cs) => whole ++ '.' :: behindPoint cs
    | (whole, _) => whole
where
  behindPoint (cs : List Char) : List Char := if cs.head?.any Char.isDigit then cs else '0' :: cs

/-! ## Writing -/

/-- Texts with a separator between them. -/
def separated (separator : List Char) (texts : List (List Char)) : List Char :=
  (texts.intersperse separator).flatten

mutual

/-- Writes a document, without any blanks. -/
def Document.write : Document → List Char
  | .null => "null".toList
  | .truth value => (Json.bool value).toList
  | .integer written => written
  | .hexadecimal written => writeHexadecimal written
  | .real false written => written
  | .real true written => writeLoose written
  | .text wording => wording.write
  | .array elements => '[' :: separated [','] (writeElements elements) ++ [']']
  | .object members => '\x7b' :: separated [','] (writeMembers members) ++ ['\x7d']

/-- Writes elements. -/
def writeElements : List Document → List (List Char)
  | [] => []
  | d :: ds => d.write :: writeElements ds

/-- Writes members. -/
def writeMembers : List Member → List (List Char)
  | [] => []
  | .mk label value :: members => (label.write ++ ':' :: value.write) :: writeMembers members

end

/-- What stands between two brackets, one line for each text. -/
def writeLines (indent : List Char) (opening closing : Char) (outer : List Char)
    (texts : List (List Char)) : List Char :=
  if texts.isEmpty then [opening, closing]
  else
    opening :: '\n' :: outer ++ indent ++
      separated (',' :: '\n' :: outer ++ indent) texts ++ '\n' :: outer ++ [closing]

mutual

/-- Writes a document with a line for each element and each member, indented within those of
the documents around it. -/
def Document.writePretty (indent outer : List Char) : Document → List Char
  | .array elements =>
    writeLines indent '[' ']' outer (prettyElements indent (outer ++ indent) elements)
  | .object members =>
    writeLines indent '\x7b' '\x7d' outer (prettyMembers indent (outer ++ indent) members)
  | d => d.write

/-- Writes elements in lines. -/
def prettyElements (indent outer : List Char) : List Document → List (List Char)
  | [] => []
  | d :: ds => d.writePretty indent outer :: prettyElements indent outer ds

/-- Writes members in lines. -/
def prettyMembers (indent outer : List Char) : List Member → List (List Char)
  | [] => []
  | .mk label value :: members =>
    (label.write ++ ':' :: ' ' :: value.writePretty indent outer) ::
      prettyMembers indent outer members

end

/-! ## What a document is -/

namespace Document

/-- The kind of a document. -/
def kind : Document → String
  | .null => "null"
  | .truth true => "true"
  | .truth false => "false"
  | .integer _ | .hexadecimal _ => "integer"
  | .real _ _ => "real"
  | .text _ => "text"
  | .array _ => "array"
  | .object _ => "object"

/-- Whether a document holds other ones. -/
def isContainer : Document → Bool
  | .array _ | .object _ => true
  | _ => false

/-- The value of a hexadecimal number, of which 64 bits count; none if it has more of them. -/
def hexadecimalValue? (written : List Char) : Option Value :=
  let (negative, digits) := hexadecimalDigits written
  let digits := digits.dropWhile (· == '0')
  if 16 < digits.length then none
  else
    let n := Int64.ofNat (hexadecimalNumber digits)
    some (.integer (if negative then -n else n))

/-- A document as a value: one that holds others is its text. -/
def value (d : Document) : Except Fault Value :=
  match d with
  | .null => .ok .null
  | .truth value => .ok (.ofTruth value)
  | .integer written => .ok (wholeValue (LeadingNumber.read written).whole)
  | .hexadecimal written =>
    match hexadecimalValue? written with
    | some value => .ok value
    | none => .error .malformedDocument
  | .real _ written => .ok (.real (LeadingNumber.read written).all.scaled)
  | .text wording => .ok wording.value
  | d => .ok (.document (String.ofList d.write))

end Document

end Sql
end ReportQuery
