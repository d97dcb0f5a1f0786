/-
# Encoded documents

A document may be stored as bytes.  A head tells the kind of a document and how long its
content is: the content of a number or a text is what is written for it, that of an array are its
elements, and that of an object are labels and values in turn.

| size in the first byte | the length of the content |
| --- | --- |
| at most 11 | the size itself |
| 12, 13, 14, 15 | the next byte, or the next 2, 4 or 8 bytes |

The size of an encoded document tells the places of documents within it.
-/

import ReportQuery.Sql.Document.Basic

namespace ReportQuery
namespace Sql

/-! ## Sizes -/

/-- The length of a head, for the shortest one, and of the content behind it. -/
def headedSize (length : Nat) : Nat :=
  length +
    if length ≤ 11 then 1 else if length ≤ 0xFF then 2 else if length ≤ 0xFFFF then 3 else 5

/-- How many bytes a text takes. -/
def bytesIn (cs : List Char) : Nat := cs.foldl (fun n c => n + c.utf8Size) 0

/-- How many bytes an encoded text takes. -/
def Wording.size (w : Wording) : Nat := headedSize (bytesIn w.written)

mutual

/-- How many bytes the content of an encoded document takes. -/
def Document.length : Document → Nat
  | .null | .truth _ => 0
  | .integer written | .hexadecimal written | .real _ written => written.length
  | .text wording => bytesIn wording.written
  | .array elements => elementsLength elements
  | .object members => membersLength members

/-- How many bytes encoded elements take. -/
def elementsLength : List Document → Nat
  | [] => 0
  | d :: ds => headedSize d.length + elementsLength ds

/-- How many bytes encoded members take. -/
def membersLength : List Member → Nat
  | [] => 0
  | .mk label value :: members =>
    label.size + headedSize value.length + membersLength members

end

/-- How many bytes an encoded document takes. -/
def Document.size (d : Document) : Nat := headedSize d.length

/-! ## Encoding -/

/-- Some digits of a number in base 256, the highest one first. -/
def bigEndian : Nat → Nat → List UInt8
  | 0, _ => []
  | places + 1, n => bigEndian places (n / 256) ++ [UInt8.ofNat (n % 256)]

/-- A head with its content. -/
def headed (kind : Nat) (content : List UInt8) : List UInt8 :=
  let length := content.length
  let first := fun size => UInt8.ofNat (16 * size + kind)
  let head :=
    if length ≤ 11 then [first length]
    else if length ≤ 0xFF then first 12 :: bigEndian 1 length
    else if length ≤ 0xFFFF then first 13 :: bigEndian 2 length
    else first 14 :: bigEndian 4 length
  head ++ content

/-- The kind of a text, by its spelling. -/
def Spelling.kind : Spelling → Nat
  | .plain => 7
  | .escaped => 8
  | .extended => 9
  | .raw => 10

/-- Encodes a text. -/
def Wording.encode (w : Wording) : List UInt8 := headed w.spelling.kind (Text.bytes w.written)

mutual

/-- Encodes a document. -/
def Document.encode : Document → List UInt8
  | .null => headed 0 []
  | .truth true => headed 1 []
  | .truth false => headed 2 []
  | .integer written => headed 3 (Text.bytes written)
  | .hexadecimal written => headed 4 (Text.bytes written)
  | .real false written => headed 5 (Text.bytes written)
  | .real true written => headed 6 (Text.bytes written)
  | .text wording => wording.encode
  | .array elements => headed 11 (encodeElements elements)
  | .object members => headed 12 (encodeMembers members)

/-- Encodes elements. -/
def encodeElements : List Document → List UInt8
  | [] => []
  | d :: ds => d.encode ++ encodeElements ds

/-- Encodes members. -/
def encodeMembers : List Member → List UInt8
  | [] => []
  | .mk label value :: members => label.encode ++ value.encode ++ encodeMembers members

end

/-! ## Decoding -/

/-- The number of digits in base 256. -/
def ofBigEndian (digits : List UInt8) : Nat := digits.foldl (fun n b => n * 256 + b.toNat) 0

/-- The kind and the content of the document that bytes begin with, and what is behind it. -/
def readHead? : List UInt8 → Option (Nat × List UInt8 × List UInt8)
  | [] => none
  | first :: bytes =>
    let size := first.toNat / 16
    let places := if size ≤ 11 then 0 else Nat.pow 2 (size - 12)
    let length := if size ≤ 11 then size else ofBigEndian (bytes.take places)
    let bytes' := bytes.drop places
    if bytes.length < places || bytes'.length < length then none
    else some (first.toNat % 16, bytes'.take length, bytes'.drop length)

/-- Whether bytes look like an encoded document: a head, and as many bytes as it says. -/
def looksEncoded (bytes : List UInt8) : Bool :=
  match readHead? bytes with
  | some (kind, content, []) => kind ≤ 12 && (3 ≤ kind || content.isEmpty)
  | _ => false

/-- The characters of bytes. -/
def charsOf (bytes : List UInt8) : List Char := (Text.readUtf8 bytes).toList

/-- A text of some kind. -/
def Wording.ofKind? (kind : Nat) (content : List UInt8) : Option Wording :=
  let spelling? : Option Spelling := match kind with
    | 7 => some .plain
    | 8 => some .escaped
    | 9 => some .extended
    | 10 => some .raw
    | _ => none
  spelling?.map fun spelling => ⟨spelling, charsOf content⟩

/-- Documents with labels in front of them as members. -/
def membersOf? : List Document → Option (List Member)
  | [] => some []
  | .text label :: value :: ds => (membersOf? ds).map fun members => .mk label value :: members
  | _ => none

/-- Decodes documents up to the end of the bytes; `fuel` is not below the number of these. -/
def decodeAll? : Nat → List UInt8 → Option (List Document)
  | _, [] => some []
  | 0, _ => none
  | fuel + 1, bytes => do
    let (kind, content, rest) ← readHead? bytes
    let own ← match kind with
      | 0 => if content.isEmpty then some .null else none
      | 1 => if content.isEmpty then some (.truth true) else none
      | 2 => if content.isEmpty then some (.truth false) else none
      | 3 => if content.isEmpty then none else some (.integer (charsOf content))
      | 4 => if content.isEmpty then none else some (.hexadecimal (charsOf content))
      | 5 => if content.isEmpty then none else some (.real false (charsOf content))
      | 6 => if content.isEmpty then none else some (.real true (charsOf content))
      | 11 => .array <$> decodeAll? fuel content
      | 12 => do
        let members ← membersOf? (← decodeAll? fuel content)
        pure (.object members)
      | kind => .text <$> Wording.ofKind? kind content
    return own :: (← decodeAll? fuel rest)

/-- Decodes a document. -/
def decode? (bytes : List UInt8) : Option Document :=
  match decodeAll? bytes.length bytes with
  | some [d] => some d
  | _ => none

end Sql
end ReportQuery
