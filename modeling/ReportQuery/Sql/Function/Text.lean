/-
# Functions of texts

Parts of a text, what is found and replaced in it, and how values are written.  Those
that deal with members of a list serve characters and bytes alike.  A letter is a character
as it is counted: its first byte, and the bytes that go on with it.
-/

import ReportQuery.Sql.Value
import ReportQuery.Text.Hex

namespace ReportQuery
namespace Sql

/-! ## Letters -/

/-- Whether a byte goes on with a character. -/
def continuesLetter (b : UInt8) : Bool := 0x80 ≤ b && b < 0xC0

/-- The letters of bytes, from the last one on. -/
def lettersOf (bytes : List UInt8) : List (List UInt8) :=
  bytes.foldr (fun b letters =>
    match letters with
    | (c :: letter) :: letters =>
      if 0xC0 ≤ b && continuesLetter c then (b :: c :: letter) :: letters
      else [b] :: (c :: letter) :: letters
    | letters => [b] :: letters) []

/-- A text up to the first null, where many functions take it to end. -/
def upToNull (cs : List Char) : List Char := cs.takeWhile (· != '\x00')

/-- The bytes of a text up to the first null. -/
def bytesUpToNull (bytes : List UInt8) : List UInt8 := bytes.takeWhile (· != 0)

/-! ## Parts -/

/-- A list without the members of a set at its beginning. -/
def trimmed {α : Type} [BEq α] (set : List α) (xs : List α) : List α := xs.dropWhile set.contains

/-- A list without the members of a set at its end. -/
def trimmedEnd {α : Type} [BEq α] (set : List α) (xs : List α) : List α :=
  (trimmed set xs.reverse).reverse

/-- The part of a list that a start, counted from 1 or from behind, and a length name; of
a negative length the members before the start. -/
def portion {α : Type} (xs : List α) (start : Int) (length : Option Int) : List α :=
  let size : Int := xs.length
  let wanted := length.getD (size + start.natAbs + 1)
  let first := if start < 0 then size + start else if 0 < start then start - 1 else 0
  let count : Int := wanted.natAbs
  let count := if start = 0 && 0 < count then count - 1 else count
  let (first, count) := if first < 0 then (0, max 0 (count + first)) else (first, count)
  let (first, count) := if wanted < 0 then (first - count, count) else (first, count)
  let (first, count) := if first < 0 then (0, count + first) else (first, count)
  (xs.drop first.toNat).take count.toNat

/-- The place, counted from 1, at which a list holds another one; 0 if nowhere. -/
def placeOf {α : Type} [BEq α] (wanted : List α) : List α → Nat
  | [] => if wanted.isEmpty then 1 else 0
  | x :: xs =>
    if wanted.isPrefixOf (x :: xs) then 1
    else match placeOf wanted xs with
      | 0 => 0
      | n => n + 1

/-- A list in which another list takes the place of a third one; `skip` members belong to
an occurrence that has been replaced. -/
def replaced {α : Type} [BEq α] (old new : List α) : Nat → List α → List α
  | _, [] => []
  | skip + 1, _ :: xs => replaced old new skip xs
  | 0, x :: xs =>
    if !old.isEmpty && old.isPrefixOf (x :: xs) then new ++ replaced old new (old.length - 1) xs
    else x :: replaced old new 0 xs

/-- The bytes of values that are neither null nor empty, with others between them. -/
def joined (separator : List UInt8) (values : List Value) : List UInt8 :=
  separator.intercalate ((values.map Value.bytes).filter fun bytes => !bytes.isEmpty)

/-! ## Written values -/

/-- The bytes in hexadecimal digits. -/
def hexadecimal (bytes : List UInt8) : List Char :=
  bytes.flatMap fun b =>
    [(Text.hexDigit (b.toNat / 16)).toUpper, (Text.hexDigit (b.toNat % 16)).toUpper]

/-- The bytes that hexadecimal digits in pairs denote, with members of a set between the
pairs; none if there is anything else. -/
def readHexadecimal? (allowed : List Char) : List Char → Option (List UInt8)
  | [] => some []
  | [c] => if allowed.contains c && (Text.hexValue? c).isNone then some [] else none
  | a :: b :: cs =>
    match Text.hexValue? a with
    | none => if allowed.contains a then readHexadecimal? allowed (b :: cs) else none
    | some high => do
      let low ← Text.hexValue? b
      return UInt8.ofNat (16 * high + low) :: (← readHexadecimal? allowed cs)

/-- How a real is written that fifteen digits do not determine: with all digits known. -/
def fullRealText : Decimal.Layout :=
  { Cell.realText with
    precision := .significant 21
    positional := some (1, 0)
    infinity := "9.0e+999"
    minusInfinity := "-9.0e+999" }

/-- The text of a real from which it can be read again. -/
def realLiteral (x : Float) : List Char :=
  let short := Value.realText x
  let back := (Value.text short).asReal
  (if back == x then short else fullRealText.write (Decimal.readFloat x)).toList

/-- Bytes in which one is written twice. -/
def doubled (b : UInt8) (bytes : List UInt8) : List UInt8 :=
  bytes.flatMap fun c => if c = b then [c, c] else [c]

/-- A value as it is written in a statement. -/
def quote : Value → Value
  | .null => .text "NULL"
  | .blob bytes => textValue ('X' :: '\'' :: hexadecimal bytes ++ ['\''])
  | .real x => textValue (realLiteral x)
  | .integer n => .text (Value.integerText n)
  | v => .ofTextBytes (0x27 :: doubled 0x27 (bytesUpToNull v.bytes) ++ [0x27])

/-- The length of a value: of bytes their number, else the number of letters. -/
def lengthOf : Value → Value
  | .null => .null
  | .blob bytes => .integer (Int64.ofNat bytes.length)
  | v => .integer (Int64.ofNat (lettersOf (bytesUpToNull v.bytes)).length)

/-- The name of the class of a value. -/
def className (v : Value) : List Char := v.storageClass.name.toList.map Char.toLower

/-! ## Sounds -/

/-- The consonant class of a letter, by which names that sound alike are found. -/
def soundClass (c : Char) : Char :=
  let classes :=
    [("BFPV", '1'), ("CGJKQSXZ", '2'), ("DT", '3'), ("L", '4'), ("MN", '5'), ("R", '6')]
  ((classes.find? fun (letters, _) => letters.toList.contains c.toUpper).map (·.2)).getD '0'

/-- The classes of letters behind one of a class, each run of a class once. -/
def soundClasses (last : Char) : List Char → List Char
  | [] => []
  | c :: cs =>
    let own := soundClass c
    if own = '0' then soundClasses (if c.isAlpha then '0' else last) cs
    else if own = last then soundClasses last cs
    else own :: soundClasses own cs

/-- How a name sounds: its first letter and three classes. -/
def soundOf (cs : List Char) : List Char :=
  match cs.dropWhile fun c => !c.isAlpha with
  | [] => "?000".toList
  | c :: cs => c.toUpper :: ((soundClasses (soundClass c) cs) ++ ['0', '0', '0']).take 3

end Sql
end ReportQuery
