/-
# Formats

A format is a text with directives in it, each of which takes a value and writes it.  A
directive begins with `%`; flags, a width, a precision and the size `l` or `ll`, which
means nothing, may stand before its conversion.  A width or precision `*` is the next value.

| flag | meaning |
| --- | --- |
| `-` | blanks stand behind the text |
| `+`, blank | the sign of a number that is not negative |
| `0` | zeros fill the width |
| `#` | digits have the mark of their base, reals a point |
| `!` | the width counts characters, not bytes; more digits of reals are known |
| `,` | thousands are marked |

| conversion | writes |
| --- | --- |
| `d`, `i`, `u` | an integer, with its sign or without one |
| `o`, `x`, `X`, `p` | an integer in base 8 or 16 |
| `r` | an integer as an ordinal |
| `f` | a real with some places behind the point |
| `e`, `E` | a real with an exponent |
| `g`, `G` | a real with some digits |
| `s`, `z` | a text |
| `c` | the first character of a text, as often as the precision says |
| `q`, `Q`, `w` | a text whose quotes are doubled |
| `n` | nothing |
| `%` | a percent sign |

What is no directive ends the result.  Where values are missing, numbers are zero and texts
are empty.
-/

import ReportQuery.Sql.Fault
import ReportQuery.Sql.Function.Text

namespace ReportQuery
namespace Sql

/-! ## Directives -/

/-- A directive, apart from its conversion. -/
structure Directive where
  leftAligned : Bool := false
  /-- What stands in front of a number that is not negative. -/
  plus : List Char := []
  alternate : Bool := false
  precise : Bool := false
  zeroPadded : Bool := false
  grouped : Bool := false
  width : Nat := 0
  precision : Option Nat := none

/-- What a format has still to write: its rest, and the values left. -/
structure FormatInput where
  rest : List Char
  values : List Value

/-- The first of some values, null if there is none, and the others. -/
def FormatInput.next (input : FormatInput) : Value × FormatInput :=
  (input.values.headD .null, { input with values := input.values.tail })

/-- Reads flags. -/
def Directive.readFlags (d : Directive) : List Char → Directive × List Char
  | '-' :: cs => readFlags { d with leftAligned := true } cs
  | '+' :: cs => readFlags { d with plus := ['+'] } cs
  | ' ' :: cs => readFlags { d with plus := [' '] } cs
  | '#' :: cs => readFlags { d with alternate := true } cs
  | '!' :: cs => readFlags { d with precise := true } cs
  | '0' :: cs => readFlags { d with zeroPadded := true } cs
  | ',' :: cs => readFlags { d with grouped := true } cs
  | cs => (d, cs)

/-- A size as it is written, modulo a power of two. -/
def writtenSize (digits : List Char) : Nat := Decimal.ofDigits digits % 2147483648

/-- A size that is a value, of which the last 32 bits count; whether it is negative, and
its amount if that is a size. -/
def sizeOf (c : Value) : Bool × Option Nat :=
  let n := c.asInteger.toInt32.toInt
  (n < 0, if n = -2147483648 then none else some n.natAbs)

/-- Reads a width. -/
def Directive.readWidth (d : Directive) (input : FormatInput) : Directive × FormatInput :=
  match input.rest with
  | '*' :: rest =>
    let (c, input) := input.next
    let (negative, size) := sizeOf c
    ({ d with leftAligned := d.leftAligned || negative, width := size.getD 0 },
      { input with rest })
  | cs =>
    ({ d with width := writtenSize (cs.takeWhile Char.isDigit) },
      { input with rest := cs.dropWhile Char.isDigit })

/-- Reads a precision. -/
def Directive.readPrecision (d : Directive) (input : FormatInput) : Directive × FormatInput :=
  match input.rest with
  | '.' :: '*' :: rest =>
    let (c, input) := input.next
    ({ d with precision := (sizeOf c).2 }, { input with rest })
  | '.' :: cs =>
    ({ d with precision := some (writtenSize (cs.takeWhile Char.isDigit)) },
      { input with rest := cs.dropWhile Char.isDigit })
  | _ => (d, input)

/-- Leaves the size of a number out. -/
def withoutSize : List Char → List Char
  | 'l' :: 'l' :: cs => cs
  | 'l' :: cs => cs
  | cs => cs

/-- Reads a directive up to its conversion. -/
def Directive.read (input : FormatInput) : Directive × FormatInput :=
  let (d, rest) := Directive.readFlags {} input.rest
  let (d, input) := d.readWidth { input with rest }
  let (d, input) := d.readPrecision input
  (d, { input with rest := withoutSize input.rest })

/-! ## Numbers -/

/-- Digits with a sign between thousands. -/
def groupThousands (ds : List Char) : List Char :=
  match ds with
  | [] => []
  | d :: ds =>
    d :: if 0 < ds.length ∧ ds.length % 3 = 0 then ',' :: groupThousands ds else groupThousands ds

/-- The ending of an ordinal. -/
def ordinalEnding (n : Nat) : List Char := (ordinalText n).toList.drop (toString n).length

namespace Directive

/-- A whole number of some digits, with a sign in front. -/
def wholeText (d : Directive) (sign digits : List Char) : List Char :=
  let filled := if d.zeroPadded then d.width - sign.length else 0
  let wanted := max (d.precision.getD 0) filled
  let digits := List.replicate (wanted - digits.length) '0' ++ digits
  sign ++ if d.grouped then groupThousands digits else digits

/-- The sign of a number. -/
def signText (d : Directive) (negative : Bool) : List Char := if negative then ['-'] else d.plus

/-- An integer with its sign. -/
def signed (d : Directive) (n : Int) : List Char :=
  d.wholeText (d.signText (n < 0)) (Nat.toDigits 10 n.natAbs)

/-- An integer as an ordinal. -/
def ordinal (d : Directive) (n : Int) : List Char :=
  { d with grouped := false }.wholeText (d.signText (n < 0))
    (Nat.toDigits 10 n.natAbs ++ ordinalEnding n.natAbs)

/-- An integer without sign, in some base; the mark of the base stands in front of all. -/
def unsigned (d : Directive) (base : Nat) (mark : List Char) (n : Int64) : List Char :=
  let n := n.toUInt64.toNat
  (if d.alternate && n != 0 then mark else []) ++ d.wholeText [] (Nat.toDigits base n)

end Directive

/-- The forms in which reals are written; those with an exponent have a mark for it. -/
inductive RealForm where
  | fixed
  | scientific (mark : Char)
  | general (mark : Char)
deriving DecidableEq, Repr

/-- The text of an exponent, of two digits at least. -/
def exponentText (mark : Char) (exponent : Int) : List Char :=
  let ds := Nat.toDigits 10 exponent.natAbs
  mark :: (if exponent < 0 then '-' else '+') :: (List.replicate (2 - ds.length) '0' ++ ds)

/-- Leaves zeros at the end of a fraction out, and its point if it is empty and need not
stay; if it has to, a zero stands behind it. -/
def shortenFraction (keepsPoint : Bool) (cs : List Char) : List Char :=
  match cs.reverse.dropWhile (· == '0') with
  | '.' :: whole => whole.reverse ++ if keepsPoint then ['.', '0'] else []
  | cs => cs.reverse

namespace Directive

/-- Digits around a point with some places behind it. -/
def pointed (d : Directive) (shortens : Bool) (places : Nat) (ds : Decimal.Digits) : List Char :=
  let size := ds.pointAt.toNat
  let whole := ds.digits.take size ++ List.replicate (size - ds.digits.length) '0'
  let whole := if d.grouped then groupThousands whole else whole
  let zeros := min places (-ds.pointAt).toNat
  let behind := (ds.digits.drop size).take (places - zeros)
  let fraction := List.replicate zeros '0' ++ behind ++
    List.replicate (places - zeros - behind.length) '0'
  let hasPoint := 0 < places || d.alternate || d.precise
  let text := (if size = 0 then ['0'] else whole) ++ (if hasPoint then '.' :: fraction else [])
  if shortens && hasPoint then shortenFraction d.precise text else text

/-- Digits in a form. -/
def formed (d : Directive) (form : RealForm) (precision : Nat) (ds : Decimal.Digits) :
    List Char :=
  let exponent := ds.pointAt - 1
  let scientific := fun shortens mark places =>
    d.pointed shortens places { ds with pointAt := 1 } ++ exponentText mark exponent
  match form with
  | .fixed => d.pointed d.precise precision ds
  | .scientific mark => scientific d.precise mark precision
  | .general mark =>
    let places := precision - 1
    if exponent < -4 ∨ (places : Int) < exponent then scientific (!d.alternate) mark places
    else d.pointed (!d.alternate) ((places : Int) - exponent).toNat ds

/-- Zeros between a sign and digits, as many as the width asks for. -/
def zeroFilled (d : Directive) (sign digits : List Char) : List Char :=
  let missing := d.width - sign.length - digits.length
  sign ++ (if d.zeroPadded && !d.leftAligned then List.replicate missing '0' else []) ++ digits

/-- A real in a form. -/
def real (d : Directive) (form : RealForm) (x : Float) : List Char :=
  let precision := d.precision.getD 6
  let precision := if form matches .general _ then max 1 precision else precision
  let extent := match form with
    | .fixed => .places precision
    | .scientific _ => .digits (precision + 1)
    | .general _ => .digits precision
  let write := fun negative ds =>
    d.zeroFilled (d.signText negative) (d.formed form precision ds)
  match Decimal.readFloat x with
  | .notANumber => if d.zeroPadded then "null".toList else "NaN".toList
  | .infinite negative =>
    if d.zeroPadded then write negative ⟨['9'], 1000⟩ else d.signText negative ++ "Inf".toList
  | .finite negative m =>
    if m.significand = 0 then write false ⟨['0'], 1⟩
    else write negative (m.rounded (if d.precise then 26 else 16) extent)

end Directive

/-! ## Texts -/

/-- How many bytes a text can hold. -/
def largestText : Nat := 1000000000

/-- The bytes of a value up to the first null. -/
def writtenBytes (v : Value) : List UInt8 := bytesUpToNull v.bytes

namespace Directive

/-- The beginning of a text that the precision leaves, in characters or in bytes. -/
def beginning (d : Directive) (bytes : List UInt8) : List UInt8 :=
  match d.precision with
  | none => bytes
  | some count =>
    if d.precise then ((lettersOf bytes).take count).flatten else bytes.take count

/-- The first character of a text, as often as the precision says; of an empty text a null. -/
def repeated (d : Directive) (bytes : List UInt8) : List UInt8 :=
  let letter := match bytes with
    | [] => [0]
    | b :: bytes => b :: if 0xC0 ≤ b then (bytes.takeWhile continuesLetter).take 3 else []
  (List.replicate (max 1 (d.precision.getD 1)) letter).flatten

/-- A text whose quotes are doubled. -/
def escaped (d : Directive) (quote : UInt8) (bytes : List UInt8) : List UInt8 :=
  doubled quote (d.beginning bytes)

/-- A text with blanks on one side, as many as the width asks for. -/
def aligned (d : Directive) (bytes : List UInt8) : List UInt8 :=
  let size := if d.precise then bytes.countP (!continuesLetter ·) else bytes.length
  let blanks := List.replicate (d.width - size) 0x20
  if d.leftAligned then bytes ++ blanks else blanks ++ bytes

/-- What a conversion makes of a value, before it is aligned; none if it is no conversion. -/
def convert? (d : Directive) (conversion : Char) (c : Value) : Option (List UInt8) :=
  let ofText := fun cs => some (Text.bytes cs)
  match conversion with
  | 'd' | 'i' => ofText (d.signed c.asInteger.toInt)
  | 'u' => ofText (d.unsigned 10 [] c.asInteger)
  | 'r' => ofText (d.ordinal c.asInteger.toInt)
  | 'o' => ofText ({ d with grouped := false }.unsigned 8 ['0'] c.asInteger)
  | 'x' => ofText ({ d with grouped := false }.unsigned 16 ['0', 'x'] c.asInteger)
  | 'X' =>
    ofText (({ d with grouped := false }.unsigned 16 ['0', 'X'] c.asInteger).map Char.toUpper)
  | 'p' =>
    let digits := { d with grouped := false, alternate := false }.unsigned 16 [] c.asInteger
    let mark := if d.alternate && c.asInteger != 0 then ['0', 'x'] else []
    ofText (mark ++ digits.map Char.toUpper)
  | 'f' => ofText (d.real .fixed c.asReal)
  | 'e' => ofText (d.real (.scientific 'e') c.asReal)
  | 'E' => ofText (d.real (.scientific 'E') c.asReal)
  | 'g' => ofText (d.real (.general 'e') c.asReal)
  | 'G' => ofText (d.real (.general 'E') c.asReal)
  | 's' | 'z' => some (d.beginning (writtenBytes c))
  | 'c' => some (d.repeated (writtenBytes c))
  | 'q' =>
    some (d.escaped 0x27 (if c = .null then Text.bytes "(NULL)".toList else writtenBytes c))
  | 'w' =>
    some (d.escaped 0x22 (if c = .null then Text.bytes "(NULL)".toList else writtenBytes c))
  | 'Q' =>
    some (if c = .null then d.escaped 0x27 (Text.bytes "NULL".toList)
      else 0x27 :: d.escaped 0x27 (writtenBytes c) ++ [0x27])
  | _ => none

/-- Whether a directive asks for more than a text can hold. -/
def isTooLarge (d : Directive) (conversion : Char) : Bool :=
  let ofText := "szqQw%".toList.contains conversion
  let ofNumber := "diuoxXprfeEgGc".toList.contains conversion
  (ofText || ofNumber) && largestText < d.width + 10 ||
    ofNumber && largestText < d.precision.getD 0 + 10

/-- What a directive with its conversion writes, and what is left then. -/
def write? (d : Directive) (input : FormatInput) : Option (List UInt8 × FormatInput) :=
  match input.rest with
  | [] => none
  | '%' :: rest => some (d.aligned [0x25], { input with rest })
  | 'n' :: rest => some ([], { input with rest })
  | conversion :: rest =>
    let (c, input) := input.next
    let d := { d with precise := d.precise || conversion == 'c' }
    (d.convert? conversion c).map fun bytes => (d.aligned bytes, { input with rest })

end Directive

/-! ## Formats -/

/-- The texts and the written values of a format, whose length is not above `fuel`; none if
they are too large. -/
def formatPieces? : Nat → FormatInput → Option (List (List UInt8))
  | 0, _ => some []
  | fuel + 1, input =>
    let text := input.rest.takeWhile (· != '%')
    let own := if text.isEmpty then [] else [Text.bytes text]
    match input.rest.dropWhile (· != '%') with
    | [] => some own
    | ['%'] => some (own ++ [[0x25]])
    | _ :: rest =>
      let (d, input) := Directive.read { input with rest }
      if d.isTooLarge (input.rest.headD '%') then none
      else match d.write? input with
        | none => some own
        | some (bytes, input) =>
          (formatPieces? fuel input).map fun more => own ++ bytes :: more

/-- What a format makes of values; null if it writes nothing, or too much. -/
def formatted (format : Value) (values : List Value) : Value :=
  let cs := upToNull format.chars
  match formatPieces? cs.length ⟨cs, values⟩ with
  | none | some [] => .null
  | some pieces => .ofTextBytes pieces.flatten

end Sql
end ReportQuery
