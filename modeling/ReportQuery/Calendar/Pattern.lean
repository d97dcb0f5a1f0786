/-
# Reading dates and date-times by pattern

A pattern is a list of items, each of which takes a piece off the front of the
text.  The whole text has to be used up, and the fields read have to name a day
and a time that exist.

| item | takes |
| --- | --- |
| `number f` | blanks, then up to the usual number of digits of `f` |
| `exact f` | exactly the usual number of digits of `f` |
| `literal c` | the character `c` |
| `anyOf cs` | one of the characters `cs` |
| `blanks` | any run of blanks, also none |
| `fraction` | a point and digits, of which nine count; or nothing |
| `offset` | blanks, a sign, two digits, colons and blanks in any number, two digits |
| `zone` | `Z`, or an offset of less than a day with one colon |

A year may have a sign, and then any number of digits.  An offset is read and then
dropped: the local time is the value.

Main definitions: `readDate`, with the cause of a failure, and `readDateTime?`,
which tries the patterns of `dateTimePatterns` in order.
-/

import ReportQuery.Calendar.DateTime
import ReportQuery.Decimal.Reading
import ReportQuery.Text.Blank

namespace ReportQuery
namespace Calendar

/-- Why a text is not a date. -/
inductive Fault where
  /-- The text ends too early. -/
  | tooShort
  /-- A character does not fit the pattern. -/
  | invalid
  /-- A number is out of its range, or there is no such day. -/
  | outOfRange
  /-- Something follows the date. -/
  | tooLong
deriving DecidableEq, Repr

namespace Fault

/-- The wording of a fault. -/
def message : Fault → String
  | .tooShort => "premature end of input"
  | .invalid => "input contains invalid characters"
  | .outOfRange => "input is out of range"
  | .tooLong => "trailing input"

end Fault

/-- The fields that a pattern can read. -/
inductive Field where
  | year | month | day | hour | minute | second
deriving DecidableEq, Repr

namespace Field

/-- The usual number of digits of a field. -/
def width : Field → Nat
  | .year => 4
  | _ => 2

/-- The values that a field may have. -/
def range : Field → Int × Int
  | .year => (-2147483648, 2147483647)
  | .month => (1, 12)
  | .day => (1, 31)
  | .hour => (0, 23)
  | .minute => (0, 59)
  | .second => (0, 60)

end Field

/-- One step of a pattern. -/
inductive Item where
  | number (field : Field)
  | exact (field : Field)
  | literal (c : Char)
  | anyOf (cs : List Char)
  | blanks
  | fraction
  | offset
  | zone
deriving DecidableEq, Repr

/-- The fields read so far; what a pattern does not mention is zero. -/
structure Parts where
  year : Int := 0
  month : Nat := 0
  day : Nat := 0
  hour : Nat := 0
  minute : Nat := 0
  second : Nat := 0
  nano : Nat := 0
deriving DecidableEq, Repr

namespace Parts

/-- Stores the value of a field, which must be within the field's range. -/
def store (p : Parts) (f : Field) (value : Int) : Except Fault Parts :=
  if value < f.range.1 ∨ f.range.2 < value then .error .outOfRange
  else .ok <| match f with
    | .year => { p with year := value }
    | .month => { p with month := value.toNat }
    | .day => { p with day := value.toNat }
    | .hour => { p with hour := value.toNat }
    | .minute => { p with minute := value.toNat }
    | .second => { p with second := value.toNat }

/-- The date that the fields name. -/
def date? (p : Parts) : Option Date := Date.ofFields? p.year p.month p.day

/-- The time that the fields name.  Second 60 is the leap second after second 59. -/
def time? (p : Parts) : Option TimeOfDay :=
  if p.second = 60 then TimeOfDay.ofFields? p.hour p.minute 59 (p.nano + billion)
  else TimeOfDay.ofFields? p.hour p.minute p.second p.nano

end Parts

/-- Takes digits, at least `least` and at most `most`, as a 64-bit number. -/
def takeNumber (least : Nat) (most : Option Nat) (cs : List Char) :
    Except Fault (Nat × List Char) :=
  let run := cs.takeWhile Char.isDigit
  let ds := match most with
    | some most => run.take most
    | none => run
  if ds.length < least then
    if ds.length = cs.length then .error .tooShort else .error .invalid
  else if Int64.maxValue.toInt < Decimal.ofDigits ds then .error .outOfRange
  else .ok (Decimal.ofDigits ds, cs.drop ds.length)

/-- Takes a year: four digits at most, or a sign and any number of digits. -/
def takeYear : List Char → Except Fault (Int × List Char)
  | '-' :: cs => (takeNumber 1 none cs).map fun (n, rest) => (-(n : Int), rest)
  | '+' :: cs => (takeNumber 1 none cs).map fun (n, rest) => ((n : Int), rest)
  | cs => (takeNumber 1 (some Field.year.width) cs).map fun (n, rest) => ((n : Int), rest)

/-- Takes one character of a list of characters. -/
def takeAnyOf (allowed : List Char) : List Char → Except Fault (List Char)
  | [] => .error .tooShort
  | c :: cs => if c ∈ allowed then .ok cs else .error .invalid

/-- Takes the digits after a decimal point, as nanoseconds. -/
def takeFraction (cs : List Char) : Except Fault (Nat × List Char) := do
  let (n, rest) ← takeNumber 1 (some 9) cs
  return (n * Nat.pow 10 (9 - (cs.length - rest.length)), rest.dropWhile Char.isDigit)

/-- Takes an offset from a time zone; what separates hours from minutes is given. -/
def takeOffset (separator : List Char → Except Fault (List Char)) (cs : List Char) :
    Except Fault ((Nat × Nat) × List Char) := do
  let cs ← takeAnyOf ['+', '-', '\u2212'] cs
  let (hours, cs) ← takeNumber 2 (some 2) cs
  let cs ← separator cs
  let (minutes, cs) ← takeNumber 2 (some 2) cs
  if 59 < minutes then .error .outOfRange
  return ((hours, minutes), cs)

namespace Item

/-- Takes one item off the front of the text. -/
def take (p : Parts) (cs : List Char) : Item → Except Fault (Parts × List Char)
  | .number .year => do
    let (n, rest) ← takeYear (Text.skipBlanks cs)
    return (← p.store .year n, rest)
  | .number f => do
    let (n, rest) ← takeNumber 1 (some f.width) (Text.skipBlanks cs)
    return (← p.store f n, rest)
  | .exact f => do
    let (n, rest) ← takeNumber f.width (some f.width) cs
    return (← p.store f n, rest)
  | .literal c => (takeAnyOf [c] cs).map fun rest => (p, rest)
  | .anyOf allowed => (takeAnyOf allowed cs).map fun rest => (p, rest)
  | .blanks => .ok (p, Text.skipBlanks cs)
  | .fraction =>
    match cs with
    | '.' :: cs => (takeFraction cs).map fun (n, rest) => ({ p with nano := n }, rest)
    | _ => .ok (p, cs)
  | .offset => do
    let separator := fun cs => .ok (cs.dropWhile fun c => c == ':' || Text.isBlank c)
    let (_, rest) ← takeOffset separator (Text.skipBlanks cs)
    return (p, rest)
  | .zone =>
    match cs with
    | 'Z' :: rest | 'z' :: rest => .ok (p, rest)
    | _ => do
      let ((hours, _), rest) ← takeOffset (takeAnyOf [':']) cs
      if 23 < hours then .error .outOfRange
      return (p, rest)

end Item

/-- Reads a text by a pattern, to its end. -/
def takeAll (p : Parts) (cs : List Char) : List Item → Except Fault Parts
  | [] => if cs.isEmpty then .ok p else .error .tooLong
  | item :: items => do
    let (p, rest) ← item.take p cs
    takeAll p rest items

/-- Year, month and day. -/
def dateItems : List Item :=
  [.number .year, .literal '-', .number .month, .literal '-', .number .day]

/-- Hour and minute. -/
def minuteItems : List Item := [.number .hour, .literal ':', .number .minute]

/-- Hour, minute and second, with a fraction. -/
def secondItems : List Item := minuteItems ++ [.literal ':', .number .second, .fraction]

/-- The pattern of internet timestamps, with every width fixed. -/
def timestampItems : List Item :=
  [.exact .year, .literal '-', .exact .month, .literal '-', .exact .day, .anyOf ['t', 'T', ' '],
    .exact .hour, .literal ':', .exact .minute, .literal ':', .exact .second, .fraction, .zone]

/-- The patterns that a date-time may follow, in the order in which they are tried. -/
def dateTimePatterns : List (List Item) :=
  timestampItems ::
    ([[.blanks], [.literal 'T']].flatMap fun separator =>
      [minuteItems, secondItems].flatMap fun time =>
        [[], [.literal 'Z'], [.offset]].map fun zone => dateItems ++ separator ++ time ++ zone)

/-- Reads a date. -/
def readDate (text : String) : Except Fault Date := do
  let p ← takeAll {} text.toList dateItems
  match p.date? with
  | some date => return date
  | none => .error .outOfRange

/-- Reads a date-time by one pattern. -/
def readDateTimeBy? (cs : List Char) (items : List Item) : Option DateTime := do
  let p ← (takeAll {} cs items).toOption
  return ⟨← p.date?, ← p.time?⟩

/-- Reads a date-time by the first pattern that fits. -/
def readDateTime? (text : String) : Option DateTime :=
  dateTimePatterns.findSome? (readDateTimeBy? text.toList)

end Calendar
end ReportQuery
