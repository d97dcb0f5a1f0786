/-
# Reading moments

A moment is written as a day, as a time of the day on the first day of 2000, as both with
blanks or `T` between them, or as a number.

    2024-02-29    12:30    12:30:15.250+02:00    2024-02-29T12:30Z    2460369.5

A time may be followed by how far it is ahead of the instant, or by `Z`.  The word `now`
stands for the present instant; so do `subsec` and `subsecond`, which ask for fractions
of seconds as well.
-/

import ReportQuery.Sql.Moment.Basic
import ReportQuery.Sql.Value

namespace ReportQuery
namespace Sql

/-- Reads a number of so many digits within bounds. -/
def readDigits? (count least largest : Nat) (cs : List Char) : Option (Int × List Char) :=
  let digits := cs.take count
  let n := Decimal.ofDigits digits
  if digits.length = count ∧ digits.all Char.isDigit ∧ least ≤ n ∧ n ≤ largest then
    some (n, cs.drop count)
  else none

/-- Reads a character. -/
def readSign? (sign : Char) : List Char → Option (List Char)
  | [] => none
  | c :: cs => if c = sign then some cs else none

/-- Leaves blanks out. -/
def skipSpace (cs : List Char) : List Char := cs.dropWhile isNumberSpace

/-- The largest year that a day is written with, or that is added to one. -/
def largestYear : Nat := 14712

/-- Reads two numbers of two digits with a colon between them. -/
def readHourMinute? (largestHour : Nat) (cs : List Char) : Option (Int × Int × List Char) := do
  let (hour, cs) ← readDigits? 2 0 largestHour cs
  let cs ← readSign? ':' cs
  let (minute, cs) ← readDigits? 2 0 59 cs
  return (hour, minute, cs)

/-- The fraction that digits denote, as it is found digit by digit. -/
def fractionOf (digits : List Char) : Float :=
  let scaled := digits.foldl (fun (value, scale) c =>
    (value * 10.0 + c.toNat.toFloat - 48.0, scale * 10.0)) (0.0, 1.0)
  scaled.1 / scaled.2

/-- Reads the seconds behind hours and minutes; they may be missing. -/
def readSeconds? : List Char → Option (Float × List Char)
  | ':' :: cs => do
    let (second, cs) ← readDigits? 2 0 59 cs
    let second := second.toNat.toFloat
    match cs with
    | '.' :: c :: cs =>
      let digits := (c :: cs).takeWhile Char.isDigit
      if digits.isEmpty then return (second, '.' :: c :: cs)
      else return (second + fractionOf digits, (c :: cs).dropWhile Char.isDigit)
    | cs => return (second, cs)
  | cs => some (0.0, cs)

namespace Moment

/-- A moment with the zone that is written at the end of a text. -/
def readZone? (m : Moment) (cs : List Char) : Option Moment := do
  let universal := { m with zone := 0, isUniversal := true, isLocal := false }
  let ofSigned := fun negative cs => do
    let (hour, minute, cs) ← readHourMinute? 14 cs
    guard (skipSpace cs).isEmpty
    let zone := 60 * hour + minute
    if zone = 0 then return universal
    return { m with zone := if negative then -zone else zone }
  match skipSpace cs with
  | [] => return { m with zone := 0 }
  | '-' :: cs => ofSigned true cs
  | '+' :: cs => ofSigned false cs
  | c :: cs =>
    guard ((c = 'Z' ∨ c = 'z') ∧ (skipSpace cs).isEmpty)
    return universal

/-- A moment with the time of the day that a text is. -/
def readTime? (m : Moment) (cs : List Char) : Option Moment := do
  let (hour, minute, cs) ← readHourMinute? 24 cs
  let (second, cs) ← readSeconds? cs
  { m with instant := none, number := none, time := some ⟨hour, minute, second⟩ }.readZone? cs

/-- The moment of a text that begins with a day. -/
def readDay? (cs : List Char) : Option Moment := do
  let (negative, cs) := match cs with
    | '-' :: cs => (true, cs)
    | cs => (false, cs)
  let (year, cs) ← readDigits? 4 0 largestYear cs
  let (month, cs) ← readDigits? 2 1 12 (← readSign? '-' cs)
  let (day, cs) ← readDigits? 2 1 31 (← readSign? '-' cs)
  let rest := cs.dropWhile fun c => isNumberSpace c || c == 'T'
  let m ← match readTime? {} rest with
    | some m => some m
    | none => if rest.isEmpty then some {} else none
  let written : WrittenDay := ⟨if negative then -year else year, month, day⟩
  let m := { m with day := some written, excess := written.excess }
  return if m.zone = 0 then m else m.withInstant

/-- The present moment. -/
def present (now : Int) : Moment := { instant := some now, isUniversal := true }

/-- The number that a text is. -/
def wholeNumber? (cs : List Char) : Option Float :=
  let n := LeadingNumber.read cs
  if n.isComplete then some n.all.scaled else none

/-- Whether a text is a word, in letters of any case. -/
def isWord (cs : List Char) (word : String) : Bool := cs.map Char.toLower == word.toList

/-- The moment of a text. -/
def readText? (now : Int) (cs : List Char) : Option Moment :=
  (readDay? cs).orElse fun _ =>
    (readTime? {} cs).orElse fun _ =>
      if isWord cs "now" then some (present now)
      else match wholeNumber? cs with
        | some x => some (ofNumber x)
        | none =>
          if isWord cs "subsec" || isWord cs "subsecond" then
            some { present now with showsFraction := true }
          else none

end Moment

end Sql
end ReportQuery
