/-
# Moments as values

How moments are written: by a format whose directives stand for their parts, or in one of
the usual forms; as Julian days, as seconds since 1970, and the difference of two moments.

| directive | part |
| --- | --- |
| `%Y`, `%m`, `%d`, `%e` | year, month, day of the month |
| `%H`, `%k`, `%I`, `%l`, `%p`, `%P` | hour, also of twelve, and the half of the day |
| `%M`, `%S`, `%f` | minute, second, second with its fraction |
| `%j`, `%J`, `%s` | day of the year, Julian day, seconds since 1970 |
| `%u`, `%w` | day of the week, with Sunday as 7 or as 0 |
| `%U`, `%W` | week of the year, which begins with a Sunday or a Monday |
| `%G`, `%g`, `%V` | week of the year that has its Thursday, and that year |
| `%F`, `%R`, `%T` | day, hour and minute, time |
| `%%` | a percent sign |
-/

import ReportQuery.Sql.Function.Format
import ReportQuery.Sql.Moment.Modifier

namespace ReportQuery
namespace Sql

/-- An integer in so many characters at least, of which the sign is one. -/
def zeroFilled (width : Nat) (n : Int) : List Char :=
  { width, zeroPadded := true : Directive }.signed n

/-- An integer behind blanks, in so many characters at least. -/
def blankFilled (width : Nat) (n : Int) : List Char :=
  let digits := (toString n).toList
  List.replicate (width - digits.length) ' ' ++ digits

/-- A real with three places behind the point, in so many characters at least. -/
def withThousandths (width : Nat) (x : Float) : List Char :=
  { width, zeroPadded := true, precision := some 3 : Directive }.real .fixed x

/-- The Julian day of an instant. -/
def julianDay (instant : Int) : Float := (Int64.ofInt instant).toFloat / 86400000.0

/-- The thousandths of a second of an instant since 1970, in seconds. -/
def secondsWithFraction (instant : Int) : Float :=
  (Int64.ofInt (instant - epoch)).toFloat / 1000.0

/-- The whole seconds of an instant since 1970. -/
def wholeSeconds (instant : Int) : Int := Int.tdiv instant 1000 - epoch / 1000

/-- The text of a day. -/
def WrittenDay.text (d : WrittenDay) : List Char :=
  (if d.year < 0 then ['-'] else []) ++ zeroFilled 4 d.year.natAbs ++ '-' ::
    zeroFilled 2 d.month ++ '-' :: zeroFilled 2 d.day

/-- The whole second of a time. -/
def WrittenTime.wholeSecond (t : WrittenTime) : Int := t.second.toInt64.toInt

/-- The text of a time, with the fraction of its second or without it. -/
def WrittenTime.text (t : WrittenTime) (showsFraction : Bool) : List Char :=
  let thousandths := (1000.0 * t.second + 0.5).toInt64.toInt
  zeroFilled 2 t.hour ++ ':' :: zeroFilled 2 t.minute ++ ':' ::
    if showsFraction then
      zeroFilled 2 (thousandths / 1000 % 100) ++ '.' :: zeroFilled 3 (thousandths % 1000)
    else zeroFilled 2 t.wholeSecond

namespace Moment

/-- How many days a moment is behind the first day of its year. -/
def dayOfYear (m : Moment) : Int :=
  let first := { m with instant := none, day := some ⟨m.dayOf.year, 1, 1⟩ }.withInstant
  Int.tdiv (m.instantOf - first.instantOf + dayLength / 2) dayLength

/-- How many days a moment is behind a Monday. -/
def dayFromMonday (m : Moment) : Int := (m.instantOf + dayLength / 2) / dayLength % 7

/-- How many days a moment is behind a Sunday. -/
def dayFromSunday (m : Moment) : Int := (m.instantOf + 3 * (dayLength / 2)) / dayLength % 7

/-- The Thursday of the week of a moment. -/
def thursday (m : Moment) : Moment :=
  { m with
    instant := some (m.instantOf + (3 - m.dayFromMonday) * dayLength)
    day := none }.withDay

/-- What a directive writes, if it is one. -/
def part? (m : Moment) (directive : Char) : Option (List Char) :=
  let d := m.dayOf
  let t := m.timeOf
  let hour := if t.hour % 12 = 0 then 12 else if 12 < t.hour then t.hour - 12 else t.hour
  match directive with
  | 'd' => some (zeroFilled 2 d.day)
  | 'e' => some (blankFilled 2 d.day)
  | 'f' => some (withThousandths 6 (if 59.999 < t.second then 59.999 else t.second))
  | 'F' => some (zeroFilled 4 d.year ++ '-' :: zeroFilled 2 d.month ++ '-' :: zeroFilled 2 d.day)
  | 'g' => some (zeroFilled 2 (Int.tmod m.thursday.dayOf.year 100))
  | 'G' => some (zeroFilled 4 m.thursday.dayOf.year)
  | 'H' => some (zeroFilled 2 t.hour)
  | 'k' => some (blankFilled 2 t.hour)
  | 'I' => some (zeroFilled 2 hour)
  | 'l' => some (blankFilled 2 hour)
  | 'j' => some (zeroFilled 3 (m.dayOfYear + 1))
  | 'J' =>
    some ({ precision := some 16 : Directive }.real (.general 'e') (julianDay m.instantOf))
  | 'm' => some (zeroFilled 2 d.month)
  | 'M' => some (zeroFilled 2 t.minute)
  | 'p' => some (if 12 ≤ t.hour then ['P', 'M'] else ['A', 'M'])
  | 'P' => some (if 12 ≤ t.hour then ['p', 'm'] else ['a', 'm'])
  | 'R' => some (zeroFilled 2 t.hour ++ ':' :: zeroFilled 2 t.minute)
  | 's' =>
    some (if m.showsFraction then
        { precision := some 3 : Directive }.real .fixed (secondsWithFraction m.instantOf)
      else (toString (wholeSeconds m.instantOf)).toList)
  | 'S' => some (zeroFilled 2 t.wholeSecond)
  | 'T' => some (t.text false)
  | 'u' => some (zeroFilled 1 (if m.dayFromSunday = 0 then 7 else m.dayFromSunday))
  | 'w' => some (zeroFilled 1 m.dayFromSunday)
  | 'U' => some (zeroFilled 2 (Int.tdiv (m.dayOfYear - m.dayFromSunday + 7) 7))
  | 'V' => some (zeroFilled 2 (Int.tdiv m.thursday.dayOfYear 7 + 1))
  | 'W' => some (zeroFilled 2 (Int.tdiv (m.dayOfYear - m.dayFromMonday + 7) 7))
  | 'Y' => some (zeroFilled 4 d.year)
  | '%' => some ['%']
  | _ => none

/-- What a format makes of a moment; none if it has a directive that is none. -/
def write? (m : Moment) : List Char → Option (List Char)
  | [] => some []
  | ['%'] => none
  | '%' :: directive :: cs => do return (← m.part? directive) ++ (← m.write? cs)
  | c :: cs => (m.write? cs).map (c :: ·)

/-! ## Differences -/

/-- A difference of two moments: years, months, and an instant for what is left. -/
structure Difference where
  years : Int
  months : Int
  rest : Moment

/-- Brings the other moment to the near side of a moment, month by month, and counts down
what lies between them; `tries` times at most. -/
def Difference.settle (m : Moment) (direction : Int) : Nat → Difference → Difference
  | 0, d => d
  | tries + 1, d =>
    if direction * (m.instantOf - d.rest.instantOf) < 0 then
      let day := d.rest.dayOf.addMonths (-direction)
      let rest := { d.rest with instant := none, day := some day }.withInstant
      let years := if d.months = 0 then d.years - 1 else d.years
      settle m direction tries ⟨years, if d.months = 0 then 11 else d.months - 1, rest⟩
    else d

/-- The difference of two moments that have a day and a time; `direction` tells which one is
behind the other. -/
def difference (m other : Moment) (direction : Int) : Difference :=
  let between := direction * (m.dayOf.year - other.dayOf.year)
  let months := direction * (m.dayOf.month - other.dayOf.month)
  let day : WrittenDay := ⟨m.dayOf.year, m.dayOf.month, other.dayOf.day⟩
  let rest :=
    if between = 0 ∧ months = 0 then other
    else { other with instant := none, day := some day }.withInstant
  Difference.settle m direction 50
    ⟨if months < 0 then between - 1 else between, if months < 0 then months + 12 else months, rest⟩

/-- The text of the difference of two moments. -/
def differenceText (m other : Moment) : List Char :=
  let m := m.withDayAndTime
  let other := other.withDayAndTime
  let isBehind := other.instantOf ≤ m.instantOf
  let d := m.difference other (if isBehind then 1 else -1)
  let distance := (m.instantOf - d.rest.instantOf).natAbs
  let rest := (ofInstant (distance + 148699540800000)).withDayAndTime
  (if isBehind then '+' else '-') :: zeroFilled 4 d.years ++ '-' :: zeroFilled 2 d.months ++
    '-' :: zeroFilled 2 (rest.dayOf.day - 1) ++ ' ' :: zeroFilled 2 rest.timeOf.hour ++
    ':' :: zeroFilled 2 rest.timeOf.minute ++ ':' :: withThousandths 6 rest.timeOf.second

end Moment

/-! ## Functions -/

/-- What a function of moments that is known by its name in lower case makes of values; none
if it is no such function. -/
def momentValue? (now : Int) (name : String) (values : List Value) : Option Value :=
  let m := Moment.ofValues? now values
  let ofMoment := fun f : Moment → Value => some ((m.map f).getD .null)
  match name, values with
  | "date", _ => ofMoment fun m => textValue m.withDay.dayOf.text
  | "time", _ => ofMoment fun m => textValue (m.withTime.timeOf.text m.showsFraction)
  | "datetime", _ => ofMoment fun m =>
    let m := m.withDayAndTime
    textValue (m.dayOf.text ++ ' ' :: m.timeOf.text m.showsFraction)
  | "julianday", _ => ofMoment fun m => .real (julianDay m.instantOf)
  | "unixepoch", _ => ofMoment fun m =>
    if m.showsFraction then .real (secondsWithFraction m.instantOf)
    else .integer (Int64.ofInt (wholeSeconds m.instantOf))
  | "strftime", format :: values =>
    if format = .null then some .null
    else some (((Moment.ofValues? now values).bind fun m =>
      m.withDayAndTime.write? (upToNull format.chars)).elim .null textValue)
  | "strftime", [] => some .null
  | "timediff", [a, b] =>
    match Moment.ofValues? now [a], Moment.ofValues? now [b] with
    | some m, some other => some (textValue (m.differenceText other))
    | _, _ => some .null
  | "current_date", [] => some (textValue (Moment.present now).withDay.dayOf.text)
  | "current_time", [] => some (textValue ((Moment.present now).withTime.timeOf.text false))
  | "current_timestamp", [] =>
    let m := (Moment.present now).withDayAndTime
    some (textValue (m.dayOf.text ++ ' ' :: m.timeOf.text false))
  | _, _ => none

end Sql
end ReportQuery
