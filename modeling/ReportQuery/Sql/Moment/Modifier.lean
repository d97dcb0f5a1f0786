/-
# Modifiers of moments

A modifier moves a moment, or says how it is to be taken or shown.

| modifier | effect |
| --- | --- |
| `+N seconds`, `minutes`, `hours`, `days`, `months`, `years` | moves by an amount |
| `+HH:MM`, `+HH:MM:SS.FFF` | moves by a time |
| `+YYYY-MM-DD`, `+YYYY-MM-DD HH:MM` | moves by years, months, days and a time |
| `start of day`, `start of month`, `start of year` | moves back |
| `weekday N` | moves on to a day of the week, from Sunday as 0 |
| `ceiling`, `floor` | what days behind the end of a month stand for |
| `auto`, `julianday`, `unixepoch` | what a number stands for |
| `localtime`, `utc` | from and to the local time, which is the universal one |
| `subsec`, `subsecond` | shows fractions of seconds |
-/

import ReportQuery.Sql.Moment.Reading

namespace ReportQuery
namespace Sql

/-- The units that moments are moved by, each with a bound of the amount and its length in
seconds. -/
def momentUnits : List (String × Float × Float) :=
  [("second", 464269992787968.0, 1.0), ("minute", 7737900007424.0, 60.0),
    ("hour", 128969998336.0, 3600.0), ("day", 5373485.0, 86400.0),
    ("month", 176546.0, 2592000.0), ("year", 14713.0, 31536000.0)]

namespace Moment

/-- A moment with another day in place of its own. -/
def withNewDay (m : Moment) (day : WrittenDay) : Moment :=
  { m with day := m.day.map fun _ => day, excess := day.excess, instant := none }

/-- A moment at which a number has been settled as an instant. -/
def settledAt (m : Moment) (x : Float) : Moment :=
  { m.instantOnly with
    instant := some (x * 1000.0 + 210866760000000.0 + 0.5).toInt64.toInt
    number := none }

/-- Takes a number that cannot be a Julian day for the seconds since 1970, if it can be
that. -/
def automatic (m : Moment) : Moment :=
  match m.number, m.instant with
  | some x, none =>
    if -210866760000.0 ≤ x && x ≤ 253402300799.0 then m.settledAt x else m
  | _, _ => { m with number := none }

/-- Takes a number for the seconds since 1970. -/
def ofSeconds? (m : Moment) : Option Moment := do
  let x ← m.number
  let instant := x * 1000.0 + 210866760000000.0
  guard (0.0 ≤ instant && instant < 464269060800000.0)
  return m.settledAt x

/-- The instants between which the local time is known. -/
def localRange : Int × Int := (210866760000000, 213014145600000)

/-- A moment in the local time.  Where that is not known, a year between 1999 and 2003 stands
for its own, at the same place among four years.  A moment that has failed stands for the
day of an unknown one here. -/
def inLocalTime (m : Moment) : Moment :=
  if m.isLocal then { m with isUniversal := false }
  else
    let m := m.withInstant.withInstant
    let isInRange := localRange.1 ≤ m.instantOf && m.instantOf ≤ localRange.2
    let written := m.withDayAndTime
    let year := 2000 + Int.tmod written.dayOf.year 4
    let known := if isInRange then m else
      { written with instant := none, day := some { written.dayOf with year } }.withInstant
    let instant := 1000 * Int.tdiv known.instantOf 1000
    match (ofInstant instant).withDay.day with
    | none => failure
    | some day =>
      let years := if isInRange then 0 else written.dayOf.year - year
      let time := WrittenTime.ofInstant instant
      let fraction := (Int64.ofInt (Int.tmod m.instantOf 1000)).toFloat * 0.001
      { m with
        instant := none
        number := none
        zone := 0
        failed := false
        day := some { day with year := day.year + years }
        time := some { time with second := time.second + fraction }
        isUniversal := false
        isLocal := true }

/-- A moment in the universal time. -/
def inUniversalTime (m : Moment) : Moment :=
  if m.isUniversal then m else { instant := some m.withInstant.instantOf, isUniversal := true }

/-- Moves a moment on to a day of the week. -/
def toWeekday (m : Moment) (wanted : Int) : Moment :=
  let m := m.withDayAndTime
  let m := { m with zone := 0, instant := none }.withInstant
  let own := (m.instantOf + 3 * (dayLength / 2)) / dayLength % 7
  m.moved ((wanted - (if wanted < own then own - 7 else own)) * dayLength)

/-- Moves a moment back to the start of a day, a month or a year. -/
def toStart? (m : Moment) (unit : List Char) : Option Moment := do
  guard (m.instant.isSome || m.day.isSome || m.time.isSome)
  let m := m.withDay
  let day := m.dayOf
  let first ←
    if isWord unit "month" then some { day with day := 1 }
    else if isWord unit "year" then some { day with month := 1, day := 1 }
    else if isWord unit "day" then some day
    else none
  return { m with
    day := m.day.map fun _ => first
    time := some ⟨0, 0, 0.0⟩
    number := none
    zone := 0
    instant := none }

/-- Moves a moment by a time that is written as one. -/
def movedByTime? (m : Moment) (negative : Bool) (cs : List Char) : Option Moment := do
  let t := (← readTime? {} cs).withInstant
  let distance := (t.instantOf - dayLength / 2) % dayLength
  return m.moved (if negative then -distance else distance)

/-- Moves a moment by years, months and days, and by a time behind them. -/
def movedByDay? (m : Moment) (negative : Bool) (yearDigits : Nat) (cs : List Char) :
    Option Moment := do
  let (years, cs) ← readDigits? yearDigits 0 largestYear cs
  let (months, cs) ← readDigits? 2 0 11 (← readSign? '-' cs)
  let (days, cs) ← readDigits? 2 0 30 (← readSign? '-' cs)
  let sign : Int := if negative then -1 else 1
  let m := m.withDayAndTime
  let day := { m.dayOf with year := m.dayOf.year + sign * years }.addMonths (sign * months)
  let m := (m.withNewDay day).withInstant
  let m := { m with
    day := none, time := none, instant := m.instant.map (· + sign * days * dayLength) }
  match cs with
  | [] => return m
  | c :: cs =>
    guard (isNumberSpace c && (readHourMinute? 24 cs).isSome)
    m.movedByTime? negative cs

/-- Moves a moment by an amount of a unit.  Months and years are counted in the calendar,
and their fractions in days. -/
def movedByUnit? (m : Moment) (amount : Float) (unit : List Char) : Option Moment := do
  guard (3 ≤ unit.length && unit.length ≤ 10)
  let unit := unit.map Char.toLower
  let unit := if unit.getLast? = some 's' then unit.dropLast else unit
  let (name, _, seconds) ← momentUnits.find? fun (name, bound, _) =>
    name.toList == unit && -bound < amount && amount < bound
  let rounding := if amount < 0.0 then -0.5 else 0.5
  let whole := amount.toInt64
  let behind := amount - whole.toFloat
  let m := { m.withInstant with excess := 0 }
  let (m, amount) := match name with
    | "month" =>
      let m := m.withDayAndTime
      (m.withNewDay (m.dayOf.addMonths whole.toInt), behind)
    | "year" =>
      let m := m.withDayAndTime
      (m.withNewDay { m.dayOf with year := m.dayOf.year + whole.toInt }, behind)
    | _ => (m, amount)
  return m.moved (amount * 1000.0 * seconds + rounding).toInt64.toInt

/-- How many characters belong to the amount at the beginning of a modifier, of which
`index` have been looked at.  A date's year ends at a minus sign. -/
def amountLength (all : List Char) (index : Nat) : List Char → Nat
  | [] => index
  | c :: cs =>
    let endsYear := c = '-' && ((index = 5 && (readDigits? 4 0 largestYear (all.drop 1)).isSome) ||
      (index = 6 && (readDigits? 5 0 largestYear (all.drop 1)).isSome))
    if c = ':' || isNumberSpace c || endsYear then index else amountLength all (index + 1) cs

/-- Moves a moment by what a modifier says that begins with a sign or a digit. -/
def movedBy? (m : Moment) (cs : List Char) : Option Moment := do
  let size := amountLength cs 1 (cs.drop 1)
  let amount ← wholeNumber? (cs.take size)
  let isSigned := cs.head?.any fun c => c = '+' || c = '-'
  let negative := cs.head? = some '-'
  match cs.drop size with
  | '-' :: _ =>
    guard isSigned
    m.movedByDay? negative (size - 1) (cs.drop 1)
  | ':' :: _ => m.movedByTime? negative (if isSigned then cs.drop 1 else cs)
  | rest => m.movedByUnit? amount (skipSpace rest)

/-- The number of a day of the week. -/
def weekday? (cs : List Char) : Option Int := do
  let x ← wholeNumber? cs
  let day := x.toInt64
  guard (0.0 ≤ x && x < 7.0 && day.toFloat == x)
  return day.toInt

/-- A moment as a modifier says; only the first one says what a number stands for. -/
def modify? (m : Moment) (isFirst : Bool) (cs : List Char) : Option Moment := do
  let lower := cs.map Char.toLower
  match String.ofList lower with
  | "auto" =>
    guard isFirst
    return m.automatic
  | "ceiling" => return { m.withInstant.instantOnly with excess := 0 }
  | "floor" => return m.moved (-m.withInstant.excess * dayLength)
  | "julianday" =>
    guard (isFirst && m.instant.isSome && m.number.isSome)
    return { m with number := none }
  | "localtime" => return m.inLocalTime
  | "utc" => return m.inUniversalTime
  | "unixepoch" =>
    guard isFirst
    m.ofSeconds?
  | "subsec" | "subsecond" => return { m with showsFraction := true }
  | _ =>
    if "weekday ".toList.isPrefixOf lower then return m.toWeekday (← weekday? (cs.drop 8))
    else if "start of ".toList.isPrefixOf lower then m.toStart? (cs.drop 9)
    else
      guard (cs.head?.any fun c => c = '+' || c = '-' || c.isDigit)
      m.movedBy? cs

/-- A moment as modifiers say, one after the other. -/
def modifyAll? (m : Moment) (isFirst : Bool) : List Value → Option Moment
  | [] => some m
  | c :: cs => do
    guard (c ≠ .null)
    (← m.modify? isFirst (c.chars.takeWhile (· != '\x00'))).modifyAll? false cs

/-- The moment that values say, the first one what it is and the others how it is modified.
Without values it is the present one. -/
def ofValues? (now : Int) (values : List Value) : Option Moment := do
  match values with
  | [] => return present now
  | c :: modifiers =>
    let m ← match c with
      | .null => none
      | .integer n => some (ofNumber n.toFloat)
      | .real x => some (ofNumber x)
      | c => readText? now (c.chars.takeWhile (· != '\x00'))
    let m := (← m.modifyAll? true modifiers).withInstant
    guard (!m.failed && m.instant.any isKnown)
    let isBehind := m.day.any fun day => 28 < day.day
    return if modifiers.isEmpty && isBehind then { m with day := none } else m

end Moment

end Sql
end ReportQuery
