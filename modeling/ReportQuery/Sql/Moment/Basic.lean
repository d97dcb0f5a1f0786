/-
# Moments

A moment is known in up to three ways: as an instant, which counts the thousandths of a
second since noon of the first Julian day, as a day of the calendar, and as a time of the
day.  A day that is written may lie behind the end of its month, and stays so as long as
nothing is computed with it.  A number may stand for a Julian day, or for the seconds since
1970 if a modifier says so.

Each way is found from the others when it is asked for: `withInstant`, `withDay` and
`withTime`.  Years from -4713 to 9999 have instants; outside of them a moment fails.
-/

import ReportQuery.Calendar.Date

namespace ReportQuery
namespace Sql

/-- A day of the calendar, whose number may be larger than those of its month. -/
structure WrittenDay where
  year : Int
  month : Int
  day : Int
deriving DecidableEq, Repr

/-- A time of the day. -/
structure WrittenTime where
  hour : Int
  minute : Int
  second : Float
deriving DecidableEq

/-- The thousandths of a second in a day. -/
def dayLength : Int := 86400000

/-- The start of 1970. -/
def epoch : Int := 210866760000000

namespace WrittenDay

/-- How many days a day lies behind the end of its month. -/
def excess (d : WrittenDay) : Int :=
  max 0 (d.day - Calendar.daysInMonth d.year d.month.toNat)

/-- The day that stands for an unknown one. -/
def default : WrittenDay := ⟨2000, 1, 1⟩

/-- The first instant of a day.  Years begin with March here, and centuries bring the
calendar's exceptions; before the year 0 they are counted towards it. -/
def start (d : WrittenDay) : Int :=
  let year := if d.month ≤ 2 then d.year - 1 else d.year
  let month := if d.month ≤ 2 then d.month + 12 else d.month
  let century := Int.tdiv year 100
  let exceptions := 2 - century + Int.tdiv century 4
  let days := 36525 * (year + 4716) / 100 + 306001 * (month + 1) / 10000 + d.day + exceptions
  (2 * days - 3049) * (dayLength / 2)

/-- The day of an instant that is not before the first Julian day. -/
def ofInstant (instant : Int) : WrittenDay :=
  let number := (instant + dayLength / 2) / dayLength
  let century := Int.tdiv (4 * number - 7468865) 146097
  let days := number + 1 + century - Int.tdiv century 4 + 1524
  let year := (20 * days - 2442) / 7305
  let behindYear := days - 36525 * year / 100
  let month := 10000 * behindYear / 306001
  let number := if month < 14 then month - 1 else month - 13
  ⟨if 2 < number then year - 4716 else year - 4715, number,
    behindYear - 306001 * month / 10000⟩

/-- A day some months later, in the month's range. -/
def addMonths (d : WrittenDay) (months : Int) : WrittenDay :=
  let month := d.month + months - 1
  { d with year := d.year + month / 12, month := month % 12 + 1 }

end WrittenDay

namespace WrittenTime

/-- The thousandths of a second since the start of the day. -/
def sinceStart (t : WrittenTime) : Int :=
  t.hour * 3600000 + t.minute * 60000 + (t.second * 1000.0 + 0.5).toInt64.toInt

/-- The time of the day of an instant. -/
def ofInstant (instant : Int) : WrittenTime :=
  let passed := Int.tmod (instant + dayLength / 2) dayLength
  let minutes := Int.tdiv passed 60000
  ⟨Int.tdiv minutes 60, Int.tmod minutes 60,
    (Int64.ofInt (Int.tmod passed 60000)).toFloat / 1000.0⟩

end WrittenTime

/-- A moment, as far as it is known. -/
structure Moment where
  instant : Option Int := none
  day : Option WrittenDay := none
  time : Option WrittenTime := none
  /-- A number that has not been found to be a Julian day or a count of seconds. -/
  number : Option Float := none
  /-- How many minutes the day and the time are ahead of the instant. -/
  zone : Int := 0
  /-- How many days the day lay behind the end of its month. -/
  excess : Int := 0
  showsFraction : Bool := false
  isUniversal : Bool := false
  isLocal : Bool := false
  failed : Bool := false

namespace Moment

/-- A moment that is none. -/
def failure : Moment := { failed := true }

/-- A moment with its instant. -/
def withInstant (m : Moment) : Moment :=
  if m.instant.isSome then m
  else
    let day := m.day.getD .default
    if day.year < -4713 ∨ 9999 < day.year ∨ m.number.isSome then failure
    else match m.time with
      | none => { m with instant := some day.start }
      | some time =>
        let instant := day.start + time.sinceStart
        if m.zone = 0 then { m with instant := some instant }
        else
          { m with
            instant := some (instant - m.zone * 60000)
            day := none
            time := none
            zone := 0
            isUniversal := true
            isLocal := false }

/-- Whether an instant lies on a day of the years that are known. -/
def isKnown (instant : Int) : Bool := 0 ≤ instant && instant ≤ 464269060799999

/-- A moment with its day. -/
def withDay (m : Moment) : Moment :=
  match m.day, m.instant with
  | some _, _ => m
  | none, none => { m with day := some .default }
  | none, some instant =>
    if isKnown instant then { m with day := some (.ofInstant instant) } else failure

/-- A moment with its time of the day. -/
def withTime (m : Moment) : Moment :=
  if m.time.isSome then m
  else
    let m := m.withInstant
    { m with time := some (.ofInstant (m.instant.getD 0)), number := none }

/-- A moment with its day and its time. -/
def withDayAndTime (m : Moment) : Moment := m.withDay.withTime

/-- A moment of which only the instant counts. -/
def instantOnly (m : Moment) : Moment := { m with day := none, time := none, zone := 0 }

/-- The instant of a moment that has one. -/
def instantOf (m : Moment) : Int := m.instant.getD 0

/-- The day of a moment that has one. -/
def dayOf (m : Moment) : WrittenDay := m.day.getD ⟨0, 0, 0⟩

/-- The time of a moment that has one. -/
def timeOf (m : Moment) : WrittenTime := m.time.getD ⟨0, 0, 0.0⟩

/-- A moment moved by thousandths of a second, of which only the instant is kept. -/
def moved (m : Moment) (distance : Int) : Moment :=
  let m := m.withInstant
  { m.instantOnly with instant := m.instant.map (· + distance) }

/-- The moment of an instant. -/
def ofInstant (instant : Int) : Moment := { instant := some instant }

/-- The moment that a number stands for, a Julian day if it can be one. -/
def ofNumber (x : Float) : Moment :=
  let instant := if 0.0 ≤ x && x < 5373484.5 then
    some (x * 86400000.0 + 0.5).toInt64.toInt else none
  { number := some x, instant }

end Moment

end Sql
end ReportQuery
