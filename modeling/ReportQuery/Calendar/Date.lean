/-
# Dates

A date of the proleptic Gregorian calendar, with years from -262143 to 262142
and a year 0 before the year 1.  Only days that exist are dates: the fields
carry a proof (`Date.IsDay`).

A date is written `YYYY-MM-DD`.  Years from 0 to 9999 have four digits and no
sign, every other year has a sign and at least four digits, so the texts of
distinct dates differ.

The day with number `n` is `n` days after 1970-01-01 (`Date.ofDayNumber?`).
It is found by counting years from the first of March, where the leap day comes
last: four centuries have 146097 days, and a month's first day in such a year
is a linear function of the month, rounded down.
-/

namespace ReportQuery
namespace Calendar

/-- Whether a year has a 29th of February. -/
def isLeap (year : Int) : Bool := year % 4 == 0 && (year % 100 != 0 || year % 400 == 0)

/-- The number of days of a month; every month outside 1 to 12 has none. -/
def daysInMonth (year : Int) : Nat → Nat
  | 1 | 3 | 5 | 7 | 8 | 10 | 12 => 31
  | 4 | 6 | 9 | 11 => 30
  | 2 => if isLeap year then 29 else 28
  | _ => 0

/-- The fields name a day that exists, in a year within range. -/
def IsDay (year : Int) (month day : Nat) : Prop :=
  -262143 ≤ year ∧ year ≤ 262142 ∧ 1 ≤ day ∧ day ≤ daysInMonth year month

instance (year : Int) (month day : Nat) : Decidable (IsDay year month day) :=
  inferInstanceAs (Decidable (_ ∧ _))

/-- A day of the calendar. -/
structure Date where
  year : Int
  month : Nat
  day : Nat
  isDay : IsDay year month day
deriving DecidableEq

/-- The decimal digits of a number, with zeros in front up to a width. -/
def padded (width n : Nat) : String :=
  let ds := Nat.toDigits 10 n
  String.ofList (List.replicate (width - ds.length) '0' ++ ds)

namespace Date

/-- The date with these fields, if there is such a day. -/
def ofFields? (year : Int) (month day : Nat) : Option Date :=
  if h : IsDay year month day then some ⟨year, month, day, h⟩ else none

/-- The text of a year. -/
def yearText (year : Int) : String :=
  if 0 ≤ year ∧ year ≤ 9999 then padded 4 year.toNat
  else (if year < 0 then "-" else "+") ++ padded 4 year.natAbs

/-- The text of a date. -/
def text (d : Date) : String :=
  yearText d.year ++ "-" ++ padded 2 d.month ++ "-" ++ padded 2 d.day

/-- The date that lies so many days after 1970-01-01, if its year is within range. -/
def ofDayNumber? (n : Int) : Option Date :=
  let fromMarch := n + 719468
  let fourCenturies := fromMarch / 146097
  let dayOfFour := (fromMarch % 146097).toNat
  let yearOfFour := (dayOfFour - dayOfFour / 1460 + dayOfFour / 36524 - dayOfFour / 146096) / 365
  let dayOfYear := dayOfFour - (365 * yearOfFour + yearOfFour / 4 - yearOfFour / 100)
  let monthFromMarch := (5 * dayOfYear + 2) / 153
  let day := dayOfYear - (153 * monthFromMarch + 2) / 5 + 1
  let month := if monthFromMarch < 10 then monthFromMarch + 3 else monthFromMarch - 9
  let year := fourCenturies * 400 + yearOfFour + if month ≤ 2 then 1 else 0
  ofFields? year month day

example : (ofDayNumber? 0).map text = some "1970-01-01" := by decide +kernel
example : (ofDayNumber? (-1)).map text = some "1969-12-31" := by decide +kernel
example : (ofDayNumber? 11016).map text = some "2000-02-29" := by decide +kernel

end Date

end Calendar
end ReportQuery
