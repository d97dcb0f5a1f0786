/-
# Times of day and date-times

A time of day counts nanoseconds within a second.  Any second may be followed by a
leap second, which is kept as the second with a billion nanoseconds or more and shown
as the second after it:

| second | nanoseconds | shown |
| --- | --- | --- |
| 5 | below a billion | second 5 |
| 5 | a billion or more | second 6 |
| 59 | a billion or more | second 60 |

So only a leap second that ends its minute is told by its text, and every other one
looks like the next second.  Such a time may be given, since a local clock may be off by
some seconds, but it is not made from fields (`TimeOfDay.ofFields?`) and never read.

A time is written `HH:MM:SS` and, when the nanoseconds are not zero, a point and
3, 6 or 9 digits, the fewest that show them all.  The character between date and
time is the writer's: `T` for values, a blank for display.
-/

import ReportQuery.Calendar.Date
import ReportQuery.Decimal.Binary

namespace ReportQuery
namespace Calendar

/-- Nanoseconds in a second. -/
def billion : Nat := 1000000000

/-- The fields name a time of day, leap seconds included. -/
def IsTime (hour minute second nano : Nat) : Prop :=
  hour < 24 ∧ minute < 60 ∧ second < 60 ∧ nano < 2 * billion

instance (hour minute second nano : Nat) : Decidable (IsTime hour minute second nano) :=
  inferInstanceAs (Decidable (_ ∧ _))

/-- If there is a leap second, it ends its minute. -/
def LeapEndsMinute (second nano : Nat) : Prop := billion ≤ nano → second = 59

instance (second nano : Nat) : Decidable (LeapEndsMinute second nano) :=
  inferInstanceAs (Decidable (_ → _))

/-- A time of day. -/
structure TimeOfDay where
  hour : Nat
  minute : Nat
  second : Nat
  nano : Nat
  isTime : IsTime hour minute second nano
deriving DecidableEq

namespace TimeOfDay

/-- The time with these fields, if there is one.  A leap second has to end its minute. -/
def ofFields? (hour minute second nano : Nat) : Option TimeOfDay :=
  if h : IsTime hour minute second nano ∧ LeapEndsMinute second nano then
    some ⟨hour, minute, second, nano, h.1⟩
  else none

/-- The second that is shown: a leap second is shown as one more. -/
def shownSecond (t : TimeOfDay) : Nat := t.second + t.nano / billion

/-- The fraction of the second that is shown, in nanoseconds. -/
def shownNano (t : TimeOfDay) : Nat := t.nano % billion

/-- A fraction of a second in the fewest of 0, 3, 6 and 9 digits. -/
def fractionText (nano : Nat) : String :=
  if nano = 0 then ""
  else if nano % 1000000 = 0 then "." ++ padded 3 (nano / 1000000)
  else if nano % 1000 = 0 then "." ++ padded 6 (nano / 1000)
  else "." ++ padded 9 nano

/-- The text of a time of day. -/
def text (t : TimeOfDay) : String :=
  padded 2 t.hour ++ ":" ++ padded 2 t.minute ++ ":" ++ padded 2 t.shownSecond ++
    fractionText t.shownNano

end TimeOfDay

/-- A date and a time of day, without a time zone. -/
structure DateTime where
  date : Date
  time : TimeOfDay
deriving DecidableEq

namespace DateTime

/-- The text of a date-time with a separator between its parts. -/
def text (separator : String) (t : DateTime) : String :=
  t.date.text ++ separator ++ t.time.text

/-- The moment that lies so many seconds and nanoseconds after the start of
1970-01-01, if its year is within range. -/
def ofUnix? (seconds : Int) (nano : Nat) : Option DateTime := do
  let date ← Date.ofDayNumber? (seconds / 86400)
  let ofDay := (seconds % 86400).toNat
  let time ← TimeOfDay.ofFields? (ofDay / 3600) (ofDay / 60 % 60) (ofDay % 60) nano
  return ⟨date, time⟩

/-- The moment of a Julian day number.  Days are turned into seconds in binary
arithmetic, and both the whole seconds and the nanoseconds are cut off toward
zero. -/
def ofJulianDay? (julian : Float) : Option DateTime :=
  let seconds := (julian - 2440587.5) * 86400.0
  if seconds.isFinite then
    let whole := truncated seconds
    let nano := truncated ((seconds - Float.ofInt whole) * 1000000000.0)
    ofUnix? whole nano.natAbs
  else none
where
  /-- The whole part of a finite number, toward zero. -/
  truncated (x : Float) : Int :=
    match Decimal.readFloat x with
    | .finite negative m =>
      if negative then -(m.wholePart : Int) else m.wholePart
    | _ => 0

end DateTime

end Calendar
end ReportQuery
