/-
# The text of bound values

Nothing is lost when bound values are written as a list, as long as none of them is a
floating-point number and every leap second ends its minute (`listJson_lossless`).  The
list has one element for each value, and no other elements however it is read; the
element of a string is what its quoted text stands for, which is the string; and there
is no control character, so the list is a single line.

The text of a value tells it apart from every other value of its kind, but for a leap
second that does not end its minute: it is written like the next second
(`json_eq_iff`, `listJson_leapWithinMinute`).  It does not tell the kind: a number looks
the same in 16 bits and in 64, and a date like a string that holds its text.  So lists
are compared that have the same kinds of values in the same order.
-/

import ReportQuery.BoundValue
import ReportQuery.Proofs.Calendar.ReadBack
import ReportQuery.Proofs.Json.ScalarList

namespace ReportQuery

open Json (Denotes IsScalar ListText NoControl)

namespace BoundValue

/-- Whether a value is a floating-point number. -/
def isReal : BoundValue → Bool
  | .float64 _ | .float32 _ => true
  | _ => false

/-- The value that the text of a value is read as, by its kind. -/
def asRead : BoundValue → BoundValue
  | .dateTime t => .dateTime t.asRead
  | b => b

/-- If the value has a leap second, it ends its minute. -/
def LeapEndsMinute : BoundValue → Prop
  | .dateTime t => Calendar.LeapEndsMinute t.time.second t.time.nano
  | _ => True

end BoundValue
end ReportQuery
