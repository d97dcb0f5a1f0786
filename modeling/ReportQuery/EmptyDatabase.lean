/-
# An empty SQLite database

A new database holds no tables but those that describe it: one for the database, and one
for what is temporary.  As nothing has been made yet, they have no rows.
-/

import ReportQuery.Execution
import ReportQuery.Sql.Statement

namespace ReportQuery
namespace EmptyDatabase

open Sql

/-- The instant at which the clock of the database stands, the beginning of 2025, so that
its answers do not hang on the time at which it is asked. -/
def now : Int := Sql.epoch + 1735689600000

/-- What the database answers to a statement. -/
def connection : Connection := fun p =>
  Sql.run {} now p.sql (p.binds.map fun value => .ofCell (Cell.ofBound value))

end EmptyDatabase
end ReportQuery
