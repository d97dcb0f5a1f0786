/-
# Running a command

A command builds its query first; only then it connects to the database, and
only then it runs the query.  What it leaves are the lines that it printed, on
the output and as notes beside it, and the failure that ended it, if any.
-/

import ReportQuery.CommandLine.Command
import ReportQuery.Pool
import ReportQuery.RowPrinter

namespace ReportQuery
namespace CommandLine

/-- What ended a command: an error, and what was being done. -/
inductive Failure where
  | readingFilter (error : Error)
  | connecting (error : Error)
  | running (error : Error)
deriving DecidableEq

namespace Failure

/-- The wording of a failure. -/
def message : Failure → String
  | .readingFilter _ => "Failed to parse --filter"
  | .connecting _ => "Failed to connect to database"
  | .running error => error.message

/-- The messages of a failure's causes, from the nearest one on. -/
def causes : Failure → List String
  | .readingFilter error | .connecting error => error.message :: error.causes
  | .running error => error.causes

end Failure

/-- What a command leaves. -/
structure Outcome where
  output : List String := []
  notes : List String := []
  failure : Option Failure := none
deriving DecidableEq

/-- Writes the placeholders of a query in a dialect. -/
def Dialect.write : Dialect → String → String
  | .generic, sql => sql
  | .postgres, sql => Database.postgres.numberPlaceholders sql

/-- Prints a query and its bound values. -/
def renderOutcome (q : Query) (d : Dialect) : Outcome :=
  { output := [Text.trimEnd (d.write q.sql), BoundValue.listJson q.binds] }

/-- Runs a query and prints its rows, with their number as a note. -/
def runOutcome (q : Query) (p : Pool) : Outcome :=
  match p.connectionTo p.database with
  | .error e => { failure := some (.running e) }
  | .ok connection =>
    match ((q.prepare p.database).forEach connection RowPrinter.handler {}).result with
    | (.ok (), printer) =>
      { output := printer.lines, notes := ["(" ++ toString printer.rows ++ " row(s))"] }
    | (.error e, printer) => { output := printer.lines, failure := some (.running e) }

/-- Runs a query and prints its first value. -/
def scalarOutcome (q : Query) (p : Pool) (t : ScalarType) : Outcome :=
  match p.connectionTo p.database with
  | .error e => { failure := some (.running e) }
  | .ok connection =>
    match ((q.prepare p.database).scalar? connection t).result with
    | .ok value => { output := [scalarText value] }
    | .error e => { failure := some (.running e) }

/-- Builds a query and connects to its database, and goes on with both. -/
def withPool (connect : String → Except Error Pool) (arguments : QueryArguments) (url : String)
    (use : Query → Pool → Outcome) : Outcome :=
  match arguments.build with
  | .error e => { failure := some (.readingFilter e) }
  | .ok q =>
    match connect url with
    | .error e => { failure := some (.connecting e) }
    | .ok p => use q p

/-- Runs a command; `connect` makes a pool from a URL. -/
def Command.execute (connect : String → Except Error Pool) : Command → Outcome
  | .render arguments d =>
    match arguments.build with
    | .error e => { failure := some (.readingFilter e) }
    | .ok q => renderOutcome q d
  | .run arguments url => withPool connect arguments url runOutcome
  | .scalar arguments url t => withPool connect arguments url fun q p => scalarOutcome q p t

end CommandLine
end ReportQuery
