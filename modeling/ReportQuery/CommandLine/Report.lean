/-
# What the user is told

The lines for a command line that is no command, and for a failure.  Help and the
version go to the output, all else beside it.
-/

import ReportQuery.CommandLine.Outcome

namespace ReportQuery
namespace CommandLine

/-- The help text. -/
def usage : List String :=
  ["Render and run report queries",
    "",
    "Usage: reportquery <COMMAND>",
    "",
    "Commands:",
    "  render  Print the SQL and its parameters without touching a database",
    "  run     Execute the query and print every row",
    "  scalar  Execute the query and print the first column of the first row",
    "  help    Print this message",
    "",
    "Options of every command:",
    "  -f, --field <FIELDS>            Field expression to select (repeatable)",
    "      --from <FROM>               FROM clause, including any joins",
    "      --filter <FILTER>           Filter as JSON",
    "      --where-true <WHERE_TRUE>   Raw predicate (repeatable)",
    "      --group-by <GROUP_BY>       GROUP BY expression (repeatable)",
    "      --order-by <ORDER_BY>       ORDER BY expression (repeatable)",
    "      --limit <LIMIT>             Maximum number of rows",
    "  -h, --help                      Print help",
    "",
    "Options of render:",
    "      --dialect <DIALECT>         generic, postgres",
    "",
    "Options of run and scalar:",
    "  -d, --database-url <URL>        Database URL",
    "",
    "Options of scalar:",
    "      --as <KIND>                 int, float, text, date"]

/-- The version of the program. -/
def version : String := "reportquery 0.1.0"

/-- What is wrong with a command line. -/
def Misuse.message : Misuse → String
  | .helpWanted | .nothingGiven => "help wanted"
  | .versionWanted => "version wanted"
  | .unknownCommand => "unrecognized subcommand"
  | .unknownArgument => "unexpected argument found"
  | .unneededValue => "unexpected value for an option that takes none"
  | .missingValue => "a value is required for an option but none was supplied"
  | .unknownValue => "invalid value for an option"
  | .malformedValue => "invalid number for an option"
  | .repeatedOption => "an option cannot be used multiple times"
  | .missingOption => "required options were not provided"

/-- What the user is told in the end: lines on the output, lines beside it, and the
exit code. -/
structure Report where
  output : List String
  notes : List String
  exitCode : UInt32
deriving DecidableEq

/-- What is told of a command line that is no command. -/
def Misuse.report : Misuse → Report
  | .helpWanted => ⟨usage, [], 0⟩
  | .versionWanted => ⟨[version], [], 0⟩
  | .nothingGiven => ⟨[], usage, 2⟩
  | misuse => ⟨[], ["error: " ++ misuse.message], 2⟩

/-- The lines for causes, which are numbered if there are several. -/
def causeLines : List String → List String
  | [] => []
  | [cause] => ["", "Caused by:", "    " ++ cause]
  | causes =>
    ["", "Caused by:"] ++ causes.zipIdx.map fun (cause, n) => "    " ++ toString n ++ ": " ++ cause

/-- What is told of a command that was run. -/
def Outcome.report (o : Outcome) : Report :=
  match o.failure with
  | none => ⟨o.output, o.notes, 0⟩
  | some failure =>
    ⟨o.output, o.notes ++ ("Error: " ++ failure.message) :: causeLines failure.causes, 1⟩

/-- What is told of a command line. -/
def reportOf (connect : String → Except Error Pool) (arguments : List String) : Report :=
  match readCommand arguments with
  | .error misuse => misuse.report
  | .ok command => (command.execute connect).report

end CommandLine
end ReportQuery
