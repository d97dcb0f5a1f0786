/-
# The program

Prints what is to be told of its command line.  It reaches new databases only.
-/

import ReportQuery.CommandLine.Report
import ReportQuery.Endpoint.Opening

open ReportQuery

/-- Runs the program. -/
def main (arguments : List String) : IO UInt32 := do
  let report := CommandLine.reportOf (Pool.connect Endpoint.openNew) arguments
  for line in report.output do IO.println line
  for line in report.notes do IO.eprintln line
  return report.exitCode
