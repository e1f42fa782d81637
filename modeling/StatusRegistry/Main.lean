/-
StatusRegistry/Main.lean

The command line: it prints the report for its arguments, and ends with the
exit status of the report.
-/
import StatusRegistry.Report

/-- Describes the status codes that are given as arguments, or lists all of them. -/
def main (args : List String) : IO UInt32 := do
  let r := StatusRegistry.report args
  IO.print r.output
  return r.exitStatus.toUInt32
