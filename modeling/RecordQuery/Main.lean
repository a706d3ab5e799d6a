import RecordQuery.CommandLine.Report

/-!
# The program

Selects and sorts JSON records from files or from standard input.
-/

namespace RecordQuery.CommandLine

/-- The text of a file, if it can be read. -/
def readFile? (file : String) : IO (Option String) := do
  try
    return some (← IO.FS.readFile file)
  catch _ => return none

/-- The text on standard input, if it can be read; on a terminal there is none to wait for. -/
def readInput? : IO (Option String) := do
  let stdin ← IO.getStdin
  if ← stdin.isTty then return some ""
  try
    return some (← stdin.readToEnd)
  catch _ => return none

end RecordQuery.CommandLine

open RecordQuery.CommandLine in
/-- Reads the arguments and runs. -/
def main (args : List String) : IO UInt32 := do
  let setting? ← IO.getEnv maxDepthVariable
  let report ← program args setting? readFile? readInput?
  IO.eprint report.err
  IO.print report.out
  return report.exitCode
