import DataBinding.CommandLine.Run

namespace DataBinding.CommandLine

/-!
# The program

Reads the files that the command line names, runs it and writes its outcome.
-/

/-- The content of a file, if it can be read. -/
def readFile? (path : String) : IO (Option String) := do
  try
    return some (← IO.FS.readFile path)
  catch _ =>
    return none

/-- Runs a command line and gives its exit code. -/
def runProgram (arguments : List String) : IO UInt32 := do
  let paths :=
    match readRequest arguments with
    | .ok request => request.files
    | .error _ => []
  let contents ← paths.mapM readFile?
  let files (path : String) : Option String :=
    ((paths.zip contents).lookup path).join
  let outcome := run files arguments
  for line in outcome.output do
    IO.println line
  for line in outcome.complaints do
    IO.eprintln line
  return outcome.code.toUInt32

end DataBinding.CommandLine

/-- The program. -/
def main (arguments : List String) : IO UInt32 :=
  DataBinding.CommandLine.runProgram arguments
