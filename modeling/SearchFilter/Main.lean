import SearchFilter.CommandLine.Run

/-! The program: it reads the files that are named, runs the command, and writes what comes out. -/

namespace SearchFilter.CommandLine

def readText (path : String) : IO (Option String) := do
  try
    return some (← IO.FS.readFile path)
  catch _ => return none

def writeOutput (outcome : Outcome) : IO Outcome := do
  match outcome.file with
  | none => return outcome
  | some (path, text) =>
    try
      IO.FS.writeFile path text
      return outcome
    catch _ => return outcome.unwritten

end SearchFilter.CommandLine

open SearchFilter.CommandLine

def main (words : List String) : IO UInt32 := do
  let outcome ← match parse (← IO.getEnv "FILTER_BAR_CONFIG") words with
    | .error halt => pure halt.outcome
    | .ok invocation => do
      let texts ← invocation.paths.mapM fun path => return (path, ← readText path)
      pure (run (fun path => (texts.lookup path).join) invocation)
  IO.print outcome.output
  let outcome ← writeOutput outcome
  IO.eprint outcome.errors
  return outcome.code.toUInt32
