import NewsSearch.CommandLine.Run

/-!
# The program

Reads the arguments, the environment and the filters file, runs the command and prints what it comes
to. There is no network here: every request fails.
-/

namespace NewsSearch

open CommandLine

/-- The text of a file, if it can be read. -/
def readFile? (path : String) : IO (Option String) := do
  try
    return some (← IO.FS.readFile path)
  catch _ =>
    return none

/-- The variables that the program looks at. -/
def readVariables : IO (String → Option String) := do
  let names := [Config.baseUrlVariable, Config.timeoutVariable, Config.userAgentVariable]
  let pairs ← names.mapM fun name => do return (name, ← IO.getEnv name)
  return fun name => (pairs.lookup name).join

/-- The filters file that the arguments name. -/
def readFiltersFile (arguments : List String) : IO (Option String) := do
  match Arguments.parse arguments with
  | .error _ => return none
  | .ok a =>
    match filtersFile? a.settings with
    | none => return none
    | some path => readFile? path

def runProgram (arguments : List String) : IO UInt32 := do
  let text ← readFiltersFile arguments
  let environment ← readVariables
  let outcome := run arguments ⟨environment, fun _ => text, fun _ => .dropped⟩
  IO.print outcome.stdout
  IO.eprint outcome.stderr
  return outcome.exit.toUInt32

end NewsSearch

def main (arguments : List String) : IO UInt32 := NewsSearch.runProgram arguments
