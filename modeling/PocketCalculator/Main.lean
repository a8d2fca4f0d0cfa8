import PocketCalculator.CommandLine.Program

/-!
# The program

Runs the command line with the variables of the process, prints the outcome and exits with its
status.
-/

namespace PocketCalculator.CommandLine

/-- The variables that settings are read from. -/
def settingVariables : List String :=
  ["KEYCALC_HOST", "KEYCALC_PORT", "KEYCALC_DEBUG", "KEYCALC_LOG_LEVEL", "KEYCALC_MAX_SESSIONS"]

def processEnvironment : IO Environment := do
  let pairs ← settingVariables.mapM fun name => do return (name, ← IO.getEnv name)
  return fun name => (pairs.lookup name).join

def Outcome.print (o : Outcome) : IO Unit := do
  o.stdout.forM IO.println
  o.stderr.forM IO.eprintln
  if let some f := o.failure then IO.eprintln f.message

end PocketCalculator.CommandLine

def main (args : List String) : IO UInt32 := do
  let outcome := PocketCalculator.CommandLine.run
    (← PocketCalculator.CommandLine.processEnvironment) args
  outcome.print
  return outcome.exit.toUInt32
