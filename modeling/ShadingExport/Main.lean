import ShadingExport.CommandLine.Run

/-!
# The program

Exports the materials of a scene snapshot: reads the arguments, runs, and passes the output, the
log and the exit code on.
-/

namespace ShadingExport.Main

/-- The environment variable that sets the verbosity. -/
def verbosityVariable : String := "SHADING_EXPORT_LOG"

/-- The verbosity that the environment asks for; without a wish, progress and warnings. -/
def verbosity : IO Verbosity := do
  let name ← IO.getEnv verbosityVariable
  return (name.bind Verbosity.ofName?).getD (.atLeast .info)

/-- Access to the files of the system. -/
def systemFiles : FileAccess IO :=
  { read := fun path => do
      try
        return some (← IO.FS.readFile path)
      catch _ => return none
    write := fun path text => do
      try
        IO.FS.writeFile path text
        return true
      catch _ => return false }

end ShadingExport.Main

open ShadingExport in
/-- Runs the program with the arguments of the process. -/
def main (arguments : List String) : IO UInt32 := do
  let outcome ← Run.run Main.systemFiles arguments
  IO.eprint (outcome.diagnostics (← Main.verbosity))
  IO.print outcome.output
  return outcome.exitCode
