import Warden.Cli.Program

/-!
The outer layer of the program: it reads the environment and the file, and prints what a run leaves
behind.
-/

namespace Warden.Cli

/-- The fault behind an error of the system. -/
def faultOf : IO.Error → Config.FileFault
  | .permissionDenied _ _ _ => .denied
  | .inappropriateType _ _ _ => .isDirectory
  | .invalidArgument _ _ _ => .nulInPath
  | _ => .missing

/-- Reads a file as text. -/
def contentOf (path : String) : IO (Except Config.FileFault String) := do
  match ← (IO.FS.readBinFile path).toBaseIO with
  | .error e => return .error (faultOf e)
  | .ok bytes => return (String.fromUTF8? bytes).elim (.error .notText) .ok

/-- The environment of a run; only the file that is asked for is read. -/
def environment (arguments : List String) : IO Environment := do
  let configPath ← IO.getEnv Config.pathVariable
  let logDirectives ← IO.getEnv Log.directivesVariable
  let content ← match order configPath arguments with
    | .ok order => contentOf order.path
    | .error _ => pure (.error .missing)
  return { configPath, logDirectives, files := fun _ => content, machine := Net.secluded }

/-- Prints a report from behind what was printed before. -/
def printReport (before : String) (report : Report) : IO Unit := do
  IO.print (String.ofList (report.output.toList.drop before.length))
  IO.eprint report.errors

end Warden.Cli

section

open Warden Warden.Cli

/-- Runs the program; while it waits, a line of standard input names the signal that it gets. -/
def main (arguments : List String) : IO UInt32 := do
  let env ← environment arguments
  let report := run env none arguments
  printReport "" report
  match report.exitCode with
  | some code => return code.toUInt32
  | none =>
    let line ← (← IO.getStdin).getLine
    let signal := Supervision.Signal.ofName? (String.ofList (Text.trim line.toList))
    let later := run env signal arguments
    printReport report.output later
    return (later.exitCode.getD 0).toUInt32

end
