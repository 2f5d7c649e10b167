import Nominal.Inspector.CommandLine

/-!
# The inspector program

Reads the declaration files named on the command line and reports their types, or starts an
interactive session.
-/

namespace Nominal

/-- Reads the files that can be read. -/
def readFiles (paths : List String) : IO (List (String × String)) :=
  paths.filterMapM fun (path : String) => do
    try return some (CommandLine.fileName path, ← IO.FS.readFile path)
    catch _ => return none

/-- Prints the result of a run. -/
def RunResult.print (result : RunResult) : IO UInt32 := do
  IO.print result.stdout
  for line in result.stderr do IO.eprintln line
  return result.exitCode.toUInt32

/-- Runs commands from standard input until it ends or a command ends the session. -/
partial def interact (workspace : Workspace) : IO Unit := do
  IO.print "> "
  (← IO.getStdout).flush
  let line ← (← IO.getStdin).getLine
  if line = "" then return ()
  let (outcome, next) := workspace.run (workspace.command line)
  match outcome with
  | .ok output => IO.print output
  | .error (.rejected .exit) => return ()
  | .error (.rejected error) | .error (.aborted error) =>
    IO.println (next.paint .failure ((error.message? next.graph).getD ""))
  interact next

/-- Loads the files and starts an interactive session. -/
def startSession (line : CommandLine) (files : List (String × String)) : IO UInt32 := do
  match line.open? fun path => files.lookup path with
  | .error result => result.print
  | .ok workspace =>
    let count := (workspace.types true).length
    IO.println s!"Loaded {count} types. {assistanceMessage}\n"
    interact workspace
    return 0

end Nominal

open Nominal in
/-- The entry point. -/
def main (arguments : List String) : IO UInt32 := do
  match CommandLine.read {} arguments with
  | .error result => result.print
  | .ok line =>
    let files ← readFiles line.paths
    if line.repl then startSession line files
    else (CommandLine.run arguments fun path => files.lookup path).print
