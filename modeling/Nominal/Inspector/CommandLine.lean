import Nominal.Inspector.Command
import Nominal.Text.Quoted

/-!
# The command line

Flags come first and are followed by the paths of declaration files.  A flag is written with one or
two dashes and may be given a truth value after an equals sign.  The files are loaded in order; then
the types of all of them are reported.
-/

namespace Nominal

/-- What the command line asks for. -/
structure CommandLine where
  builtins : Bool := false
  doc : Bool := false
  ancestors : Bool := false
  repl : Bool := false
  verbose : Bool := false
  noColor : Bool := false
  paths : List String := []
  deriving Repr, DecidableEq

/-- What a run prints, and its exit code. -/
structure RunResult where
  stdout : String := ""
  stderr : List String := []
  exitCode : Nat := 0
  deriving Repr, DecidableEq

namespace CommandLine

/-- The flags and what they do, in alphabetical order. -/
def flagSummaries : List (String × String) :=
  [("ancestors", "print the ancestors and extension classes of the types"),
   ("builtins", "also print the built-in types"),
   ("doc", "print the declarations of the types"),
   ("no-color", "disable colored output"),
   ("repl", "start an interactive session after loading"),
   ("verbose", "log debug events of the type system")]

/-- The usage of the program. -/
def usage : List String :=
  "Usage: typeinfo [flags] [declarations.yaml ...]"
    :: flagSummaries.flatMap fun flag => ["  -" ++ flag.1, "    \t" ++ flag.2]

/-- Reads a truth value. -/
def truthValue? (value : String) : Option Bool :=
  if ["1", "t", "T", "true", "TRUE", "True"].contains value then some true
  else if ["0", "f", "F", "false", "FALSE", "False"].contains value then some false
  else none

/-- Sets a flag, if there is one of this name. -/
def setFlag? (line : CommandLine) (name : String) (value : Bool) : Option CommandLine :=
  match name with
  | "ancestors" => some { line with ancestors := value }
  | "builtins" => some { line with builtins := value }
  | "doc" => some { line with doc := value }
  | "no-color" => some { line with noColor := value }
  | "repl" => some { line with repl := value }
  | "verbose" => some { line with verbose := value }
  | _ => none

/-- The run that only shows why a command line is wrong. -/
def refusal (message : String) : RunResult :=
  { stderr := message :: usage, exitCode := 2 }

/-- Reads one flag, without its dashes. -/
def readFlag (line : CommandLine) (flag : List Char) : Except RunResult CommandLine :=
  let name := String.ofList (flag.takeWhile (· != '='))
  let value? := match flag.dropWhile (· != '=') with
    | [] => none
    | _ :: value => some (String.ofList value)
  match line.setFlag? name true with
  | none =>
    if name = "help" ∨ name = "h" then .error { stderr := usage }
    else .error (refusal ("flag provided but not defined: -" ++ name))
  | some enabled =>
    match value? with
    | none => .ok enabled
    | some value =>
      match truthValue? value with
      | some truth => .ok ((line.setFlag? name truth).getD line)
      | none =>
        .error (refusal
          ("invalid boolean value " ++ Text.quoted value ++ " for -" ++ name ++ ": parse error"))

/-- Reads a command line. -/
def read (line : CommandLine) : List String → Except RunResult CommandLine
  | [] => .ok line
  | argument :: rest =>
    match argument.toList with
    | ['-', '-'] => .ok { line with paths := rest }
    | '-' :: c :: flag =>
      let name := if c = '-' then flag else c :: flag
      match name with
      | [] => .error (refusal ("bad flag syntax: " ++ argument))
      | first :: _ =>
        if first = '-' ∨ first = '=' then .error (refusal ("bad flag syntax: " ++ argument))
        else
          match line.readFlag name with
          | .ok next => read next rest
          | .error result => .error result
    | _ => .ok { line with paths := argument :: rest }

/-- Drops the leading part of a path that only says that it starts in the current directory. -/
def dropCurrent : List Char → List Char
  | '.' :: '/' :: rest => dropCurrent (rest.dropWhile (· == '/'))
  | path => path
termination_by path => path.length
decreasing_by
  have shorter : (rest.dropWhile (· == '/')).length ≤ rest.length :=
    (List.dropWhile_sublist _).length_le
  simp only [List.length_cons]
  omega

/-- The name under which a file is known. -/
def fileName (path : String) : String :=
  String.ofList (dropCurrent path.toList)

/-- Loads files in order.  A file that cannot be read ends the run, as does one that is rejected. -/
def loadFiles (file? : String → Option String) (workspace : Workspace) :
    List String → Except RunResult Workspace
  | [] => .ok workspace
  | path :: rest =>
    match file? (fileName path) with
    | none => .error { exitCode := 1 }
    | some text =>
      match workspace.load text with
      | (.ok _, loaded) => loadFiles file? loaded rest
      | (.error (.rejected error), failed) | (.error (.aborted error), failed) =>
        let message := (error.fullMessage? failed.graph).getD ""
        .error { stderr := [failed.paint .failure message], exitCode := 1 }

/-- Loads the files of a command line. -/
def open? (line : CommandLine) (file? : String → Option String) : Except RunResult Workspace :=
  match Workspace.start {} (!line.noColor) with
  | .ok workspace => loadFiles file? workspace line.paths
  | .error _ => .error { exitCode := 1 }

/-- Runs the program with the given arguments. -/
def run (arguments : List String) (file? : String → Option String) : RunResult :=
  match read {} arguments with
  | .error result => result
  | .ok line =>
    match line.open? file? with
    | .error result => result
    | .ok workspace =>
      let options : Workspace.ReportOptions :=
        { builtins := line.builtins, declarations := line.doc, ancestors := line.ancestors }
      { stdout := ((workspace.fullReport options).run workspace.graph).1 }

end CommandLine

end Nominal
