import Nominal.Inspector.Report
import Nominal.Text.UpperCase

/-!
# Interactive commands

The commands of an interactive session, and the completions that it offers.
-/

namespace Nominal

/-- The overview of all commands. -/
def helpMessage : String :=
"
Commands are prefixed with a dot. Valid commands are:

.types                          List all types
.members <type>                 Print the members of a type
.ancestors <type>               Print the ancestors and extension classes of a type
.doc <type>                     Print the declaration of a type
.access <type> <member> [from]  Check if a member of a type is accessible from a type
.exit                           Exit
.help                           Print this help message

Types are named by their qualified name, e.g. hr.Employee, or by their built-in name, e.g. String.
Press ^D to exit"

/-- Where to find the overview. -/
def assistanceMessage : String := "Type '.help' for assistance."

/-- The commands and what they do. -/
def commandSummaries : List (String × String) :=
  [(".types", "List all types"),
   (".members", "Print the members of a type"),
   (".ancestors", "Print the ancestors of a type"),
   (".doc", "Print the declaration of a type"),
   (".access", "Check member accessibility"),
   (".exit", "Exit"),
   (".help", "Print the help message")]

namespace Workspace

/-- Rejects a command with a wrong number of arguments. -/
def rejectArguments {α : Type} (command : String) : Build α :=
  reject (.text ("invalid number of arguments for " ++ command ++ ". " ++ assistanceMessage))

/-- The output of a command about one type. -/
def typeCommand (workspace : Workspace) (command : String) (arguments : List String)
    (report : TypeId → Query String) : Build String :=
  match arguments with
  | [name] => do
    let type ← workspace.requireType name
    report type
  | _ => rejectArguments command

/-- The output of a command line. -/
def command (workspace : Workspace) (line : String) : Build String := do
  match Text.words line with
  | [] => return ""
  | name :: arguments =>
    match name with
    | ".exit" => reject .exit
    | ".help" => return helpMessage ++ "\n"
    | ".types" =>
      let graph ← get
      return String.join ((workspace.types true).map fun type =>
        workspace.paint .typeName (graph.nameOf type) ++ "\n")
    | ".members" => workspace.typeCommand name arguments workspace.membersReport
    | ".ancestors" => workspace.typeCommand name arguments workspace.ancestorsReport
    | ".doc" => workspace.typeCommand name arguments workspace.declarationReport
    | ".access" =>
      match arguments with
      | [typeName, memberName] => workspace.accessReport typeName memberName none
      | [typeName, memberName, fromName] =>
        workspace.accessReport typeName memberName (some fromName)
      | _ => rejectArguments name
    | _ => reject (.text ("unknown command. " ++ assistanceMessage))

/-- The completions of a word: commands at the start of a line, and types after a blank. -/
def suggestions (workspace : Workspace) (textBefore word : String) : List (String × String) :=
  if word = "" then []
  else if textBefore.toList.contains ' ' then
    let graph := workspace.graph
    let wanted := (Text.upperCase word).toList
    ((workspace.types true).map fun type => (graph.nameOf type, (graph.typeAt type).docString))
      |>.filter fun entry => wanted.isPrefixOf (Text.upperCase entry.1).toList
  else commandSummaries.filter fun entry => word.toList.isPrefixOf entry.1.toList

end Workspace

end Nominal
