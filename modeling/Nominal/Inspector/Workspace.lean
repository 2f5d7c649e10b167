import Nominal.Builtin.Sequencer
import Nominal.Module.Loader
import Nominal.Yaml.Schema

/-!
# Workspaces

A workspace holds the built-in types and the modules loaded so far.  A new module may mention the
types of all modules before it.  A type is found by its qualified name, or by its own name if it is
built in; of two modules with one name, the first one counts.
-/

namespace Nominal

/-- The built-in types and the loaded modules. -/
structure Workspace where
  graph : Graph
  farm : Farm
  modules : List Module := []
  /-- The number of loads that were started. -/
  loads : Nat := 0
  isLogging : Bool := false
  isColored : Bool := false
  /-- The line width of printed declarations. -/
  docWidth : Int := 80

namespace Workspace

/-- A workspace with the default built-in types. -/
def start (settings : ArenaSettings) (isColored : Bool) : Except Failure Workspace :=
  let (outcome, graph) :=
    (bootstrapRecorded Builtin.defaults settings.isLogging).run (Graph.withArena settings)
  match outcome with
  | .ok farm => .ok { graph, farm, isLogging := settings.isLogging, isColored }
  | .error failure => .error failure

/-- Runs a computation on the graph of a workspace. -/
def run {α : Type} (workspace : Workspace) (computation : Build α) :
    Except Failure α × Workspace :=
  let (outcome, graph) := ExceptT.run computation workspace.graph
  (outcome, { workspace with graph })

/-- Loads a declared module that may mention the types of the given modules. -/
def loadDeclaration (workspace : Workspace) (imports : List Module)
    (declaration : ModuleDeclaration) : Except Failure Module × Workspace :=
  let started := { workspace with loads := workspace.loads + 1 }
  match started.run (loadModule workspace.farm workspace.loads imports declaration) with
  | (.error failure, failed) => (.error failure, failed)
  | (.ok module, loaded) =>
    let record := LogRecord.loadedModule module.name module.types.size
    let journal := if workspace.isLogging then loaded.graph.journal.log record
      else loaded.graph.journal
    (.ok module,
      { loaded with
        graph := { loaded.graph with journal }
        modules := loaded.modules ++ [module] })

/-- Loads a declaration file that may mention the types of the given modules. -/
def loadText (workspace : Workspace) (imports : List Module) (text : String) :
    Except Failure Module × Workspace :=
  match Yaml.parseModule text with
  | none => (.error (.rejected .parse), workspace)
  | some declaration => workspace.loadDeclaration imports declaration

/-- Loads a declaration file that may mention the types of all loaded modules. -/
def load (workspace : Workspace) (text : String) : Except Failure Module × Workspace :=
  workspace.loadText workspace.modules text

/-- The types of all loaded modules, optionally after the built-in types. -/
def types (workspace : Workspace) (includeBuiltins : Bool) : List TypeId :=
  (if includeBuiltins then workspace.farm.typeList else [])
    ++ workspace.modules.flatMap Module.typeList

/-- The module with a name. -/
def module? (workspace : Workspace) (name : String) : Option Module :=
  workspace.modules.find? (·.name == name)

/-- The type with a qualified name, or the built-in type with a name. -/
def lookup? (workspace : Workspace) (name : String) : Option TypeId :=
  match workspace.farm.lookup? name with
  | some type => some type
  | none => do
    let (moduleName, typeName) ← Text.cutAtDot? name
    let module ← workspace.module? moduleName
    module.lookup? typeName

/-- The type that a name denotes in a namespace. -/
def scopeLookup? (workspace : Workspace) (scope : Scope) (name : String) : Option TypeId :=
  match scope with
  | .builtins => workspace.farm.lookup? name
  | .ofModule serial _ => do
    let module ← workspace.modules.find? (·.serial == serial)
    module.lookupType? workspace.farm name

end Workspace

end Nominal
