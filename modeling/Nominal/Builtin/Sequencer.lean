import Nominal.Builtin.Types

/-!
# The sequencer

A sequencer builds its built-in types the first time they are asked for and then hands out the same
ones until it is reset.  If the construction fails, nothing is kept and the next request tries again
in a fresh arena.
-/

namespace Nominal

/-- Built-in types, with the graph that holds them and the number of their construction. -/
structure BuiltinSet where
  serial : Nat
  farm : Farm
  graph : Graph
  deriving Repr

/-- A failed construction, with the graph that it left. -/
structure BootstrapFailure where
  failure : Failure
  graph : Graph
  deriving Repr

/-- Builds types in the first arena of a graph, and records that. -/
def bootstrapRecorded (builtins : List BuiltinType) (isLogging : Bool) : Build Farm := do
  let farm ← bootstrap 0 builtins
  let count := farm.typeList.length
  modify fun graph =>
    let logged := if isLogging then graph.journal.log (.bootstrapped count) else graph.journal
    let traced := if (graph.arenaAt 0).settings.isTracing then logged.trace (.bootstrap count)
      else logged
    { graph with journal := traced }
  return farm

/-- Keeps the built-in types after their first construction. -/
structure Sequencer where
  builtins : List BuiltinType := Builtin.defaults
  settings : ArenaSettings := {}
  isLogging : Bool := false
  /-- The number of constructions that were started. -/
  attempts : Nat := 0
  current : Option BuiltinSet := none
  journal : Journal := {}

namespace Sequencer

/-- The built-in types, constructed if there are none.  Whoever is told of what is traced and logged
is taken to return, so that telling is writing it down in the journal. -/
def request (sequencer : Sequencer) : Except BootstrapFailure BuiltinSet × Sequencer :=
  match sequencer.current with
  | some existing => (.ok existing, sequencer)
  | none =>
    let serial := sequencer.attempts
    let started := { sequencer with attempts := serial + 1 }
    let (outcome, graph) :=
      (bootstrapRecorded sequencer.builtins sequencer.isLogging).run
        (Graph.withArena sequencer.settings)
    let recorded := { started with
      journal :=
        { traces := started.journal.traces ++ graph.journal.traces
          logs := started.journal.logs ++ graph.journal.logs } }
    match outcome with
    | .ok farm =>
      let made : BuiltinSet := { serial, farm, graph := { graph with journal := {} } }
      (.ok made, { recorded with current := some made })
    | .error failure => (.error { failure, graph }, recorded)

/-- Forgets the built-in types. -/
def reset (sequencer : Sequencer) : Sequencer :=
  { sequencer with
    current := none
    journal := if sequencer.isLogging then sequencer.journal.log .reset else sequencer.journal }

end Sequencer

end Nominal
