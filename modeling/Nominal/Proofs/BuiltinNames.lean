import Nominal.Proofs.Sessions

/-!
# The names of the built-in types

A session starts with built-in types that are public, each registered under its own name, and what
keeps all types keeps their names.
-/

namespace Nominal

namespace Graph

/-- All types are there later, with the name and the visibility that they had. -/
structure KeepsNames (graph left : Graph) : Prop where
  grows : graph.types.size ≤ left.types.size
  identity : ∀ type < graph.types.size, (graph.typeAt type).SameIdentity (left.typeAt type)

namespace KeepsNames

variable {farm : Farm} {touched : TypeId → Prop} {bound : Nat} {graph left : Graph}
  {type : TypeId}

theorem of_types (same : left.types = graph.types) : graph.KeepsNames left where
  grows := by rw [same]
  identity type _ := by
    rw [typeAt, typeAt, same]
    exact .refl _

theorem of_keepsSealed (keeps : graph.KeepsSealed left) : graph.KeepsNames left :=
  ⟨keeps.grows, keeps.identity⟩

theorem of_grows (grows : graph.Grows farm left) : graph.KeepsNames left where
  grows := grows.size
  identity type present := by
    rw [grows.types present]
    exact .refl _

theorem of_frame (frame : graph.Frame farm touched bound left) :
    graph.KeepsNames left ∧ left.KeepsNames graph := by
  constructor
  · exact ⟨by rw [frame.size], fun type _ => frame.identityAt type⟩
  · exact ⟨by rw [frame.size], fun type _ => (frame.identityAt type).symm⟩

theorem trans {last : Graph} (early : graph.KeepsNames left) (late : left.KeepsNames last) :
    graph.KeepsNames last where
  grows := Nat.le_trans early.grows late.grows
  identity type present := (early.identity type present).trans
    (late.identity type (Nat.lt_of_lt_of_le present early.grows))

theorem nameOf (keeps : graph.KeepsNames left) (present : type < graph.types.size) :
    left.nameOf type = graph.nameOf type :=
  (keeps.identity type present).qualifiedName

end KeepsNames

end Graph

/-- A session starts with built-in types that are public, registered and known by names of their
own. -/
theorem Workspace.registered_start {settings : ArenaSettings} {isColored : Bool}
    {workspace : Workspace} (started : Workspace.start settings isColored = .ok workspace) :
    workspace.farm.Registered workspace.graph ∧ workspace.graph.NamesBuiltin ∧
      ∀ type < workspace.graph.types.size,
        (workspace.graph.typeAt type).visibility = .pub := by
  have registered := registers_defaults settings
  unfold Workspace.start at started
  generalize bootstrapRecorded Builtin.defaults settings.isLogging = construction
    at registered started
  rcases run : construction.exec (Graph.withArena settings) with ⟨failure | farm, graph⟩
  · rw [run] at registered
    cases registered
  · rw [run] at registered
    have ran : ExceptT.run construction (Graph.withArena settings) = (.ok farm, graph) := run
    rw [ran] at started
    cases started
    exact of_decide_eq_true registered

end Nominal
