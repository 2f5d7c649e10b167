import Nominal.Build.Supertypes

/-!
# Sealing

Sealing makes a type final.  All direct supertypes have to be sealed first, and only a root class
has no parent.  If the implementation of the type has a deferred build, it is run once before the
type is sealed; if it fails, the type can no longer be sealed.

A deferred build may seal other types, which may have deferred builds of their own.  Each of them
runs at most once, so the number of types bounds how deep they nest.
-/

namespace Nominal

/-- The reason why a type cannot be sealed yet. -/
def Graph.sealError? (graph : Graph) (type : TypeId) : Option Error :=
  let sealing := graph.typeAt type
  let parentError : Option Error := match sealing.shape with
    | .interfaceShape => none
    | .classShape part =>
      match part.parent with
      | none => if sealing.properties.has .root then none else some (.missingParent type)
      | some parent =>
        if graph.isSealed parent then none else some (.unsealedSupertype type parent)
  parentError.or <|
    (sealing.interfaces.find? fun interface => !graph.isSealed interface).map
      (.unsealedSupertype type)

/-- Makes a type final and records it. -/
def freeze (type : TypeId) : Build Unit := do
  modify (·.modifyType type ({ · with state := .frozen }))
  let frozen := (← get).typeAt type
  recordLog type
    (.sealedType frozen.qualifiedName frozen.staticMembers.size frozen.instanceMembers.size)
  recordTrace .sealType type

/-- Turns what a deferred build raised into its failure; an internal error is raised again. -/
def recoverHook (run : Build Unit) : Build (Option Error) := do
  try
    run
    return none
  catch
    | .rejected error => return some error
    | .aborted error => throw (.aborted error)

/-- Seals a type; deferred builds nest at most `depth` deep. -/
def sealWithin : Nat → TypeId → Build Unit
  | 0, _ => throw (.aborted .unreachable)
  | depth + 1, type => do
    requireUnsealed type .sealType
    let graph ← get
    match (graph.progressAt type).failure with
    | some failure => reject failure
    | none =>
      match graph.sealError? type with
      | some error => reject error
      | none =>
        if (graph.progressAt type).isPreInitialized then freeze type
        else
          modify (·.modifyProgress type ({ · with isPreInitialized := true }))
          match (graph.typeAt type).implementation with
          | some (.deferred serial action) =>
            modify fun graph =>
              { graph with
                hookCalls := graph.hookCalls
                  ++ [{ serial, type, state := (graph.typeAt type).state }] }
            let outcome ← recoverHook <|
              match action with
              | .succeed => return ()
              | .fail error => reject error
              | .raise printed => reject (.external printed)
              | .abort error => throw (.aborted error)
              | .addMember member => declareMember type member false
              | .sealSelf => sealWithin depth type
              | .sealOther other => sealWithin depth other
            match outcome with
            | some cause =>
              let failure := Error.preInitialization type cause
              modify (·.modifyProgress type ({ · with failure := some failure }))
              reject failure
            | none => freeze type
          | _ => freeze type

/-- Seals a type. -/
def sealType (type : TypeId) : Build Unit := do
  sealWithin ((← get).types.size + 2) type

/-- Gives the type that a build has made so far, after sealing it if that is asked for. -/
def finishBuild (type : TypeId) (sealNow : Bool) : Build TypeId := do
  if sealNow then sealType type
  return type

end Nominal
