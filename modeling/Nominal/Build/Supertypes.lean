import Nominal.Build.Members
import Nominal.Graph.Access

/-!
# Declaring supertypes

A type may not become its own ancestor, and may only extend what it may mention.  Setting the parent
of a class checks the members that it already has against the new ancestors; if one of them is
rejected, the former parent is restored.
-/

namespace Nominal

/-- Sets the parent link of a class. -/
def Graph.setParentLink (graph : Graph) (type : TypeId) (parent : Option TypeId) : Graph :=
  graph.modifyType type (·.mapClassPart ({ · with parent }))

/-- Checks declared members against the ancestors of their class. -/
def checkDeclaredMembers (type : TypeId) : List MemberId → Build Unit
  | [] => return ()
  | member :: rest => do
    checkAgainstAncestors type member ((← get).memberAt member).identifier
    checkDeclaredMembers type rest

/-- Instance members first, then static members, in declaration order. -/
def NominalType.declaredForCheck (type : NominalType) : List MemberId :=
  (type.declared false).values.flatten ++ (type.declared true).values.flatten

/-- Sets the parent of a class. -/
def setParent (type : TypeId) (parent : Option TypeId) : Build Unit := do
  requireUnsealed type .setParent
  let graph ← get
  match parent with
  | none => misuse ("missing parent of `" ++ graph.nameOf type ++ "`")
  | some target =>
    requireSameArena type target
    if graph.reaches target type then reject (.cyclicInheritance type target)
    else if (graph.typeAt target).properties.has .final then reject (.invalidParent type target)
    else
      checkTypeVisibility (some (.nominal target)) { referencing := some type }
      let previous := (graph.typeAt type).parent?
      modify (·.setParentLink type (some target))
      if graph.checksAncestors type then
        try checkDeclaredMembers type (graph.typeAt type).declaredForCheck
        catch failure =>
          modify (·.setParentLink type previous)
          throw failure

/-- Adds an interface to a class, or an extended interface to an interface.  An interface is added
once. -/
def addInterface (type : TypeId) (interface : Option TypeId) : Build Unit := do
  requireUnsealed type .addInterface
  match interface with
  | none => misuse "missing interface"
  | some added =>
    requireSameArena type added
    let graph ← get
    if graph.reaches added type then reject (.cyclicInheritance type added)
    else
      checkTypeVisibility (some (.nominal added)) { referencing := some type }
      if added ∈ (graph.typeAt type).interfaces then return ()
      else
        modify (·.modifyType type fun old => { old with interfaces := old.interfaces ++ [added] })

end Nominal
