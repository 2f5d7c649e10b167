import Nominal.Graph.Basic

/-!
# Supertypes and the order of ancestors

The supertype links lead from a class to its parent and from any type to its interfaces.
`Graph.reaches` follows them without regard to order; `Graph.ancestorPriorities` lists all ancestors
of a type, those with a short path first.

The list is made with a queue of staged types.  A type is staged every time a link to it is found,
so it can be waiting several times; it is taken the first time it comes up.  Types are staged at a
rank, and the queue gives out the least rank first, and within a rank what was staged first.
-/

namespace Nominal

namespace Graph

/-- The number of supertype links. -/
def linkCount (graph : Graph) : Nat :=
  graph.types.toList.foldr (fun type count => type.supertypes.length + count) 0

/-- Searches the pending types and everything above them for a target, in at most `steps` steps.
Types whose indices are in `visited` have been searched. -/
def reachesFrom (graph : Graph) (target : TypeId) : Nat → List Nat → List TypeId → Bool
  | 0, _, _ => false
  | _ + 1, _, [] => false
  | steps + 1, visited, current :: rest =>
    let index := (graph.typeAt current).index
    if current = target then true
    else if index ∈ visited then graph.reachesFrom target steps visited rest
    else graph.reachesFrom target steps (index :: visited) (graph.supertypesOf current ++ rest)

/-- Whether the target is the given type or one of its ancestors. -/
def reaches (graph : Graph) (source target : TypeId) : Bool :=
  graph.reachesFrom target (graph.linkCount + 2) [] [source]

end Graph

namespace TypePriority

/-- The order in which staged types are taken. -/
def isBefore (priority other : TypePriority) : Bool :=
  if priority.rank ≠ other.rank then priority.rank < other.rank
  else if priority.inRankOrder ≠ other.inRankOrder then
    priority.inRankOrder < other.inRankOrder
  else priority.totalOrder < other.totalOrder

/-- The first of some staged types. -/
def earliest (priority : TypePriority) : List TypePriority → TypePriority
  | [] => priority
  | other :: rest =>
    if other.isBefore priority then other.earliest rest else priority.earliest rest

end TypePriority

/-- The staged types, and how many have been staged. -/
structure Staging where
  queue : List TypePriority := []
  rankOrders : Table Nat Nat := {}
  totalOrder : Nat := 0
  visited : List TypeId := []
  deriving Repr

namespace Staging

/-- Stages a type at a rank, unless it has been taken. -/
def stage (staging : Staging) (rank : Nat) (type : TypeId) : Staging :=
  if type ∈ staging.visited then staging
  else
    let inRankOrder := (staging.rankOrders.get? rank).getD 0
    let priority : TypePriority := { type, rank, inRankOrder, totalOrder := staging.totalOrder }
    { staging with
      queue := staging.queue ++ [priority]
      rankOrders := staging.rankOrders.set rank (inRankOrder + 1)
      totalOrder := staging.totalOrder + 1 }

/-- The first of the staged types, and the staging without it. -/
def take? (staging : Staging) : Option (TypePriority × Staging) :=
  match staging.queue with
  | [] => none
  | first :: rest =>
    let priority := first.earliest rest
    some (priority, { staging with queue := staging.queue.erase priority })

/-- Takes staged types one after the other, at most `steps` of them, and stages their
supertypes. -/
def drain (graph : Graph) (includeSelf : Bool) : Nat → Staging → List TypePriority
  | 0, _ => []
  | steps + 1, staging =>
    match staging.take? with
    | none => []
    | some (priority, remaining) =>
      if priority.type ∈ remaining.visited then drain graph includeSelf steps remaining
      else
        let taken := { remaining with visited := priority.type :: remaining.visited }
        let staged := (graph.supertypesOf priority.type).foldl
          (fun staging supertype => staging.stage (priority.rank + 1) supertype) taken
        let ancestors := drain graph includeSelf steps staged
        if priority.rank > 0 ∨ includeSelf then priority :: ancestors else ancestors

end Staging

namespace Graph

/-- The ancestors of a type in order, optionally after the type itself. -/
def ancestorPriorities (graph : Graph) (type : TypeId) (includeSelf : Bool) : List TypePriority :=
  Staging.drain graph includeSelf (graph.linkCount + 2) (Staging.stage {} 0 type)

/-- The ancestors of a type in order, without their priorities. -/
def ancestors (graph : Graph) (type : TypeId) (includeSelf : Bool) : List TypeId :=
  (graph.ancestorPriorities type includeSelf).map (·.type)

/-- Extension classes of several types, each at its first occurrence. -/
def collectExtensions (graph : Graph) (owners : List TypeId) : List TypeId :=
  (owners.flatMap fun owner => (graph.typeAt owner).extensionClasses).foldl
    (fun found extension => if extension ∈ found then found else found ++ [extension]) []

/-- A class and its superclasses, the class itself first; at most `steps` of them. -/
def parentChainFrom (graph : Graph) : Nat → TypeId → List TypeId
  | 0, _ => []
  | steps + 1, type =>
    type :: match (graph.typeAt type).parent? with
      | some parent => graph.parentChainFrom steps parent
      | none => []

/-- A class and its superclasses, the class itself first. -/
def parentChain (graph : Graph) (type : TypeId) : List TypeId :=
  graph.parentChainFrom graph.types.size type

end Graph

end Nominal
