import Nominal.Graph.Ancestors

/-!
# Members of a class hierarchy

The member map of a class lists, for the class and each of its superclasses, the members declared
there.  The position in the list is the rank: zero is the class itself, the last one the root.

A look-up by name merges the ranks from the root down.  A member replaces a farther one with the
same key.  Hidden members do not take part, and private members only at the rank of the look-up,
unless it asks for them.
-/

namespace Nominal

/-- A member as seen from a class, with the distance to the class that declares it. -/
structure LoadedMember where
  member : MemberId
  rank : Nat
  deriving Repr, DecidableEq

namespace ClassMemberMap

/-- The member map of a class. -/
def ofClass (graph : Graph) (owner : TypeId) (isStatic : Bool) : ClassMemberMap :=
  { owner, isStatic
    ranks := (graph.parentChain owner).map fun type =>
      (type, (graph.typeAt type).declared isStatic) }

/-- The class at a rank. -/
def typeAtRank? (map : ClassMemberMap) (rank : Int) : Option TypeId :=
  if rank < 0 then none else (map.ranks[rank.toNat]?).map (·.1)

/-- Whether a member declared at a distance from the look-up takes part in it. -/
def takesPart (graph : Graph) (includeNonVisible : Bool) (distance : Nat) (member : MemberId) :
    Bool :=
  let visibility := (graph.memberAt member).visibility
  visibility ≠ .hidden
    && (distance == 0 || includeNonVisible || visibility.isSubclassVisible)

/-- Adds the members of one rank, which replace those with the same keys. -/
def mergeRank (graph : Graph) (includeNonVisible : Bool) (distance : Nat)
    (members : List MemberId) (loaded : Table MemberKey LoadedMember) :
    Table MemberKey LoadedMember :=
  (members.filter (takesPart graph includeNonVisible distance)).foldl
    (fun loaded member =>
      let key := graph.keyOf member
      (loaded.erase key).set key { member, rank := distance })
    loaded

/-- The members of a name visible from the class at a rank, closest first. -/
def loadedAtRank (graph : Graph) (map : ClassMemberMap) (rank : Int) (name : String)
    (includeNonVisible : Bool) : List LoadedMember :=
  if rank < 0 then []
  else
    let identifier := Text.canonical name
    let merged := ((map.ranks.drop rank.toNat).zipIdx).foldr
      (fun entry loaded =>
        mergeRank graph includeNonVisible entry.2 ((entry.1.2.get? identifier).getD []) loaded)
      Table.empty
    merged.values.mergeSort fun first second => decide (first.rank ≤ second.rank)

/-- The members of a name visible from the class itself, closest first. -/
def loadedByName (graph : Graph) (map : ClassMemberMap) (name : String)
    (includeNonVisible : Bool) : List LoadedMember :=
  loadedAtRank graph map 0 name includeNonVisible

/-- The closest member of a name. -/
def closestByName? (graph : Graph) (map : ClassMemberMap) (name : String)
    (includeNonVisible : Bool) : Option LoadedMember :=
  (loadedByName graph map name includeNonVisible).head?

/-- Whether all of some members are hidden. -/
def allHidden (graph : Graph) (members : List MemberId) : Bool :=
  members.all fun member => (graph.memberAt member).visibility == .hidden

/-- The names of all members that are not hidden, those declared closer first. -/
def names (graph : Graph) (map : ClassMemberMap) : List String :=
  (map.ranks.flatMap fun rank => rank.2.entries).foldl
    (fun found entry =>
      if entry.1 ∈ found ∨ allHidden graph entry.2 then found else found ++ [entry.1])
    []

/-- All members visible from the class, one for each key. -/
def visibleMembers (graph : Graph) (map : ClassMemberMap) : List MemberId :=
  (names graph map).flatMap fun name => (loadedByName graph map name false).map (·.member)

end ClassMemberMap

namespace Graph

/-- The members of one kind. -/
def ofKind (graph : Graph) (kind : MemberKind) (members : List MemberId) : List MemberId :=
  members.filter fun member => (graph.memberAt member).kind == kind

/-- The annotations of the first class of a chain, followed by the inherited annotations of the
others whose types have not been seen. -/
def inheritAnnotations (graph : Graph) (found : List AnnotationUse) :
    List TypeId → List AnnotationUse
  | [] => found
  | superclass :: rest =>
    let grown := (graph.typeAt superclass).annotations.foldl
      (fun found use =>
        if use.isInherited graph ∧ use.type ∉ found.map (·.type) then found ++ [use] else found)
      found
    graph.inheritAnnotations grown rest

/-- The annotations of a class and the inherited annotations of its superclasses. -/
def annotationArray (graph : Graph) (type : TypeId) : List AnnotationUse :=
  graph.inheritAnnotations (graph.typeAt type).annotations (graph.parentChain type).tail

end Graph

end Nominal
