import Nominal.Graph.Ancestors

/-!
# Members of an interface hierarchy

Interfaces do not override each other's members.  The member map of an interface merges its own
instance members with those of the interfaces that it extends, depth first and in declaration order;
the first member of a key stays, and later interfaces with a member of that key are recorded as
contributors.
-/

namespace Nominal

namespace InterfaceMemberMap

/-- Adds one member that an interface declares under a name. -/
def addMember (graph : Graph) (interface : TypeId) (name : String) (map : InterfaceMemberMap)
    (member : MemberId) : InterfaceMemberMap :=
  if (graph.memberAt member).visibility = .hidden then map
  else
    let key := graph.keyOf member
    match map.members.get? key with
    | some entry =>
      let contributors := entry.contributors ++ [interface]
      { map with members := map.members.set key { entry with contributors } }
    | none =>
      { map with
        members := map.members.set key { member, contributors := [interface] }
        byName := map.byName.set name ((map.byName.get? name).getD [] ++ [member]) }

/-- Adds all members that an interface declares. -/
def addInterface (graph : Graph) (map : InterfaceMemberMap) (interface : TypeId) :
    InterfaceMemberMap :=
  (graph.typeAt interface).instanceMembers.entries.foldl
    (fun map entry => entry.2.foldl (addMember graph interface entry.1) map) map

/-- Merges the pending interfaces and those that they extend, in at most `steps` steps.
Interfaces in `merged` have been added. -/
def mergeFrom (graph : Graph) :
    Nat → List TypeId → List TypeId → InterfaceMemberMap → InterfaceMemberMap
  | 0, _, _, map => map
  | _ + 1, _, [], map => map
  | steps + 1, merged, interface :: rest, map =>
    if interface ∈ merged then mergeFrom graph steps merged rest map
    else
      mergeFrom graph steps (interface :: merged)
        ((graph.typeAt interface).interfaces ++ rest) (addInterface graph map interface)

/-- The member map of an interface. -/
def ofInterface (graph : Graph) (owner : TypeId) : InterfaceMemberMap :=
  mergeFrom graph (graph.linkCount + 2) [] [owner] { owner }

/-- All merged members, in the order in which they were found. -/
def allMembers (map : InterfaceMemberMap) : List MemberId :=
  map.members.values.map (·.member)

/-- The merged members of a name. -/
def membersByName (map : InterfaceMemberMap) (name : String) : List MemberId :=
  (map.byName.get? (Text.canonical name)).getD []

/-- The interfaces that declare a member with a key. -/
def contributors (map : InterfaceMemberMap) (key : MemberKey) : List TypeId :=
  ((map.members.get? key).map (·.contributors)).getD []

end InterfaceMemberMap

end Nominal
