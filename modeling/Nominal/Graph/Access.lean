import Nominal.Graph.Derivation

/-!
# Access to types and members

A reference is made from a declared type, or from code outside of any type that belongs to a module.
`checkTypeVisibility` decides whether a type may be mentioned there, and `checkMemberAccess` finds
the type whose member a name denotes and decides whether it may be used.
-/

namespace Nominal

/-- Where a reference is made. -/
structure AccessSite where
  /-- The type that the reference is part of. -/
  referencing : Option TypeId := none
  /-- The module of a reference outside of any type. -/
  moduleName : String := ""
  /-- Whether the reference is inside a method of the referencing type. -/
  inMethodBody : Bool := false
  deriving Repr, DecidableEq

namespace AccessSite

/-- The module in which the reference is made. -/
def moduleOf (site : AccessSite) (graph : Graph) : String :=
  match site.referencing with
  | some type => (graph.typeAt type).moduleName
  | none => site.moduleName

/-- The referencing type, if it is a class. -/
def referencingClass? (site : AccessSite) (graph : Graph) : Option TypeId :=
  site.referencing.filter fun type => (graph.typeAt type).isClass

end AccessSite

/-- Whether a declared type may be mentioned at a site. -/
def Graph.admitsType (graph : Graph) (type : TypeId) (site : AccessSite) : Bool :=
  match (graph.typeAt type).visibility with
  | .pub | .prot => true
  | .moduleOnly => site.moduleOf graph == (graph.typeAt type).moduleName
  | .priv => site.referencing == some type
  | .hidden => false

/-- The reason why a type may not be mentioned at a site. -/
def Graph.typeVisibilityError? (graph : Graph) (site : AccessSite) : TypeRef → Option Error
  | .primitive _ => none
  | .array element _ => graph.typeVisibilityError? site element
  | .nominal type =>
    if graph.admitsType type site then none
    else some (.illegalTypeAccess type site.referencing (site.moduleOf graph))

/-- Rejects a type that may not be mentioned at a site. -/
def checkTypeVisibility (type : Option TypeRef) (site : AccessSite) : Build Unit := do
  let graph ← get
  match type.bind (graph.typeVisibilityError? site) with
  | some error => reject error
  | none => return ()

/-! ## Names of members -/

/-- The names of some members, each at its first occurrence. -/
def Graph.identifiersOf (graph : Graph) (members : List MemberId) : List String :=
  members.foldl
    (fun found member =>
      let identifier := (graph.memberAt member).identifier
      if identifier ∈ found then found else found ++ [identifier])
    []

/-- The names of the members of a declared type. -/
def nominalMemberNames (type : TypeId) (isStatic : Bool) : Query (List String) := do
  let graph ← get
  if (graph.typeAt type).isClass then
    let map ← classMemberMapView type isStatic
    return map.names (← get)
  else if isStatic then return ((graph.typeAt type).declared true).keys
  else
    let map ← interfaceMemberMapView type
    return (← get).identifiersOf map.allMembers

/-- The names of the members of a type. -/
def memberNames (type : TypeRef) (isStatic : Bool) : Query (List String) :=
  match type with
  | .nominal id => nominalMemberNames id isStatic
  | .array _ (some base) => nominalMemberNames base isStatic
  | _ => return []

/-- Rejects a name that no member has. -/
def rejectUnknownMember {α : Type} (type : TypeRef) (name : String) (isStatic : Bool) :
    Build α := do
  let names ← memberNames type isStatic
  reject (.unknownMember type name isStatic names)

/-! ## Access to members -/

/-- The type that adopted a member. -/
def definingTypeOf (member : MemberId) : Build TypeId := do
  match ((← get).memberAt member).definingType with
  | some type => return type
  | none => throw (.aborted .unreachable)

/-- The defining type of the member that a referencing superclass sees under a name, if the
referencing class is one of the superclasses. -/
def superclassMember? (graph : Graph) (map : ClassMemberMap) (referencing : TypeId)
    (name : String) : Option MemberId := do
  let rank ← (map.ranks.map (·.1)).tail.findIdx? (· == referencing)
  let loaded ← (map.loadedAtRank graph (rank + 1) name false).head?
  return loaded.member

/-- Resolves a name on a class whose own private member does not take precedence. -/
def checkLoadedMember (type : TypeId) (name : String) (site : AccessSite) (isStatic : Bool) :
    Build TypeId := do
  let map ← classMemberMapView type isStatic
  let graph ← get
  match map.closestByName? graph name true with
  | none => rejectUnknownMember (.nominal type) name isStatic
  | some loaded =>
    let definingType ← definingTypeOf loaded.member
    let refuse : Build TypeId := reject (.illegalMemberAccess type loaded.member site.referencing)
    match (graph.memberAt loaded.member).visibility with
    | .pub => return definingType
    | .prot =>
      match site.referencing with
      | some referencing =>
        if ← nominalDerivesFrom referencing (some (.nominal definingType)) true then
          return definingType
        else refuse
      | none => refuse
    | .moduleOnly =>
      if site.moduleOf graph = (graph.typeAt definingType).moduleName then return definingType
      else refuse
    | .priv =>
      if site.referencing = some definingType then return definingType
      else
        match (site.referencingClass? graph).bind (superclassMember? graph map · name) with
        | some member => definingTypeOf member
        | none => refuse
    | .hidden => throw (.aborted .unreachable)

/-- Resolves a name on a class.  Inside a method of a class that the declared class derives from,
a private member of that class takes precedence. -/
def checkClassMember (type : TypeId) (name : String) (site : AccessSite) (isStatic : Bool) :
    Build TypeId := do
  let graph ← get
  match (if site.inMethodBody then site.referencingClass? graph else none) with
  | some referencing =>
    if ← nominalDerivesFrom type (some (.nominal referencing)) true then
      match (graph.typeAt referencing).declaredByName name isStatic with
      | own :: _ =>
        if (graph.memberAt own).visibility = .priv then return referencing
        else checkLoadedMember type name site isStatic
      | [] => checkLoadedMember type name site isStatic
    else checkLoadedMember type name site isStatic
  | none => checkLoadedMember type name site isStatic

/-- Resolves a name on a declared type.  The members of an interface are all public. -/
def checkNominalMember (type : TypeId) (name : String) (site : AccessSite) (isStatic : Bool) :
    Build TypeId := do
  if ((← get).typeAt type).isClass then checkClassMember type name site isStatic
  else
    match ← interfaceMemberByName? type name isStatic with
    | some member => definingTypeOf member
    | none => rejectUnknownMember (.nominal type) name isStatic

/-- Finds the type that defines the member that a name denotes on a type, and rejects the reference
if it is not admitted. -/
def checkMemberAccess (type : TypeRef) (name : String) (site : AccessSite) (isStatic : Bool) :
    Build TypeId :=
  let identifier := Text.canonical name
  match type with
  | .nominal id => checkNominalMember id identifier site isStatic
  | .array _ (some base) => checkNominalMember base identifier site isStatic
  | other => rejectUnknownMember other identifier isStatic

/-- Whether a reference to a member is admitted. -/
def canAccessMember (type : TypeRef) (name : String) (site : AccessSite) (isStatic : Bool) :
    Query Bool := do
  match ← (checkMemberAccess type name site isStatic).run with
  | .ok _ => return true
  | .error _ => return false

end Nominal
