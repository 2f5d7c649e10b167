import Nominal.Build.Stub

/-!
# Declaring members

A type adopts a member after all checks have passed; a rejected member stays as it was.  Members of
one name are overloads: a field has no overloads, and overloads have different keys and the same
visibility.  A class also checks a member against the members that it inherits: the kind stays, a
field is not shadowed, and a member does not admit less than an inherited one.
-/

namespace Nominal

/-- Aborts unless a member can be offered to a type, and gives the composed form of its name. -/
def requireAdoptable (type : TypeId) (member : Option MemberId) (isStatic : Bool) :
    Build (MemberId × String) := do
  match member with
  | none => misuse "missing member"
  | some id =>
    let graph ← get
    let offered := graph.memberAt id
    match offered.definingType.filter (· ≠ type) with
    | some declaring =>
      misuse ("member `" ++ offered.identifier ++ "` is declared by `" ++ graph.nameOf declaring
        ++ "`, not by `" ++ graph.nameOf type ++ "`")
    | none =>
      if offered.kind.isInheritable && offered.isStatic != isStatic then
        misuse ("member `" ++ offered.identifier ++ "` of `" ++ graph.nameOf type
          ++ "` has mismatching staticness")
      else return (id, Text.canonical offered.identifier)

/-- Binds an accepted member to a type. -/
def adopt (type : TypeId) (member : MemberId) (identifier : String) : Build Unit :=
  modify (·.modifyMember member ({ · with definingType := some type, identifier }))

/-- The reason why a member cannot be an overload next to an existing one. -/
def Graph.overloadError? (graph : Graph) (type : TypeId) (member existing : MemberId) :
    Option Error :=
  let offered := graph.memberAt member
  let present := graph.memberAt existing
  if present.kind = .field ∨ offered.kind = .field ∨ present.kind ≠ offered.kind then
    some (.memberKindCollision type existing member)
  else if present.key graph = offered.key graph then some (.duplicateMember type member)
  else if present.visibility ≠ offered.visibility then
    some (.inconsistentOverloadVisibility type existing member)
  else none

/-- Rejects a member that cannot be an overload next to the existing ones. -/
def checkOverloads (type : TypeId) (overloads : List MemberId) (member : MemberId) :
    Build Unit := do
  let graph ← get
  match overloads.findSome? (graph.overloadError? type member) with
  | some error => reject error
  | none => return ()

/-- Adopts a member and puts it into the table of its name. -/
def insertMember (type : TypeId) (member : MemberId) (identifier : String) : Build Unit := do
  adopt type member identifier
  let isStatic := ((← get).memberAt member).isStatic
  modify (·.modifyType type fun old =>
    old.mapDeclared isStatic fun table =>
      table.set identifier ((table.get? identifier).getD [] ++ [member]))

/-- The reason why a member cannot stand below an inherited one. -/
def Graph.inheritanceError? (graph : Graph) (type : TypeId) (member ancestor : MemberId) :
    Option Error :=
  let offered := graph.memberAt member
  let inherited := graph.memberAt ancestor
  if !inherited.visibility.isSubclassVisible || !inherited.kind.isInheritable then none
  else if inherited.kind ≠ offered.kind then
    some (.incompatibleMemberKind type member ancestor)
  else if offered.kind = .field then some (.fieldShadowing type member ancestor)
  else if offered.visibility.isLessThan inherited.visibility then
    some (.reducedVisibility type member ancestor)
  else none

/-- Rejects a member that conflicts with a member that its class inherits. -/
def checkAgainstAncestors (type : TypeId) (member : MemberId) (identifier : String) :
    Build Unit := do
  let graph ← get
  let offered := graph.memberAt member
  match (graph.typeAt type).parent? with
  | none => return ()
  | some parent =>
    if offered.visibility = .hidden ∨ offered.kind.isInheritable = false then return ()
    else
      let map ← classMemberMapView parent offered.isStatic
      let graph ← get
      let inherited := (map.loadedByName graph identifier false).map (·.member)
      match inherited.findSome? (graph.inheritanceError? type member) with
      | some error => reject error
      | none => return ()

/-- Whether the members of a class are checked against its ancestors. -/
def Graph.checksAncestors (graph : Graph) (type : TypeId) : Bool :=
  !(graph.progressAt type).isTrusted && !(graph.settingsOf type).skipSanityChecks

/-- Adds a field or a method to a class. -/
def addInheritable (type : TypeId) (member : MemberId) (identifier : String) : Build Unit := do
  let graph ← get
  let isStatic := (graph.memberAt member).isStatic
  checkOverloads type ((graph.typeAt type).declaredByName identifier isStatic) member
  if graph.checksAncestors type then checkAgainstAncestors type member identifier
  insertMember type member identifier

/-- Rejects a member that has the key of one of the listed members. -/
def checkDistinctKey (type : TypeId) (existing : List MemberId) (member : MemberId) :
    Build Unit := do
  let graph ← get
  if existing.any fun other => graph.keyOf other = graph.keyOf member then
    reject (.duplicateMember type member)

/-- Adds an instance member to a class. -/
def addClassInstanceMember (type : TypeId) (member : MemberId) (identifier : String) :
    Build Unit := do
  let graph ← get
  let part := (graph.typeAt type).classPart
  match (graph.memberAt member).kind with
  | .constructor =>
    checkDistinctKey type part.constructors member
    adopt type member identifier
    modify (·.modifyType type (·.mapClassPart fun part =>
      { part with constructors := part.constructors ++ [member] }))
  | .initializer =>
    checkDistinctKey type part.initializers member
    adopt type member identifier
    modify (·.modifyType type (·.mapClassPart fun part =>
      { part with initializers := part.initializers ++ [member] }))
  | .field | .method => addInheritable type member identifier
  | .unknown | .staticConstructor => reject (.invalidMemberKind type member false)

/-- Adds a static member to a class. -/
def addClassStaticMember (type : TypeId) (member : MemberId) (identifier : String) :
    Build Unit := do
  let graph ← get
  match (graph.memberAt member).kind with
  | .staticConstructor =>
    if (graph.typeAt type).classPart.staticConstructor.isSome then
      reject (.duplicateMember type member)
    else
      adopt type member identifier
      modify (·.modifyType type (·.mapClassPart ({ · with staticConstructor := some member })))
  | .field | .method => addInheritable type member identifier
  | .unknown | .constructor | .initializer => reject (.invalidMemberKind type member true)

/-- Adds a member to an interface, which only has public fields and methods. -/
def addInterfaceMember (type : TypeId) (member : MemberId) (identifier : String)
    (isStatic : Bool) : Build Unit := do
  let graph ← get
  let offered := graph.memberAt member
  if offered.kind.isInheritable = false then reject (.invalidMemberKind type member isStatic)
  else if offered.visibility ≠ .pub then
    reject (.invalidInterfaceMemberVisibility type member)
  else
    checkOverloads type ((graph.typeAt type).declaredByName identifier isStatic) member
    insertMember type member identifier

/-- Adds a member to a type, as a static or as an instance member. -/
def declareMember (type : TypeId) (member : Option MemberId) (isStatic : Bool) : Build Unit := do
  requireUnsealed type (if isStatic then .addStaticMember else .addInstanceMember)
  let (id, identifier) ← requireAdoptable type member isStatic
  if ((← get).typeAt type).isClass then
    if isStatic then addClassStaticMember type id identifier
    else addClassInstanceMember type id identifier
  else addInterfaceMember type id identifier isStatic

end Nominal
