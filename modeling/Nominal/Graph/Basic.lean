import Nominal.Collection.Table
import Nominal.Error
import Nominal.Graph.Journal
import Nominal.Type.Member
import Nominal.Type.Properties

/-!
# The type graph

The type graph holds all declared types and all members ever created.  Types and members refer to
each other by their place in it, so a type can be mentioned before it is complete.  A type belongs
to one arena, and its index counts the types of that arena.

A type starts as a stub, is changed through the operations of `Nominal.Build`, and is finally
sealed.  Next to the declared state the graph keeps the progress of each build, the views of sealed
types that have been computed (`ViewCache`), and a journal of events.
-/

namespace Nominal

/-! ## Declared types -/

/-- How far the construction of a type has come. -/
inductive BuildState where
  | building
  | parsed
  | frozen
  deriving Repr, DecidableEq, Inhabited

/-- The word for a build state. -/
def BuildState.label : BuildState → String
  | building => "building"
  | parsed => "parsed"
  | frozen => "sealed"

/-- The word for a build state number; only three numbers have one. -/
def BuildState.labelOfCode (code : UInt8) : String :=
  match code with
  | 0 => building.label
  | 1 => parsed.label
  | 2 => frozen.label
  | _ => "unknown"

/-- The namespace in which the names that a type mentions are looked up. -/
inductive Scope where
  | builtins
  | ofModule (serial : Nat) (name : String)
  deriving Repr, DecidableEq

/-- The module whose names a namespace holds; the built-in types belong to the one without a
name. -/
def Scope.moduleName : Scope → String
  | builtins => ""
  | ofModule _ name => name

/-- What a deferred build does when its type is about to be sealed.

A build that holds the builder of its type could do more, and none of it is an action here: link
the type to a parent or an interface after sealing has checked the supertypes, add static members,
annotations or extension classes, or do one thing after another, such as sealing the type itself and
then failing. -/
inductive HookAction where
  | succeed
  /-- Refuses with an error. -/
  | fail (error : Error)
  /-- Raises something foreign to the library, which is printed as the given text. -/
  | raise (printed : String)
  /-- Raises an internal error. -/
  | abort (error : Error)
  /-- Adds an instance member to the type. -/
  | addMember (member : Option MemberId)
  /-- Seals the type itself. -/
  | sealSelf
  /-- Seals another type. -/
  | sealOther (type : TypeId)
  deriving Repr, DecidableEq

/-- The object that implements a type. -/
inductive Implementation where
  /-- An object without a deferred build. -/
  | plain
  /-- An object with a deferred build, told apart from others by a serial number. -/
  | deferred (serial : Nat) (action : HookAction)
  deriving Repr, DecidableEq

/-- The members declared under each name, in declaration order. -/
abbrev MemberTable := Table String (List MemberId)

/-- What only a class has. -/
structure ClassPart where
  parent : Option TypeId := none
  constructors : List MemberId := []
  initializers : List MemberId := []
  staticConstructor : Option MemberId := none
  deriving Repr, DecidableEq

/-- Classes and interfaces. -/
inductive TypeShape where
  | classShape (part : ClassPart)
  | interfaceShape
  deriving Repr, DecidableEq

/-- A type declared by name. -/
structure NominalType where
  identifier : String
  moduleName : String
  visibility : Visibility
  properties : TypeProperties
  arena : ArenaId
  index : Nat
  state : BuildState := .building
  shape : TypeShape
  staticMembers : MemberTable := {}
  instanceMembers : MemberTable := {}
  interfaces : List TypeId := []
  extensionClasses : List TypeId := []
  annotations : List AnnotationUse := []
  scope : Option Scope := none
  hostType : Option String := none
  implementation : Option Implementation := none
  docString : String := ""
  deriving Repr, DecidableEq

namespace NominalType

/-- The type that stands for a place where there is none. -/
def blank : NominalType :=
  { identifier := "", moduleName := "", visibility := .hidden, properties := {}, arena := 0,
    index := 0, shape := .interfaceShape }

instance : Inhabited NominalType := ⟨blank⟩

/-- The name of the type, with its module in front of it. -/
def qualifiedName (type : NominalType) : String :=
  if type.moduleName = "" then type.identifier else type.moduleName ++ "." ++ type.identifier

/-- Whether the type is a class. -/
def isClass (type : NominalType) : Bool :=
  match type.shape with
  | .classShape _ => true
  | .interfaceShape => false

/-- Whether the type is sealed. -/
def isSealed (type : NominalType) : Bool :=
  type.state == .frozen

/-- What only a class has; nothing for an interface. -/
def classPart (type : NominalType) : ClassPart :=
  match type.shape with
  | .classShape part => part
  | .interfaceShape => {}

/-- The parent class. -/
def parent? (type : NominalType) : Option TypeId :=
  type.classPart.parent

/-- The parent, followed by the interfaces in declaration order. -/
def supertypes (type : NominalType) : List TypeId :=
  type.parent?.toList ++ type.interfaces

/-- The members declared by the type itself. -/
def declared (type : NominalType) (isStatic : Bool) : MemberTable :=
  if isStatic then type.staticMembers else type.instanceMembers

/-- The members of a name declared by the type itself. -/
def declaredByName (type : NominalType) (name : String) (isStatic : Bool) : List MemberId :=
  ((type.declared isStatic).get? (Text.canonical name)).getD []

/-- Changes what only a class has; an interface stays as it is. -/
def mapClassPart (type : NominalType) (change : ClassPart → ClassPart) : NominalType :=
  match type.shape with
  | .classShape part => { type with shape := .classShape (change part) }
  | .interfaceShape => type

/-- Changes the members declared by the type itself. -/
def mapDeclared (type : NominalType) (isStatic : Bool) (change : MemberTable → MemberTable) :
    NominalType :=
  if isStatic then { type with staticMembers := change type.staticMembers }
  else { type with instanceMembers := change type.instanceMembers }

end NominalType

/-! ## Computed views -/

/-- The place of an ancestor in the linear order of all ancestors of a type. -/
structure TypePriority where
  type : TypeId
  /-- The length of a shortest path to the ancestor. -/
  rank : Nat
  /-- How many types were staged at the same rank before. -/
  inRankOrder : Nat
  /-- How many types were staged before. -/
  totalOrder : Nat
  deriving Repr, DecidableEq

/-- The members of a class and all its superclasses, the class itself first. -/
structure ClassMemberMap where
  owner : TypeId
  isStatic : Bool
  ranks : List (TypeId × MemberTable)
  deriving Repr, DecidableEq

/-- A member of an interface hierarchy, with the interfaces that declare one of its key. -/
structure InterfaceEntry where
  member : MemberId
  contributors : List TypeId
  deriving Repr, DecidableEq

/-- The members of an interface and all interfaces that it extends. -/
structure InterfaceMemberMap where
  owner : TypeId
  members : Table MemberKey InterfaceEntry := {}
  byName : Table String (List MemberId) := {}
  deriving Repr, DecidableEq

/-- The views of a type that have been computed since it was sealed. -/
structure ViewCache where
  ancestorPriorities : Option (List TypePriority) := none
  ancestors : Option (List TypeId) := none
  allExtensionClasses : Option (List TypeId) := none
  instanceMemberMap : Option ClassMemberMap := none
  staticMemberMap : Option ClassMemberMap := none
  classInstanceMembers : Option (List MemberId) := none
  classStaticMembers : Option (List MemberId) := none
  fields : Option (List MemberId) := none
  methods : Option (List MemberId) := none
  annotationArray : Option (List AnnotationUse) := none
  interfaceMemberMap : Option InterfaceMemberMap := none
  deriving Repr, DecidableEq, Inhabited

/-! ## The graph -/

/-- The progress of a build. -/
structure BuildProgress where
  /-- The members of a trusted class are not checked against its ancestors. -/
  isTrusted : Bool := false
  /-- The deferred build has been started. -/
  isPreInitialized : Bool := false
  /-- The failure of the deferred build. -/
  failure : Option Error := none
  deriving Repr, DecidableEq, Inhabited

/-- One run of a deferred build. -/
structure HookCall where
  serial : Nat
  type : TypeId
  state : BuildState
  deriving Repr, DecidableEq

/-- What an arena checks and records. -/
structure ArenaSettings where
  skipSanityChecks : Bool := false
  isTracing : Bool := false
  isLogging : Bool := false
  deriving Repr, DecidableEq, Inhabited

/-- A separate population of declared types, with the array types over its types. -/
structure Arena where
  settings : ArenaSettings := {}
  types : List TypeId := []
  /-- The array types made so far, by the name of their element type. -/
  arrays : Table String TypeRef := {}
  deriving Repr, DecidableEq, Inhabited

/-- All declared types and members, with everything known about them. -/
structure Graph where
  arenas : Array Arena := #[]
  types : Array NominalType := #[]
  progress : Array BuildProgress := #[]
  caches : Array ViewCache := #[]
  members : Array Member := #[]
  hookCalls : List HookCall := []
  journal : Journal := {}
  deriving Repr, DecidableEq, Inhabited

namespace Graph

/-- A graph with one empty arena. -/
def withArena (settings : ArenaSettings) : Graph :=
  { arenas := #[{ settings }] }

/-- The type at a place. -/
def typeAt (graph : Graph) (id : TypeId) : NominalType :=
  graph.types[id]?.getD .blank

/-- The member at a place. -/
def memberAt (graph : Graph) (id : MemberId) : Member :=
  graph.members[id]?.getD default

/-- The arena with a number. -/
def arenaAt (graph : Graph) (id : ArenaId) : Arena :=
  graph.arenas[id]?.getD {}

/-- The progress of the build of a type. -/
def progressAt (graph : Graph) (id : TypeId) : BuildProgress :=
  graph.progress[id]?.getD {}

/-- The computed views of a type. -/
def cacheAt (graph : Graph) (id : TypeId) : ViewCache :=
  graph.caches[id]?.getD {}

/-- The settings of the arena of a type. -/
def settingsOf (graph : Graph) (id : TypeId) : ArenaSettings :=
  (graph.arenaAt (graph.typeAt id).arena).settings

/-- Whether a type is sealed. -/
def isSealed (graph : Graph) (id : TypeId) : Bool :=
  (graph.typeAt id).isSealed

/-- The parent, followed by the interfaces in declaration order. -/
def supertypesOf (graph : Graph) (id : TypeId) : List TypeId :=
  (graph.typeAt id).supertypes

/-- The qualified name of a type. -/
def nameOf (graph : Graph) (id : TypeId) : String :=
  (graph.typeAt id).qualifiedName

/-- Changes a type. -/
def modifyType (graph : Graph) (id : TypeId) (change : NominalType → NominalType) : Graph :=
  { graph with types := graph.types.modify id change }

/-- Changes the progress of a build. -/
def modifyProgress (graph : Graph) (id : TypeId) (change : BuildProgress → BuildProgress) :
    Graph :=
  { graph with progress := graph.progress.modify id change }

/-- Changes the computed views of a type. -/
def modifyCache (graph : Graph) (id : TypeId) (change : ViewCache → ViewCache) : Graph :=
  { graph with caches := graph.caches.modify id change }

/-- Changes a member. -/
def modifyMember (graph : Graph) (id : MemberId) (change : Member → Member) : Graph :=
  { graph with members := graph.members.modify id change }

/-- Adds a member that no type has adopted yet. -/
def addMember (graph : Graph) (member : Member) : MemberId × Graph :=
  (graph.members.size, { graph with members := graph.members.push member })

end Graph

/-! ## Names of types and members -/

/-- The word for an untyped reference. -/
def untypedName : String := "dynamic"

/-- The qualified name of a referenced type, which is also its identity in signatures. -/
def TypeRef.qualifiedName (graph : Graph) : TypeRef → String
  | primitive kind => kind.name
  | nominal id => graph.nameOf id
  | array element _ => element.qualifiedName graph ++ "[]"

/-- The name of a referenced type without its module. -/
def TypeRef.shortName (graph : Graph) : TypeRef → String
  | primitive kind => kind.name
  | nominal id => (graph.typeAt id).identifier
  | array element _ => element.shortName graph ++ "[]"

/-- Whether values of any type are values of the referenced type. -/
def TypeRef.isDynamic (graph : Graph) : TypeRef → Bool
  | nominal id => (graph.typeAt id).isClass && (graph.typeAt id).properties.has .dynamic
  | _ => false

/-- Whether the referenced type is a root class. -/
def TypeRef.isRoot (graph : Graph) : TypeRef → Bool
  | nominal id => (graph.typeAt id).isClass && (graph.typeAt id).properties.has .root
  | _ => false

namespace Graph

/-- The qualified name of an optional reference. -/
def qualifiedNameOf (graph : Graph) : Option TypeRef → String
  | some reference => reference.qualifiedName graph
  | none => untypedName

/-- The short name of an optional reference. -/
def shortNameOf (graph : Graph) : Option TypeRef → String
  | some reference => reference.shortName graph
  | none => untypedName

/-- Qualified names, separated by commas. -/
def qualifiedNameList (graph : Graph) (references : List (Option TypeRef)) : String :=
  ", ".intercalate (references.map graph.qualifiedNameOf)

end Graph

namespace Member

/-- The qualified names of the explicit parameter types, joined by commas. -/
def signature (graph : Graph) (member : Member) : String :=
  ",".intercalate (member.explicitParameters.map fun parameter =>
    graph.qualifiedNameOf parameter.type)

/-- The key of a member. -/
def key (graph : Graph) (member : Member) : MemberKey :=
  { identifier := Text.canonical member.identifier
    kind := member.kind
    signature := if member.kind.isExecutable then member.signature graph else "" }

/-- The name of a member with its defining type in front of it. -/
def qualifiedName (graph : Graph) (member : Member) : String :=
  match member.definingType with
  | some id => graph.nameOf id ++ "." ++ member.identifier
  | none => member.identifier

/-- The qualified name of a member; executables with their signature, which tells overloads
apart. -/
def title (graph : Graph) (member : Member) : String :=
  let name := member.qualifiedName graph
  if member.kind.isExecutable then name ++ "(" ++ member.signature graph ++ ")" else name

/-- How messages write a member: executables with the short names of their parameter types. -/
def describe (graph : Graph) (member : Member) : String :=
  if member.kind.isExecutable then
    member.identifier ++ "("
      ++ ", ".intercalate (member.explicitParameters.map fun parameter =>
        graph.shortNameOf parameter.type)
      ++ ")"
  else member.identifier

end Member

/-- How a forward call is written. -/
def ForwardCall.describe (graph : Graph) (call : ForwardCall) : String :=
  call.target.keyword ++ "(" ++ ", ".intercalate (call.arguments.map graph.shortNameOf) ++ ")"

/-- Whether an attached attribute also applies to subclasses. -/
def AnnotationUse.isInherited (graph : Graph) (use : AnnotationUse) : Bool :=
  match use.type with
  | some id => (graph.typeAt id).properties.has .inherited
  | none => false

namespace Graph

/-- The key of the member at a place. -/
def keyOf (graph : Graph) (id : MemberId) : MemberKey :=
  (graph.memberAt id).key graph

/-- The title of the member at a place. -/
def titleOf (graph : Graph) (id : MemberId) : String :=
  (graph.memberAt id).title graph

end Graph

/-! ## Computations on the graph -/

/-- A computation that may compute views and record events, and always has a result. -/
abbrev Query := StateM Graph

/-- A computation that may also change types, and may fail. -/
abbrev Build := ExceptT Failure Query

/-- Refuses with an error. -/
def reject {α : Type} (error : Error) : Build α :=
  throw (.rejected error)

/-- Aborts with a free message. -/
def misuse {α : Type} (message : String) : Build α :=
  throw (.misuse message)

end Nominal
