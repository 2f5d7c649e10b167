import Nominal.Graph.Views

/-!
# Stubs and simple changes

A stub is a type that has a name and a place in its arena, and nothing else.  The operations here
change a stub in ways that need no look at other types.  Every change of a sealed type is a misuse.
-/

namespace Nominal

/-- The number of types that an arena can hold. -/
def arenaCapacity : Nat := 4294967295

/-- Allocates a stub.  Its index is the number of types that the arena already has. -/
def newStub (arena : ArenaId) (shape : TypeShape) (identifier moduleName : String)
    (visibility : Visibility) (properties : TypeProperties)
    (record : String → Nat → LogRecord) : Build TypeId := do
  let graph ← get
  let index := (graph.arenaAt arena).types.length
  if index = arenaCapacity then misuse "arena is full"
  else
    let id := graph.types.size
    let type : NominalType :=
      { identifier := Text.canonical identifier, moduleName, visibility, properties, arena,
        index, shape }
    set { graph with
      arenas := graph.arenas.modify arena fun old => { old with types := old.types ++ [id] }
      types := graph.types.push type
      progress := graph.progress.push {}
      caches := graph.caches.push {} }
    recordLog id (record type.qualifiedName index)
    return id

/-- Allocates the stub of a class. -/
def newClass (arena : ArenaId) (identifier moduleName : String) (visibility : Visibility)
    (properties : TypeProperties) : Build TypeId :=
  newStub arena (.classShape {}) identifier moduleName visibility properties .classStub

/-- Allocates the stub of an interface. -/
def newInterface (arena : ArenaId) (identifier moduleName : String) (visibility : Visibility)
    (properties : TypeProperties) : Build TypeId :=
  newStub arena .interfaceShape identifier moduleName visibility properties .interfaceStub

/-- The array type over an element type.  There is one for each name of an element type in an
arena, and the first request decides its element and its base class. -/
def arrayOf (arena : ArenaId) (element : TypeRef) (base : Option TypeId) : Query TypeRef := do
  let graph ← get
  let name := element.qualifiedName graph
  match (graph.arenaAt arena).arrays.get? name with
  | some array => return array
  | none =>
    let array := TypeRef.array element base
    set { graph with
      arenas := graph.arenas.modify arena fun old =>
        { old with arrays := old.arrays.set name array } }
    return array

/-- Adds a member that no type has adopted yet. -/
def newMember (member : Member) : Query MemberId :=
  modifyGet fun graph => graph.addMember member

/-! ## Changes -/

/-- Aborts if a type is sealed. -/
def requireUnsealed (type : TypeId) (mutation : Mutation) : Build Unit := do
  if (← get).isSealed type then throw (.aborted (.sealedMutation type mutation))

/-- Aborts if two types belong to different arenas. -/
def requireSameArena (type other : TypeId) : Build Unit := do
  let graph ← get
  if (graph.typeAt other).arena ≠ (graph.typeAt type).arena then
    misuse ("type `" ++ graph.nameOf other ++ "` belongs to a different arena")

/-- Changes a type that is not sealed. -/
def changeType (type : TypeId) (mutation : Mutation) (change : NominalType → NominalType) :
    Build Unit := do
  requireUnsealed type mutation
  modify (·.modifyType type change)

/-- Says whether the members of a class are exempt from the checks against its ancestors. -/
def setTrusted (type : TypeId) (isTrusted : Bool) : Build Unit := do
  requireUnsealed type .setTrusted
  modify (·.modifyProgress type ({ · with isTrusted }))

/-- Adds an extension class. -/
def addExtensionClass (type : TypeId) (extension : Option TypeId) : Build Unit := do
  requireUnsealed type .addExtensionClass
  match extension with
  | none => misuse "missing extension class"
  | some added =>
    requireSameArena type added
    modify (·.modifyType type fun old =>
      { old with extensionClasses := old.extensionClasses ++ [added] })

/-- Attaches an annotation. -/
def annotate (type : TypeId) (use : AnnotationUse) : Build Unit :=
  changeType type .annotate fun old => { old with annotations := old.annotations ++ [use] }

/-- Sets the namespace of a type. -/
def setScope (type : TypeId) (scope : Option Scope) : Build Unit :=
  changeType type .setScope ({ · with scope })

/-- Sets the type of the host language that a type stands for. -/
def setHostType (type : TypeId) (hostType : Option String) : Build Unit :=
  changeType type .setHostType ({ · with hostType })

/-- Sets the object that implements a type. -/
def setImplementation (type : TypeId) (implementation : Option Implementation) : Build Unit :=
  changeType type .setImplementation ({ · with implementation })

/-- Sets the documentation of a type. -/
def setDocString (type : TypeId) (docString : String) : Build Unit :=
  changeType type .setDocumentation ({ · with docString })

/-- Marks the declaration of a type as complete. -/
def markParsed (type : TypeId) : Build Unit :=
  changeType type .markParsed ({ · with state := .parsed })

end Nominal
