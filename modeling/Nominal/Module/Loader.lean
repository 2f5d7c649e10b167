import Nominal.Builtin.Types
import Nominal.Dependency
import Nominal.Module.Declaration
import Nominal.Module.Reference

/-!
# Loading a module

The types of a module may mention each other in any order.  Loading makes all stubs first, then
links every type to its supertypes, extension classes and annotations, and finally adds members and
seals the types, supertypes first.  An error names the declaration that caused it; the stubs made so
far stay in the arena.
-/

namespace Nominal

/-- A declared type between its stub and its completion. -/
structure PendingType where
  declaration : TypeDeclaration
  type : TypeId
  deriving Repr, DecidableEq

/-- Labels a rejection with the declaration that caused it. -/
def inDeclaration {α : Type} (moduleName typeName : String) (step : Build α) : Build α := do
  try step
  catch
    | .rejected error => reject (.declaration moduleName typeName error)
    | .aborted error => throw (.aborted error)

/-- The visibility with a keyword; public if there is none. -/
def declaredVisibility (keyword : String) : Build Visibility :=
  if keyword = "" then return .pub
  else
    match Visibility.ofKeyword? keyword with
    | some visibility => return visibility
    | none => reject (.invalidVisibility keyword)

/-- The properties that a declaration asks for. -/
def TypeDeclaration.properties (declaration : TypeDeclaration) : TypeProperties :=
  .ofList <|
    (if declaration.isAbstract then [.abstract] else [])
      ++ (if declaration.isFinal then [.final] else [])
      ++ (if declaration.isAttribute then [.attributeClass] else [])
      ++ (if declaration.isInherited then [.inherited] else [])

/-- Makes the stub of a declared type. -/
def declareType (arena : ArenaId) (module : Module) (declaration : TypeDeclaration) :
    Build TypeId := do
  if (declaration.className == "") == (declaration.interfaceName == "") then
    reject (.invalidDeclaration
      "a type declaration must declare either a class or an interface")
  let name := declaration.name
  if Builtin.isReserved name then reject (.reservedTypeName name)
  if module.types.contains name then reject (.duplicateType name)
  let visibility ← declaredVisibility declaration.visibility
  let properties := declaration.properties
  let type ←
    if declaration.isInterface then
      if declaration.parent ≠ "" ∨ !declaration.implements.isEmpty then
        reject (.invalidDeclaration
          "interfaces extend other interfaces, they have no parent and implement nothing")
      else newInterface arena name module.name visibility properties
    else if !declaration.extended.isEmpty then
      reject (.invalidDeclaration "classes extend their parent, interfaces are implemented")
    else newClass arena name module.name visibility properties
  setScope type (some module.scope)
  setDocString type declaration.doc
  return type

/-- Makes the stubs of all declared types, and the module that holds them. -/
def declareTypes (arena : ArenaId) (module : Module) :
    List TypeDeclaration → Build (Module × List PendingType)
  | [] => return (module, [])
  | declaration :: rest => do
    let type ← inDeclaration module.name declaration.name (declareType arena module declaration)
    let grown := { module with types := module.types.set declaration.name type }
    let (complete, pending) ← declareTypes arena grown rest
    return (complete, { declaration, type } :: pending)

/-! ## Linking -/

/-- The position of a type among the pending types.  A type whose declared name is not in composed
form is not found. -/
def pendingIndex? (graph : Graph) (pending : List PendingType) (type : TypeId) : Option Nat :=
  pending.findIdx? fun entry =>
    entry.declaration.name == (graph.typeAt type).identifier && entry.type == type

/-- The annotation that a declaration describes.  Its arguments are sorted by name. -/
def declaredAnnotation? (resolver : Resolver) (self : TypeId)
    (declaration : AnnotationDeclaration) : Build AnnotationUse := do
  let type ← resolver.classType self declaration.type
  let attributeBase ← resolver.farm.require "Attribute"
  if ← nominalDerivesFrom type (some (.nominal attributeBase)) false then
    let arguments := declaration.arguments.mergeSort fun first second =>
      decide (first.1 ≤ second.1)
    return { type := some type, arguments }
  else reject (.invalidAnnotationType declaration.type)

/-- Adds interfaces by name and returns them. -/
def linkInterfaces (resolver : Resolver) (self : TypeId) : List String → Build (List TypeId)
  | [] => return []
  | name :: rest => do
    let interface ← resolver.interfaceType self name
    addInterface self (some interface)
    return interface :: (← linkInterfaces resolver self rest)

/-- Links a declared type, and returns its supertypes. -/
def linkType (resolver : Resolver) (entry : PendingType) : Build (List TypeId) := do
  let declaration := entry.declaration
  let self := entry.type
  let supertypes ←
    if declaration.isInterface then linkInterfaces resolver self declaration.extended
    else do
      let root ← resolver.farm.root
      let parent ←
        if declaration.parent = "" then pure root
        else resolver.classType self declaration.parent
      setParent self (some parent)
      let interfaces ← linkInterfaces resolver self declaration.implements
      pure (parent :: interfaces)
  for name in declaration.extensions do
    let extension ← resolver.classType self name
    addExtensionClass self (some extension)
  for annotation in declaration.annotations do
    annotate self (← declaredAnnotation? resolver self annotation)
  return supertypes

/-- Links all declared types, and returns the dependencies among them. -/
def linkTypes (resolver : Resolver) (pending : List PendingType) :
    List PendingType → Build (List (List Nat))
  | [] => return []
  | entry :: rest => do
    let supertypes ← inDeclaration resolver.module.name entry.declaration.name
      (linkType resolver entry)
    let dependencies := supertypes.filterMap (pendingIndex? (← get) pending)
    return dependencies :: (← linkTypes resolver pending rest)

/-! ## Completion -/

/-- The declared parameters. -/
def declaredParameters (resolver : Resolver) (self : TypeId) :
    List ParameterDeclaration → Build (List Parameter)
  | [] => return []
  | declaration :: rest => do
    let type ← resolver.type self declaration.type
    return { name := declaration.name, type } :: (← declaredParameters resolver self rest)

/-- The declared constructor call. -/
def declaredForwardCall (resolver : Resolver) (self : TypeId)
    (declaration : ForwardCallDeclaration) : Build ForwardCall := do
  match ForwardTarget.ofKeyword? declaration.target with
  | none =>
    reject (.invalidDeclaration
      ("invalid constructor call target: `" ++ declaration.target ++ "`"))
  | some target => return { target, arguments := ← declaration.arguments.mapM (resolver.type self) }

/-- The member that a declaration describes. -/
def declaredMember (resolver : Resolver) (self : TypeId) (declaration : MemberDeclaration) :
    Build Member := do
  let visibility ← declaredVisibility declaration.visibility
  let parameters ← declaredParameters resolver self declaration.params
  match MemberKind.ofKeyword? declaration.kind with
  | some .field =>
    let type ← resolver.type self declaration.type
    return .field (some self) visibility declaration.isStatic declaration.isConst
      declaration.name type declaration.doc
  | some .method =>
    let result ← resolver.type self declaration.returns
    if declaration.isAbstract then
      if declaration.isStatic then
        reject (.invalidDeclaration
          ("static method `" ++ declaration.name ++ "` cannot be abstract"))
      else
        return .abstractMethod (some self) visibility declaration.name parameters result
          declaration.doc
    else
      return .method (some self) visibility declaration.isStatic declaration.name parameters
        result declaration.doc
  | some .constructor =>
    let call ← declaration.calls.mapM (declaredForwardCall resolver self)
    return .constructor (some self) visibility parameters call declaration.doc
  | some .initializer => return .initializer (some self) visibility parameters declaration.doc
  | some .staticConstructor => return .staticConstructor (some self)
  | some .unknown | none =>
    reject (.invalidDeclaration ("invalid member kind: `" ++ declaration.kind ++ "`"))

/-- Adds the members of a declared type and seals it. -/
def completeType (resolver : Resolver) (entry : PendingType) : Build Unit := do
  for declaration in entry.declaration.members do
    let member ← declaredMember resolver entry.type declaration
    let id ← newMember member
    declareMember entry.type (some id) member.isStatic
  markParsed entry.type
  sealType entry.type

/-- Completes pending types in the given order. -/
def completeTypes (resolver : Resolver) (pending : List PendingType) (order : List Nat) :
    Build Unit :=
  order.forM fun position => do
    match pending[position]? with
    | some entry =>
      inDeclaration resolver.module.name entry.declaration.name (completeType resolver entry)
    | none => return ()

/-- The order in which pending types are completed. -/
def completionOrder (moduleName : String) (pending : List PendingType)
    (dependencies : List (List Nat)) : Build (List Nat) :=
  let graph := dependencies.zipIdx.foldl
    (fun graph entry => graph.setDependencies entry.2 entry.1)
    (DependencyGraph.isolated pending.length)
  let nameAt := fun position =>
    (pending[position]?.map fun entry => entry.declaration.name).getD ""
  match graph.solve (List.range pending.length) with
  | .ok order => return order
  | .error cycle =>
    reject (.declaration moduleName ""
      (.circularDependency (nameAt cycle.dependent) (nameAt cycle.dependency)))

/-- Builds and seals the types of a declared module. -/
def loadModule (farm : Farm) (serial : Nat) (imports : List Module)
    (declaration : ModuleDeclaration) : Build Module := do
  if declaration.name = "" then reject (.invalidDeclaration "missing module name")
  let (module, pending) ← declareTypes farm.arena
    (Module.importing serial declaration.name imports) declaration.types
  let resolver : Resolver := { farm, module }
  let dependencies ← linkTypes resolver pending pending
  let order ← completionOrder module.name pending dependencies
  completeTypes resolver pending order
  return module

end Nominal
