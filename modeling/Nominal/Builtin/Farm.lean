import Nominal.Build.Seal

/-!
# The farm of built-in types

Every type hierarchy grows from the built-in types, which live in one arena and belong to the module
without a name.  They mention each other freely, so they are built in passes: first all stubs, then
the array types that have to exist, then parents and members, and finally all are sealed in order.
-/

namespace Nominal

/-- The module of the built-in types. -/
def builtinModuleName : String := ""

/-- The built-in types by name, in the order in which they were listed. -/
structure Farm where
  arena : ArenaId
  types : Table String TypeId := {}
  deriving Repr, DecidableEq, Inhabited

namespace Farm

/-- The built-in type with a name. -/
def lookup? (farm : Farm) (name : String) : Option TypeId :=
  farm.types.get? name

/-- The built-in type with a name that has to exist. -/
def require (farm : Farm) (name : String) : Build TypeId :=
  match farm.lookup? name with
  | some type => return type
  | none => misuse ("unknown built-in type `" ++ name ++ "`")

/-- The array type over an element type.  Its base is the built-in array class, if there is one. -/
def arrayOf (farm : Farm) (element : TypeRef) : Query TypeRef :=
  Nominal.arrayOf farm.arena element (farm.lookup? "Array")

/-- The root class. -/
def root (farm : Farm) : Build TypeId :=
  farm.require "Object"

/-- The built-in types in order. -/
def typeList (farm : Farm) : List TypeId :=
  farm.types.values

end Farm

/-- The description of a built-in class. -/
structure BuiltinType where
  name : String
  properties : TypeProperties
  /-- The built-in parent class; the root class has none. -/
  parentName : String := ""
  /-- Whether the array type over this type exists from the start. -/
  wantsArrayType : Bool := false
  /-- What implements the class; it may defer a part of the build until the class is sealed. -/
  implementation : Implementation := .plain
  /-- Adds the members of the class.  The stub is only looked up where it is needed. -/
  implement : Farm → Build TypeId → Build Unit := fun _ _ => return ()
  /-- Completes the class. -/
  complete : Build TypeId → Build Unit := fun self => do sealType (← self)

/-- Labels a failure with the built-in type that it concerns.  It is an internal error. -/
def rejectBootstrap {α : Type} (builtin : BuiltinType) (cause : Error) : Build α :=
  reject (.unexpected
    (.context ("failed to bootstrap built-in type `" ++ builtin.name ++ "`") cause))

/-- Runs a step of the construction of a built-in type. -/
def bootstrapStep (builtin : BuiltinType) (step : Build Unit) : Build Unit := do
  try step
  catch
    | .rejected error => rejectBootstrap builtin error
    | .aborted error => throw (.aborted error)

/-- Makes the stub of a built-in type and registers it under the composed form of its name. -/
def Farm.addStub (farm : Farm) (builtin : BuiltinType) : Build Farm := do
  let type ← newClass farm.arena builtin.name builtinModuleName .pub builtin.properties
  setTrusted type true
  setScope type (some .builtins)
  setImplementation type (some builtin.implementation)
  let name := ((← get).typeAt type).identifier
  if farm.types.contains name then misuse ("duplicate built-in type `" ++ name ++ "`")
  else return { farm with types := farm.types.set name type }

/-- The stub that was registered for a built-in type. -/
def Farm.builderOf (farm : Farm) (builtin : BuiltinType) : Build TypeId :=
  match farm.lookup? builtin.name with
  | some type => return type
  | none => throw (.aborted (.missingBuilder builtin.name))

/-- Sets the parent of a built-in type and adds its members. -/
def Farm.implement (farm : Farm) (builtin : BuiltinType) : Build Unit := do
  if builtin.parentName ≠ "" then
    match farm.lookup? builtin.parentName with
    | none => rejectBootstrap builtin (.text ("unknown parent `" ++ builtin.parentName ++ "`"))
    | some parent =>
      let type ← farm.builderOf builtin
      bootstrapStep builtin (setParent type (some parent))
  bootstrapStep builtin (builtin.implement farm (farm.builderOf builtin))

/-- Completes a built-in type. -/
def Farm.complete (farm : Farm) (builtin : BuiltinType) : Build Unit :=
  bootstrapStep builtin (builtin.complete (farm.builderOf builtin))

/-- Builds the listed types in an arena. -/
def bootstrap (arena : ArenaId) (builtins : List BuiltinType) : Build Farm := do
  let farm ← builtins.foldlM Farm.addStub { arena }
  for kind in Primitive.all do
    if kind ≠ .void then let _ ← farm.arrayOf (.primitive kind)
  for builtin in builtins do
    if builtin.wantsArrayType then
      let type ← farm.require builtin.name
      let _ ← farm.arrayOf (.nominal type)
  for builtin in builtins do farm.implement builtin
  for builtin in builtins do farm.complete builtin
  return farm

end Nominal
