import Nominal.Builtin.Farm
import Nominal.Text.Blank

/-!
# Modules

A module is the namespace of the types of one declaration file.  Inside it a name denotes one of its
own types, a built-in type, or a type of an imported module with the name of that module in front.
-/

namespace Nominal

/-- The types of a declaration file, by the name under which they were declared. -/
structure Module where
  /-- Tells modules of one name apart. -/
  serial : Nat
  name : String
  types : Table String TypeId := {}
  /-- The types of the imported modules; of two modules with one name the later one counts. -/
  imports : Table String (Table String TypeId) := {}
  deriving Repr, DecidableEq

namespace Module

/-- A module without types that imports other modules. -/
def importing (serial : Nat) (name : String) (imports : List Module) : Module :=
  { serial, name
    imports := imports.foldl (fun table imported => table.set imported.name imported.types) {} }

/-- The namespace that a module is. -/
def scope (module : Module) : Scope :=
  .ofModule module.serial module.name

/-- The type declared in a module under a name. -/
def lookup? (module : Module) (name : String) : Option TypeId :=
  module.types.get? name

/-- The type that a name denotes inside a module. -/
def lookupType? (module : Module) (farm : Farm) (name : String) : Option TypeId :=
  match module.lookup? name with
  | some type => some type
  | none =>
    match farm.lookup? name with
    | some type => some type
    | none => do
      let (moduleName, typeName) ← Text.cutAtDot? name
      let types ← module.imports.get? moduleName
      types.get? typeName

/-- The types of a module in declaration order. -/
def typeList (module : Module) : List TypeId :=
  module.types.values

end Module

end Nominal
