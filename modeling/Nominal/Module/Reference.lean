import Nominal.Graph.Access
import Nominal.Module.Basic

/-!
# Type references in declarations

A reference is the name of a type, followed by any number of `[]` suffixes for array types, with
blanks allowed around the name and each suffix.  An empty name and `dynamic` leave a type open; an
array of open elements has elements of the built-in dynamic class.
-/

namespace Nominal

/-- Removes a `[]` suffix. -/
def arrayElement? (characters : List Char) : Option (List Char) :=
  match characters.reverse with
  | ']' :: '[' :: rest => some rest.reverse
  | _ => none

/-- Removing a suffix makes a text shorter. -/
theorem length_arrayElement?_lt {characters element : List Char}
    (found : arrayElement? characters = some element) :
    element.length < characters.length := by
  unfold arrayElement? at found
  split at found
  · rename_i rest reversed
    injection found with equal
    have total : characters.reverse.length = rest.length + 2 := by simp [reversed]
    simp only [List.length_reverse] at total
    simp only [← equal, List.length_reverse]
    omega
  · simp at found

/-- Trimming does not make a text longer. -/
theorem length_trimList_le (characters : List Char) :
    (Text.trimList characters).length ≤ characters.length := by
  unfold Text.trimList Text.trimEnd
  simp only [List.length_reverse]
  refine Nat.le_trans (List.dropWhile_suffix _).length_le ?_
  simpa using (List.dropWhile_suffix Text.isBlank (l := characters)).length_le

/-- The name in a reference and the number of its array suffixes. -/
def peelArrays (characters : List Char) : List Char × Nat :=
  match _found : arrayElement? (Text.trimList characters) with
  | some element =>
    let (name, depth) := peelArrays element
    (name, depth + 1)
  | none => (Text.trimList characters, 0)
termination_by characters.length
decreasing_by
  have shorter := length_arrayElement?_lt _found
  have trimmedLength := length_trimList_le characters
  omega

/-- The namespace and the farm in which references are resolved. -/
structure Resolver where
  farm : Farm
  module : Module

namespace Resolver

/-- The declared type that a name denotes, if the referencing type may mention it. -/
def nominalType (resolver : Resolver) (self : TypeId) (name : String) : Build TypeId := do
  match resolver.module.lookupType? resolver.farm name with
  | none => reject (.unknownType name)
  | some type =>
    checkTypeVisibility (some (.nominal type)) { referencing := some self }
    return type

/-- The class that a name denotes. -/
def classType (resolver : Resolver) (self : TypeId) (name : String) : Build TypeId := do
  let type ← resolver.nominalType self name
  if ((← get).typeAt type).isClass then return type
  else reject (.unexpectedTypeKind name "a class")

/-- The interface that a name denotes. -/
def interfaceType (resolver : Resolver) (self : TypeId) (name : String) : Build TypeId := do
  let type ← resolver.nominalType self name
  if ((← get).typeAt type).isClass then reject (.unexpectedTypeKind name "an interface")
  else return type

/-- The array type of a depth over an element type. -/
def nestedArray (resolver : Resolver) : Nat → TypeRef → Build TypeRef
  | 0, element => return element
  | depth + 1, element => do resolver.nestedArray depth (← resolver.farm.arrayOf element)

/-- The type that a name without suffixes denotes; nothing if the name leaves the type open. -/
def plainType (resolver : Resolver) (self : TypeId) (name : String) : Build (Option TypeRef) := do
  if name = "" ∨ name = untypedName then return none
  else
    match Primitive.ofName? name with
    | some kind => return some (.primitive kind)
    | none => return some (.nominal (← resolver.nominalType self name))

/-- The type that a reference denotes; nothing if the reference leaves the type open. -/
def type (resolver : Resolver) (self : TypeId) (reference : String) : Build (Option TypeRef) := do
  let (characters, depth) := peelArrays reference.toList
  let base ← resolver.plainType self (String.ofList characters)
  if depth = 0 then return base
  else
    let element ← match base with
      | some element => pure element
      | none => do pure (.nominal (← resolver.farm.require "Dynamic"))
    return some (← resolver.nestedArray depth element)

end Resolver

end Nominal
