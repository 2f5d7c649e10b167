/-!
# Properties of declared types

A set of properties is a word with one bit for each property.
-/

namespace Nominal

/-- A property of a declared type. -/
inductive TypeProperty where
  | abstract
  | final
  /-- The root class has no parent. -/
  | root
  /-- Values of a dynamic class may be of any type. -/
  | dynamic
  | enum
  | attributeClass
  | builtin
  /-- Annotations of an inherited attribute class also apply to subclasses. -/
  | inherited
  deriving Repr, DecidableEq

namespace TypeProperty

/-- All properties, in the order of their bits. -/
def all : List TypeProperty :=
  [abstract, final, root, dynamic, enum, attributeClass, builtin, inherited]

/-- The bit of a property. -/
def bit : TypeProperty → UInt16
  | abstract => 1
  | final => 2
  | root => 4
  | dynamic => 8
  | enum => 16
  | attributeClass => 32
  | builtin => 64
  | inherited => 128

/-- The name of a property. -/
def name : TypeProperty → String
  | abstract => "abstract"
  | final => "final"
  | root => "root"
  | dynamic => "dynamic"
  | enum => "enum"
  | attributeClass => "attribute"
  | builtin => "builtin"
  | inherited => "inherited"

/-- The property with a name. -/
def ofName? (name : String) : Option TypeProperty :=
  all.find? (·.name == name)

end TypeProperty

/-- A set of properties. -/
structure TypeProperties where
  bits : UInt16 := 0
  deriving Repr, DecidableEq, Inhabited

namespace TypeProperties

/-- The set of the listed properties. -/
def ofList (properties : List TypeProperty) : TypeProperties :=
  ⟨properties.foldl (fun bits property => bits ||| property.bit) 0⟩

/-- Whether all properties of another set are in this one. -/
def includes (properties other : TypeProperties) : Bool :=
  properties.bits &&& other.bits == other.bits

/-- Whether a property is in the set. -/
def has (properties : TypeProperties) (property : TypeProperty) : Bool :=
  properties.includes ⟨property.bit⟩

/-- The names of the properties in the set, separated by blanks. -/
def describe (properties : TypeProperties) : String :=
  " ".intercalate ((TypeProperty.all.filter properties.has).map (·.name))

end TypeProperties

end Nominal
