import Nominal.Builtin.Farm

/-!
# The default built-in types

The classes that every program starts from.  All of them derive from `Object`.
-/

namespace Nominal

namespace Builtin

/-- Adds members in order, static ones as static members. -/
def declareAll (type : TypeId) (members : List Member) : Build Unit :=
  members.forM fun member => do
    let id ← newMember member
    declareMember type (some id) member.isStatic

/-- A parameter. -/
def param (name : String) (type : TypeRef) : Parameter :=
  { name, type := some type }

/-- A public method. -/
def method (self : TypeId) (name : String) (result : TypeRef) (parameters : List Parameter := [])
    (docString : String := "") : Member :=
  .method (some self) .pub false name parameters (some result) docString

/-- A public static method. -/
def staticMethod (self : TypeId) (name : String) (result : TypeRef)
    (parameters : List Parameter := []) : Member :=
  .method (some self) .pub true name parameters (some result)

/-- A class of the default built-in types. -/
def ofClass (name : String) (properties : List TypeProperty) (parentName : String)
    (wantsArrayType : Bool) (docString : String)
    (members : Farm → TypeId → Build (List Member)) : BuiltinType :=
  { name, parentName, wantsArrayType
    properties := .ofList (properties ++ [.builtin])
    implement := fun farm stub => do
      let self ← stub
      setDocString self docString
      declareAll self (← members farm self) }

/-- The root of the class hierarchy. -/
def object : BuiltinType :=
  ofClass "Object" [.root] "" false
    "\nThe root of the class hierarchy. Every class derives from Object.\n"
    fun farm self => do
      let string := TypeRef.nominal (← farm.require "String")
      let dynamic := TypeRef.nominal (← farm.require "Dynamic")
      let type := TypeRef.nominal (← farm.require "Type")
      return [
        method self "to_string" string [] "Returns a textual representation of the object",
        method self "equals" (.primitive .bool) [param "other" dynamic]
          "Returns true if the object is equal to the other value",
        method self "hash_code" (.primitive .int) [] "Returns the hash code of the object",
        method self "get_type" type [] "Returns the run-time type of the object",
        .constructor (some self) .pub []]

/-- Immutable text. -/
def string : BuiltinType :=
  ofClass "String" [.final] "Object" true "An immutable sequence of characters"
    fun farm self => do
      let string := TypeRef.nominal self
      let dynamic := TypeRef.nominal (← farm.require "Dynamic")
      let strings ← farm.arrayOf string
      let chars ← farm.arrayOf (.primitive .char)
      return [
        method self "length" (.primitive .int),
        method self "char_at" (.primitive .char) [param "index" (.primitive .int)],
        method self "concat" string [param "other" string],
        method self "split" strings [param "separator" string],
        method self "to_chars" chars,
        staticMethod self "value_of" string [param "value" dynamic],
        .constructor (some self) .pub [],
        .constructor (some self) .pub [param "chars" chars]]

/-- The base class of all array types. -/
def array : BuiltinType :=
  ofClass "Array" [.abstract] "Object" false "The base class of all array types"
    fun farm self => do
      let dynamic := TypeRef.nominal (← farm.require "Dynamic")
      return [
        method self "length" (.primitive .int),
        method self "get" dynamic [param "index" (.primitive .int)],
        method self "set" (.primitive .void)
          [param "index" (.primitive .int), param "value" dynamic]]

/-- The base class of all enumerations. -/
def enumeration : BuiltinType :=
  ofClass "Enum" [.abstract, .enum] "Object" false "The base class of all enumerations"
    fun farm self => do
      let string := TypeRef.nominal (← farm.require "String")
      return [
        method self "name" string,
        method self "ordinal" (.primitive .int),
        .constructor (some self) .prot
          [param "name" string, param "ordinal" (.primitive .int)]]

/-- The base class of all annotation types. -/
def attributeBase : BuiltinType :=
  ofClass "Attribute" [.abstract, .attributeClass] "Object" false
    "The base class of all annotation types"
    fun _ self => return [.constructor (some self) .prot []]

/-- References to methods. -/
def function : BuiltinType :=
  ofClass "Function" [.final] "Object" false "A reference to a method which can be invoked"
    fun farm self => do
      let dynamic := TypeRef.nominal (← farm.require "Dynamic")
      let dynamics ← farm.arrayOf dynamic
      return [
        method self "arity" (.primitive .int),
        method self "invoke" dynamic [param "arguments" dynamics]]

/-- Values whose type is only known when the program runs. -/
def dynamic : BuiltinType :=
  ofClass "Dynamic" [.final, .dynamic] "Object" true
    "The type of values whose type is only known at run-time" fun _ _ => return []

/-- Types as values. -/
def type : BuiltinType :=
  ofClass "Type" [.final] "Object" true "The run-time representation of a type"
    fun farm self => do
      let type := TypeRef.nominal self
      let string := TypeRef.nominal (← farm.require "String")
      let dynamic := TypeRef.nominal (← farm.require "Dynamic")
      let types ← farm.arrayOf type
      return [
        method self "name" string,
        method self "module_name" string,
        method self "parent" type,
        method self "ancestors" types,
        method self "is_derived_from" (.primitive .bool) [param "other" type],
        staticMethod self "of" type [param "value" dynamic]]

/-- The default built-in types, parents first. -/
def defaults : List BuiltinType :=
  [object, string, array, enumeration, attributeBase, function, dynamic, type]

/-- The names that no declared type may have. -/
def reservedNames : List String :=
  defaults.map (·.name) ++ Primitive.all.map (·.name) ++ [untypedName]

/-- Whether a name is reserved for a built-in type. -/
def isReserved (name : String) : Bool :=
  reservedNames.contains name

end Builtin

end Nominal
