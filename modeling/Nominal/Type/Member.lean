import Nominal.Text.Canonical
import Nominal.Type.MemberKind
import Nominal.Type.Reference
import Nominal.Type.Visibility

/-!
# Members

A member is a declared element of a type: a field, a method, a constructor, an initializer or the
static constructor.  A member is created on its own and becomes part of a type when the type adopts
it; only then are its defining type and the composed form of its name fixed.
-/

namespace Nominal

/-- A parameter of an executable member. -/
structure Parameter where
  name : String
  type : Option TypeRef
  /-- The receiver of an instance member, when it is written as the first parameter. -/
  isSelf : Bool := false
  deriving Repr, DecidableEq

/-- The class whose constructor a constructor calls first. -/
inductive ForwardTarget where
  | ownClass
  | parentClass
  deriving Repr, DecidableEq

namespace ForwardTarget

/-- The keyword of a target. -/
def keyword : ForwardTarget → String
  | ownClass => "this"
  | parentClass => "super"

/-- The target with a keyword. -/
def ofKeyword? (keyword : String) : Option ForwardTarget :=
  [ownClass, parentClass].find? (·.keyword == keyword)

/-- The keyword of a target number; only two numbers have one. -/
def keywordOfCode (code : UInt8) : String :=
  match code with
  | 0 => ownClass.keyword
  | 1 => parentClass.keyword
  | _ => "unknown"

end ForwardTarget

/-- The constructor call at the start of a constructor. -/
structure ForwardCall where
  target : ForwardTarget
  arguments : List (Option TypeRef)
  deriving Repr, DecidableEq

/-- A parameter for the receiver, under its usual name. -/
def Parameter.self (type : Option TypeRef) : Parameter :=
  { name := "self", type, isSelf := true }

/-- A declared element of a type. -/
structure Member where
  kind : MemberKind
  identifier : String
  visibility : Visibility := .pub
  isStatic : Bool := false
  isAbstract : Bool := false
  isConst : Bool := false
  /-- The type of a field, or the result type of a method. -/
  declaredType : Option TypeRef := none
  /-- The type that adopted the member. -/
  definingType : Option TypeId := none
  parameters : List Parameter := []
  forwardCall : Option ForwardCall := none
  docString : String := ""
  deriving Repr, DecidableEq, Inhabited

/-- The structural identity of a member: two members with the same key override each other. -/
structure MemberKey where
  identifier : String
  kind : MemberKind
  signature : String
  deriving Repr, DecidableEq

/-- How a key is written: executables with their signature. -/
def MemberKey.describe (key : MemberKey) : String :=
  if key.kind.isExecutable then key.identifier ++ "(" ++ key.signature ++ ")" else key.identifier

/-- An attribute class attached to a type, with named arguments. -/
structure AnnotationUse where
  type : Option TypeId
  arguments : List (String × String)
  deriving Repr, DecidableEq

namespace Member

/-- The name of every constructor. -/
def constructorName : String := "new"

/-- The name of every initializer. -/
def initializerName : String := "init"

/-- The name of every static constructor. -/
def staticConstructorName : String := "static_init"

/-- A field. -/
def field (definingType : Option TypeId) (visibility : Visibility) (isStatic isConst : Bool)
    (name : String) (declaredType : Option TypeRef) (docString : String := "") : Member :=
  { kind := .field, identifier := Text.canonical name, visibility, isStatic, isConst,
    declaredType, definingType, docString }

/-- A method. -/
def method (definingType : Option TypeId) (visibility : Visibility) (isStatic : Bool)
    (name : String) (parameters : List Parameter) (declaredType : Option TypeRef)
    (docString : String := "") : Member :=
  { kind := .method, identifier := Text.canonical name, visibility, isStatic, parameters,
    declaredType, definingType, docString }

/-- An abstract method, which is never static. -/
def abstractMethod (definingType : Option TypeId) (visibility : Visibility)
    (name : String) (parameters : List Parameter) (declaredType : Option TypeRef)
    (docString : String := "") : Member :=
  { method definingType visibility false name parameters declaredType docString with
    isAbstract := true }

/-- A constructor. -/
def constructor (definingType : Option TypeId) (visibility : Visibility)
    (parameters : List Parameter) (forwardCall : Option ForwardCall := none)
    (docString : String := "") : Member :=
  { kind := .constructor, identifier := constructorName, visibility, parameters, forwardCall,
    definingType, docString }

/-- An initializer. -/
def initializer (definingType : Option TypeId) (visibility : Visibility)
    (parameters : List Parameter) (docString : String := "") : Member :=
  { kind := .initializer, identifier := initializerName, visibility, parameters, definingType,
    docString }

/-- A static constructor, which is always private. -/
def staticConstructor (definingType : Option TypeId) : Member :=
  { kind := .staticConstructor, identifier := staticConstructorName, visibility := .priv,
    isStatic := true, definingType }

/-- A member with the name and the attributes that its kind has; all others are dropped. -/
def fitted (member : Member) : Member :=
  match member.kind with
  | .field =>
    .field member.definingType member.visibility member.isStatic member.isConst
      member.identifier member.declaredType member.docString
  | .method =>
    if member.isAbstract then
      .abstractMethod member.definingType member.visibility member.identifier member.parameters
        member.declaredType member.docString
    else
      .method member.definingType member.visibility member.isStatic member.identifier
        member.parameters member.declaredType member.docString
  | .constructor =>
    .constructor member.definingType member.visibility member.parameters member.forwardCall
      member.docString
  | .initializer =>
    .initializer member.definingType member.visibility member.parameters member.docString
  | .staticConstructor => .staticConstructor member.definingType
  | .unknown => member

/-- The parameters without a leading receiver. -/
def explicitParameters (member : Member) : List Parameter :=
  match member.parameters with
  | parameter :: rest => if parameter.isSelf then rest else parameter :: rest
  | [] => []

end Member

end Nominal
