import Nominal.Type.Reference

/-!
# Failures

An `Error` says what went wrong, in terms of the types and members involved; its wording is given
by `Nominal.Graph.Message`.  A user error is caused by a declaration or a reference; an internal
error is a misuse of the library.  Errors wrap each other, and both properties are inherited from a
wrapped error.

An operation fails in one of two ways: it rejects what it was asked to do, or it aborts because
asking was a mistake of the caller.
-/

namespace Nominal

/-- An operation that changes a type under construction. -/
inductive Mutation where
  | setTrusted
  | setParent
  | addInterface
  | addExtensionClass
  | annotate
  | setScope
  | setHostType
  | setImplementation
  | setDocumentation
  | markParsed
  | addInstanceMember
  | addStaticMember
  | sealType
  deriving Repr, DecidableEq

/-- The words that name a mutation. -/
def Mutation.label : Mutation → String
  | setTrusted => "set trusted"
  | setParent => "set parent"
  | addInterface => "add interface"
  | addExtensionClass => "add extension class"
  | annotate => "add annotation"
  | setScope => "set scope"
  | setHostType => "set host type"
  | setImplementation => "set implementation"
  | setDocumentation => "set documentation"
  | markParsed => "mark parsed"
  | addInstanceMember => "add instance member"
  | addStaticMember => "add static member"
  | sealType => "seal"

/-- What went wrong. -/
inductive Error where
  /-- A message without further structure. -/
  | text (message : String)
  /-- A failure with a label in front of it. -/
  | context (label : String) (cause : Error)
  /-- Two failures at once. -/
  | joined (first : String) (second : Error)
  /-- The request to end a session. -/
  | exit
  /-- A failure raised by a collaborator, with the text of what it raised. -/
  | external (recovered : String)
  /-- A case that cannot occur. -/
  | unreachable
  /-- An internal error with a free message. -/
  | unexpected (cause : Error)
  /-- A user error with a free message. -/
  | user (cause : Error)
  /-- A built-in type is used under a name that it is not registered by. -/
  | missingBuilder (name : String)
  /-- A sealed type was asked to change. -/
  | sealedMutation (type : TypeId) (mutation : Mutation)
  /-- No visibility has this keyword. -/
  | invalidVisibility (keyword : String)
  /-- A field shares its name with another member. -/
  | memberKindCollision (type : TypeId) (existing member : MemberId)
  /-- Two members of a type have the same key. -/
  | duplicateMember (type : TypeId) (member : MemberId)
  /-- An overload differs in visibility from the others. -/
  | inconsistentOverloadVisibility (type : TypeId) (existing member : MemberId)
  /-- A member changes the kind of an inherited one. -/
  | incompatibleMemberKind (type : TypeId) (member ancestor : MemberId)
  /-- A field hides an inherited field. -/
  | fieldShadowing (type : TypeId) (member ancestor : MemberId)
  /-- A member admits less than the inherited one. -/
  | reducedVisibility (type : TypeId) (member ancestor : MemberId)
  /-- A type cannot have a member of this kind. -/
  | invalidMemberKind (type : TypeId) (member : MemberId) (isStatic : Bool)
  /-- A member of an interface is not public. -/
  | invalidInterfaceMemberVisibility (type : TypeId) (member : MemberId)
  /-- A type would be its own ancestor. -/
  | cyclicInheritance (type supertype : TypeId)
  /-- A type that cannot be extended was given as a parent. -/
  | invalidParent (type parent : TypeId)
  /-- A class other than the root has no parent. -/
  | missingParent (type : TypeId)
  /-- A supertype is not sealed yet. -/
  | unsealedSupertype (type supertype : TypeId)
  /-- The deferred build of a type failed. -/
  | preInitialization (type : TypeId) (cause : Error)
  /-- A type may not be mentioned where it is. -/
  | illegalTypeAccess (type : TypeId) (referencing : Option TypeId) (moduleName : String)
  /-- A member may not be referenced where it is. -/
  | illegalMemberAccess (type : TypeId) (member : MemberId) (referencing : Option TypeId)
  /-- No member has this name; `names` are those that are offered. -/
  | unknownMember (type : TypeRef) (name : String) (isStatic : Bool) (names : List String)
  /-- No constructor accepts the arguments. -/
  | constructorNotFound (type : TypeId) (arguments : List (Option TypeRef))
      (callChain : List String)
  /-- A constructor forwards to itself. -/
  | recursiveConstructorCall (type : TypeId) (callChain : List String)
  /-- A dependency leads back to what depends on it. -/
  | circularDependency (dependent dependency : String)
  /-- A type declaration of a module was rejected. -/
  | declaration (moduleName typeName : String) (cause : Error)
  /-- A declaration contradicts itself. -/
  | invalidDeclaration (message : String)
  /-- No type has this name. -/
  | unknownType (name : String)
  /-- A class was needed and an interface named, or the other way round. -/
  | unexpectedTypeKind (name expected : String)
  /-- The name belongs to a built-in type. -/
  | reservedTypeName (name : String)
  /-- The module declares this name twice. -/
  | duplicateType (name : String)
  /-- A type that is no attribute was used as an annotation. -/
  | invalidAnnotationType (name : String)
  /-- A declaration file is malformed. -/
  | parse
  deriving Repr, DecidableEq

namespace Error

/-- The name of the kind of an error.  Errors without further structure have none. -/
def kindName? : Error → Option String
  | text _ | context .. | joined .. | exit | missingBuilder _ => none
  | external _ => "External"
  | unreachable => "Unreachable"
  | unexpected _ => "Unexpected"
  | user _ => "DefaultUser"
  | sealedMutation .. => "SealedTypeMutation"
  | invalidVisibility _ => "InvalidVisibility"
  | memberKindCollision .. => "MemberKindCollision"
  | duplicateMember .. => "DuplicateMember"
  | inconsistentOverloadVisibility .. => "InconsistentOverloadVisibility"
  | incompatibleMemberKind .. => "IncompatibleMemberKind"
  | fieldShadowing .. => "FieldShadowing"
  | reducedVisibility .. => "ReducedVisibility"
  | invalidMemberKind .. => "InvalidMemberKind"
  | invalidInterfaceMemberVisibility .. => "InvalidInterfaceMemberVisibility"
  | cyclicInheritance .. => "CyclicInheritance"
  | invalidParent .. => "InvalidParent"
  | missingParent _ => "MissingParent"
  | unsealedSupertype .. => "UnsealedSupertype"
  | preInitialization .. => "PreInitialization"
  | illegalTypeAccess .. => "IllegalTypeAccess"
  | illegalMemberAccess .. => "IllegalMemberAccess"
  | unknownMember .. => "UnknownMember"
  | constructorNotFound .. => "ConstructorNotFound"
  | recursiveConstructorCall .. => "RecursiveConstructorCall"
  | circularDependency .. => "CircularDependency"
  | declaration .. => "Declaration"
  | invalidDeclaration _ => "InvalidDeclaration"
  | unknownType _ => "UnknownType"
  | unexpectedTypeKind .. => "UnexpectedTypeKind"
  | reservedTypeName _ => "ReservedTypeName"
  | duplicateType _ => "DuplicateType"
  | invalidAnnotationType _ => "InvalidAnnotation"
  | parse => "Parse"

/-- An error caused by the construction of a type. -/
def isDefinitionError : Error → Bool
  | memberKindCollision .. | duplicateMember .. | inconsistentOverloadVisibility ..
  | incompatibleMemberKind .. | fieldShadowing .. | reducedVisibility .. | invalidMemberKind ..
  | invalidInterfaceMemberVisibility .. | cyclicInheritance .. | invalidParent ..
  | missingParent .. | unsealedSupertype .. | preInitialization .. => true
  | _ => false

/-- An error caused by a reference to a type or a member. -/
def isAccessError : Error → Bool
  | illegalTypeAccess .. | illegalMemberAccess .. | unknownMember .. => true
  | _ => false

/-- An error that is itself a user error. -/
def isUserKind : Error → Bool
  | user .. | invalidVisibility .. | constructorNotFound .. | recursiveConstructorCall ..
  | invalidDeclaration .. | unknownType .. | unexpectedTypeKind .. | reservedTypeName ..
  | duplicateType .. | invalidAnnotationType .. | parse => true
  | error => error.isDefinitionError || error.isAccessError

/-- An error that is itself an internal error. -/
def isInternalKind : Error → Bool
  | unreachable | unexpected .. | sealedMutation .. => true
  | _ => false

/-- An error and the errors that it wraps, outermost first. -/
def chain : Error → List Error
  | context label cause => context label cause :: cause.chain
  | unexpected cause => unexpected cause :: cause.chain
  | user cause => user cause :: cause.chain
  | preInitialization type cause => preInitialization type cause :: cause.chain
  | declaration moduleName typeName cause =>
    declaration moduleName typeName cause :: cause.chain
  | invalidDeclaration message => [invalidDeclaration message, text message]
  | error => [error]

/-- Whether the error or one that it wraps is a user error. -/
def isUser (error : Error) : Bool :=
  error.chain.any isUserKind

/-- Whether the error or one that it wraps is an internal error. -/
def isInternal (error : Error) : Bool :=
  error.chain.any isInternalKind

/-- The text of the collaborator's failure in the chain of an error. -/
def external? (error : Error) : Option String :=
  error.chain.findSome? fun
    | external recovered => some recovered
    | _ => none

end Error

/-- How an operation fails. -/
inductive Failure where
  /-- The operation refuses what it was asked to do. -/
  | rejected (error : Error)
  /-- The operation was misused. -/
  | aborted (error : Error)
  deriving Repr, DecidableEq

/-- Aborts with a free message. -/
def Failure.misuse (message : String) : Failure :=
  .aborted (.unexpected (.text message))

end Nominal
