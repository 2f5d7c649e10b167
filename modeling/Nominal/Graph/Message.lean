import Nominal.Graph.Basic
import Nominal.Text.EditDistance

/-!
# The wording of errors

An error has a message, and some have a hint on how to mend it.  Names of types and members are read
off the graph.  A member of the unknown kind has no noun, so an error that has to name its kind has
no message.
-/

namespace Nominal

/-- A name between back quotes. -/
def quoted (name : String) : String :=
  "`" ++ name ++ "`"

namespace Error

/-- Where an illegal reference to a type is made. -/
def typeReferenceSite (graph : Graph) (referencing : Option TypeId) (moduleName : String) :
    String :=
  match referencing with
  | some type => "type " ++ quoted (graph.nameOf type)
  | none => "module " ++ quoted moduleName

/-- Where an illegal reference to a member is made. -/
def memberReferenceSite (graph : Graph) (referencing : Option TypeId) : String :=
  match referencing with
  | some type => "type " ++ quoted (graph.nameOf type)
  | none => "top-level code"

/-- The message of an error. -/
def message? (graph : Graph) : Error → Option String
  | text message => message
  | context label cause => do return label ++ ": " ++ (← message? graph cause)
  | joined first second => do return first ++ "\n" ++ (← message? graph second)
  | exit => "exit"
  | external recovered => recovered
  | unreachable => "unreachable"
  | unexpected cause => message? graph cause
  | user cause => message? graph cause
  | missingBuilder name => "missing builder of built-in type " ++ quoted name
  | sealedMutation type mutation =>
    "cannot " ++ mutation.label ++ ": type " ++ quoted (graph.nameOf type)
      ++ " is already sealed"
  | invalidVisibility keyword => "invalid visibility: " ++ quoted keyword
  | memberKindCollision type existing member => do
    let kind ← (graph.memberAt member).kind.name?
    let existingKind ← (graph.memberAt existing).kind.name?
    return "cannot declare " ++ kind ++ " " ++ quoted (graph.memberAt member).identifier
      ++ " in type " ++ quoted (graph.nameOf type) ++ ": a " ++ existingKind
      ++ " with the same name is already declared"
  | duplicateMember type member => do
    let kind ← (graph.memberAt member).kind.name?
    return "duplicate " ++ kind ++ " " ++ quoted ((graph.memberAt member).describe graph)
      ++ " in type " ++ quoted (graph.nameOf type)
  | inconsistentOverloadVisibility type existing member =>
    "overload " ++ quoted ((graph.memberAt member).describe graph) ++ " in type "
      ++ quoted (graph.nameOf type) ++ " is " ++ (graph.memberAt member).visibility.description
      ++ ", but other overloads are " ++ (graph.memberAt existing).visibility.description
  | incompatibleMemberKind type member ancestor => do
    let kind ← (graph.memberAt member).kind.name?
    let ancestorKind ← (graph.memberAt ancestor).kind.name?
    return kind ++ " " ++ quoted (graph.memberAt member).identifier ++ " in type "
      ++ quoted (graph.nameOf type) ++ " conflicts with " ++ ancestorKind ++ " "
      ++ quoted ((graph.memberAt ancestor).qualifiedName graph)
  | fieldShadowing type member ancestor =>
    "field " ++ quoted (graph.memberAt member).identifier ++ " in type "
      ++ quoted (graph.nameOf type) ++ " shadows field "
      ++ quoted ((graph.memberAt ancestor).qualifiedName graph)
  | reducedVisibility type member ancestor => do
    let kind ← (graph.memberAt member).kind.name?
    return kind ++ " " ++ quoted ((graph.memberAt member).describe graph) ++ " in type "
      ++ quoted (graph.nameOf type) ++ " cannot reduce the visibility of "
      ++ quoted ((graph.memberAt ancestor).qualifiedName graph) ++ " from "
      ++ (graph.memberAt ancestor).visibility.description ++ " to "
      ++ (graph.memberAt member).visibility.description
  | invalidMemberKind type member isStatic => do
    let kind ← (graph.memberAt member).kind.name?
    return "type " ++ quoted (graph.nameOf type) ++ " cannot declare " ++ kind ++ " "
      ++ quoted (graph.memberAt member).identifier ++ " as "
      ++ (if isStatic then "static" else "instance") ++ " member"
  | invalidInterfaceMemberVisibility type member =>
    "member " ++ quoted (graph.memberAt member).identifier ++ " of interface "
      ++ quoted (graph.nameOf type) ++ " cannot be "
      ++ (graph.memberAt member).visibility.description
  | cyclicInheritance type supertype =>
    "type " ++ quoted (graph.nameOf type) ++ " cannot inherit from "
      ++ quoted (graph.nameOf supertype) ++ ": " ++ quoted (graph.nameOf type)
      ++ " would be its own ancestor"
  | invalidParent type parent =>
    "type " ++ quoted (graph.nameOf type) ++ " cannot extend " ++ quoted (graph.nameOf parent)
  | missingParent type => "class " ++ quoted (graph.nameOf type) ++ " has no parent"
  | unsealedSupertype type supertype =>
    "cannot seal " ++ quoted (graph.nameOf type) ++ ": supertype "
      ++ quoted (graph.nameOf supertype) ++ " is not sealed"
  | preInitialization type cause => do
    return "failed to initialize type " ++ quoted (graph.nameOf type) ++ ": "
      ++ (← message? graph cause)
  | illegalTypeAccess type referencing moduleName =>
    "cannot access " ++ (graph.typeAt type).visibility.description ++ " type "
      ++ quoted (graph.nameOf type) ++ " from " ++ typeReferenceSite graph referencing moduleName
  | illegalMemberAccess type member referencing =>
    "cannot access " ++ (graph.memberAt member).visibility.description ++ " member "
      ++ quoted (graph.memberAt member).identifier ++ " of type " ++ quoted (graph.nameOf type)
      ++ " from " ++ memberReferenceSite graph referencing
  | unknownMember type name isStatic _ =>
    "type " ++ quoted (type.qualifiedName graph) ++ " has no "
      ++ (if isStatic then "static " else "") ++ "member " ++ quoted name
  | constructorNotFound type arguments _ =>
    "no constructor of type " ++ quoted (graph.nameOf type) ++ " accepts ("
      ++ graph.qualifiedNameList arguments ++ ")"
  | recursiveConstructorCall type _ =>
    "recursive constructor call in type " ++ quoted (graph.nameOf type)
  | circularDependency dependent dependency =>
    "circular dependency: " ++ dependent ++ " -> " ++ dependency
  | declaration moduleName typeName cause => do
    let inner ← message? graph cause
    if typeName = "" then return "module " ++ quoted moduleName ++ ": " ++ inner
    else return "module " ++ quoted moduleName ++ ", type " ++ quoted typeName ++ ": " ++ inner
  | invalidDeclaration message => message
  | unknownType name => "cannot find type " ++ quoted name
  | unexpectedTypeKind name expected => "type " ++ quoted name ++ " is not " ++ expected
  | reservedTypeName name =>
    "cannot declare type " ++ quoted name ++ ": the name is reserved for a built-in type"
  | duplicateType name => "duplicate declaration of type " ++ quoted name
  | invalidAnnotationType name =>
    "type " ++ quoted name ++ " cannot be used as an annotation"
  | parse => "failed to parse declarations"

/-- The hint for a name that no member has. -/
def unknownMemberHint (name : String) (names : List String) : String :=
  match Text.closestName (Text.editDistance name) name names with
  | some closest => "unknown member. did you mean " ++ quoted closest ++ "?"
  | none => "unknown member"

/-- The hint for a class that cannot be extended. -/
def invalidParentHint (parent : NominalType) : String :=
  if parent.isClass then
    if parent.properties.has .final then "final classes cannot be extended" else ""
  else "interfaces are implemented, not extended"

/-- The hint that shows a chain of constructor calls. -/
def callChainHint (callChain : List String) : String :=
  "call chain: " ++ " -> ".intercalate callChain

/-- The hint of an error, if errors of its kind have one.  A hint can be empty. -/
def hint? (graph : Graph) : Error → Option String
  | invalidVisibility _ =>
    "expected one of " ++ ", ".intercalate (Visibility.all.map fun visibility =>
      quoted visibility.keyword)
  | memberKindCollision .. => "fields cannot share their name with any other member"
  | duplicateMember .. => "overloads must differ in their parameter types"
  | inconsistentOverloadVisibility _ existing _ =>
    "consider declaring it " ++ (graph.memberAt existing).visibility.keyword
  | fieldShadowing .. => "consider renaming the field"
  | reducedVisibility _ _ ancestor =>
    "consider declaring it " ++ (graph.memberAt ancestor).visibility.keyword
  | invalidInterfaceMemberVisibility .. => "interface members are implicitly public"
  | invalidParent _ parent => invalidParentHint (graph.typeAt parent)
  | missingParent _ => "only the root class has no parent"
  | unsealedSupertype .. => "seal supertypes before their subtypes"
  | preInitialization _ cause =>
    if cause.external?.isSome then "the implementation of the type panicked" else ""
  | illegalMemberAccess _ member _ =>
    "member is declared in "
      ++ quoted (graph.qualifiedNameOf ((graph.memberAt member).definingType.map .nominal))
  | unknownMember _ name _ names => unknownMemberHint name names
  | constructorNotFound _ _ callChain => if callChain.isEmpty then "" else callChainHint callChain
  | recursiveConstructorCall _ callChain => callChainHint callChain
  | declaration _ _ cause => (hint? graph cause).getD ""
  | invalidAnnotationType _ => "annotation types must derive from `Attribute`"
  | _ => none

/-- The message of an error, followed by its hint if that is not empty. -/
def fullMessage? (graph : Graph) (error : Error) : Option String := do
  let message ← error.message? graph
  match error.hint? graph with
  | some hint => if hint = "" then return message else return message ++ ": " ++ hint
  | none => return message

end Error

end Nominal
