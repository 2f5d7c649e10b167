/-!
# Module declarations

What a declaration file says about the types of a module.  A field that is not given is empty.
-/

namespace Nominal

/-- A declared parameter. -/
structure ParameterDeclaration where
  name : String := ""
  type : String := ""
  deriving Repr, DecidableEq

/-- The declared constructor call of a constructor. -/
structure ForwardCallDeclaration where
  target : String := ""
  arguments : List String := []
  deriving Repr, DecidableEq

/-- A declared member. -/
structure MemberDeclaration where
  kind : String := ""
  name : String := ""
  visibility : String := ""
  isStatic : Bool := false
  isAbstract : Bool := false
  isConst : Bool := false
  type : String := ""
  returns : String := ""
  params : List ParameterDeclaration := []
  calls : Option ForwardCallDeclaration := none
  doc : String := ""
  deriving Repr, DecidableEq

/-- A declared annotation. -/
structure AnnotationDeclaration where
  type : String := ""
  arguments : List (String × String) := []
  deriving Repr, DecidableEq

/-- A declared class or interface. -/
structure TypeDeclaration where
  className : String := ""
  interfaceName : String := ""
  visibility : String := ""
  isAbstract : Bool := false
  isFinal : Bool := false
  isAttribute : Bool := false
  isInherited : Bool := false
  parent : String := ""
  implements : List String := []
  extended : List String := []
  extensions : List String := []
  annotations : List AnnotationDeclaration := []
  members : List MemberDeclaration := []
  doc : String := ""
  deriving Repr, DecidableEq

/-- The name of the declared type. -/
def TypeDeclaration.name (declaration : TypeDeclaration) : String :=
  if declaration.className ≠ "" then declaration.className else declaration.interfaceName

/-- Whether an interface is declared. -/
def TypeDeclaration.isInterface (declaration : TypeDeclaration) : Bool :=
  declaration.interfaceName != ""

/-- A declaration file. -/
structure ModuleDeclaration where
  name : String := ""
  types : List TypeDeclaration := []
  deriving Repr, DecidableEq

end Nominal
