import Nominal.Yaml.Schema

/-!
# Documents of declarations

The document that a module declaration is written as.  A field without content is left out; an item
of a list is always written, even if nothing is said about it.
-/

namespace Nominal.Yaml

/-- Whether a node is a value without content: nothing, no text, a false truth value, or no items.
-/
def Node.isVoid : Node → Bool
  | scalar .null => true
  | scalar (.bool value) => !value
  | scalar (.text content) => content == ""
  | scalar _ => false
  | sequence items => items.isEmpty
  | mapping entries => entries.isEmpty

/-- A mapping of the fields with content. -/
def Node.ofFields (fields : List (String × Node)) : Node :=
  .ofEntries (fields.filter fun field => !field.2.isVoid)

/-- The document of a parameter. -/
def parameterNode (declaration : ParameterDeclaration) : Node :=
  .ofFields [("name", .text declaration.name), ("type", .text declaration.type)]

/-- The document of a constructor call. -/
def forwardCallNode (declaration : ForwardCallDeclaration) : Node :=
  .ofFields
    [("target", .text declaration.target), ("arguments", .ofStrings declaration.arguments)]

/-- The document of a member. -/
def memberNode (declaration : MemberDeclaration) : Node :=
  .ofFields
    [("kind", .text declaration.kind), ("name", .text declaration.name),
      ("visibility", .text declaration.visibility), ("static", .ofBool declaration.isStatic),
      ("abstract", .ofBool declaration.isAbstract), ("const", .ofBool declaration.isConst),
      ("type", .text declaration.type), ("returns", .text declaration.returns),
      ("params", .sequence (declaration.params.map parameterNode)),
      ("calls", (declaration.calls.map forwardCallNode).getD .absent),
      ("doc", .text declaration.doc)]

/-- The document of an attached annotation. -/
def annotationNode (declaration : AnnotationDeclaration) : Node :=
  .ofFields
    [("type", .text declaration.type),
      ("arguments", .ofEntries (declaration.arguments.map fun entry => (entry.1, .text entry.2)))]

/-- The document of a type. -/
def typeNode (declaration : TypeDeclaration) : Node :=
  .ofFields
    [("class", .text declaration.className), ("interface", .text declaration.interfaceName),
      ("visibility", .text declaration.visibility),
      ("abstract", .ofBool declaration.isAbstract), ("final", .ofBool declaration.isFinal),
      ("attribute", .ofBool declaration.isAttribute),
      ("inherited", .ofBool declaration.isInherited), ("parent", .text declaration.parent),
      ("implements", .ofStrings declaration.implements),
      ("extends", .ofStrings declaration.extended),
      ("extensions", .ofStrings declaration.extensions),
      ("annotations", .sequence (declaration.annotations.map annotationNode)),
      ("members", .sequence (declaration.members.map memberNode)),
      ("doc", .text declaration.doc)]

/-- The document of a module declaration. -/
def moduleNode (declaration : ModuleDeclaration) : Node :=
  .ofFields
    [("module", .text declaration.name),
      ("types", .sequence (declaration.types.map typeNode))]

end Nominal.Yaml
