import Nominal.Graph.Basic
import Nominal.Text.Layout

/-!
# Declarations as text

How a type or a member would be declared.  A declaration is a document, so that long parameter lists
and long lists of interfaces are broken into lines when they do not fit.
-/

namespace Nominal

open Text (Doc)

/-- A comma and a place where the line may end. -/
def listSeparator : Doc :=
  .text "," ++ .line

/-- A reference to a type. -/
def referenceDoc (graph : Graph) (reference : Option TypeRef) : Doc :=
  .text (graph.qualifiedNameOf reference)

/-- References to types, separated by commas. -/
def referenceListDoc (graph : Graph) (references : List (Option TypeRef)) : Doc :=
  Doc.separated listSeparator (references.map (referenceDoc graph))

/-- A parameter with its type, if it has one. -/
def Parameter.doc (graph : Graph) (parameter : Parameter) : Doc :=
  match parameter.type with
  | some type => .text parameter.name ++ .text ": " ++ referenceDoc graph (some type)
  | none => .text parameter.name

/-- A parameter list in parentheses. -/
def parametersDoc (graph : Graph) (parameters : List Parameter) : Doc :=
  if parameters.isEmpty then .text "()"
  else Doc.parenthesized (Doc.separated listSeparator (parameters.map (Parameter.doc graph)))

/-- The declaration of a member. -/
def Member.doc (graph : Graph) (member : Member) : Doc :=
  let visibility := Doc.concat [.text member.visibility.keyword, .space]
  let staticness :=
    if member.isStatic && member.kind != .staticConstructor then .text "static" ++ .space
    else Doc.empty
  let abstractness := if member.isAbstract then .text "abstract" ++ .space else Doc.empty
  let body := match member.kind with
    | .field =>
      Doc.concat [.text (if member.isConst then "const" else "var"), .space,
        .text member.identifier, .text ": ", referenceDoc graph member.declaredType]
    | .method =>
      Doc.concat [.text "fun", .space, .text member.identifier,
        parametersDoc graph member.explicitParameters,
        match member.declaredType with
        | some type => .text ": " ++ referenceDoc graph (some type)
        | none => .empty]
    | _ =>
      Doc.concat [.text member.identifier, parametersDoc graph member.explicitParameters,
        match member.forwardCall with
        | some call =>
          Doc.concat [.text ": ", .text call.target.keyword,
            Doc.parenthesized (referenceListDoc graph call.arguments)]
        | none => .empty]
  .group (Doc.concat [visibility, staticness, abstractness, body])

/-- A block with one member on each line. -/
def membersDoc (graph : Graph) (members : List MemberId) : Doc :=
  if members.isEmpty then .text "\x7b\x7d"
  else
    Doc.concat [.text "\x7b",
      .indent (Doc.concat (members.map fun member =>
        Doc.append .hardLine ((graph.memberAt member).doc graph))),
      .hardLine, .text "\x7d"]

/-- A keyword and a list of interfaces, unless there are none. -/
def interfacesDoc (graph : Graph) (keyword : String) (interfaces : List TypeId) : List Doc :=
  if interfaces.isEmpty then []
  else
    [.line, .text keyword, .space,
      .indent (referenceListDoc graph (interfaces.map fun id => some (.nominal id)))]

/-- The header after the name of a type, if there is anything in it. -/
def headerDoc (parts : List Doc) : Doc :=
  if parts.isEmpty then .empty else .group (.indent (Doc.concat parts))

/-- The declared members of a type, static members first. -/
def NominalType.declaredMembers (type : NominalType) : List MemberId :=
  (type.declared true).values.flatten ++ (type.declared false).values.flatten

/-- The declaration of a type. -/
def Graph.typeDoc (graph : Graph) (id : TypeId) : Doc :=
  let type := graph.typeAt id
  let visibility := Doc.concat [.text type.visibility.keyword, .space]
  match type.shape with
  | .classShape part =>
    let modifier := fun (property : TypeProperty) (keyword : String) =>
      if type.properties.has property then .text keyword ++ .space else Doc.empty
    let parent := match part.parent with
      | some parent => [.line, .text "extends", .space, .text (graph.nameOf parent)]
      | none => []
    let members := part.staticConstructor.toList ++ part.constructors ++ part.initializers
      ++ type.declaredMembers
    Doc.concat [visibility, modifier .abstract "abstract", modifier .final "final",
      .text "class", .space, .text type.identifier,
      headerDoc (parent ++ interfacesDoc graph "implements" type.interfaces),
      .space, membersDoc graph members]
  | .interfaceShape =>
    Doc.concat [visibility, .text "interface", .space, .text type.identifier,
      headerDoc (interfacesDoc graph "extends" type.interfaces),
      .space, membersDoc graph type.declaredMembers]

/-- The declaration of a declared type, and the name of any other type. -/
def TypeRef.doc (graph : Graph) : TypeRef → Doc
  | .nominal id => graph.typeDoc id
  | .primitive kind => .text kind.name
  | .array element _ => referenceDoc graph (some element) ++ .text "[]"

end Nominal
