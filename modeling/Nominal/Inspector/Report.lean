import Nominal.Graph.Message
import Nominal.Graph.Printer
import Nominal.Inspector.Workspace

/-!
# Reports

What the inspector prints about a type: its members, its ancestors, its declaration, or whether one
of its members can be accessed.
-/

namespace Nominal

/-- Parts of a report that are set off by a color. -/
inductive Emphasis where
  | typeName
  | definingType
  | success
  | failure

/-- The terminal attributes of an emphasis. -/
def Emphasis.codes : Emphasis → String
  | typeName => "1;36"
  | definingType => "33"
  | success => "92"
  | failure => "1;91"

namespace Workspace

/-- Sets off a text, if the workspace is colored. -/
def paint (workspace : Workspace) (emphasis : Emphasis) (text : String) : String :=
  if workspace.isColored then "\x1b[" ++ emphasis.codes ++ "m" ++ text ++ "\x1b[0m" else text

/-- The first line of a report. -/
def header (workspace : Workspace) (graph : Graph) (type : TypeId) : String :=
  (if (graph.typeAt type).isClass then "class " else "interface ")
    ++ workspace.paint .typeName (graph.nameOf type) ++ "\n"

/-- A line for a member: its declaration and the type that defines it. -/
def memberLine (workspace : Workspace) (graph : Graph) (member : MemberId) : String :=
  let shown := graph.memberAt member
  let definingType := graph.qualifiedNameOf (shown.definingType.map .nominal)
  "    " ++ (shown.doc graph).render workspace.docWidth ++ "  "
    ++ workspace.paint .definingType ("(" ++ definingType ++ ")") ++ "\n"

/-- All members that a type offers, inherited ones included. -/
def offeredMembers (type : TypeId) : Query (List MemberId) := do
  match ((← get).typeAt type).shape with
  | .classShape part =>
    let statics ← classStaticMembersView type
    let instances ← classInstanceMembersView type
    return part.staticConstructor.toList ++ part.constructors ++ part.initializers ++ statics
      ++ instances
  | .interfaceShape => return (← interfaceMemberMapView type).allMembers

/-- The members of a type. -/
def membersReport (workspace : Workspace) (type : TypeId) : Query String := do
  let members ← offeredMembers type
  let graph ← get
  return workspace.header graph type
    ++ String.join (members.map (workspace.memberLine graph))

/-- The ancestors and extension classes of a type. -/
def ancestorsReport (workspace : Workspace) (type : TypeId) : Query String := do
  let priorities ← ancestorPrioritiesView type
  let extensions ← extensionClassesView type
  let graph ← get
  let ancestorLines := priorities.map fun priority =>
    "    " ++ toString priority.rank ++ "  "
      ++ workspace.paint .typeName (graph.nameOf priority.type) ++ "\n"
  let extensionLines := extensions.map fun extension =>
    "    " ++ workspace.paint .typeName (graph.nameOf extension) ++ "\n"
  return workspace.header graph type ++ String.join ancestorLines
    ++ (if extensions.isEmpty then "" else "  extensions:\n" ++ String.join extensionLines)

/-- The declaration of a type. -/
def declarationReport (workspace : Workspace) (type : TypeId) : Query String := do
  return ((← get).typeDoc type).render workspace.docWidth ++ "\n"

/-- The type with a name that has to exist. -/
def requireType (workspace : Workspace) (name : String) : Build TypeId :=
  match workspace.lookup? name with
  | some type => return type
  | none => reject (.text ("unknown type `" ++ name ++ "`"))

/-- Whether a member of a type can be accessed, from another type or from nowhere. -/
def accessReport (workspace : Workspace) (typeName memberName : String)
    (fromName : Option String) : Build String := do
  let type ← workspace.requireType typeName
  let referencing ← fromName.mapM workspace.requireType
  let outcome ← tryCatch
    (do
      let defining ← checkMemberAccess (.nominal type) memberName { referencing } false
      return Except.ok defining)
    fun
      | .rejected error => return .error error
      | .aborted error => throw (.aborted error)
  let graph ← get
  match outcome with
  | .ok defining =>
    return workspace.paint .success "accessible:" ++ " "
      ++ workspace.paint .definingType (graph.nameOf defining ++ "." ++ memberName) ++ "\n"
  | .error error =>
    return workspace.paint .failure ((error.fullMessage? graph).getD "") ++ "\n"

/-- What is reported about every type. -/
structure ReportOptions where
  builtins : Bool := false
  declarations : Bool := false
  ancestors : Bool := false

/-- The report about one type. -/
def typeReport (workspace : Workspace) (options : ReportOptions) (type : TypeId) :
    Query String := do
  let main ←
    if options.declarations then workspace.declarationReport type
    else workspace.membersReport type
  let more ← if options.ancestors then workspace.ancestorsReport type else pure ""
  return main ++ more ++ "\n"

/-- The report about all types. -/
def fullReport (workspace : Workspace) (options : ReportOptions) : Query String := do
  let reports ← (workspace.types options.builtins).mapM (workspace.typeReport options)
  return String.join reports

end Workspace

end Nominal
