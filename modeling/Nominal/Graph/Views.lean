import Nominal.Graph.ClassMembers
import Nominal.Graph.InterfaceMembers

/-!
# Views of a type

A view is a value computed from the declared state of a type and its ancestors.  A sealed type can
no longer change, and neither can anything above it, so its views are computed once and kept; the
views of other types are computed every time they are asked for.  Computations are traced and logged
as the arena's settings say.
-/

namespace Nominal

/-- Records that a computation was made for a type. -/
def recordTrace (operation : TraceOperation) (type : TypeId) : Query Unit :=
  modify fun graph =>
    if (graph.settingsOf type).isTracing then
      { graph with
        journal := graph.journal.trace
          (.ofType operation (graph.nameOf type) (graph.typeAt type).index (graph.isSealed type)) }
    else graph

/-- Records a message about a type of an arena. -/
def recordLog (type : TypeId) (record : LogRecord) : Query Unit :=
  modify fun graph =>
    if (graph.settingsOf type).isLogging then
      { graph with journal := graph.journal.log record }
    else graph

/-- Makes a computation for a type and records it. -/
def traced {α : Type} (operation : TraceOperation) (type : TypeId) (compute : Query α) :
    Query α := do
  let result ← compute
  recordTrace operation type
  return result

/-- The kept value of a view, or a computed one, which is kept if the type is sealed. -/
def view {α : Type} (type : TypeId) (read : ViewCache → Option α)
    (write : α → ViewCache → ViewCache) (compute : Query α) : Query α := do
  let graph ← get
  if graph.isSealed type then
    match read (graph.cacheAt type) with
    | some value => return value
    | none =>
      let value ← compute
      modify fun graph => graph.modifyCache type (write value)
      return value
  else compute

/-- The ancestors of a type, with their priorities. -/
def ancestorPrioritiesView (type : TypeId) : Query (List TypePriority) :=
  view type (·.ancestorPriorities)
    (fun value cache => { cache with ancestorPriorities := some value })
    (traced .ancestors type do
      let graph ← get
      return graph.ancestorPriorities type false)

/-- The ancestors of a type. -/
def ancestorsView (type : TypeId) : Query (List TypeId) :=
  view type (·.ancestors) (fun value cache => { cache with ancestors := some value })
    (do
      let priorities ← ancestorPrioritiesView type
      return priorities.map (·.type))

/-- The extension classes of a type and its ancestors, computed now. -/
def computeExtensionClasses (type : TypeId) : Query (List TypeId) := do
  let ancestors ← ancestorsView type
  let graph ← get
  return graph.collectExtensions (type :: ancestors)

/-- The extension classes of a type and its ancestors. -/
def extensionClassesView (type : TypeId) : Query (List TypeId) :=
  view type (·.allExtensionClasses)
    (fun value cache => { cache with allExtensionClasses := some value })
    (traced .extensions type (computeExtensionClasses type))

/-- Computes the member map of a class. -/
def computeClassMemberMap (type : TypeId) (isStatic : Bool) : Query ClassMemberMap :=
  traced .classMemberMap type do
    let graph ← get
    let map := ClassMemberMap.ofClass graph type isStatic
    recordLog type (.classMemberMap (graph.nameOf type) isStatic map.ranks.length)
    return map

/-- The member map of a class. -/
def classMemberMapView (type : TypeId) (isStatic : Bool) : Query ClassMemberMap :=
  if isStatic then
    view type (·.staticMemberMap) (fun value cache => { cache with staticMemberMap := some value })
      (computeClassMemberMap type true)
  else
    view type (·.instanceMemberMap)
      (fun value cache => { cache with instanceMemberMap := some value })
      (computeClassMemberMap type false)

/-- All static members visible from a class. -/
def classStaticMembersView (type : TypeId) : Query (List MemberId) :=
  view type (·.classStaticMembers)
    (fun value cache => { cache with classStaticMembers := some value })
    (do
      let map ← classMemberMapView type true
      return map.visibleMembers (← get))

/-- All instance members visible from a class. -/
def classInstanceMembersView (type : TypeId) : Query (List MemberId) :=
  view type (·.classInstanceMembers)
    (fun value cache => { cache with classInstanceMembers := some value })
    (do
      let map ← classMemberMapView type false
      return map.visibleMembers (← get))

/-- The instance fields visible from a class. -/
def fieldsView (type : TypeId) : Query (List MemberId) :=
  view type (·.fields) (fun value cache => { cache with fields := some value })
    (do
      let members ← classInstanceMembersView type
      return (← get).ofKind .field members)

/-- The instance methods visible from a class. -/
def methodsView (type : TypeId) : Query (List MemberId) :=
  view type (·.methods) (fun value cache => { cache with methods := some value })
    (do
      let members ← classInstanceMembersView type
      return (← get).ofKind .method members)

/-- The annotations that apply to a class. -/
def annotationArrayView (type : TypeId) : Query (List AnnotationUse) :=
  view type (·.annotationArray) (fun value cache => { cache with annotationArray := some value })
    (do return (← get).annotationArray type)

/-- The member map of an interface. -/
def interfaceMemberMapView (type : TypeId) : Query InterfaceMemberMap :=
  view type (·.interfaceMemberMap)
    (fun value cache => { cache with interfaceMemberMap := some value })
    (traced .interfaceMemberMap type do
      let graph ← get
      let map := InterfaceMemberMap.ofInterface graph type
      recordLog type (.interfaceMemberMap (graph.nameOf type) map.members.size)
      return map)

/-! ## Members by name -/

/-- The members of a name visible from a class, closest first. -/
def classMembersByName (type : TypeId) (name : String) (isStatic : Bool) :
    Query (List MemberId) := do
  let map ← classMemberMapView type isStatic
  return (map.loadedByName (← get) name false).map (·.member)

/-- The closest member of a name visible from a class. -/
def classMemberByName? (type : TypeId) (name : String) (isStatic : Bool) :
    Query (Option MemberId) := do
  let map ← classMemberMapView type isStatic
  return (map.closestByName? (← get) name false).map (·.member)

/-- The static methods of a name visible from a class. -/
def staticMethodsByName (type : TypeId) (name : String) : Query (List MemberId) := do
  let members ← classMembersByName type name true
  return (← get).ofKind .method members

/-- The merged instance members of a name of an interface. -/
def interfaceMembersByName (type : TypeId) (name : String) : Query (List MemberId) := do
  let map ← interfaceMemberMapView type
  return map.membersByName name

/-- The first member of a name of an interface; static members are not merged. -/
def interfaceMemberByName? (type : TypeId) (name : String) (isStatic : Bool) :
    Query (Option MemberId) := do
  if isStatic then return ((← get).typeAt type |>.declaredByName name true).head?
  else return (← interfaceMembersByName type name).head?

end Nominal
