import Mathlib.Data.List.Forall2
import Mathlib.Data.Option.Basic
import Nominal.Graph.Message
import Nominal.Proofs.Workpieces

/-!
# Mirrors

The same declarations can be built in two graphs, where they get different places.  A mirror says
which types of the two graphs correspond to each other; members, types and errors correspond if they
say the same about corresponding types.

Array types are found by the names of their elements.  Where two types share a name, arrays can have
corresponding names and elements that do not correspond; a mirror is exact if that does not happen.
Without exactness two builds still agree on what is accepted, with it they agree on everything.
-/

namespace Nominal

open Nominal.Graph

/-- What the mention of a type can see of it. -/
structure NominalType.SameFace (type other : NominalType) : Prop where
  identifier : other.identifier = type.identifier
  moduleName : other.moduleName = type.moduleName
  visibility : other.visibility = type.visibility
  properties : other.properties = type.properties
  isClass : other.isClass = type.isClass

theorem NominalType.SameFace.qualifiedName {type other : NominalType} (same : type.SameFace other) :
    other.qualifiedName = type.qualifiedName := by
  simp only [NominalType.qualifiedName, same.identifier, same.moduleName]

theorem TypeRef.qualifiedName_eq_of_same (graph : Graph) {first second : TypeRef}
    (same : first.same second = true) :
    first.qualifiedName graph = second.qualifiedName graph := by
  induction first generalizing second with
  | primitive kind =>
      cases second with
      | primitive found => rw [eq_of_beq same]
      | nominal | array => cases same
  | nominal type =>
      cases second with
      | nominal found => rw [eq_of_beq same]
      | primitive | array => cases same
  | array element base ih =>
      cases second with
      | array found foundBase => exact congrArg (· ++ "[]") (ih same)
      | primitive | nominal => cases same

theorem eq_none_of_rel {Value Shown : Type} {shows : Value → Shown → Prop} {found : Option Value}
    {shown : Option Shown} (related : Option.Rel shows found shown) (absent : found = none) :
    shown = none := by
  cases related with
  | none => rfl
  | some => cases absent

theorem exists_of_rel {Value Shown : Type} {shows : Value → Shown → Prop} {value : Value}
    {shown : Option Shown} (related : Option.Rel shows (some value) shown) :
    ∃ image, shown = some image ∧ shows value image := by
  cases related with
  | some here => exact ⟨_, rfl, here⟩

/-- A correspondence between the types of two graphs. -/
structure Mirror where
  source : Graph
  target : Graph
  rename : TypeId → TypeId
  /-- The types before this place stand at the same place in both graphs. -/
  common : Nat
  /-- Whether the elements of array types correspond to each other, and not only their names. -/
  exact : Prop
  present : ∀ {type}, type < source.types.size → rename type < target.types.size
  injective : ∀ {type other}, type < source.types.size → other < source.types.size →
    rename type = rename other → type = other
  fixed : ∀ {type}, type < common → rename type = type
  face : ∀ {type}, type < source.types.size →
    (source.typeAt type).SameFace (target.typeAt (rename type))

namespace Mirror

/-! ## References -/

/-- Corresponding references.  All arrays of a farm offer the members of one class, so only their
elements are compared. -/
inductive ShowsRef (mirror : Mirror) : TypeRef → TypeRef → Prop
  | primitive (kind : Primitive) : ShowsRef mirror (.primitive kind) (.primitive kind)
  | nominal {type : TypeId} (present : type < mirror.source.types.size) :
      ShowsRef mirror (.nominal type) (.nominal (mirror.rename type))
  | array {element other : TypeRef} {base otherBase : Option TypeId}
      (named : other.qualifiedName mirror.target = element.qualifiedName mirror.source)
      (elements : mirror.exact → ShowsRef mirror element other) :
      ShowsRef mirror (.array element base) (.array other otherBase)

variable {mirror : Mirror}

theorem nameOf {type : TypeId} (present : type < mirror.source.types.size) :
    mirror.target.nameOf (mirror.rename type) = mirror.source.nameOf type :=
  (mirror.face present).qualifiedName

namespace ShowsRef

variable {reference other : TypeRef}

theorem qualifiedName (shows : mirror.ShowsRef reference other) :
    other.qualifiedName mirror.target = reference.qualifiedName mirror.source := by
  cases shows with
  | primitive kind => rfl
  | nominal present => exact nameOf present
  | array named => exact congrArg (· ++ "[]") named

theorem shortName (shows : mirror.ShowsRef reference other) (exact : mirror.exact) :
    other.shortName mirror.target = reference.shortName mirror.source := by
  induction shows with
  | primitive kind => rfl
  | nominal present => exact (mirror.face present).identifier
  | array _ _ ih => exact congrArg (· ++ "[]") (ih exact)

/-- References that mean the same types correspond to each other as well. -/
theorem congr (shows : mirror.ShowsRef reference other) {equal image : TypeRef}
    (same : reference.same equal = true) (imageSame : other.same image = true) :
    mirror.ShowsRef equal image := by
  induction shows generalizing equal image with
  | primitive kind =>
      cases equal <;> cases image <;> first | cases same | cases imageSame | skip
      rw [← eq_of_beq same, ← eq_of_beq imageSame]
      exact .primitive kind
  | nominal present =>
      cases equal <;> cases image <;> first | cases same | cases imageSame | skip
      rw [← eq_of_beq same, ← eq_of_beq imageSame]
      exact .nominal present
  | @array element shown base otherBase named elements ih =>
      cases equal <;> cases image <;> first | cases same | cases imageSame | skip
      next found _ foundImage _ =>
      have sameElement : element.same found = true := same
      have sameImage : shown.same foundImage = true := imageSame
      refine .array ?_ fun exact => ih exact sameElement sameImage
      rw [← TypeRef.qualifiedName_eq_of_same mirror.target sameImage, named,
        TypeRef.qualifiedName_eq_of_same mirror.source sameElement]

end ShowsRef

/-- Corresponding references where a type may be left open. -/
def ShowsType? (mirror : Mirror) : Option TypeRef → Option TypeRef → Prop :=
  Option.Rel mirror.ShowsRef

theorem ShowsType?.qualifiedName {reference other : Option TypeRef}
    (shows : mirror.ShowsType? reference other) :
    mirror.target.qualifiedNameOf other = mirror.source.qualifiedNameOf reference := by
  cases shows with
  | none => rfl
  | some related => exact related.qualifiedName

theorem ShowsType?.shortName {reference other : Option TypeRef}
    (shows : mirror.ShowsType? reference other) (exact : mirror.exact) :
    mirror.target.shortNameOf other = mirror.source.shortNameOf reference := by
  cases shows with
  | none => rfl
  | some related => exact related.shortName exact

/-! ## Members -/

/-- Corresponding parameters. -/
structure ShowsParameter (mirror : Mirror) (parameter other : Parameter) : Prop where
  name : other.name = parameter.name
  isSelf : other.isSelf = parameter.isSelf
  type : mirror.ShowsType? parameter.type other.type

/-- Corresponding constructor calls. -/
structure ShowsCall (mirror : Mirror) (call other : ForwardCall) : Prop where
  target : other.target = call.target
  arguments : List.Forall₂ mirror.ShowsType? call.arguments other.arguments

/-- Corresponding members. -/
structure ShowsMember (mirror : Mirror) (member other : Member) : Prop where
  kind : other.kind = member.kind
  identifier : other.identifier = member.identifier
  visibility : other.visibility = member.visibility
  isStatic : other.isStatic = member.isStatic
  isAbstract : other.isAbstract = member.isAbstract
  isConst : other.isConst = member.isConst
  docString : other.docString = member.docString
  declaredType : mirror.ShowsType? member.declaredType other.declaredType
  definingType : other.definingType = member.definingType.map mirror.rename
  owner : ∀ type ∈ member.definingType, type < mirror.source.types.size
  parameters : List.Forall₂ mirror.ShowsParameter member.parameters other.parameters
  forwardCall : Option.Rel mirror.ShowsCall member.forwardCall other.forwardCall

theorem map_eq_of_forall₂ {Item Other Value : Type} {related : Item → Other → Prop}
    {items : List Item} {others : List Other} (shows : List.Forall₂ related items others)
    {read : Item → Value} {readOther : Other → Value}
    (same : ∀ {item other}, related item other → readOther other = read item) :
    others.map readOther = items.map read := by
  induction shows with
  | nil => rfl
  | cons first _ ih => rw [List.map_cons, List.map_cons, same first, ih]

namespace ShowsMember

variable {member other : Member}

theorem explicitParameters (shows : mirror.ShowsMember member other) :
    List.Forall₂ mirror.ShowsParameter member.explicitParameters other.explicitParameters := by
  unfold Member.explicitParameters
  rcases parameters : member.parameters with _ | ⟨first, rest⟩ <;>
    rcases images : other.parameters with _ | ⟨image, others⟩ <;>
    have related := shows.parameters <;> rw [parameters, images] at related
  · exact .nil
  · cases related
  · cases related
  · obtain ⟨here, there⟩ := List.forall₂_cons.mp related
    dsimp only
    rw [here.isSelf]
    split
    · exact there
    · exact related

theorem key (shows : mirror.ShowsMember member other) :
    other.key mirror.target = member.key mirror.source := by
  have signature : other.signature mirror.target = member.signature mirror.source :=
    congrArg (",".intercalate ·)
      (map_eq_of_forall₂ shows.explicitParameters fun related => related.type.qualifiedName)
  simp only [Member.key, shows.identifier, shows.kind, signature]

theorem describe (shows : mirror.ShowsMember member other) (exact : mirror.exact) :
    other.describe mirror.target = member.describe mirror.source := by
  simp only [Member.describe, shows.identifier, shows.kind,
    map_eq_of_forall₂ shows.explicitParameters fun related => related.type.shortName exact]

theorem qualifiedName (shows : mirror.ShowsMember member other) :
    other.qualifiedName mirror.target = member.qualifiedName mirror.source := by
  have owner := shows.owner
  simp only [Member.qualifiedName, shows.definingType, shows.identifier]
  cases defining : member.definingType with
  | none => rfl
  | some type =>
      have named : mirror.target.nameOf (mirror.rename type) = mirror.source.nameOf type :=
        nameOf (owner type defining)
      simp only [Option.map_some, named]

end ShowsMember

end Mirror

/-! ## Graphs -/

/-- The only reference to a type of its name. -/
def Graph.Sole (graph : Graph) (element : TypeRef) : Prop :=
  ∀ reference : TypeRef, reference.isWithin graph.types.size = true →
    reference.qualifiedName graph = element.qualifiedName graph → reference.same element = true

theorem Graph.Sole.of_types {graph left : Graph} {element : TypeRef} (sole : graph.Sole element)
    (same : left.types = graph.types) : left.Sole element := by
  have typeAt : ∀ type, left.typeAt type = graph.typeAt type := by
    intro type
    rw [Graph.typeAt, same, Graph.typeAt]
  have names := qualifiedName_eq_of_typeAt typeAt
  intro reference within named
  rw [names, names] at named
  exact sole reference (same ▸ within) named

/-- The types of a graph, as far as they can be mentioned, are those of another graph. -/
structure Graph.SameTypes (graph left : Graph) : Prop where
  size : left.types.size = graph.types.size
  identity : ∀ type, (graph.typeAt type).SameIdentity (left.typeAt type)

namespace Graph.SameTypes

variable {graph left last : Graph}

theorem refl (graph : Graph) : graph.SameTypes graph :=
  ⟨rfl, fun _ => .refl _⟩

theorem trans (early : graph.SameTypes left) (late : left.SameTypes last) : graph.SameTypes last :=
  ⟨late.size.trans early.size, fun type => (early.identity type).trans (late.identity type)⟩

theorem symm (same : graph.SameTypes left) : left.SameTypes graph :=
  ⟨same.size.symm, fun type => (same.identity type).symm⟩

theorem of_frame {farm : Farm} {touched : TypeId → Prop} {bound : Nat}
    (frame : graph.Frame farm touched bound left) : graph.SameTypes left :=
  ⟨frame.size, frame.identityAt⟩

theorem of_bare (same : left.bare = graph.bare) : graph.SameTypes left := by
  refine ⟨by rw [types_eq_of_bare same], fun type => ?_⟩
  rw [typeAt_eq_of_bare same]
  exact .refl _

theorem of_keepsSealed (keeps : graph.KeepsSealed left)
    (size : left.types.size = graph.types.size) : graph.SameTypes left := by
  refine ⟨size, fun type => ?_⟩
  by_cases present : type < graph.types.size
  · exact keeps.identity type present
  · rw [typeAt_of_size_le (Nat.le_of_not_lt present),
      typeAt_of_size_le (size ▸ Nat.le_of_not_lt present)]
    exact .refl _

theorem nameOf (same : graph.SameTypes left) (type : TypeId) :
    left.nameOf type = graph.nameOf type :=
  (same.identity type).qualifiedName

theorem qualifiedName (same : graph.SameTypes left) (reference : TypeRef) :
    reference.qualifiedName left = reference.qualifiedName graph := by
  induction reference with
  | primitive kind => rfl
  | nominal id => exact same.nameOf id
  | array element base ih => exact congrArg (· ++ "[]") ih

theorem shortName (same : graph.SameTypes left) (reference : TypeRef) :
    reference.shortName left = reference.shortName graph := by
  induction reference with
  | primitive kind => rfl
  | nominal id => exact (same.identity id).identifier
  | array element base ih => exact congrArg (· ++ "[]") ih

theorem qualifiedNameOf (same : graph.SameTypes left) (reference : Option TypeRef) :
    left.qualifiedNameOf reference = graph.qualifiedNameOf reference := by
  cases reference with
  | none => rfl
  | some reference => exact same.qualifiedName reference

theorem shortNameOf (same : graph.SameTypes left) (reference : Option TypeRef) :
    left.shortNameOf reference = graph.shortNameOf reference := by
  cases reference with
  | none => rfl
  | some reference => exact same.shortName reference

theorem key (same : graph.SameTypes left) (member : Member) :
    member.key left = member.key graph := by
  simp only [Member.key, Member.signature, same.qualifiedNameOf]

theorem describe (same : graph.SameTypes left) (member : Member) :
    member.describe left = member.describe graph := by
  simp only [Member.describe, same.shortNameOf]

theorem memberName (same : graph.SameTypes left) (member : Member) :
    member.qualifiedName left = member.qualifiedName graph := by
  simp only [Member.qualifiedName, same.nameOf]

end Graph.SameTypes

namespace Mirror

/-- Two graphs with the types of a mirror. -/
structure Frames (mirror : Mirror) (graph other : Graph) : Prop where
  source : mirror.source.SameTypes graph
  target : mirror.target.SameTypes other

namespace Frames

variable {mirror : Mirror} {graph other left last : Graph}

theorem step (frames : mirror.Frames graph other) (early : graph.SameTypes left)
    (late : other.SameTypes last) : mirror.Frames left last :=
  ⟨frames.source.trans early, frames.target.trans late⟩

theorem face (frames : mirror.Frames graph other) {type : TypeId}
    (present : type < mirror.source.types.size) :
    (graph.typeAt type).SameFace (other.typeAt (mirror.rename type)) := by
  have face := mirror.face present
  have source := frames.source.identity type
  have target := frames.target.identity (mirror.rename type)
  constructor
  · rw [target.identifier, face.identifier, source.identifier]
  · rw [target.moduleName, face.moduleName, source.moduleName]
  · rw [target.visibility, face.visibility, source.visibility]
  · rw [target.properties, face.properties, source.properties]
  · rw [target.isClass, face.isClass, source.isClass]

theorem nameOf (frames : mirror.Frames graph other) {type : TypeId}
    (present : type < mirror.source.types.size) :
    other.nameOf (mirror.rename type) = graph.nameOf type :=
  (frames.face present).qualifiedName

theorem qualifiedName (frames : mirror.Frames graph other) {reference image : TypeRef}
    (shows : mirror.ShowsRef reference image) :
    image.qualifiedName other = reference.qualifiedName graph := by
  rw [frames.target.qualifiedName, shows.qualifiedName, frames.source.qualifiedName]

theorem key (frames : mirror.Frames graph other) {member image : Member}
    (shows : mirror.ShowsMember member image) : image.key other = member.key graph := by
  rw [frames.target.key, shows.key, frames.source.key]

theorem describe (frames : mirror.Frames graph other) {member image : Member}
    (shows : mirror.ShowsMember member image) (exact : mirror.exact) :
    image.describe other = member.describe graph := by
  rw [frames.target.describe, shows.describe exact, frames.source.describe]

theorem memberName (frames : mirror.Frames graph other) {member image : Member}
    (shows : mirror.ShowsMember member image) :
    image.qualifiedName other = member.qualifiedName graph := by
  rw [frames.target.memberName, shows.qualifiedName, frames.source.memberName]

end Frames

/-- Corresponding members of two graphs. -/
structure ShowsMemberAt (mirror : Mirror) (graph other : Graph) (member image : MemberId) :
    Prop where
  present : member < graph.members.size
  imagePresent : image < other.members.size
  shows : mirror.ShowsMember (graph.memberAt member) (other.memberAt image)

/-- Corresponding tables of members: under the same names, in the same order. -/
def ShowsTable (mirror : Mirror) (graph other : Graph) (table image : MemberTable) : Prop :=
  List.Forall₂
    (fun entry shown => shown.1 = entry.1 ∧
      List.Forall₂ (mirror.ShowsMemberAt graph other) entry.2 shown.2)
    table.entries image.entries

/-- Corresponding members that only a class has. -/
structure ShowsPart (mirror : Mirror) (graph other : Graph) (part image : ClassPart) : Prop where
  constructors :
    List.Forall₂ (mirror.ShowsMemberAt graph other) part.constructors image.constructors
  initializers :
    List.Forall₂ (mirror.ShowsMemberAt graph other) part.initializers image.initializers
  staticConstructor : Option.Rel (mirror.ShowsMemberAt graph other) part.staticConstructor
    image.staticConstructor

/-- Corresponding parts that only a declared type itself looks at. -/
structure ShowsBody (mirror : Mirror) (graph other : Graph) (type image : NominalType) : Prop where
  extensionClasses : image.extensionClasses = type.extensionClasses.map mirror.rename
  annotations : image.annotations = type.annotations.map fun use =>
    { use with type := use.type.map mirror.rename }
  docString : image.docString = type.docString
  part : mirror.ShowsPart graph other type.classPart image.classPart

/-- Corresponding types of two graphs. -/
structure ShowsType (mirror : Mirror) (graph other : Graph) (type image : NominalType) : Prop where
  state : image.state = type.state
  parent : image.parent? = type.parent?.map mirror.rename
  interfaces : image.interfaces = type.interfaces.map mirror.rename
  declared : ∀ isStatic, mirror.ShowsTable graph other (type.declared isStatic)
    (image.declared isStatic)

/-- Array types by name.  An array type that only one of the graphs has is over the only type of its
name, so it is the one that the other graph would make. -/
structure AgreesOnArrays (mirror : Mirror) (arrays others : Table String TypeRef) : Prop where
  both : ∀ {name array image}, arrays.get? name = some array → others.get? name = some image →
    mirror.ShowsRef array image
  onlySource : ∀ {name element base}, arrays.get? name = some (.array element base) →
    others.get? name = none → mirror.source.Sole element
  onlyTarget : ∀ {name element base}, others.get? name = some (.array element base) →
    arrays.get? name = none → mirror.target.Sole element

/-- Two graphs whose types correspond to each other, with all that some of the types declare. -/
structure Shows (mirror : Mirror) (farm : Farm) (population : TypeId → Prop)
    (graph other : Graph) : Prop extends mirror.Frames graph other where
  within : ∀ {type}, population type → type < mirror.source.types.size
  closed : ∀ {type supertype}, population type → graph.Extends type supertype →
    population supertype
  types : ∀ {type}, population type →
    mirror.ShowsType graph other (graph.typeAt type) (other.typeAt (mirror.rename type))
  bodies : ∀ {type}, population type → mirror.common ≤ type →
    mirror.ShowsBody graph other (graph.typeAt type) (other.typeAt (mirror.rename type))
  arrays : mirror.exact → mirror.AgreesOnArrays (graph.arenaAt farm.arena).arrays
    (other.arenaAt farm.arena).arrays
  settings : (other.arenaAt farm.arena).settings = (graph.arenaAt farm.arena).settings

/-! ## Changes of corresponding graphs -/

end Mirror

/-- A later graph has all members of an earlier one. -/
structure Graph.RetainsMembers (graph left : Graph) : Prop where
  count : graph.members.size ≤ left.members.size
  entry : ∀ {member}, member < graph.members.size → left.memberAt member = graph.memberAt member

theorem Graph.RetainsMembers.of_eq {graph left : Graph} (same : left.members = graph.members) :
    graph.RetainsMembers left := by
  refine ⟨Nat.le_of_eq (congrArg Array.size same.symm), fun _ => ?_⟩
  simp only [Graph.memberAt, same]

namespace Mirror

section Later

variable {mirror : Mirror} {graph other left last : Graph} (retains : graph.RetainsMembers left)
  (imageRetains : other.RetainsMembers last)

include retains imageRetains

theorem ShowsMemberAt.later {member image : MemberId}
    (shows : mirror.ShowsMemberAt graph other member image) :
    mirror.ShowsMemberAt left last member image := by
  refine ⟨Nat.lt_of_lt_of_le shows.present retains.count,
    Nat.lt_of_lt_of_le shows.imagePresent imageRetains.count, ?_⟩
  rw [retains.entry shows.present, imageRetains.entry shows.imagePresent]
  exact shows.shows

theorem ShowsTable.later {table image : MemberTable}
    (shows : mirror.ShowsTable graph other table image) :
    mirror.ShowsTable left last table image :=
  List.Forall₂.imp (fun _ _ related => ⟨related.1, related.2.imp fun _ _ shows =>
    shows.later retains imageRetains⟩) shows

theorem ShowsPart.later {part image : ClassPart} (shows : mirror.ShowsPart graph other part image) :
    mirror.ShowsPart left last part image where
  constructors := shows.constructors.imp fun _ _ shows => shows.later retains imageRetains
  initializers := shows.initializers.imp fun _ _ shows => shows.later retains imageRetains
  staticConstructor := by
    have kept := shows.staticConstructor
    revert kept
    generalize part.staticConstructor = found, image.staticConstructor = shown
    rintro (related | _)
    · exact .some (related.later retains imageRetains)
    · exact .none

theorem ShowsBody.later {type image : NominalType}
    (shows : mirror.ShowsBody graph other type image) : mirror.ShowsBody left last type image :=
  { shows with part := shows.part.later retains imageRetains }

theorem ShowsType.later {type image : NominalType}
    (shows : mirror.ShowsType graph other type image) : mirror.ShowsType left last type image where
  state := shows.state
  parent := shows.parent
  interfaces := shows.interfaces
  declared isStatic := (shows.declared isStatic).later retains imageRetains

/-- Graphs still correspond to each other after a change if the types that have changed do. -/
theorem Shows.step {farm : Farm} {population : TypeId → Prop}
    (shows : mirror.Shows farm population graph other) (same : graph.SameTypes left)
    (imageSame : other.SameTypes last)
    (closed : ∀ {type supertype}, population type → left.Extends type supertype →
      population supertype)
    (types : ∀ {type}, population type →
      left.typeAt type = graph.typeAt type ∧
          last.typeAt (mirror.rename type) = other.typeAt (mirror.rename type) ∨
        mirror.ShowsType left last (left.typeAt type) (last.typeAt (mirror.rename type)) ∧
          (mirror.common ≤ type →
            mirror.ShowsBody left last (left.typeAt type) (last.typeAt (mirror.rename type))))
    (arrays : mirror.exact → mirror.AgreesOnArrays (left.arenaAt farm.arena).arrays
      (last.arenaAt farm.arena).arrays)
    (settings : (last.arenaAt farm.arena).settings = (left.arenaAt farm.arena).settings) :
    mirror.Shows farm population left last where
  toFrames := shows.toFrames.step same imageSame
  within := shows.within
  closed := closed
  types := by
    intro type inside
    rcases types inside with ⟨kept, imageKept⟩ | ⟨changed, -⟩
    · rw [kept, imageKept]
      exact (shows.types inside).later retains imageRetains
    · exact changed
  bodies := by
    intro type inside young
    rcases types inside with ⟨kept, imageKept⟩ | ⟨-, changed⟩
    · rw [kept, imageKept]
      exact (shows.bodies inside young).later retains imageRetains
    · exact changed young
  arrays := arrays
  settings := settings

theorem Shows.of_typeAt {farm : Farm} {population : TypeId → Prop}
    (shows : mirror.Shows farm population graph other) (types : left.types = graph.types)
    (imageTypes : last.types = other.types)
    (arrays : mirror.exact → mirror.AgreesOnArrays (left.arenaAt farm.arena).arrays
      (last.arenaAt farm.arena).arrays)
    (settings : (last.arenaAt farm.arena).settings = (left.arenaAt farm.arena).settings) :
    mirror.Shows farm population left last := by
  have typeAt : ∀ type, left.typeAt type = graph.typeAt type := by
    intro type
    rw [Graph.typeAt, types, Graph.typeAt]
  have imageTypeAt : ∀ type, last.typeAt type = other.typeAt type := by
    intro type
    rw [Graph.typeAt, imageTypes, Graph.typeAt]
  refine shows.step retains imageRetains ⟨by rw [types], ?_⟩ ⟨by rw [imageTypes], ?_⟩ ?_ ?_ arrays
    settings
  · intro type
    rw [typeAt]
    exact .refl _
  · intro type
    rw [imageTypeAt]
    exact .refl _
  · intro type supertype inside link
    rw [Extends, supertypesOf, typeAt] at link
    exact shows.closed inside link
  · exact fun _ => .inl ⟨typeAt _, imageTypeAt _⟩

end Later

theorem Shows.of_bare {mirror : Mirror} {farm : Farm} {population : TypeId → Prop}
    {graph other left last : Graph} (shows : mirror.Shows farm population graph other)
    (same : left.bare = graph.bare) (imageSame : last.bare = other.bare) :
    mirror.Shows farm population left last := by
  have arenaAt : ∀ arena, left.arenaAt arena = graph.arenaAt arena := by
    intro arena
    rw [Graph.arenaAt, arenas_eq_of_bare same, Graph.arenaAt]
  have imageArenaAt : ∀ arena, last.arenaAt arena = other.arenaAt arena := by
    intro arena
    rw [Graph.arenaAt, arenas_eq_of_bare imageSame, Graph.arenaAt]
  refine shows.of_typeAt (.of_eq (members_eq_of_bare same)) (.of_eq (members_eq_of_bare imageSame))
    (types_eq_of_bare same) (types_eq_of_bare imageSame) ?_ ?_
  · rw [arenaAt, imageArenaAt]
    exact shows.arrays
  · rw [arenaAt, imageArenaAt]
    exact shows.settings

/-! ## Failures -/

/-- Corresponding errors: errors of the same kinds, with the same wording if the mirror is exact. -/
structure ShowsError (mirror : Mirror) (graph other : Graph) (error image : Error) : Prop where
  kinds : image.chain.map (·.kindName?) = error.chain.map (·.kindName?)
  wording : mirror.exact →
    image.message? other = error.message? graph ∧ image.hint? other = error.hint? graph

/-- Corresponding failures. -/
inductive ShowsFailure (mirror : Mirror) (graph other : Graph) : Failure → Failure → Prop
  | rejected {error image : Error} (shows : mirror.ShowsError graph other error image) :
      ShowsFailure mirror graph other (.rejected error) (.rejected image)
  | aborted {error image : Error} (shows : mirror.ShowsError graph other error image) :
      ShowsFailure mirror graph other (.aborted error) (.aborted image)

end Mirror

end Nominal
