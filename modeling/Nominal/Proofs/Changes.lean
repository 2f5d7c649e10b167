import Mathlib.Logic.Relation
import Nominal.Proofs.Hierarchy
import Nominal.Proofs.Updates

/-!
# What an operation can change

Every operation on a graph is a sequence of the changes listed here, next to views that it keeps and
records that it makes.  Each change comes with what has been checked before it is made.

An invariant of all operations is proved for each kind of change; `Graph.KeepsSealed` is what all
changes have in common.
-/

namespace Nominal

/-! ## References -/

/-- Whether all declared types in a reference stand before a place. -/
def TypeRef.isWithin (size : Nat) : TypeRef → Bool
  | primitive _ => true
  | nominal id => id < size
  | array element base => element.isWithin size && base.all (· < size)

/-- The types that a member mentions. -/
def Member.mentioned (member : Member) : List TypeRef :=
  member.declaredType.toList ++ member.parameters.filterMap (·.type)
    ++ ((member.forwardCall.map (·.arguments)).getD []).filterMap id

/-- Whether all types that a member mentions stand before a place. -/
def Member.isWithin (size : Nat) (member : Member) : Bool :=
  member.mentioned.all (·.isWithin size)

namespace Graph

/-! ## Inherited members -/

/-- The members of a name that a class inherits. -/
def inheritedMembers (graph : Graph) (type : TypeId) (isStatic : Bool) (name : String) :
    List MemberId :=
  match (graph.typeAt type).parent? with
  | none => []
  | some parent =>
    ((ClassMemberMap.ofClass graph parent isStatic).loadedByName graph name false).map (·.member)

/-- The reason why a member cannot stand below what its class inherits. -/
def ancestorError? (graph : Graph) (type : TypeId) (member : MemberId) (identifier : String) :
    Option Error :=
  let offered := graph.memberAt member
  if offered.visibility = .hidden ∨ offered.kind.isInheritable = false then none
  else
    (graph.inheritedMembers type offered.isStatic identifier).findSome?
      (graph.inheritanceError? type member)

/-! ## Changes of one type -/

/-- A new description of a type: nothing is changed that other types or members can see, except
that annotations are attached. -/
structure Described (graph : Graph) (old new : NominalType) : Prop where
  identity : old.SameIdentity new
  shape : new.shape = old.shape
  members : ∀ isStatic, new.declared isStatic = old.declared isStatic
  interfaces : new.interfaces = old.interfaces
  state : new.state = old.state ∨ new.state = .parsed
  implementation : new.implementation = old.implementation
  annotations : ∀ use ∈ new.annotations, use ∈ old.annotations ∨
    ∀ id ∈ use.type, id < graph.types.size

/-- A supertype that a type may take. -/
structure Linkable (graph : Graph) (type supertype : TypeId) : Prop where
  present : supertype < graph.types.size
  sameArena : (graph.typeAt supertype).arena = (graph.typeAt type).arena
  apart : ¬ graph.Reaches supertype type

/-- What a change is about: the implementation, the parent or the members of a type, the completion
of types, or anything else. -/
inductive Deed where
  | describe
  | implement (implementation : Option Implementation)
  | link (type : TypeId)
  | declare (type : TypeId)
  | complete

/-- The changes of a type that do not concern its members. -/
inductive TypeChange (graph : Graph) (type : TypeId) :
    Deed → (NominalType → NominalType) → Prop where
  | describe (change : NominalType → NominalType)
      (described : graph.Described (graph.typeAt type) (change (graph.typeAt type))) :
      TypeChange graph type .describe change
  | implement (implementation : Option Implementation) :
      TypeChange graph type (.implement implementation) ({ · with implementation })
  | link (parent : TypeId) (linkable : graph.Linkable type parent)
      (isClass : (graph.typeAt type).isClass = true)
      (parentIsClass : (graph.typeAt parent).isClass = true)
      (accepted : graph.checksAncestors type = true →
        ∀ member ∈ (graph.typeAt type).declaredForCheck,
          (graph.setParentLink type (some parent)).ancestorError? type member
            (graph.memberAt member).identifier = none) :
      TypeChange graph type (.link type) (·.mapClassPart ({ · with parent := some parent }))
  | extend (interface : TypeId) (linkable : graph.Linkable type interface)
      (isInterface : (graph.typeAt interface).isClass = false) :
      TypeChange graph type .describe fun old =>
        { old with interfaces := old.interfaces ++ [interface] }
  | freeze (ready : graph.sealError? type = none) :
      TypeChange graph type .complete ({ · with state := .frozen })

/-- Where a type puts a member that it adopts. -/
inductive Placement (graph : Graph) (type : TypeId) (member : MemberId) (identifier : String) :
    (NominalType → NominalType) → Prop where
  | overload
      (inheritable : (graph.memberAt member).kind.isInheritable = true)
      (consistent : ∀ existing ∈ (graph.typeAt type).declaredByName identifier
        (graph.memberAt member).isStatic, graph.overloadError? type member existing = none)
      (publicly : (graph.typeAt type).isClass = false → (graph.memberAt member).visibility = .pub)
      (accepted : (graph.typeAt type).isClass = true → graph.checksAncestors type = true →
        graph.ancestorError? type member identifier = none) :
      Placement graph type member identifier fun old =>
        old.mapDeclared (graph.memberAt member).isStatic fun table =>
          table.set identifier ((table.get? identifier).getD [] ++ [member])
  | constructor
      (kind : (graph.memberAt member).kind = .constructor)
      (fresh : ∀ existing ∈ (graph.typeAt type).classPart.constructors,
        graph.keyOf existing ≠ graph.keyOf member) :
      Placement graph type member identifier (·.mapClassPart fun part =>
        { part with constructors := part.constructors ++ [member] })
  | initializer
      (kind : (graph.memberAt member).kind = .initializer)
      (fresh : ∀ existing ∈ (graph.typeAt type).classPart.initializers,
        graph.keyOf existing ≠ graph.keyOf member) :
      Placement graph type member identifier (·.mapClassPart fun part =>
        { part with initializers := part.initializers ++ [member] })
  | staticConstructor
      (kind : (graph.memberAt member).kind = .staticConstructor)
      (fresh : (graph.typeAt type).classPart.staticConstructor = none) :
      Placement graph type member identifier
        (·.mapClassPart ({ · with staticConstructor := some member }))

/-- Binds a member to a type. -/
def withOwner (graph : Graph) (type : TypeId) (member : MemberId) (identifier : String) : Graph :=
  graph.modifyMember member ({ · with definingType := some type, identifier })

/-- Binds a member to a type and puts it into its place. -/
def withAdopted (graph : Graph) (type : TypeId) (member : MemberId) (identifier : String)
    (place : NominalType → NominalType) : Graph :=
  (graph.withOwner type member identifier).modifyType type place

/-- Adopting a member changes the adopting type only. -/
theorem typeAt_withAdopted_cases (graph : Graph) (type : TypeId) (member : MemberId)
    (identifier : String) (place : NominalType → NominalType) (other : TypeId) :
    (graph.withAdopted type member identifier place).typeAt other = graph.typeAt other ∨
      other = type ∧ type < graph.types.size ∧
        (graph.withAdopted type member identifier place).typeAt other
          = place (graph.typeAt type) :=
  typeAt_modifyType_cases (graph.withOwner type member identifier) type place other

/-! ## Changes of a graph -/

/-- One change of a graph, with what has been checked before. -/
inductive Change (graph : Graph) : Deed → Graph → Prop where
  | openArena (settings : ArenaSettings) :
      Change graph .describe { graph with arenas := graph.arenas.push { settings } }
  | allocate (arena : ArenaId) (shape : TypeShape) (identifier moduleName : String)
      (visibility : Visibility) (properties : TypeProperties)
      (present : arena < graph.arenas.size)
      (empty : shape = .classShape {} ∨ shape = .interfaceShape) :
      Change graph .describe (graph.withType
        { identifier := Text.canonical identifier, moduleName, visibility, properties, arena,
          index := (graph.arenaAt arena).types.length, shape })
  | intern (arena : ArenaId) (name : String) (array : TypeRef) :
      Change graph .describe { graph with
        arenas := graph.arenas.modify arena fun old =>
          { old with arrays := old.arrays.set name array } }
  | create (member : Member) (within : member.isWithin graph.types.size = true) :
      Change graph .describe (graph.withMember member)
  | start (type : TypeId) :
      Change graph .complete (graph.modifyProgress type ({ · with isPreInitialized := true }))
  | fail (type : TypeId) (failure : Error) :
      Change graph .complete (graph.modifyProgress type ({ · with failure := some failure }))
  | callHook (call : HookCall) :
      Change graph .complete { graph with hookCalls := graph.hookCalls ++ [call] }
  | reform (type : TypeId) (deed : Deed) (change : NominalType → NominalType)
      (present : type < graph.types.size) (isOpen : graph.isSealed type = false)
      (checked : graph.TypeChange type deed change) :
      Change graph deed (graph.modifyType type change)
  | declare (type : TypeId) (member : MemberId) (place : NominalType → NominalType)
      (present : type < graph.types.size) (isOpen : graph.isSealed type = false)
      (adoptable : ∀ owner ∈ (graph.memberAt member).definingType, owner = type)
      (checked : graph.Placement type member (Text.canonical (graph.memberAt member).identifier)
        place) :
      Change graph (.declare type) (graph.withAdopted type member
        (Text.canonical (graph.memberAt member).identifier) place)

/-! ## What changes have in common -/

/-- What a later graph keeps: the identity of every type, everything that a sealed type declares,
and the members that a sealed type has adopted. -/
structure KeepsSealed (graph later : Graph) : Prop where
  grows : graph.types.size ≤ later.types.size
  identity : ∀ type, type < graph.types.size →
    (graph.typeAt type).SameIdentity (later.typeAt type)
  frozen : ∀ type, graph.isSealed type = true → later.typeAt type = graph.typeAt type
  adopted : ∀ member type, (graph.memberAt member).definingType = some type →
    graph.isSealed type = true → later.memberAt member = graph.memberAt member

namespace KeepsSealed

variable {graph later last : Graph}

theorem refl (graph : Graph) : graph.KeepsSealed graph :=
  ⟨Nat.le_refl _, fun _ _ => .refl _, fun _ _ => rfl, fun _ _ _ _ => rfl⟩

theorem isSealed (keeps : graph.KeepsSealed later) {type : TypeId}
    (isFinal : graph.isSealed type = true) : later.isSealed type = true := by
  unfold Graph.isSealed
  rw [keeps.frozen type isFinal]
  exact isFinal

theorem trans (early : graph.KeepsSealed later) (late : later.KeepsSealed last) :
    graph.KeepsSealed last := by
  refine ⟨early.grows.trans late.grows, ?_, ?_, ?_⟩
  · intro type present
    exact (early.identity type present).trans
      (late.identity type (Nat.lt_of_lt_of_le present early.grows))
  · intro type isFinal
    rw [late.frozen type (early.isSealed isFinal), early.frozen type isFinal]
  · intro member type defined isFinal
    have same := early.adopted member type defined isFinal
    rw [late.adopted member type (same ▸ defined) (early.isSealed isFinal), same]

/-- A graph with the same types and members keeps everything. -/
theorem of_eq (sameTypes : later.types = graph.types)
    (sameMembers : later.members = graph.members) : graph.KeepsSealed later := by
  have types : ∀ type, later.typeAt type = graph.typeAt type := fun type => by
    simp only [typeAt, sameTypes]
  refine ⟨by rw [sameTypes], ?_, fun type _ => types type, ?_⟩
  · intro type _
    rw [types type]
    exact .refl _
  · intro member _ _ _
    simp only [memberAt, sameMembers]

end KeepsSealed

section Common

variable {graph later : Graph} {deed : Deed} {type : TypeId}
  {change : NominalType → NominalType}

theorem TypeChange.identity (checked : graph.TypeChange type deed change) :
    (graph.typeAt type).SameIdentity (change (graph.typeAt type)) := by
  cases checked with
  | describe _ described => exact described.identity
  | implement => exact ⟨rfl, rfl, rfl, rfl, rfl, rfl, rfl⟩
  | link => exact NominalType.mapClassPart_identity _ _
  | extend => exact ⟨rfl, rfl, rfl, rfl, rfl, rfl, rfl⟩
  | freeze => exact ⟨rfl, rfl, rfl, rfl, rfl, rfl, rfl⟩

theorem Placement.identity {member : MemberId} {identifier : String}
    (checked : graph.Placement type member identifier change) :
    (graph.typeAt type).SameIdentity (change (graph.typeAt type)) := by
  cases checked with
  | overload => exact NominalType.mapDeclared_identity _ _ _
  | constructor | initializer | staticConstructor => exact NominalType.mapClassPart_identity _ _

/-- Only sealing seals an open type. -/
theorem TypeChange.isSealed (checked : graph.TypeChange type deed change)
    (incomplete : deed ≠ .complete) (isOpen : graph.isSealed type = false) :
    (change (graph.typeAt type)).isSealed = false := by
  cases checked with
  | describe _ described =>
      rcases described.state with kept | parsed
      · rw [NominalType.isSealed, kept]
        exact isOpen
      · rw [NominalType.isSealed, parsed]
        rfl
  | implement | extend => exact isOpen
  | link =>
      rw [NominalType.isSealed, NominalType.mapClassPart_state]
      exact isOpen
  | freeze => exact absurd rfl incomplete

theorem Placement.isSealed {member : MemberId} {identifier : String}
    {place : NominalType → NominalType} (checked : graph.Placement type member identifier place)
    (isOpen : graph.isSealed type = false) : (place (graph.typeAt type)).isSealed = false := by
  cases checked with
  | overload =>
      rw [NominalType.isSealed, NominalType.mapDeclared_state]
      exact isOpen
  | constructor | initializer | staticConstructor =>
      rw [NominalType.isSealed, NominalType.mapClassPart_state]
      exact isOpen

/-- A change of an unsealed type keeps what is sealed. -/
theorem KeepsSealed.modifyType (isOpen : graph.isSealed type = false)
    (identity : (graph.typeAt type).SameIdentity (change (graph.typeAt type))) :
    graph.KeepsSealed (graph.modifyType type change) := by
  refine ⟨by simp, ?_, ?_, fun _ _ _ _ => rfl⟩
  · intro other _
    exact typeAt_modifyType_related .refl identity other
  · intro other isFinal
    apply typeAt_modifyType_of_ne
    rintro rfl
    rw [isFinal] at isOpen
    cases isOpen

/-- Every change keeps what is sealed. -/
theorem Change.keepsSealed (changed : graph.Change deed later) : graph.KeepsSealed later := by
  cases changed with
  | openArena | intern | start | fail | callHook => exact .of_eq rfl rfl
  | allocate arena shape identifier moduleName visibility properties present empty =>
      have same : ∀ {type}, type < graph.types.size → ∀ added,
          (graph.withType added).typeAt type = graph.typeAt type := by
        intro type present added
        exact typeAt_withType_of_ne (Nat.ne_of_lt present)
      refine ⟨by simp, ?_, ?_, fun _ _ _ _ => rfl⟩
      · intro type present
        rw [same present]
        exact .refl _
      · intro type isFinal
        exact same (lt_size_of_isSealed isFinal) _
  | create member within =>
      refine ⟨Nat.le_refl _, fun _ _ => .refl _, fun _ _ => rfl, ?_⟩
      intro known type defined _
      apply memberAt_withMember_of_ne
      rintro rfl
      rw [memberAt_of_size_le (Nat.le_refl _)] at defined
      cases defined
  | reform type deed change present isOpen checked =>
      exact .modifyType isOpen checked.identity
  | declare type member place present isOpen adoptable checked =>
      have placed : (graph.withOwner type member
          (Text.canonical (graph.memberAt member).identifier)).KeepsSealed
          (graph.withAdopted type member (Text.canonical (graph.memberAt member).identifier)
            place) :=
        .modifyType isOpen checked.identity
      refine ⟨placed.grows, placed.identity, placed.frozen, ?_⟩
      intro known owner defined isFinal
      apply memberAt_modifyMember_of_ne
      rintro rfl
      -- An adopted member belongs to the unsealed type itself.
      rw [adoptable owner defined] at isFinal
      rw [isFinal] at isOpen
      cases isOpen

end Common

end Graph

end Nominal
