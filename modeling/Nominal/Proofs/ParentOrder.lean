import Nominal.Proofs.DeclarationOrder
import Nominal.Proofs.DerivationOrder
import Nominal.Proofs.Reordering

/-!
# A parent before the members, or after them

A class checks its members against those that it inherits, either when it adopts a member below a
parent, or when it gets a parent above the members that it has.  Both orders come to the same end:
one of them succeeds if and only if the other one does, and then they leave the same class.

The two checks are made in different graphs.  They agree since what a class inherits depends on the
classes above it alone, and adopting a member does not touch those.
-/

namespace Nominal

open Nominal.Graph

/-- A table lists what it listed before, and the value that was added to one of its lists. -/
theorem Table.perm_flatten_append {Key Value : Type} [DecidableEq Key]
    (table : Table Key (List Value)) (key : Key) (value : Value) :
    (table.set key ((table.get? key).getD [] ++ [value])).values.flatten.Perm
      (value :: table.values.flatten) := by
  obtain ⟨entries⟩ := table
  simp only [set, get?, values]
  induction entries with
  | nil => exact .refl _
  | cons first rest induction =>
      by_cases here : first.1 = key
      · have found : ((first :: rest).find? (·.1 = key)).map (·.2) = some first.2 := by
          simp [here]
        rw [found, Option.getD_some, setEntry, if_pos here]
        simp
      · have skipped : ((first :: rest).find? (·.1 = key)).map (·.2)
            = (rest.find? (·.1 = key)).map (·.2) := by
          simp [here]
        rw [skipped, setEntry, if_neg here]
        simpa using (induction.append_left first.2).trans List.perm_middle

/-- Adds members to a type one after the other, each as the static or instance member that it is. -/
def declareEach (type : TypeId) : List MemberId → Build Unit
  | [] => return ()
  | member :: rest => do
    declareMember type (some member) ((← get).memberAt member).isStatic
    declareEach type rest

/-- Adds members to a class, and then sets its parent. -/
def declareThenLink (type parent : TypeId) (members : List MemberId) : Build Unit := do
  declareEach type members
  setParent type (some parent)

/-- Sets the parent of a class, and then adds members to it. -/
def linkThenDeclare (type parent : TypeId) (members : List MemberId) : Build Unit := do
  setParent type (some parent)
  declareEach type members

namespace Graph

/-- Fields and methods that are new to a type: no other type has them, and each is listed once. -/
structure Fresh (graph : Graph) (type : TypeId) (members : List MemberId) : Prop where
  distinct : members.Nodup
  inheritable : ∀ member ∈ members, (graph.memberAt member).kind.isInheritable = true
  adoptable : ∀ member ∈ members, ∀ owner ∈ (graph.memberAt member).definingType, owner = type

/-- The graph in which a type has adopted several members. -/
def withEachDeclared (graph : Graph) (type : TypeId) : List MemberId → Graph
  | [] => graph
  | member :: rest => (graph.withDeclared type member).withEachDeclared type rest

/-- The first reason why a type cannot adopt several members one after the other. -/
def declareEachError? (graph : Graph) (type : TypeId) : List MemberId → Option Error
  | [] => none
  | member :: rest =>
    (graph.declareError? type member).or
      ((graph.withDeclared type member).declareEachError? type rest)

/-- The reason why a class with members cannot have a parent. -/
def linkError? (graph : Graph) (type parent : TypeId) : Option Error :=
  (graph.parentError? type parent).or
    (if graph.checksAncestors type then
      (graph.typeAt type).declaredForCheck.findSome? fun member =>
        (graph.setParentLink type (some parent)).ancestorError? type member
          (graph.memberAt member).identifier
    else none)

/-- If the class checks its members, they may stand below what they would inherit from a parent. -/
def FitBelow (graph : Graph) (type parent : TypeId) (members : List MemberId) : Prop :=
  graph.checksAncestors type = true → ∀ member ∈ members,
    (graph.setParentLink type (some parent)).ancestorError? type member
      (Text.canonical (graph.memberAt member).identifier) = none

/-- A class can have a parent and members: neither the parent nor the members are refused for
themselves, and the members may stand below the parent. -/
structure Buildable (graph : Graph) (type parent : TypeId) (members : List MemberId) : Prop where
  permitted : graph.parentError? type parent = none
  accepted : graph.declareEachError? type members = none
  fit : graph.FitBelow type parent members

/-! ## Adopting several members -/

section Adopting

variable {graph left : Graph} {type other : TypeId} {member known : MemberId}
  {members : List MemberId}

theorem typeAt_withDeclared_of_ne (different : other ≠ type) :
    (graph.withDeclared type member).typeAt other = graph.typeAt other :=
  typeAt_modifyType_of_ne different _

theorem memberAt_withDeclared_of_ne (different : known ≠ member) :
    (graph.withDeclared type member).memberAt known = graph.memberAt known :=
  memberAt_modifyMember_of_ne different _

theorem memberAt_withDeclared_self
    (inheritable : (graph.memberAt member).kind.isInheritable = true) :
    (graph.withDeclared type member).memberAt member = { graph.memberAt member with
      definingType := some type
      identifier := Text.canonical (graph.memberAt member).identifier } :=
  memberAt_modifyMember_self (lt_size_of_isInheritable inheritable) _

/-- A class that lists a further member has one more to check. -/
theorem perm_declaredForCheck_withListed (type : NominalType) (isStatic : Bool)
    (identifier : String) (member : MemberId) :
    (type.withListed isStatic identifier member).declaredForCheck.Perm
      (member :: type.declaredForCheck) := by
  cases isStatic with
  | false =>
      exact (Table.perm_flatten_append type.instanceMembers identifier member).append_right
        type.staticMembers.values.flatten
  | true =>
      exact ((Table.perm_flatten_append type.staticMembers identifier member).append_left
        type.instanceMembers.values.flatten).trans List.perm_middle

theorem Fresh.tail (fresh : graph.Fresh type (member :: members)) :
    (graph.withDeclared type member).Fresh type members := by
  have apart : ∀ known ∈ members, known ≠ member := by
    rintro _ listed rfl
    exact (List.nodup_cons.mp fresh.distinct).1 listed
  refine ⟨(List.nodup_cons.mp fresh.distinct).2, ?_, ?_⟩
  · intro known listed
    rw [memberAt_withDeclared_of_ne (apart known listed)]
    exact fresh.inheritable known (List.mem_cons_of_mem _ listed)
  · intro known listed
    rw [memberAt_withDeclared_of_ne (apart known listed)]
    exact fresh.adoptable known (List.mem_cons_of_mem _ listed)

theorem Fresh.of_members (fresh : graph.Fresh type members)
    (same : ∀ member, left.memberAt member = graph.memberAt member) : left.Fresh type members := by
  refine ⟨fresh.distinct, ?_, ?_⟩
  · simpa only [same] using fresh.inheritable
  · simpa only [same] using fresh.adoptable

theorem Fresh.of_append {before after : List MemberId}
    (fresh : graph.Fresh type (before ++ after)) : graph.Fresh type before :=
  ⟨(List.nodup_append.mp fresh.distinct).1,
    fun member listed => fresh.inheritable member (List.mem_append_left _ listed),
    fun member listed => fresh.adoptable member (List.mem_append_left _ listed)⟩

theorem typeAt_withEachDeclared_of_ne (different : other ≠ type) (members : List MemberId) :
    (graph.withEachDeclared type members).typeAt other = graph.typeAt other := by
  induction members generalizing graph with
  | nil => rfl
  | cons member rest induction => exact induction.trans (typeAt_withDeclared_of_ne different)

theorem memberAt_withEachDeclared_of_notMem (unlisted : known ∉ members) :
    (graph.withEachDeclared type members).memberAt known = graph.memberAt known := by
  induction members generalizing graph with
  | nil => rfl
  | cons member rest induction =>
      rw [List.mem_cons, not_or] at unlisted
      exact (induction unlisted.2).trans (memberAt_withDeclared_of_ne unlisted.1)

theorem memberAt_withEachDeclared_of_mem (fresh : graph.Fresh type members)
    (listed : known ∈ members) :
    (graph.withEachDeclared type members).memberAt known = { graph.memberAt known with
      definingType := some type
      identifier := Text.canonical (graph.memberAt known).identifier } := by
  induction members generalizing graph with
  | nil => cases listed
  | cons member rest induction =>
      have once := (List.nodup_cons.mp fresh.distinct).1
      rcases List.mem_cons.mp listed with rfl | later
      · exact (memberAt_withEachDeclared_of_notMem once).trans
          (memberAt_withDeclared_self (fresh.inheritable _ List.mem_cons_self))
      · have apart : known ≠ member := fun same => once (same ▸ later)
        rw [withEachDeclared, induction fresh.tail later, memberAt_withDeclared_of_ne apart]

/-- Adopting a member changes no links and no state. -/
theorem links_withDeclared (inheritable : (graph.memberAt member).kind.isInheritable = true)
    (other : TypeId) :
    SameLinks (graph.typeAt other) ((graph.withDeclared type member).typeAt other) ∧
      ((graph.withDeclared type member).typeAt other).state = (graph.typeAt other).state := by
  rcases typeAt_withAdopted_cases graph type member
    (Text.canonical (graph.memberAt member).identifier) (graph.placed member) other
    with same | ⟨rfl, -, changed⟩
  · rw [withDeclared, same]
    exact ⟨.refl _, rfl⟩
  · rw [withDeclared, changed, placed_of_isInheritable inheritable]
    exact ⟨⟨NominalType.mapDeclared_identity _ _ _, NominalType.mapDeclared_parent? _ _ _,
      NominalType.mapDeclared_interfaces _ _ _, NominalType.mapDeclared_implementation _ _ _⟩,
      NominalType.mapDeclared_state _ _ _⟩

theorem links_withEachDeclared (fresh : graph.Fresh type members) (other : TypeId) :
    SameLinks (graph.typeAt other) ((graph.withEachDeclared type members).typeAt other) ∧
      ((graph.withEachDeclared type members).typeAt other).state = (graph.typeAt other).state := by
  induction members generalizing graph with
  | nil => exact ⟨.refl _, rfl⟩
  | cons member rest induction =>
      obtain ⟨here, sameState⟩ :=
        links_withDeclared (fresh.inheritable member List.mem_cons_self) other
      obtain ⟨links, state⟩ := induction fresh.tail
      exact ⟨here.trans links, state.trans sameState⟩

theorem size_withEachDeclared (graph : Graph) (type : TypeId) (members : List MemberId) :
    (graph.withEachDeclared type members).types.size = graph.types.size := by
  induction members generalizing graph with
  | nil => rfl
  | cons member rest induction =>
      exact (induction _).trans (size_modifyType (graph.placed member))

theorem progress_withEachDeclared (graph : Graph) (type : TypeId) (members : List MemberId) :
    (graph.withEachDeclared type members).progress = graph.progress := by
  induction members generalizing graph with
  | nil => rfl
  | cons member rest induction => exact induction _

theorem arenas_withEachDeclared (graph : Graph) (type : TypeId) (members : List MemberId) :
    (graph.withEachDeclared type members).arenas = graph.arenas := by
  induction members generalizing graph with
  | nil => rfl
  | cons member rest induction => exact induction _

theorem checksAncestors_withEachDeclared (fresh : graph.Fresh type members) :
    (graph.withEachDeclared type members).checksAncestors type = graph.checksAncestors type := by
  unfold checksAncestors settingsOf progressAt arenaAt
  rw [(links_withEachDeclared fresh type).1.identity.arena, progress_withEachDeclared,
    arenas_withEachDeclared]

/-- A type declares what it has adopted. -/
theorem perm_declaredForCheck_withEachDeclared (present : type < graph.types.size)
    (fresh : graph.Fresh type members) :
    ((graph.withEachDeclared type members).typeAt type).declaredForCheck.Perm
      (members ++ (graph.typeAt type).declaredForCheck) := by
  induction members generalizing graph with
  | nil => exact .refl _
  | cons member rest induction =>
      have listed := placed_of_isInheritable (fresh.inheritable member List.mem_cons_self)
      have declared : (graph.withDeclared type member).typeAt type
          = (graph.typeAt type).withListed (graph.memberAt member).isStatic
              (Text.canonical (graph.memberAt member).identifier) member := by
        rw [withDeclared, listed]
        exact typeAt_modifyType_self present _
      have later := @induction (graph.withDeclared type member)
        (Nat.lt_of_lt_of_eq present (size_modifyType (graph.placed member)).symm) fresh.tail
      rw [declared] at later
      refine later.trans (((perm_declaredForCheck_withListed _ _ _ _).append_left rest).trans ?_)
      exact List.perm_middle

theorem overloadError?_congr (same : graph.SameTypes left)
    (members : ∀ member, left.memberAt member = graph.memberAt member) (type : TypeId) :
    left.overloadError? type = graph.overloadError? type := by
  funext member existing
  simp only [overloadError?, members, same.key]

/-- What a class inherits is part of the bare graph. -/
theorem inheritedMembers_of_bare (same : left.bare = graph.bare) :
    left.inheritedMembers = graph.inheritedMembers := by
  funext type isStatic name
  have chain : ∀ start, left.parentChain start = graph.parentChain start := by
    intro start
    rw [parentChain, parentChain, types_eq_of_bare same]
    exact parentChainFrom_congr (fun _ _ (_ : True) _ => trivial)
      (fun other _ => by rw [typeAt_eq_of_bare same]) _ trivial
  have maps : ∀ start, ClassMemberMap.ofClass left start isStatic
      = ClassMemberMap.ofClass graph start isStatic := by
    intro start
    simp only [ClassMemberMap.ofClass, chain, typeAt_eq_of_bare same]
  have alike : ∀ start, (ClassMemberMap.ofClass graph start isStatic).SameMembers graph left := by
    intro start _ _ _ _ member _
    refine ⟨memberAt_eq_of_bare same member, ?_⟩
    rw [keyOf, keyOf, memberAt_eq_of_bare same, (SameTypes.of_bare same).key]
  unfold Graph.inheritedMembers
  rw [typeAt_eq_of_bare same]
  cases (graph.typeAt type).parent? with
  | none => rfl
  | some parent =>
      dsimp only
      rw [maps]
      exact congrArg (List.map (·.member))
        (ClassMemberMap.loadedAtRank_congr (alike parent) 0 name false)

theorem ancestorError?_of_bare (same : left.bare = graph.bare) :
    left.ancestorError? type = graph.ancestorError? type := by
  funext member identifier
  have refusals : left.inheritanceError? type member = graph.inheritanceError? type member := by
    funext ancestor
    simp only [inheritanceError?, memberAt_eq_of_bare same]
  simp only [ancestorError?, inheritedMembers_of_bare same, memberAt_eq_of_bare same, refusals]

theorem checksAncestors_of_bare (same : left.bare = graph.bare) :
    left.checksAncestors type = graph.checksAncestors type :=
  eq_of_bare_eq (·.checksAncestors type) same fun _ => rfl

theorem declareError?_of_bare (same : left.bare = graph.bare) :
    left.declareError? type member = graph.declareError? type member := by
  have types := SameTypes.of_bare same
  have overloads := overloadError?_congr types (memberAt_eq_of_bare same) type
  have duplicates : ∀ existing, left.duplicateError? type existing member
      = graph.duplicateError? type existing member := by
    intro existing
    have keys : left.keyOf = graph.keyOf := by
      funext known
      rw [keyOf, keyOf, memberAt_eq_of_bare same, types.key]
    rw [duplicateError?, duplicateError?, keys]
  have inheritable : left.inheritableError? type member = graph.inheritableError? type member := by
    simp only [inheritableError?, memberAt_eq_of_bare same, typeAt_eq_of_bare same, overloads,
      ancestorError?_of_bare same, checksAncestors_of_bare same]
  simp only [declareError?, classMemberError?, interfaceMemberError?, inheritable, duplicates,
    memberAt_eq_of_bare same, typeAt_eq_of_bare same, overloads]

theorem withDeclared_of_bare (same : left.bare = graph.bare) :
    (left.withDeclared type member).bare = (graph.withDeclared type member).bare :=
  congrArg (fun bare : Graph => bare.withDeclared type member) same

theorem withEachDeclared_of_bare (same : left.bare = graph.bare) :
    (left.withEachDeclared type members).bare = (graph.withEachDeclared type members).bare := by
  induction members generalizing graph left with
  | nil => exact same
  | cons member rest induction => exact induction (withDeclared_of_bare same)

theorem declareEachError?_of_bare (same : left.bare = graph.bare) :
    left.declareEachError? type members = graph.declareEachError? type members := by
  induction members generalizing graph left with
  | nil => rfl
  | cons member rest induction =>
      rw [declareEachError?, declareEachError?, induction (withDeclared_of_bare same),
        declareError?_of_bare same]

theorem declareEachError?_eq_none_iff :
    graph.declareEachError? type members = none ↔
      ∀ before member after, members = before ++ member :: after →
        (graph.withEachDeclared type before).declareError? type member = none := by
  induction members generalizing graph with
  | nil => simp [declareEachError?]
  | cons first rest induction =>
      rw [declareEachError?, Option.or_eq_none_iff, induction]
      constructor
      · rintro ⟨accepted, others⟩ before member after equal
        cases before with
        | nil =>
            cases equal
            exact accepted
        | cons _ before =>
            cases equal
            exact others before member after rfl
      · intro each
        refine ⟨each [] first rest rfl, ?_⟩
        rintro before member after rfl
        exact each (first :: before) member after rfl

end Adopting

/-! ## Adopting below a parent -/

section Below

variable {graph : Graph} {type parent : TypeId} {member : MemberId} {members : List MemberId}

theorem placed_mapClassPart (graph : Graph) (member : MemberId) (old : NominalType)
    (parent : Option TypeId) :
    graph.placed member (old.mapClassPart ({ · with parent }))
      = (graph.placed member old).mapClassPart ({ · with parent }) := by
  unfold placed NominalType.withListed NominalType.mapDeclared NominalType.mapClassPart
  cases (graph.memberAt member).kind <;> cases (graph.memberAt member).isStatic <;>
    cases shape : old.shape <;> simp [shape]

theorem withDeclared_setParentLink (graph : Graph) (type : TypeId) (parent : Option TypeId)
    (member : MemberId) :
    (graph.setParentLink type parent).withDeclared type member
      = (graph.withDeclared type member).setParentLink type parent := by
  have moved : (graph.setParentLink type parent).withDeclared type member
      = ((graph.withOwner type member
          (Text.canonical (graph.memberAt member).identifier)).modifyType type
            (·.mapClassPart ({ · with parent }))).modifyType type (graph.placed member) := rfl
  rw [moved, withDeclared, withAdopted, setParentLink, modifyType_modifyType,
    modifyType_modifyType]
  simp only [placed_mapClassPart]

theorem withEachDeclared_setParentLink (graph : Graph) (type : TypeId) (parent : Option TypeId)
    (members : List MemberId) :
    (graph.setParentLink type parent).withEachDeclared type members
      = (graph.withEachDeclared type members).setParentLink type parent := by
  induction members generalizing graph with
  | nil => rfl
  | cons member rest induction =>
      rw [withEachDeclared, withEachDeclared, withDeclared_setParentLink, induction]

theorem declareError?_of_isInheritable (isClass : (graph.typeAt type).isClass = true)
    (inheritable : (graph.memberAt member).kind.isInheritable = true) :
    graph.declareError? type member = graph.inheritableError? type member := by
  rw [declareError?, if_pos isClass, classMemberError?]
  cases kind : (graph.memberAt member).kind with
  | field | method => rfl
  | unknown | constructor | initializer | staticConstructor =>
      rw [kind] at inheritable
      cases inheritable

theorem checksAncestors_setParentLink (graph : Graph) (type : TypeId) (parent : Option TypeId) :
    (graph.setParentLink type parent).checksAncestors type = graph.checksAncestors type := by
  have arena : ((graph.setParentLink type parent).typeAt type).arena
      = (graph.typeAt type).arena :=
    typeAt_modifyType_kept NominalType.arena (NominalType.mapClassPart_identity _ _).arena type
  unfold checksAncestors settingsOf
  rw [arena]
  rfl

/-- Below a parent a class refuses what it would refuse anyway, and what conflicts with what it
inherits. -/
theorem declareError?_setParentLink_eq_none_iff (isClass : (graph.typeAt type).isClass = true)
    (parentless : (graph.typeAt type).parent? = none)
    (inheritable : (graph.memberAt member).kind.isInheritable = true) :
    (graph.setParentLink type (some parent)).declareError? type member = none ↔
      graph.declareError? type member = none ∧ graph.FitBelow type parent [member] := by
  have here : (graph.setParentLink type (some parent)).typeAt type
      = (graph.typeAt type).mapClassPart ({ · with parent := some parent }) :=
    typeAt_modifyType_self (lt_size_of_isClass isClass) _
  have types : graph.SameTypes (graph.setParentLink type (some parent)) :=
    Mirror.sameTypes_modifyType fun old => NominalType.mapClassPart_identity old _
  have overloads := overloadError?_congr types (fun _ => rfl) type
  have unlinked : ∀ identifier, graph.ancestorError? type member identifier = none := by
    intro identifier
    simp [ancestorError?, inheritedMembers, parentless]
  have declared : ((graph.setParentLink type (some parent)).typeAt type).isClass = true :=
    (types.identity type).isClass.trans isClass
  rw [declareError?_of_isInheritable declared inheritable,
    declareError?_of_isInheritable isClass inheritable, inheritableError?, inheritableError?,
    overloads, checksAncestors_setParentLink, here, FitBelow]
  simp only [NominalType.declaredByName, NominalType.mapClassPart_declared, unlinked, ite_self,
    Option.or_none, Option.or_eq_none_iff, ite_eq_right_iff, List.forall_mem_singleton]
  rfl

/-- Adopting members keeps every class that does not stand below the one that adopts them. -/
theorem keepsClasses_withEachDeclared (wellFormed : graph.WellFormed)
    (fresh : graph.Fresh type members) :
    graph.KeepsClasses (graph.withEachDeclared type members) fun other =>
      other < graph.types.size ∧ type ∉ graph.parentChain other := by
  have same : ∀ {other}, other < graph.types.size ∧ type ∉ graph.parentChain other →
      (graph.withEachDeclared type members).typeAt other = graph.typeAt other := by
    rintro other ⟨present, apart⟩
    refine typeAt_withEachDeclared_of_ne ?_ members
    rintro rfl
    exact apart (self_mem_parentChain present)
  refine ⟨Nat.le_of_eq (size_withEachDeclared _ _ _).symm, And.left, ?_, ?_, ?_, ?_⟩
  · rintro other parent ⟨present, apart⟩ link
    exact ⟨(wellFormed.hierarchical.linked (extends_of_parent? link)).1, fun listed =>
      apart (wellFormed.mem_parentChain_of_parent present link listed)⟩
  · exact fun inside => congrArg NominalType.parent? (same inside)
  · exact fun inside isStatic => congrArg (·.declared isStatic) (same inside)
  · rintro other isStatic name member ⟨present, apart⟩ owns
    refine wellFormed.sameMember (fun known _ => (links_withEachDeclared fresh known).1.identity)
      (memberAt_withEachDeclared_of_notMem fun listed => ?_)
    -- A member of another class is not new.
    obtain rfl := fresh.adoptable member listed other owns.owner
    exact apart (self_mem_parentChain present)

/-- Whether a member may stand below a parent does not depend on the members that have been adopted
before. -/
theorem ancestorError?_withEachDeclared
    (linked : (graph.setParentLink type (some parent)).WellFormed)
    (fresh : graph.Fresh type members) {owner : Option TypeId} {name : String}
    (same : (graph.withEachDeclared type members).memberAt member
      = { graph.memberAt member with definingType := owner, identifier := name })
    (identifier : String) :
    ((graph.withEachDeclared type members).setParentLink type (some parent)).ancestorError? type
        member identifier = none ↔
      (graph.setParentLink type (some parent)).ancestorError? type member identifier = none := by
  have freshBelow : (graph.setParentLink type (some parent)).Fresh type members :=
    fresh.of_members fun _ => rfl
  have bound : ((graph.setParentLink type (some parent)).withEachDeclared type members).memberAt
      member = { (graph.setParentLink type (some parent)).memberAt member with
        definingType := owner, identifier := name } := by
    rw [withEachDeclared_setParentLink]
    exact same
  rw [← withEachDeclared_setParentLink]
  refine (keepsClasses_withEachDeclared linked freshBelow).ancestorError? linked
    (links_withEachDeclared freshBelow type).1.parent ?_ bound identifier
  intro above link
  refine ⟨(linked.hierarchical.linked (extends_of_parent? link)).1, fun back => ?_⟩
  exact linked.hierarchical.acyclic type
    (.head' (extends_of_parent? link) (reaches_of_mem_parentChainFrom back))

/-- Members are adopted below a parent if they are adopted without one and may stand below it. -/
theorem declareEachError?_setParentLink_eq_none_iff
    (linked : (graph.setParentLink type (some parent)).WellFormed)
    (isClass : (graph.typeAt type).isClass = true)
    (parentless : (graph.typeAt type).parent? = none) (fresh : graph.Fresh type members) :
    (graph.setParentLink type (some parent)).declareEachError? type members = none ↔
      graph.declareEachError? type members = none ∧ graph.FitBelow type parent members := by
  -- A member is checked in the graph that has those before it, and these hide no method above.
  have each : ∀ before member after, members = before ++ member :: after →
      (((graph.setParentLink type (some parent)).withEachDeclared type before).declareError? type
          member = none ↔
        (graph.withEachDeclared type before).declareError? type member = none ∧
          graph.FitBelow type parent [member]) := by
    rintro before member after rfl
    have earlier := fresh.of_append
    have links := (links_withEachDeclared earlier type).1
    have unlisted : member ∉ before := fun listed =>
      (List.nodup_append.mp fresh.distinct).2.2 member listed member List.mem_cons_self rfl
    have same : (graph.withEachDeclared type before).memberAt member = graph.memberAt member :=
      memberAt_withEachDeclared_of_notMem unlisted
    have inheritable : (graph.memberAt member).kind.isInheritable = true :=
      fresh.inheritable member (List.mem_append_right _ List.mem_cons_self)
    rw [withEachDeclared_setParentLink, declareError?_setParentLink_eq_none_iff
      (links.identity.isClass.trans isClass) (links.parent.trans parentless) (same ▸ inheritable)]
    simp only [FitBelow, List.forall_mem_singleton, same, checksAncestors_withEachDeclared earlier,
      ancestorError?_withEachDeclared linked earlier same]
  rw [declareEachError?_eq_none_iff, declareEachError?_eq_none_iff]
  constructor
  · intro accepted
    refine ⟨fun before member after split => ((each _ _ _ split).mp
      (accepted before member after split)).1, fun checks member listed => ?_⟩
    obtain ⟨before, after, split⟩ := List.append_of_mem listed
    exact ((each _ _ _ split).mp (accepted before member after split)).2 checks member
      List.mem_cons_self
  · rintro ⟨accepted, fit⟩ before member after split
    refine (each _ _ _ split).mpr ⟨accepted before member after split, fun checks => ?_⟩
    rw [List.forall_mem_singleton]
    exact fit checks member (split ▸ List.mem_append_right _ List.mem_cons_self)

/-- Links and names decide whether a class may have a parent. -/
theorem parentError?_congr {left : Graph} (hierarchical : graph.Hierarchical)
    (later : left.Hierarchical) (size : left.types.size = graph.types.size)
    (links : ∀ other, SameLinks (graph.typeAt other) (left.typeAt other))
    (present : parent < graph.types.size) :
    left.parentError? type parent = graph.parentError? type parent := by
  have supertypes : left.supertypesOf = graph.supertypesOf := by
    funext other
    exact supertypes_eq_of_parts (links other).parent (links other).interfaces
  have reached : left.reaches parent type = graph.reaches parent type := by
    rw [Bool.eq_iff_iff, hierarchical.reaches_iff present, later.reaches_iff (size ▸ present),
      reaches_congr supertypes]
  have admitted : left.admitsType parent { referencing := some type }
      = graph.admitsType parent { referencing := some type } := by
    simp only [admitsType, AccessSite.moduleOf, (links parent).identity.visibility,
      (links parent).identity.moduleName, (links type).identity.moduleName]
  simp only [parentError?, reached, typeVisibilityError?, admitted, AccessSite.moduleOf,
    (links parent).identity.properties, (links type).identity.moduleName]

/-- A class with the members that it has adopted gets the parent that it would get without them, if
they may stand below it. -/
theorem linkError?_eq_none_iff {left : Graph} (hierarchical : graph.Hierarchical)
    (later : left.Hierarchical)
    (linked : graph.parentError? type parent = none →
      (graph.setParentLink type (some parent)).WellFormed)
    (present : type < graph.types.size) (parentPresent : parent < graph.types.size)
    (memberless : (graph.typeAt type).declaredForCheck = []) (fresh : graph.Fresh type members)
    (same : left.bare = (graph.withEachDeclared type members).bare) :
    left.linkError? type parent = none ↔
      graph.parentError? type parent = none ∧ graph.FitBelow type parent members := by
  have declared := perm_declaredForCheck_withEachDeclared present fresh
  rw [memberless, List.append_nil] at declared
  have below : (left.setParentLink type (some parent)).bare
      = ((graph.withEachDeclared type members).setParentLink type (some parent)).bare :=
    congrArg (fun bare : Graph => bare.setParentLink type (some parent)) same
  have permitted : left.parentError? type parent = graph.parentError? type parent := by
    refine parentError?_congr hierarchical later ?_ (fun other => ?_) parentPresent
    · rw [types_eq_of_bare same, size_withEachDeclared]
    · rw [typeAt_eq_of_bare same]
      exact (links_withEachDeclared fresh other).1
  rw [linkError?, Option.or_eq_none_iff, ite_eq_right_iff, permitted, checksAncestors_of_bare same,
    checksAncestors_withEachDeclared fresh, List.findSome?_eq_none_iff, FitBelow,
    typeAt_eq_of_bare same, ancestorError?_of_bare below]
  refine and_congr_right fun allowed => forall_congr' fun _ => ?_
  simp only [declared.mem_iff, memberAt_eq_of_bare same]
  refine forall₂_congr fun member listed => ?_
  have bound := memberAt_withEachDeclared_of_mem fresh listed
  rw [ancestorError?_withEachDeclared (linked allowed) fresh bound, bound]

theorem linkError?_of_memberless (memberless : (graph.typeAt type).declaredForCheck = []) :
    graph.linkError? type parent = graph.parentError? type parent := by
  rw [linkError?, memberless, List.findSome?_nil, ite_self, Option.or_none]

end Below

end Graph

/-! ## Both orders -/

theorem Build.Ends.ok_iff {build : Build Unit} {graph changed : Graph} {found : Option Error}
    (ends : build.Ends graph found () changed) :
    (build.exec graph).1 = .ok () ↔ found = none := by
  rw [ends.outcome]
  cases found <;> simp

theorem verdict_eq_ok_iff {found : Option Error} : verdict found = .ok () ↔ found = none := by
  cases found <;> simp [verdict]

section Orders

variable {graph : Graph} {type parent : TypeId} {members : List MemberId}

/-- A build succeeds exactly on a condition, and leaves a changed graph if it does. -/
structure Build.Succeeds (build : Build Unit) (graph : Graph) (condition : Prop) (changed : Graph) :
    Prop where
  ok_iff : (build.exec graph).1 = .ok () ↔ condition
  left : (build.exec graph).1 = .ok () → (build.exec graph).2.bare = changed.bare

/-- A parent that passed all checks of its own is linked, or the former one is restored. -/
theorem relink_ends (sound : graph.Sound) (isOpen : graph.isSealed type = false)
    (linkable : graph.Linkable type parent) (isClass : (graph.typeAt type).isClass = true)
    (parentIsClass : (graph.typeAt parent).isClass = true) :
    (relink graph type parent).Ends graph
      (if graph.checksAncestors type then
        (graph.typeAt type).declaredForCheck.findSome? fun member =>
          (graph.setParentLink type (some parent)).ancestorError? type member
            (graph.memberAt member).identifier
      else none) () (graph.setParentLink type (some parent)) := by
  have linked := sound.setParentLink isOpen linkable isClass parentIsClass
  unfold relink
  by_cases checks : graph.checksAncestors type = true
  · rw [if_pos checks, if_pos checks]
    obtain ⟨left, read, checked⟩ := @exec_checkDeclaredMembers _ type linked
      (graph.typeAt type).declaredForCheck
    have found : ∀ member, (graph.setParentLink type (some parent)).memberAt member
        = graph.memberAt member := fun _ => rfl
    simp only [found] at checked
    constructor
    all_goals
      rw [Build.exec_modify_bind, Build.exec_tryCatch, checked]
      cases (graph.typeAt type).declaredForCheck.findSome? fun member =>
        (graph.setParentLink type (some parent)).ancestorError? type member
          (graph.memberAt member).identifier
    · rfl
    · rfl
    · exact read.bare
    · exact bare_restore read.bare
  · rw [if_neg checks, if_neg checks]
    exact .of_exec rfl

/-- A class gets a parent, unless something speaks against it. -/
theorem setParent_ends_linkError (sound : graph.Sound) (isOpen : graph.isSealed type = false)
    (sameArena : (graph.typeAt parent).arena = (graph.typeAt type).arena)
    (isClass : (graph.typeAt type).isClass = true)
    (parentIsClass : (graph.typeAt parent).isClass = true) :
    (setParent type (some parent)).Ends graph (graph.linkError? type parent) ()
      (graph.setParentLink type (some parent)) := by
  have present := lt_size_of_isClass parentIsClass
  unfold linkError? parentError?
  by_cases cyclic : graph.reaches parent type = true
  · rw [if_pos cyclic]
    constructor <;> rw [exec_setParent parent isOpen sameArena, if_pos cyclic] <;> rfl
  · rw [if_neg cyclic]
    by_cases isFinal : (graph.typeAt parent).properties.has .final = true
    · rw [if_pos isFinal]
      constructor <;>
        rw [exec_setParent parent isOpen sameArena, if_neg cyclic, if_pos isFinal] <;> rfl
    · rw [if_neg isFinal]
      have linkable : graph.Linkable type parent := by
        refine ⟨present, sameArena, ?_⟩
        rwa [sound.wellFormed.hierarchical.reaches_iff present] at cyclic
      have ends := relink_ends sound isOpen linkable isClass parentIsClass
      constructor <;>
        rw [exec_setParent parent isOpen sameArena, if_neg cyclic, if_neg isFinal]
      all_goals
        cases graph.typeVisibilityError? { referencing := some type } (.nominal parent)
      · exact ends.outcome
      · rfl
      · exact ends.left
      · rfl

/-- A sealed class gets no parent, and no class gets one from another arena. -/
theorem setParent_misused (refused : graph.isSealed type = true ∨
      (graph.typeAt parent).arena ≠ (graph.typeAt type).arena) :
    ∃ failure, (setParent type (some parent)).exec graph = (.error failure, graph) := by
  unfold setParent
  rw [exec_requireUnsealed_bind]
  split
  next => exact ⟨_, rfl⟩
  next isOpen =>
    rw [Build.exec_get_bind]
    dsimp only
    rw [exec_requireSameArena_bind, if_neg (refused.resolve_left isOpen)]
    exact ⟨_, rfl⟩

/-- Each member is adopted in one step. -/
theorem declareEach_steps (sound : graph.Sound) (present : type < graph.types.size)
    (members : List MemberId) :
    Steps (· = .declare type) graph ((declareEach type members).exec graph).2 := by
  induction members generalizing graph with
  | nil => exact .refl
  | cons member rest induction =>
      rw [declareEach, Build.exec_get_bind]
      have step := declareMember_step sound present (some member) (graph.memberAt member).isStatic
      rcases Build.exec_bind_cases (declareMember type (some member)
        (graph.memberAt member).isStatic) (fun _ => declareEach type rest) graph
        with ⟨failure, left, first, all⟩ | ⟨_, left, first, all⟩
      · rw [first] at step
        rw [all]
        exact .single step
      · rw [first] at step
        rw [all]
        exact .head step (induction step.sound
          (Nat.lt_of_lt_of_le present (Steps.keepsSealed (.single step)).grows))

/-- Adding members ends with the first reason why one of them cannot be adopted; if there is none,
the type has adopted all of them. -/
theorem declareEach_exec (sound : graph.Sound) (isOpen : graph.isSealed type = false)
    (present : type < graph.types.size) (fresh : graph.Fresh type members) :
    ∃ left, (declareEach type members).exec graph
        = (verdict (graph.declareEachError? type members), left) ∧
      (graph.declareEachError? type members = none →
        left.bare = (graph.withEachDeclared type members).bare) := by
  induction members generalizing graph with
  | nil => exact ⟨graph, rfl, fun _ => rfl⟩
  | cons member rest induction =>
      have ends := declareMember_ends sound isOpen (fresh.adoptable member List.mem_cons_self)
      have step := declareMember_step sound present (some member) (graph.memberAt member).isStatic
      rcases run : (declareMember type (some member) (graph.memberAt member).isStatic).exec graph
        with ⟨ended, left⟩
      rw [run] at step
      have outcome := ends.outcome
      have same := ends.left
      rw [run] at outcome same
      -- The step may have filled views of `left`, so what follows is compared on bare graphs.
      rw [declareEach, Build.exec_get_bind, declareEachError?]
      cases found : graph.declareError? type member with
      | some error =>
          rw [found] at outcome
          obtain rfl : ended = .error (.rejected error) := outcome
          exact ⟨left, Build.exec_bind_of_error run, nofun⟩
      | none =>
          rw [found] at outcome same
          obtain rfl : ended = .ok () := outcome
          have one : graph.Fresh type [member] :=
            Fresh.of_append (show graph.Fresh type ([member] ++ rest) from fresh)
          have stillOpen : left.isSealed type = false := by
            rw [isSealed_eq_of_bare same, ← isOpen]
            exact congrArg (· == .frozen) (links_withEachDeclared one type).2
          have larger : type < left.types.size := by
            rw [types_eq_of_bare same]
            exact present.trans_eq (size_withEachDeclared graph type [member]).symm
          obtain ⟨last, runRest, complete⟩ := induction step.sound stillOpen larger
            (fresh.tail.of_members (memberAt_eq_of_bare same))
          rw [declareEachError?_of_bare same] at runRest complete
          refine ⟨last, (Build.exec_bind_of_ok run).trans runRest, fun accepted => ?_⟩
          exact (complete accepted).trans (withEachDeclared_of_bare same)

section Succeeding

variable (sound : graph.Sound) (isOpen : graph.isSealed type = false)
  (sameArena : (graph.typeAt parent).arena = (graph.typeAt type).arena)
  (isClass : (graph.typeAt type).isClass = true)
  (parentIsClass : (graph.typeAt parent).isClass = true)

include sound isOpen sameArena isClass parentIsClass

/-- A parent that is not refused for itself can be linked. -/
theorem sound_setParentLink_of_permitted (permitted : graph.parentError? type parent = none) :
    (graph.setParentLink type (some parent)).Sound := by
  have present := lt_size_of_isClass parentIsClass
  refine sound.setParentLink isOpen ⟨present, sameArena, fun path => ?_⟩ isClass parentIsClass
  rw [← sound.wellFormed.hierarchical.reaches_iff present] at path
  rw [parentError?, if_pos path] at permitted
  cases permitted

/-- Members first: the parent is checked against all of them. -/
theorem declareThenLink_succeeds (memberless : (graph.typeAt type).declaredForCheck = [])
    (fresh : graph.Fresh type members) :
    (declareThenLink type parent members).Succeeds graph (graph.Buildable type parent members)
      ((graph.withEachDeclared type members).setParentLink type (some parent)) := by
  have present := lt_size_of_isClass isClass
  have parentPresent := lt_size_of_isClass parentIsClass
  obtain ⟨left, run, complete⟩ := declareEach_exec sound isOpen present fresh
  have steps := declareEach_steps sound present members
  rw [run] at steps
  cases found : graph.declareEachError? type members with
  | some error =>
      rw [found] at run
      have refused : (declareThenLink type parent members).exec graph
          = (.error (.rejected error), left) := Build.exec_bind_of_error run
      refine ⟨iff_of_false (by simp [refused]) fun buildable => ?_, by simp [refused]⟩
      exact absurd buildable.accepted (by simp [found])
  | none =>
      rw [found] at run
      have linking : (declareThenLink type parent members).exec graph
          = (setParent type (some parent)).exec left := Build.exec_bind_of_ok run
      have same := complete found
      have links := fun other => links_withEachDeclared fresh other
      have leftAt := fun other => typeAt_eq_of_bare same other
      have leftSound := steps.sound sound
      have ends : (setParent type (some parent)).Ends left (left.linkError? type parent) ()
          (left.setParentLink type (some parent)) := by
        refine setParent_ends_linkError leftSound ?_ ?_ ?_ ?_
        · rw [isSealed, leftAt, NominalType.isSealed, (links type).2]
          exact isOpen
        · rw [leftAt, leftAt, (links _).1.identity.arena, (links _).1.identity.arena, sameArena]
        · rw [leftAt, (links _).1.identity.isClass, isClass]
        · rw [leftAt, (links _).1.identity.isClass, parentIsClass]
      have linkable := linkError?_eq_none_iff sound.wellFormed.hierarchical
        leftSound.wellFormed.hierarchical
        (fun permitted => (sound_setParentLink_of_permitted sound isOpen sameArena isClass
          parentIsClass permitted).wellFormed) present parentPresent memberless fresh same
      refine ⟨?_, fun succeeded => ?_⟩
      · rw [linking, ends.ok_iff, linkable]
        constructor
        · rintro ⟨permitted, fit⟩
          exact ⟨permitted, found, fit⟩
        · intro buildable
          exact ⟨buildable.permitted, buildable.fit⟩
      · rw [linking] at succeeded ⊢
        rw [ends.left, ends.ok_iff.mp succeeded, Option.elim_none]
        exact congrArg (fun bare : Graph => bare.setParentLink type (some parent)) same

/-- The parent first: each member is checked against it. -/
theorem linkThenDeclare_succeeds (parentless : (graph.typeAt type).parent? = none)
    (memberless : (graph.typeAt type).declaredForCheck = []) (fresh : graph.Fresh type members) :
    (linkThenDeclare type parent members).Succeeds graph (graph.Buildable type parent members)
      ((graph.withEachDeclared type members).setParentLink type (some parent)) := by
  have present := lt_size_of_isClass isClass
  have ends := setParent_ends_linkError sound isOpen sameArena isClass parentIsClass
  rw [linkError?_of_memberless memberless] at ends
  have step : Step (· = .link type) graph ((setParent type (some parent)).exec graph).2 :=
    setParent_step sound isClass (by simpa using parentIsClass)
  rcases run : (setParent type (some parent)).exec graph with ⟨ended, left⟩
  rw [run] at step
  have outcome := ends.outcome
  have same := ends.left
  rw [run] at outcome same
  cases found : graph.parentError? type parent with
  | some error =>
      rw [found] at outcome
      obtain rfl : ended = .error (.rejected error) := outcome
      have refused : (linkThenDeclare type parent members).exec graph
          = (.error (.rejected error), left) := Build.exec_bind_of_error run
      refine ⟨iff_of_false (by simp [refused]) fun buildable => ?_, by simp [refused]⟩
      exact absurd buildable.permitted (by simp [found])
  | none =>
      rw [found] at outcome same
      obtain rfl : ended = .ok () := outcome
      replace same : left.bare = (graph.setParentLink type (some parent)).bare := same
      have linked := sound_setParentLink_of_permitted sound isOpen sameArena isClass parentIsClass
        found
      have stillOpen : left.isSealed type = false := by
        rw [isSealed_eq_of_bare same, isSealed, setParentLink,
          typeAt_modifyType_self present, NominalType.isSealed, NominalType.mapClassPart_state]
        exact isOpen
      have larger : type < left.types.size :=
        Nat.lt_of_lt_of_le present (Steps.keepsSealed (.single step)).grows
      obtain ⟨last, runRest, complete⟩ := declareEach_exec step.sound stillOpen larger
        (fresh.of_members fun member => memberAt_eq_of_bare same member)
      rw [declareEachError?_of_bare same] at runRest complete
      have declaring : (linkThenDeclare type parent members).exec graph = (_, last) :=
        (Build.exec_bind_of_ok run).trans runRest
      have accepted := declareEachError?_setParentLink_eq_none_iff linked.wellFormed isClass
        parentless fresh
      refine ⟨?_, fun succeeded => ?_⟩
      · rw [declaring, verdict_eq_ok_iff, accepted]
        constructor
        · rintro ⟨declared, fit⟩
          exact ⟨found, declared, fit⟩
        · intro buildable
          exact ⟨buildable.accepted, buildable.fit⟩
      · rw [declaring] at succeeded ⊢
        rw [complete (verdict_eq_ok_iff.mp succeeded), withEachDeclared_of_bare same,
          withEachDeclared_setParentLink]

end Succeeding

/-- A parent that cannot be set at all makes both orders fail. -/
theorem not_ok_of_misused (sound : graph.Sound) (isClass : (graph.typeAt type).isClass = true)
    (parentIsClass : (graph.typeAt parent).isClass = true)
    (misused : graph.isSealed type = true ∨
      (graph.typeAt parent).arena ≠ (graph.typeAt type).arena) (members : List MemberId) :
    ((declareThenLink type parent members).exec graph).1 ≠ .ok () ∧
      ((linkThenDeclare type parent members).exec graph).1 ≠ .ok () := by
  have present := lt_size_of_isClass isClass
  have keeps := (declareEach_steps sound present members).keepsSealed
  constructor
  · unfold declareThenLink
    rcases Build.exec_bind_cases (declareEach type members)
      (fun _ => setParent type (some parent)) graph with
      ⟨failure, left, first, all⟩ | ⟨_, left, first, all⟩
    · rw [all]
      exact nofun
    · rw [first] at keeps
      have stillMisused : left.isSealed type = true ∨
          (left.typeAt parent).arena ≠ (left.typeAt type).arena := by
        rw [(keeps.identity type present).arena,
          (keeps.identity parent (lt_size_of_isClass parentIsClass)).arena]
        exact misused.imp_left keeps.isSealed
      obtain ⟨failure, refused⟩ := setParent_misused stillMisused
      rw [all, refused]
      exact nofun
  · obtain ⟨failure, refused⟩ := setParent_misused misused
    rw [linkThenDeclare, Build.exec_bind_of_error refused]
    exact nofun

/-- Setting the parent of a class and adding its members commute.  One order succeeds if and only if
the other one does, and then both leave the same types and members: the class has the parent, and
declares exactly the members that were added. -/
theorem declareThenLink_comm (attained : graph.Attained)
    (isClass : (graph.typeAt type).isClass = true)
    (parentIsClass : (graph.typeAt parent).isClass = true)
    (parentless : (graph.typeAt type).parent? = none)
    (memberless : (graph.typeAt type).declaredForCheck = []) (fresh : graph.Fresh type members) :
    let early := (declareThenLink type parent members).exec graph
    let late := (linkThenDeclare type parent members).exec graph
    (early.1 = .ok () ↔ late.1 = .ok ()) ∧
      (early.1 = .ok () →
        early.2.types = late.2.types ∧ early.2.members = late.2.members ∧
          (early.2.typeAt type).parent? = some parent ∧
          (early.2.typeAt type).declaredForCheck.Perm members) := by
  have sound := attained.sound
  have present := lt_size_of_isClass isClass
  dsimp only
  by_cases misused : graph.isSealed type = true ∨
      (graph.typeAt parent).arena ≠ (graph.typeAt type).arena
  · obtain ⟨early, late⟩ := not_ok_of_misused sound isClass parentIsClass misused members
    exact ⟨iff_of_false early late, fun succeeded => absurd succeeded early⟩
  · rw [not_or, Bool.not_eq_true, ne_eq, not_not] at misused
    have early := declareThenLink_succeeds sound misused.1 misused.2 isClass parentIsClass
      memberless fresh
    have late := linkThenDeclare_succeeds sound misused.1 misused.2 isClass parentIsClass
      parentless memberless fresh
    refine ⟨early.ok_iff.trans late.ok_iff.symm, fun succeeded => ?_⟩
    have first := early.left succeeded
    have second := late.left (late.ok_iff.mpr (early.ok_iff.mp succeeded))
    have same := first.trans second.symm
    have links := (links_withEachDeclared fresh type).1
    have here : ((graph.withEachDeclared type members).setParentLink type (some parent)).typeAt type
        = ((graph.withEachDeclared type members).typeAt type).mapClassPart
            ({ · with parent := some parent }) :=
      typeAt_modifyType_self (present.trans_eq (size_withEachDeclared _ _ _).symm) _
    refine ⟨types_eq_of_bare same, members_eq_of_bare same, ?_, ?_⟩
    · rw [typeAt_eq_of_bare first, here,
        NominalType.mapClassPart_parent? (links.identity.isClass.trans isClass)]
    · have declared := perm_declaredForCheck_withEachDeclared present fresh
      rw [memberless, List.append_nil] at declared
      rw [typeAt_eq_of_bare first, here,
        declaredForCheck_congr (NominalType.mapClassPart_declared _ _)]
      exact declared

end Orders

/-- A sealed class with a public method, and an open class with an override of the method, a less
visible one, and a static field to come. -/
def openSubclass : List Operation :=
  [.openArena {}, .newClass 0 "Object" "" .pub (.ofList [.root]),
    .newMember (.method none .pub false "run" [] none), .declareMember 0 (some 0) false,
    .sealType 0, .newClass 0 "Worker" "m" .pub {},
    .newMember (.method none .pub false "run" [] none),
    .newMember (.method none .prot false "run" [] none),
    .newMember (.field none .pub true false "count" (some (.primitive .int)))]

/-- The override and the field are accepted in both orders, and the less visible method in none. -/
theorem declareThenLink_comm_openSubclass :
    let graph := ({} : Graph).after openSubclass
    graph.Attained ∧ graph.isSealed 0 = true ∧ graph.isSealed 1 = false ∧
      graph.checksAncestors 1 = true ∧ graph.Fresh 1 [1, 3] ∧ graph.Fresh 1 [3, 2] ∧
      ((declareThenLink 1 0 [1, 3]).exec graph).1 = .ok () ∧
      ((linkThenDeclare 1 0 [1, 3]).exec graph).1 = .ok () ∧
      ((declareThenLink 1 0 [1, 3]).exec graph).2.types
        = ((linkThenDeclare 1 0 [1, 3]).exec graph).2.types ∧
      ((declareThenLink 1 0 [3, 2]).exec graph).1 ≠ .ok () ∧
      ((linkThenDeclare 1 0 [3, 2]).exec graph).1 ≠ .ok () := by
  intro graph
  have attained : graph.Attained := .run (by decide +kernel)
  have isClass : (graph.typeAt 1).isClass = true := by decide +kernel
  have parentIsClass : (graph.typeAt 0).isClass = true := by decide +kernel
  have parentless : (graph.typeAt 1).parent? = none := by decide +kernel
  have memberless : (graph.typeAt 1).declaredForCheck = [] := by decide +kernel
  have unowned : ∀ member ∈ [1, 2, 3], (graph.memberAt member).definingType = none := by
    decide +kernel
  have accepted : graph.Fresh 1 [1, 3] :=
    ⟨by decide, by decide +kernel, by simp [unowned]⟩
  have reduced : graph.Fresh 1 [3, 2] :=
    ⟨by decide, by decide +kernel, by simp [unowned]⟩
  obtain ⟨both, same⟩ :=
    declareThenLink_comm attained isClass parentIsClass parentless memberless accepted
  obtain ⟨neither, -⟩ :=
    declareThenLink_comm attained isClass parentIsClass parentless memberless reduced
  have succeeds : ((declareThenLink 1 0 [1, 3]).exec graph).1 = .ok () := by decide +kernel
  have refused : ((declareThenLink 1 0 [3, 2]).exec graph).1 ≠ .ok () := by decide +kernel
  exact ⟨attained, by decide +kernel, by decide +kernel, by decide +kernel, accepted, reduced,
    succeeds, both.mp succeeds, (same succeeds).1, refused, mt neither.mpr refused⟩

end Nominal
