import Nominal.Proofs.DeclarationOrder
import Nominal.Proofs.Refusals

/-!
# Where members are listed

A type lists its fields and methods by name, and a class its constructors, initializers and static
constructor apart from them.  Every list holds members that the type owns, with different keys, and
a member is listed once.

Adopting a member composes its name.  If the names of all members have composed forms that are
composed, a member that is offered again is found where it is listed already.
-/

namespace Nominal

/-- The members of a kind that are not looked up by name. -/
def ClassPart.listed (part : ClassPart) : MemberKind → List MemberId
  | .constructor => part.constructors
  | .initializer => part.initializers
  | .staticConstructor => part.staticConstructor.toList
  | .field | .method | .unknown => []

namespace NominalType

/-- The members of a kind that are not looked up by name. -/
def listed (type : NominalType) (kind : MemberKind) : List MemberId :=
  type.classPart.listed kind

/-- All members of a type. -/
def allMembers (type : NominalType) : List MemberId :=
  type.declaredForCheck ++ (type.listed .constructor ++ (type.listed .initializer
    ++ type.listed .staticConstructor))

theorem listed_of_shape {old new : NominalType} (same : new.shape = old.shape) (kind : MemberKind) :
    new.listed kind = old.listed kind := by
  unfold listed classPart
  rw [same]

theorem listed_mapClassPart {type : NominalType} (isClass : type.isClass = true)
    (change : ClassPart → ClassPart) (kind : MemberKind) :
    (type.mapClassPart change).listed kind = (change type.classPart).listed kind := by
  rw [listed, mapClassPart_classPart isClass]

theorem listed_of_interface {type : NominalType} (isInterface : type.isClass = false)
    (kind : MemberKind) : type.listed kind = [] := by
  cases shape : type.shape with
  | classShape part => simp [isClass, shape] at isInterface
  | interfaceShape => cases kind <;> simp [listed, classPart, shape, ClassPart.listed]

end NominalType

namespace Graph

/-! ## Names -/

/-- The names of all members have composed forms that are composed. -/
def StableNames (graph : Graph) : Prop :=
  ∀ member, Text.IsStable (graph.memberAt member).identifier

section Names

variable {graph later : Graph} {deed : Deed}

theorem StableNames.of_members (stable : graph.StableNames) (same : later.members = graph.members) :
    later.StableNames := by
  intro member
  rw [memberAt, same, ← memberAt]
  exact stable member

theorem StableNames.withMember (stable : graph.StableNames) {member : Member}
    (composed : Text.IsStable member.identifier) : (graph.withMember member).StableNames := by
  intro known
  by_cases here : known = graph.members.size
  · rw [here, memberAt_withMember_self]
    exact composed
  · rw [memberAt_withMember_of_ne here]
    exact stable known

theorem StableNames.withOwner (stable : graph.StableNames) (type : TypeId) (member : MemberId) :
    (graph.withOwner type member
      (Text.canonical (graph.memberAt member).identifier)).StableNames := by
  intro known
  rcases memberAt_withOwner_cases graph type member
    (Text.canonical (graph.memberAt member).identifier) known with same | ⟨rfl, changed⟩
  · rw [same]
    exact stable known
  · rw [changed, Text.IsStable, stable known]
    exact stable known

theorem Change.memberCount_le (changed : graph.Change deed later) :
    graph.members.size ≤ later.members.size := by
  cases changed with
  | openArena | allocate | intern | start | fail | callHook | reform => exact Nat.le_refl _
  | create => simp [Graph.withMember]
  | declare => simp [withAdopted, withOwner, Graph.modifyType, modifyMember]

/-- Only a description creates members. -/
theorem Change.memberCount (changed : graph.Change deed later) (kept : deed ≠ .describe) :
    later.members.size = graph.members.size := by
  cases changed with
  | openArena | allocate | intern | create => exact absurd rfl kept
  | start | fail | callHook | reform => rfl
  | declare => simp [withAdopted, withOwner, Graph.modifyType, modifyMember]

theorem Change.stableNames (changed : graph.Change deed later) (stable : graph.StableNames)
    (kept : later.members.size = graph.members.size) : later.StableNames := by
  cases changed with
  | openArena | allocate | intern | start | fail | callHook | reform => exact stable.of_members rfl
  | create => simp [Graph.withMember] at kept
  | declare type member place => exact stable.withOwner type member

end Names

/-! ## Tables -/

/-- No name is kept without members. -/
def Filled (graph : Graph) : Prop :=
  ∀ type isStatic, ∀ entry ∈ ((graph.typeAt type).declared isStatic).entries, entry.2 ≠ []

/-- Members are looked up by composed names. -/
def ComposedNames (graph : Graph) : Prop :=
  ∀ type isStatic, ∀ entry ∈ ((graph.typeAt type).declared isStatic).entries,
    Text.canonical entry.1 = entry.1

section Tables

variable {graph later : Graph} {deed : Deed}

/-- An entry of a table is as it was, or has got one more member under the composed form of its
name. -/
theorem Change.entries (changed : graph.Change deed later) {type : TypeId} {isStatic : Bool}
    {entry : String × List MemberId}
    (listed : entry ∈ ((later.typeAt type).declared isStatic).entries) :
    entry ∈ ((graph.typeAt type).declared isStatic).entries ∨
      ∃ member bucket,
        entry = (Text.canonical (graph.memberAt member).identifier, bucket ++ [member]) := by
  cases changed with
  | openArena | intern | create | start | fail | callHook => exact .inl listed
  | allocate arena shape identifier moduleName visibility properties =>
      by_cases new : type = graph.types.size
      · subst new
        rw [typeAt_withType_self] at listed
        cases isStatic <;> cases listed
      · rw [typeAt_withType_of_ne new] at listed
        exact .inl listed
  | reform subject deed change present isOpen checked =>
      rw [typeAt_modifyType_kept (·.declared isStatic) (checked.tables isStatic) type] at listed
      exact .inl listed
  | declare subject member place present isOpen adoptable checked =>
      rcases typeAt_withAdopted_cases graph subject member
        (Text.canonical (graph.memberAt member).identifier) place type
        with same | ⟨rfl, _, changed⟩
      · rw [same] at listed
        exact .inl listed
      · rw [changed] at listed
        rcases checked.tables with kept | ⟨rfl, -⟩
        · rw [kept] at listed
          exact .inl listed
        · dsimp only [NominalType.withListed] at listed
          rw [NominalType.mapDeclared_declared] at listed
          split at listed
          · rcases Table.mem_set listed with new | old
            · exact .inr ⟨member, _, new⟩
            · exact .inl old
          · exact .inl listed

theorem Change.filled (changed : graph.Change deed later) (filled : graph.Filled) :
    later.Filled := by
  intro type isStatic entry listed
  rcases changed.entries listed with old | ⟨member, bucket, rfl⟩
  · exact filled type isStatic entry old
  · exact List.append_ne_nil_of_right_ne_nil bucket (List.cons_ne_nil member [])

theorem Change.composedNames (changed : graph.Change deed later) (stable : graph.StableNames)
    (composed : graph.ComposedNames) : later.ComposedNames := by
  intro type isStatic entry listed
  rcases changed.entries listed with old | ⟨member, bucket, rfl⟩
  · exact composed type isStatic entry old
  · exact stable member

end Tables

/-! ## Lists -/

/-- Members of one kind that a type owns, with different keys. -/
structure Roster (graph : Graph) (type : TypeId) (kind : MemberKind) (members : List MemberId) :
    Prop where
  owner : ∀ member ∈ members, (graph.memberAt member).definingType = some type
  ofKind : ∀ member ∈ members, (graph.memberAt member).kind = kind
  keys : members.Pairwise fun first second => graph.keyOf first ≠ graph.keyOf second

/-- The lists of all types are in order. -/
def Rostered (graph : Graph) : Prop :=
  ∀ type kind, graph.Roster type kind ((graph.typeAt type).listed kind)

section Lists

variable {graph later : Graph} {deed : Deed} {type : TypeId}

theorem Roster.nil (graph : Graph) (type : TypeId) (kind : MemberKind) :
    graph.Roster type kind [] :=
  ⟨nofun, nofun, .nil⟩

theorem Change.keepsMembers (changed : graph.Change deed later) (wellFormed : graph.WellFormed) :
    graph.KeepsMembers later := by
  refine ⟨changed.keepsSealed.identity, (changed.wellFormed wellFormed).membered.within, ?_⟩
  intro known adopted
  cases changed with
  | openArena | allocate | intern | start | fail | callHook | reform =>
      exact ⟨_, rfl, .inl rfl⟩
  | create member within =>
      refine ⟨_, memberAt_withMember_of_ne ?_, .inl rfl⟩
      rintro rfl
      rw [memberAt_of_size_le (Nat.le_refl _)] at adopted
      cases adopted
  | declare type member place present isOpen adoptable checked =>
      exact (wellFormed.membered.withOwner adoptable).adopted known adopted

/-- The key of an adopted member is kept if its name is stable. -/
theorem KeepsMembers.keyOf_adopted (keeps : graph.KeepsMembers later) (membered : graph.Membered)
    (stable : graph.StableNames) {member : MemberId}
    (adopted : (graph.memberAt member).definingType.isSome = true) :
    later.keyOf member = graph.keyOf member := by
  obtain ⟨identifier, changed, origin⟩ := keeps.adopted member adopted
  have composed :
      Text.canonical identifier = Text.canonical (graph.memberAt member).identifier := by
    rcases origin with rfl | rfl
    · rfl
    · exact stable member
  have within : Member.isWithin graph.types.size { graph.memberAt member with identifier } = true :=
    membered.within member
  rw [Graph.keyOf, changed, Member.key_congr within fun type present =>
    (keeps.identity type present).qualifiedName]
  simp only [Graph.keyOf, Member.key, composed]
  rfl

theorem Roster.congr {kind : MemberKind} {members : List MemberId}
    (roster : graph.Roster type kind members) (keeps : graph.KeepsMembers later)
    (membered : graph.Membered) (stable : graph.StableNames) : later.Roster type kind members := by
  have adopted : ∀ member ∈ members, (graph.memberAt member).definingType.isSome = true := by
    intro member listed
    rw [roster.owner member listed]
    rfl
  refine ⟨?_, ?_, ?_⟩
  · intro member listed
    obtain ⟨identifier, changed, -⟩ := keeps.adopted member (adopted member listed)
    rw [changed]
    exact roster.owner member listed
  · intro member listed
    obtain ⟨identifier, changed, -⟩ := keeps.adopted member (adopted member listed)
    rw [changed]
    exact roster.ofKind member listed
  · apply roster.keys.imp_of_mem
    intro first second inFirst inSecond different
    rw [keeps.keyOf_adopted membered stable (adopted first inFirst),
      keeps.keyOf_adopted membered stable (adopted second inSecond)]
    exact different

theorem TypeChange.listed {change : NominalType → NominalType}
    (checked : graph.TypeChange type deed change) (kind : MemberKind) :
    (change (graph.typeAt type)).listed kind = (graph.typeAt type).listed kind := by
  cases checked with
  | describe _ described => exact NominalType.listed_of_shape described.shape kind
  | implement | extend | freeze => rfl
  | link parent linkable isClass =>
      refine (NominalType.listed_mapClassPart isClass _ kind).trans ?_
      cases kind <;> rfl

/-- What a placement adds to the lists of a type. -/
structure Listing (graph : Graph) (type : TypeId) (member : MemberId) (kind : MemberKind)
    (grown : List MemberId) : Prop where
  ofKind : (graph.memberAt member).kind = kind
  known : kind ≠ .unknown
  added : grown = (graph.typeAt type).listed kind ++ [member]
  fresh : ∀ existing ∈ (graph.typeAt type).listed kind, graph.keyOf existing ≠ graph.keyOf member

theorem Listing.lt_size {member : MemberId} {kind : MemberKind}
    {grown : List MemberId} (listing : graph.Listing type member kind grown) :
    member < graph.members.size := by
  apply Nat.lt_of_not_le
  intro absent
  have unknown := listing.ofKind
  rw [memberAt_of_size_le absent] at unknown
  exact listing.known unknown.symm

/-- A placement adds a member to the list of its kind, or leaves all lists as they are. -/
theorem Placement.listed {member : MemberId} {identifier : String}
    {place : NominalType → NominalType} (checked : graph.Placement type member identifier place)
    (kind : MemberKind) :
    (place (graph.typeAt type)).listed kind = (graph.typeAt type).listed kind ∨
      graph.Listing type member kind ((place (graph.typeAt type)).listed kind) := by
  cases isClass : (graph.typeAt type).isClass with
  | false =>
      have still : (place (graph.typeAt type)).isClass = false :=
        checked.identity.isClass.trans isClass
      rw [NominalType.listed_of_interface still, NominalType.listed_of_interface isClass]
      exact .inl rfl
  | true =>
      have mapped := fun change => NominalType.listed_mapClassPart isClass change kind
      cases checked with
      | overload =>
          refine .inl (NominalType.listed_of_shape ?_ kind)
          unfold NominalType.mapDeclared
          split <;> rfl
      | constructor isKind fresh =>
          cases kind with
          | constructor => exact .inr ⟨isKind, by simp, mapped _, fresh⟩
          | initializer | staticConstructor | field | method | unknown => exact .inl (mapped _)
      | initializer isKind fresh =>
          cases kind with
          | initializer => exact .inr ⟨isKind, by simp, mapped _, fresh⟩
          | constructor | staticConstructor | field | method | unknown => exact .inl (mapped _)
      | staticConstructor isKind fresh =>
          cases kind with
          | staticConstructor =>
              have none : (graph.typeAt type).listed .staticConstructor = [] := by
                simp only [NominalType.listed, ClassPart.listed, fresh, Option.toList_none]
              refine .inr ⟨isKind, by simp, ?_, ?_⟩
              · rw [none]
                exact mapped _
              · rw [none]
                simp
          | constructor | initializer | field | method | unknown => exact .inl (mapped _)

theorem Roster.append {kind : MemberKind} {members : List MemberId} {member : MemberId}
    (roster : graph.Roster type kind members)
    (owner : (graph.memberAt member).definingType = some type)
    (ofKind : (graph.memberAt member).kind = kind)
    (fresh : ∀ existing ∈ members, graph.keyOf existing ≠ graph.keyOf member) :
    graph.Roster type kind (members ++ [member]) := by
  refine ⟨?_, ?_, ?_⟩
  · intro known listed
    rcases List.mem_append.mp listed with earlier | last
    · exact roster.owner known earlier
    · rw [List.mem_singleton.mp last]
      exact owner
  · intro known listed
    rcases List.mem_append.mp listed with earlier | last
    · exact roster.ofKind known earlier
    · rw [List.mem_singleton.mp last]
      exact ofKind
  · rw [List.pairwise_append]
    refine ⟨roster.keys, List.pairwise_singleton _ _, ?_⟩
    intro existing earlier last isLast
    rw [List.mem_singleton.mp isLast]
    exact fresh existing earlier

section Adopted

variable {member : MemberId} (present : member < graph.members.size) (type : TypeId)
  (place : NominalType → NominalType)

include present

theorem memberAt_withAdopted :
    (graph.withAdopted type member (Text.canonical (graph.memberAt member).identifier)
      place).memberAt member
      = { graph.memberAt member with
          definingType := some type
          identifier := Text.canonical (graph.memberAt member).identifier } :=
  memberAt_modifyMember_self present _

theorem keyOf_withAdopted (membered : graph.Membered) (stable : graph.StableNames)
    (names : ∀ other, other < graph.types.size → (graph.withAdopted type member
      (Text.canonical (graph.memberAt member).identifier) place).nameOf other
        = graph.nameOf other) :
    (graph.withAdopted type member (Text.canonical (graph.memberAt member).identifier)
      place).keyOf member = graph.keyOf member := by
  have within : Member.isWithin graph.types.size { graph.memberAt member with
      definingType := some type
      identifier := Text.canonical (graph.memberAt member).identifier } = true :=
    membered.within member
  rw [keyOf, memberAt_withAdopted present, Member.key_congr within names]
  simp only [keyOf, Member.key, (stable member).canonical_canonical]
  rfl

end Adopted

/-- Every change keeps the lists in order. -/
theorem Change.rostered (changed : graph.Change deed later) (wellFormed : graph.WellFormed)
    (stable : graph.StableNames) (rostered : graph.Rostered) : later.Rostered := by
  have keeps := changed.keepsMembers wellFormed
  have old : ∀ type kind, later.Roster type kind ((graph.typeAt type).listed kind) :=
    fun type kind => (rostered type kind).congr keeps wellFormed.membered stable
  intro type kind
  cases changed with
  | openArena | intern | create | start | fail | callHook => exact old type kind
  | allocate arena shape identifier moduleName visibility properties present empty =>
      by_cases new : type = graph.types.size
      · subst new
        rw [typeAt_withType_self]
        rcases empty with rfl | rfl <;> cases kind <;> exact .nil _ _ _
      · rw [typeAt_withType_of_ne new]
        exact old type kind
  | reform subject deed change present isOpen checked =>
      rw [typeAt_modifyType_kept (·.listed kind) (checked.listed kind) type]
      exact old type kind
  | declare subject member place present isOpen adoptable checked =>
      have kept := old type kind
      rcases typeAt_withAdopted_cases graph subject member
        (Text.canonical (graph.memberAt member).identifier) place type
        with same | ⟨rfl, _, changed⟩
      · rw [same]
        exact kept
      · rw [changed]
        rcases checked.listed kind with unlisted | listing
        · rw [unlisted]
          exact kept
        · have here := listing.lt_size
          have adopted := memberAt_withAdopted here type place
          have key := keyOf_withAdopted here type place wellFormed.membered stable
            fun other known => (keeps.identity other known).qualifiedName
          rw [listing.added]
          refine kept.append (by rw [adopted]) (by rw [adopted]; exact listing.ofKind) ?_
          intro existing earlier
          have owner := (rostered type kind).owner existing earlier
          rw [key, keeps.keyOf_adopted wellFormed.membered stable (by rw [owner]; rfl)]
          exact listing.fresh existing earlier

end Lists

/-! ## Steps -/

/-- All members of a graph are where they belong. -/
structure Catalogued (graph : Graph) : Prop where
  stable : graph.StableNames
  composed : graph.ComposedNames
  rostered : graph.Rostered

section Steps

variable {graph left : Graph} {allowed : Deed → Prop}

theorem SameDeclarations.keyOf (same : graph.SameDeclarations left) (membered : graph.Membered)
    (member : MemberId) : left.keyOf member = graph.keyOf member := by
  have names : ∀ type, left.nameOf type = graph.nameOf type := by
    intro type
    rw [nameOf, nameOf, typeAt, typeAt, same.types]
  rw [Graph.keyOf, Graph.keyOf, memberAt, same.members, ← memberAt]
  exact Member.key_congr (membered.within member) fun type _ => names type

theorem Catalogued.of_same (catalogued : graph.Catalogued) (membered : graph.Membered)
    (same : graph.SameDeclarations left) : left.Catalogued := by
  have keyOf := same.keyOf membered
  obtain ⟨_, types, _, _, members, _, _⟩ := left
  obtain ⟨rfl, rfl⟩ := same
  refine ⟨catalogued.stable, catalogued.composed, fun type kind => ?_⟩
  have roster := catalogued.rostered type kind
  refine ⟨roster.owner, roster.ofKind, roster.keys.imp fun different => ?_⟩
  rw [keyOf, keyOf]
  exact different

theorem Filled.of_same (filled : graph.Filled) (same : graph.SameDeclarations left) :
    left.Filled := by
  obtain ⟨_, types, _, _, members, _, _⟩ := left
  obtain ⟨rfl, rfl⟩ := same
  exact filled

theorem Steps.filled (steps : Steps allowed graph left) (filled : graph.Filled) : left.Filled := by
  induction steps with
  | refl => exact filled
  | tail _ step ih =>
      rcases step.effect with same | ⟨deed, changed, _, change, same⟩
      · exact ih.of_same (.of_bare same)
      · exact (change.filled ih).of_same (.of_bare same)

theorem Step.memberCount_le (step : Step allowed graph left) :
    graph.members.size ≤ left.members.size := by
  rcases step.effect with same | ⟨deed, changed, _, change, same⟩
  · rw [members_eq_of_bare same]
  · rw [members_eq_of_bare same]
    exact change.memberCount_le

theorem Steps.memberCount_le (steps : Steps allowed graph left) :
    graph.members.size ≤ left.members.size := by
  induction steps with
  | refl => exact Nat.le_refl _
  | tail _ step ih => exact ih.trans step.memberCount_le

theorem Steps.memberCount (steps : Steps allowed graph left)
    (kept : ∀ deed, allowed deed → deed ≠ .describe) :
    left.members.size = graph.members.size := by
  induction steps with
  | refl => rfl
  | tail _ step ih =>
      rcases step.effect with same | ⟨deed, changed, permitted, change, same⟩
      · rw [members_eq_of_bare same, ih]
      · rw [members_eq_of_bare same, change.memberCount (kept deed permitted), ih]

/-- Steps that create no member keep all members where they belong. -/
theorem Steps.catalogued (steps : Steps allowed graph left) (sound : graph.Sound)
    (kept : left.members.size = graph.members.size) (catalogued : graph.Catalogued) :
    left.Catalogued := by
  induction steps with
  | refl => exact catalogued
  | @tail middle last before step ih =>
      have enough : middle.members.size = graph.members.size :=
        Nat.le_antisymm (step.memberCount_le.trans (Nat.le_of_eq kept)) (memberCount_le before)
      have between := ih enough
      have wellFormed := (Steps.sound before sound).wellFormed
      rcases step.effect with same | ⟨deed, changed, _, change, same⟩
      · exact between.of_same wellFormed.membered (.of_bare same)
      · have sameCount : changed.members.size = middle.members.size := by
          rw [← members_eq_of_bare same, kept, enough]
        exact Catalogued.of_same
          ⟨change.stableNames between.stable sameCount,
            change.composedNames between.stable between.composed,
            change.rostered wellFormed between.stable between.rostered⟩
          (change.wellFormed wellFormed).membered (.of_bare same)

end Steps

end Graph

/-! ## Runs -/

namespace Operation

open Nominal.Graph

variable {graph : Graph}

theorem newStub_members (arena : ArenaId) (shape : TypeShape) (identifier moduleName : String)
    (visibility : Visibility) (properties : TypeProperties) (record : String → Nat → LogRecord) :
    ((newStub arena shape identifier moduleName visibility properties record).exec graph).2.members
      = graph.members := by
  rw [newStub, Build.exec_get_bind]
  dsimp only
  split
  · rfl
  · rw [Build.exec_set_bind, Build.exec_lift_bind]
    change ((recordLog _ _).exec _).2.members = graph.members
    rw [members_eq_of_bare (bare_recordLog _ _ _)]

theorem changeType_members (type : TypeId) (mutation : Mutation)
    (change : NominalType → NominalType) :
    ((changeType type mutation change).exec graph).2.members = graph.members := by
  rw [changeType, exec_requireUnsealed_bind]
  split <;> rfl

theorem addExtensionClass_members (type : TypeId) (extension : Option TypeId) :
    ((Nominal.addExtensionClass type extension).exec graph).2.members = graph.members := by
  unfold Nominal.addExtensionClass
  rw [exec_requireUnsealed_bind]
  split
  · rfl
  · cases extension with
    | none => rfl
    | some added =>
        dsimp only
        rw [exec_requireSameArena_bind]
        split <;> rfl

theorem addInterface_members (type : TypeId) (interface : Option TypeId) :
    ((Nominal.addInterface type interface).exec graph).2.members = graph.members := by
  unfold Nominal.addInterface
  rw [exec_requireUnsealed_bind]
  split
  · rfl
  · cases interface with
    | none => rfl
    | some added =>
        dsimp only
        rw [exec_requireSameArena_bind]
        split
        · rw [Build.exec_get_bind]
          split
          · rfl
          · rw [Build.exec_bind_of_verdict (exec_checkTypeVisibility _ _)]
            cases Option.bind _ (graph.typeVisibilityError? _) with
            | some error => rfl
            | none =>
                dsimp only [Option.elim_none]
                split <;> rfl
        · rfl

theorem perform_setTrusted_same (type : TypeId) (isTrusted : Bool) :
    graph.SameDeclarations ((setTrusted type isTrusted).perform graph) := by
  unfold perform Nominal.setTrusted
  dsimp only
  rw [exec_requireUnsealed_bind]
  split
  · exact .refl graph
  · exact ⟨rfl, rfl⟩

theorem perform_memberCount (sound : graph.Sound) {operation : Operation}
    (admissible : operation.isAdmissible graph = true)
    (creates : ∀ member, operation ≠ .newMember member) :
    (operation.perform graph).members.size = graph.members.size := by
  have building : ∀ {deeds : Deed → Prop}, Steps deeds graph (operation.perform graph) →
      (∀ deed, deeds deed → deed ≠ .describe) →
      (operation.perform graph).members.size = graph.members.size :=
    fun steps kept => steps.memberCount kept
  have describing : (operation.perform graph).members = graph.members →
      (operation.perform graph).members.size = graph.members.size :=
    fun same => by rw [same]
  cases operation with
  | openArena => rfl
  | newClass | newInterface => exact describing (newStub_members ..)
  | newMember member => exact absurd rfl (creates member)
  | arrayOf arena element base =>
      refine describing ?_
      change ((Nominal.arrayOf arena element base).exec graph).2.members = graph.members
      rw [exec_arrayOf]
      unfold withArray
      dsimp only
      split <;> rfl
  | setTrusted type isTrusted =>
      exact describing (perform_setTrusted_same type isTrusted).members
  | addInterface => exact describing (addInterface_members ..)
  | addExtensionClass => exact describing (addExtensionClass_members ..)
  | annotate | setScope | setHostType | setDocString | markParsed =>
      exact describing (changeType_members ..)
  | ask view type =>
      exact describing (members_eq_of_bare ((Query.Answers.ask view type).reads sound).bare)
  | access type name site isStatic =>
      exact describing (members_eq_of_bare (checkMemberAccess_inspects sound type).reads.bare)
  | setParent | declareMember | setImplementation =>
      refine building (perform_steps sound admissible nofun) ?_
      rintro _ rfl
      exact nofun
  | sealType | finishBuild =>
      refine building (perform_steps sound admissible nofun) ?_
      rintro _ seals rfl
      exact seals

theorem perform_filled (sound : graph.Sound) {operation : Operation}
    (admissible : operation.isAdmissible graph = true) (filled : graph.Filled) :
    (operation.perform graph).Filled := by
  by_cases trusting : ∃ type isTrusted, operation = .setTrusted type isTrusted
  · obtain ⟨type, isTrusted, rfl⟩ := trusting
    exact filled.of_same (perform_setTrusted_same type isTrusted)
  · exact (perform_steps sound admissible fun type isTrusted equal =>
      trusting ⟨type, isTrusted, equal⟩).filled filled

/-- An operation keeps all members where they belong, if it creates no member whose composed name
is not composed. -/
theorem perform_catalogued (sound : graph.Sound) {operation : Operation}
    (admissible : operation.isAdmissible graph = true)
    (stable : ∀ member, operation = .newMember member → Text.IsStable member.identifier)
    (catalogued : graph.Catalogued) : (operation.perform graph).Catalogued := by
  have membered := sound.wellFormed.membered
  by_cases creating : ∃ member, operation = .newMember member
  · obtain ⟨member, rfl⟩ := creating
    have change : graph.Change .describe (graph.withMember member) := .create member admissible
    have created : (graph.withMember member).StableNames :=
      catalogued.stable.withMember (stable member rfl)
    exact ⟨created, change.composedNames catalogued.stable catalogued.composed,
      change.rostered sound.wellFormed catalogued.stable catalogued.rostered⟩
  · by_cases trusting : ∃ type isTrusted, operation = .setTrusted type isTrusted
    · obtain ⟨type, isTrusted, rfl⟩ := trusting
      exact catalogued.of_same membered (perform_setTrusted_same type isTrusted)
    · have steps := perform_steps sound admissible fun type isTrusted equal =>
        trusting ⟨type, isTrusted, equal⟩
      exact steps.catalogued sound (perform_memberCount sound admissible fun member equal =>
        creating ⟨member, equal⟩) catalogued

end Operation

namespace Graph

variable {graph : Graph}

theorem Filled.after (filled : graph.Filled) (sound : graph.Sound) {run : List Operation}
    (admitted : graph.admits run = true) : (graph.after run).Filled := by
  induction run generalizing graph with
  | nil => exact filled
  | cons operation rest induction =>
      rw [admits, Bool.and_eq_true] at admitted
      exact induction (operation.perform_filled sound admitted.1 filled)
        (operation.perform_sound sound admitted.1).1 admitted.2

theorem Catalogued.after (catalogued : graph.Catalogued) (sound : graph.Sound)
    {run : List Operation} (admitted : graph.admits run = true)
    (stable : ∀ member, Operation.newMember member ∈ run → Text.IsStable member.identifier) :
    (graph.after run).Catalogued := by
  induction run generalizing graph with
  | nil => exact catalogued
  | cons operation rest induction =>
      rw [admits, Bool.and_eq_true] at admitted
      have performed : (operation.perform graph).Catalogued := by
        refine operation.perform_catalogued sound admitted.1 ?_ catalogued
        rintro member rfl
        exact stable member List.mem_cons_self
      exact induction performed (operation.perform_sound sound admitted.1).1 admitted.2
        fun member listed => stable member (List.mem_cons_of_mem operation listed)

theorem filled_start : ({} : Graph).Filled := by
  intro type isStatic entry listed
  cases isStatic <;> cases listed

theorem catalogued_start : ({} : Graph).Catalogued := by
  refine ⟨?_, ?_, ?_⟩
  · intro member
    rfl
  · intro type isStatic entry listed
    cases isStatic <;> cases listed
  · intro type kind
    cases kind <;> exact .nil _ _ _

/-! ## Where members stand -/

/-- What stands under a name of a table: a single field, or methods with different keys and one
visibility. -/
structure Bucket (graph : Graph) (type : TypeId) (isStatic : Bool) (name : String)
    (members : List MemberId) : Prop where
  composed : Text.canonical name = name
  filled : members ≠ []
  owned : ∀ member ∈ members, graph.Owns type isStatic name member
  named : ∀ member ∈ members, (graph.memberAt member).identifier = name
  kinds : (∃ field, members = [field] ∧ (graph.memberAt field).kind = .field) ∨
    ∀ member ∈ members, (graph.memberAt member).kind = .method
  keys : members.Pairwise fun first second => graph.keyOf first ≠ graph.keyOf second
  visibility : ∀ first ∈ members, ∀ second ∈ members,
    (graph.memberAt first).visibility = (graph.memberAt second).visibility

section Standing

variable {type : TypeId} {isStatic : Bool}

theorem Membered.bucket (membered : graph.Membered) (filled : graph.Filled)
    (composed : graph.ComposedNames) {entry : String × List MemberId}
    (listed : entry ∈ ((graph.typeAt type).declared isStatic).entries) :
    graph.Bucket type isStatic entry.1 entry.2 := by
  obtain ⟨name, members⟩ := entry
  have owned : ∀ member ∈ members, graph.Owns type isStatic name member :=
    fun _ inside => membered.owned listed inside
  have overloaded : members.Pairwise graph.Overloads :=
    membered.overloaded (Table.get?_eq_some_of_mem (membered.distinct type isStatic) listed)
      (composed type isStatic _ listed)
  refine ⟨composed type isStatic _ listed, filled type isStatic _ listed, owned,
    fun member inside => (owned member inside).named (composed type isStatic _ listed), ?_,
    overloaded.imp Overloads.keys, ?_⟩
  · cases members with
    | nil => exact absurd rfl (filled type isStatic _ listed)
    | cons first rest =>
        rw [List.pairwise_cons] at overloaded
        have inheritable := (owned first List.mem_cons_self).inheritable
        cases kind : (graph.memberAt first).kind with
        | field =>
            cases rest with
            | nil => exact .inl ⟨first, rfl, kind⟩
            | cons second others =>
                have overloads := overloaded.1 second List.mem_cons_self
                exact absurd (overloads.kind.symm.trans kind) overloads.noField
        | method =>
            refine .inr fun member inside => ?_
            rcases List.mem_cons.mp inside with rfl | later
            · exact kind
            · exact (overloaded.1 member later).kind.symm.trans kind
        | constructor | initializer | staticConstructor | unknown =>
            rw [kind] at inheritable
            cases inheritable
  · intro first inFirst second inSecond
    by_cases same : first = second
    · rw [same]
    · exact (overloaded.imp Overloads.visibility).forall inFirst inSecond same

/-- No member stands under two names of a table, or twice under one. -/
theorem nodup_declared (membered : graph.Membered)
    (buckets : ∀ entry ∈ ((graph.typeAt type).declared isStatic).entries,
      graph.Bucket type isStatic entry.1 entry.2) :
    ((graph.typeAt type).declared isStatic).values.flatten.Nodup := by
  rw [List.nodup_flatten]
  constructor
  · intro bucket listed
    obtain ⟨entry, inTable, rfl⟩ := List.mem_map.mp listed
    exact (buckets entry inTable).keys.imp fun different same => different (congrArg _ same)
  · rw [Table.values, List.pairwise_map]
    have distinct := membered.distinct type isStatic
    rw [Table.keys, List.Nodup, List.pairwise_map] at distinct
    apply distinct.imp_of_mem
    intro first second inFirst inSecond different member underFirst underSecond
    apply different
    rw [← (buckets first inFirst).named member underFirst,
      (buckets second inSecond).named member underSecond]

theorem Roster.nodup {kind : MemberKind} {members : List MemberId}
    (roster : graph.Roster type kind members) : members.Nodup :=
  roster.keys.imp fun different same => different (congrArg _ same)

theorem Roster.disjoint {first second : MemberKind} {members others : List MemberId}
    (roster : graph.Roster type first members) (other : graph.Roster type second others)
    (different : first ≠ second) : members.Disjoint others := by
  intro member inMembers inOthers
  exact different ((roster.ofKind member inMembers).symm.trans (other.ofKind member inOthers))

theorem definingType_of_mem_allMembers (membered : graph.Membered) (rostered : graph.Rostered)
    {member : MemberId} (listed : member ∈ (graph.typeAt type).allMembers) :
    (graph.memberAt member).definingType = some type := by
  simp only [NominalType.allMembers, List.mem_append] at listed
  rcases listed with declared | listed | listed | listed
  · obtain ⟨isStatic, entry, inTable, inBucket⟩ := exists_entry_of_mem_declaredForCheck declared
    exact (membered.owned inTable inBucket).owner
  · exact (rostered type .constructor).owner member listed
  · exact (rostered type .initializer).owner member listed
  · exact (rostered type .staticConstructor).owner member listed

theorem nodup_allMembers (membered : graph.Membered) (rostered : graph.Rostered)
    (buckets : ∀ isStatic, ∀ entry ∈ ((graph.typeAt type).declared isStatic).entries,
      graph.Bucket type isStatic entry.1 entry.2) :
    (graph.typeAt type).allMembers.Nodup := by
  have inheritable : ∀ member ∈ (graph.typeAt type).declaredForCheck,
      (graph.memberAt member).kind.isInheritable = true := by
    intro member declared
    obtain ⟨isStatic, entry, inTable, inBucket⟩ := exists_entry_of_mem_declaredForCheck declared
    exact (membered.owned inTable inBucket).inheritable
  have apart : ∀ kind, kind.isInheritable = false →
      (graph.typeAt type).declaredForCheck.Disjoint ((graph.typeAt type).listed kind) := by
    intro kind uninheritable member declared listed
    have holds := inheritable member declared
    rw [(rostered type kind).ofKind member listed, uninheritable] at holds
    cases holds
  have tables : (graph.typeAt type).declaredForCheck.Nodup := by
    rw [NominalType.declaredForCheck, List.nodup_append']
    refine ⟨nodup_declared membered (buckets false), nodup_declared membered (buckets true), ?_⟩
    intro member ofInstance ofClass
    obtain ⟨bucket, inValues, inBucket⟩ := List.mem_flatten.mp ofInstance
    obtain ⟨entry, inTable, rfl⟩ := List.mem_map.mp inValues
    obtain ⟨others, inOthers, inOther⟩ := List.mem_flatten.mp ofClass
    obtain ⟨other, inTables, rfl⟩ := List.mem_map.mp inOthers
    have notStatic := ((buckets false entry inTable).owned member inBucket).staticness
    rw [((buckets true other inTables).owned member inOther).staticness] at notStatic
    cases notStatic
  rw [NominalType.allMembers, List.nodup_append', List.nodup_append', List.nodup_append',
    List.disjoint_append_right, List.disjoint_append_right, List.disjoint_append_right]
  exact ⟨tables, ⟨(rostered type _).nodup, ⟨(rostered type _).nodup, (rostered type _).nodup,
      (rostered type _).disjoint (rostered type _) (by decide)⟩,
      (rostered type _).disjoint (rostered type _) (by decide),
      (rostered type _).disjoint (rostered type _) (by decide)⟩,
    apart _ rfl, apart _ rfl, apart _ rfl⟩

end Standing

/-- All members stand where they belong. -/
structure MembersInPlace (graph : Graph) : Prop where
  names : ∀ type isStatic, ((graph.typeAt type).declared isStatic).keys.Nodup
  buckets : ∀ type isStatic, ∀ entry ∈ ((graph.typeAt type).declared isStatic).entries,
    graph.Bucket type isStatic entry.1 entry.2
  rosters : ∀ type kind, graph.Roster type kind ((graph.typeAt type).listed kind)
  unlisted : ∀ type, (graph.typeAt type).isClass = false →
    ∀ kind, (graph.typeAt type).listed kind = []
  owner : ∀ type, ∀ member ∈ (graph.typeAt type).allMembers,
    (graph.memberAt member).definingType = some type
  once : ∀ type, (graph.typeAt type).allMembers.Nodup
  apart : ∀ first second, first ≠ second →
    (graph.typeAt first).allMembers.Disjoint (graph.typeAt second).allMembers

end Graph

open Nominal.Graph

/-- After every run, all members stand where they belong, if the composed names of the members that
it creates are composed: each name of a table is composed and stands for a single field, or for
methods with different keys and one visibility; the lists of a class hold members of one kind with
different keys; an interface has public fields and methods only; and every member is owned by the
type where it stands, and stands there once and nowhere else. -/
theorem membersInPlace_after {run : List Operation} (admitted : ({} : Graph).admits run = true)
    (stable : ∀ member, Operation.newMember member ∈ run → Text.IsStable member.identifier) :
    (({} : Graph).after run).MembersInPlace := by
  have membered := (sound_after admitted).wellFormed.membered
  have filled := filled_start.after sound_start admitted
  have catalogued := catalogued_start.after sound_start admitted stable
  have buckets := fun type isStatic entry =>
    @Membered.bucket _ type isStatic membered filled catalogued.composed entry
  have owner : ∀ type, ∀ member ∈ ((({} : Graph).after run).typeAt type).allMembers,
      ((({} : Graph).after run).memberAt member).definingType = some type :=
    fun type member => definingType_of_mem_allMembers membered catalogued.rostered
  refine ⟨membered.distinct, buckets, catalogued.rostered,
    fun type => NominalType.listed_of_interface, owner,
    fun type => nodup_allMembers membered catalogued.rostered (buckets type), ?_⟩
  intro first second different member inFirst inSecond
  apply different
  exact Option.some.inj ((owner first member inFirst).symm.trans (owner second member inSecond))

/-- A class with overloads and two constructors, and an interface; several members are offered
twice, or to a type that does not take them. -/
def crowdedPair : List Operation :=
  [.openArena {}, .newClass 0 "Crowd" "m" .pub (.ofList [.root]),
    .newInterface 0 "Mark" "m" .pub {}, .setTrusted 0 true,
    .newMember (.method none .pub false "f" [] none),
    .newMember (.method none .pub false "f" [{ name := "x", type := none }] none),
    .newMember { kind := .constructor, identifier := "new" },
    .newMember
      { kind := .constructor, identifier := "new", parameters := [{ name := "x", type := none }] },
    .newMember { kind := .field, identifier := "y", isStatic := true, definingType := some 0 },
    .declareMember 0 (some 0) false, .declareMember 0 (some 1) false,
    .declareMember 0 (some 1) false, .declareMember 1 (some 1) false,
    .declareMember 0 (some 2) false, .declareMember 0 (some 3) false,
    .declareMember 0 (some 3) false, .declareMember 0 (some 4) true, .declareMember 0 (some 4) true]

theorem membersInPlace_after_crowdedPair :
    ({} : Graph).admits crowdedPair = true ∧
      ((({} : Graph).after crowdedPair).typeAt 0).allMembers = [0, 1, 4, 2, 3] ∧
      (({} : Graph).after crowdedPair).MembersInPlace := by
  have admitted : ({} : Graph).admits crowdedPair = true := by
    decide +kernel
  refine ⟨admitted, by decide +kernel, membersInPlace_after admitted ?_⟩
  intro member created
  simp only [crowdedPair, List.mem_cons, List.not_mem_nil, or_false, reduceCtorEq, false_or,
    Operation.newMember.injEq] at created
  rcases created with rfl | rfl | rfl | rfl | rfl
  all_goals decide +kernel

end Nominal
