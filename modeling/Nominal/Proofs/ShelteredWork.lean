import Nominal.Proofs.ModuleLoads
import Nominal.Proofs.Resolution
import Nominal.Proofs.Rosters

/-!
# Members that a type may have

A type is sheltered by its members if it may mention everything that they mention.  The work on a
type adds only such members to it, and it leaves the members of all other types as they are.
-/

namespace Nominal

open Nominal.Graph

/-! ## The members of a type -/

namespace NominalType

variable {type : NominalType} {member known : MemberId}

theorem mem_allMembers :
    member ∈ type.allMembers ↔
      member ∈ type.declaredForCheck ∨ ∃ kind, member ∈ type.listed kind := by
  simp only [allMembers, List.mem_append]
  constructor
  · rintro (inTables | inConstructors | inInitializers | isStaticConstructor)
    · exact .inl inTables
    · exact .inr ⟨_, inConstructors⟩
    · exact .inr ⟨_, inInitializers⟩
    · exact .inr ⟨_, isStaticConstructor⟩
  · rintro (inTables | ⟨kind, listed⟩)
    · exact .inl inTables
    · cases kind with
      | constructor => exact .inr (.inl listed)
      | initializer => exact .inr (.inr (.inl listed))
      | staticConstructor => exact .inr (.inr (.inr listed))
      | field | method | unknown => cases listed

theorem allMembers_congr {old new : NominalType}
    (tables : ∀ isStatic, new.declared isStatic = old.declared isStatic)
    (shape : ∀ kind, new.listed kind = old.listed kind) : new.allMembers = old.allMembers := by
  simp only [allMembers, declaredForCheck_congr tables, shape]

/-- The supertypes of a type, its extension classes and the classes of its annotations. -/
def headerTypes (type : NominalType) : List TypeId :=
  type.supertypes ++ type.extensionClasses ++ type.annotations.filterMap (·.type)

theorem headerTypes_congr {old new : NominalType} (supertypes : new.supertypes = old.supertypes)
    (extensionClasses : new.extensionClasses = old.extensionClasses)
    (annotations : new.annotations = old.annotations) : new.headerTypes = old.headerTypes := by
  simp only [headerTypes, supertypes, extensionClasses, annotations]

theorem listed_withListed (isStatic : Bool) (identifier : String) (kind : MemberKind) :
    (type.withListed isStatic identifier member).listed kind = type.listed kind := by
  apply listed_of_shape
  unfold withListed mapDeclared
  split <;> rfl

theorem mem_allMembers_mapClassPart {change : ClassPart → ClassPart}
    (adds : ∀ part kind, known ∈ ClassPart.listed (change part) kind →
      known = member ∨ known ∈ part.listed kind)
    (listed : known ∈ (type.mapClassPart change).allMembers) :
    known = member ∨ known ∈ type.allMembers := by
  rw [mem_allMembers, declaredForCheck_congr (type.mapClassPart_declared change)] at listed
  rcases listed with inTables | ⟨kind, inPart⟩
  · exact .inr (mem_allMembers.mpr (.inl inTables))
  · cases isClass : type.isClass with
    | true =>
        rw [listed_mapClassPart isClass] at inPart
        exact (adds _ kind inPart).imp_right fun old => mem_allMembers.mpr (.inr ⟨kind, old⟩)
    | false =>
        rw [mapClassPart_of_interface isClass] at inPart
        exact .inr (mem_allMembers.mpr (.inr ⟨kind, inPart⟩))

/-- Adopting a member adds no other member. -/
theorem mem_allMembers_placed {graph : Graph}
    (listed : known ∈ (graph.placed member type).allMembers) :
    known = member ∨ known ∈ type.allMembers := by
  have inTables : ∀ isStatic identifier,
      known ∈ (type.withListed isStatic identifier member).allMembers →
        known = member ∨ known ∈ type.allMembers := by
    intro isStatic identifier placed
    rcases mem_allMembers.mp placed with inTable | ⟨kind, inPart⟩
    · exact (mem_declaredForCheck_withListed inTable).imp_right
        fun old => mem_allMembers.mpr (.inl old)
    · rw [listed_withListed] at inPart
      exact .inr (mem_allMembers.mpr (.inr ⟨kind, inPart⟩))
  unfold placed at listed
  cases kind : (graph.memberAt member).kind with
  | constructor | initializer | staticConstructor =>
      rw [kind] at listed
      refine mem_allMembers_mapClassPart ?_ listed
      intro part asked inPart
      cases asked <;> simp_all [ClassPart.listed] <;> tauto
  | field | method | unknown =>
      rw [kind] at listed
      exact inTables _ _ listed

theorem headerTypes_placed (graph : Graph) (member : MemberId) (type : NominalType) :
    (graph.placed member type).headerTypes = type.headerTypes := by
  apply headerTypes_congr (Frame.placed_supertypes graph member type)
  all_goals
    unfold placed
    cases (graph.memberAt member).kind with
    | constructor | initializer | staticConstructor => simp
    | field | method | unknown =>
        unfold withListed mapDeclared
        split <;> rfl

end NominalType

/-! ## Sheltered members -/

namespace Graph

/-- A type may mention everything that its members mention. -/
def SheltersMembers (graph : Graph) (type : TypeId) : Prop :=
  ∀ member ∈ (graph.typeAt type).allMembers, member < graph.members.size ∧
    ∀ reference ∈ (graph.memberAt member).mentioned, graph.Mentionable type reference

/-- Array types stay tame, and members stay sheltered.  Types are linked to the same types. -/
structure KeepsShelter (farm : Farm) (graph left : Graph) : Prop where
  names : graph.KeepsNames left
  arrays : graph.TameArrays farm → left.TameArrays farm
  header : ∀ type, (left.typeAt type).headerTypes = (graph.typeAt type).headerTypes
  members : ∀ type < graph.types.size, graph.SheltersMembers type → left.SheltersMembers type

section Shelter

variable {farm : Farm} {type : TypeId} {member : MemberId} {graph left last : Graph}

/-- A type stays sheltered if its members mention what they did, and it gets only members that
mention what it may. -/
theorem SheltersMembers.later (shelters : graph.SheltersMembers type)
    (names : graph.KeepsNames left) (present : type < graph.types.size)
    (count : graph.members.size ≤ left.members.size)
    (mentions : ∀ member < graph.members.size,
      (left.memberAt member).mentioned = (graph.memberAt member).mentioned)
    (listed : ∀ member ∈ (left.typeAt type).allMembers,
      member ∈ (graph.typeAt type).allMembers ∨ member < left.members.size ∧
        ∀ reference ∈ (left.memberAt member).mentioned, left.Mentionable type reference) :
    left.SheltersMembers type := by
  intro member isListed
  rcases listed member isListed with old | new
  · obtain ⟨created, mentionable⟩ := shelters member old
    refine ⟨Nat.lt_of_lt_of_le created count, ?_⟩
    intro reference mentioned
    rw [mentions member created] at mentioned
    exact names.mentionable present (mentionable reference mentioned)
  · exact new

theorem TameArrays.later (tame : graph.TameArrays farm) (names : graph.KeepsNames left)
    (interned : graph.Interned farm)
    (same : (left.arenaAt farm.arena).arrays = (graph.arenaAt farm.arena).arrays) :
    left.TameArrays farm := by
  intro name element base found
  rw [same] at found
  obtain ⟨kept, equal, within, -⟩ := interned _ _ found
  cases equal
  exact names.isTame within (tame _ _ _ found)

namespace KeepsShelter

theorem trans (early : graph.KeepsShelter farm left) (late : left.KeepsShelter farm last) :
    graph.KeepsShelter farm last where
  names := early.names.trans late.names
  arrays tame := late.arrays (early.arrays tame)
  header type := (late.header type).trans (early.header type)
  members type present shelters := late.members type
    (Nat.lt_of_lt_of_le present early.names.grows) (early.members type present shelters)

/-- A change that makes no array type and no member, and lists none. -/
theorem quiet (names : graph.KeepsNames left) (interned : graph.Interned farm)
    (arenas : left.arenas = graph.arenas) (members : left.members = graph.members)
    (listed : ∀ type, (left.typeAt type).allMembers = (graph.typeAt type).allMembers)
    (header : ∀ type, (left.typeAt type).headerTypes = (graph.typeAt type).headerTypes) :
    graph.KeepsShelter farm left where
  names := names
  header := header
  arrays tame := tame.later names interned (by rw [arenaAt, arenas, arenaAt])
  members type present shelters := by
    apply shelters.later names present (by rw [members])
    · intro member _
      rw [memberAt, members, memberAt]
    · intro member isListed
      rw [listed] at isListed
      exact .inl isListed

theorem of_bare {changed : Graph} (keeps : graph.KeepsShelter farm changed)
    (interned : changed.Interned farm) (same : left.bare = changed.bare) :
    graph.KeepsShelter farm left := by
  apply keeps.trans
  apply quiet (.of_types (types_eq_of_bare same)) interned (arenas_eq_of_bare same)
    (members_eq_of_bare same)
  all_goals
    intro type
    rw [typeAt_eq_of_bare same]

theorem refl (interned : graph.Interned farm) : graph.KeepsShelter farm graph :=
  quiet (.of_types rfl) interned rfl rfl (fun _ => rfl) fun _ => rfl

/-- An operation that is refused changes nothing. -/
theorem of_ends {α : Type} {build : Build α} {found : Option Error} {value : α} {changed : Graph}
    {touched : TypeId → Prop} {bound : Nat} (ends : build.Ends graph found value changed)
    (interned : graph.Interned farm) (frame : graph.Frame farm touched bound changed)
    (keeps : graph.KeepsShelter farm changed) : graph.KeepsShelter farm (build.exec graph).2 := by
  have same := ends.left
  cases found with
  | none => exact keeps.of_bare (frame.interned interned) same
  | some error => exact .of_bare (refl interned) interned same

/-- What refuses to change a sealed type leaves it as it is. -/
theorem of_sealed {α : Type} (interned : graph.Interned farm) (isFinal : graph.isSealed type = true)
    (mutation : Mutation) (next : Unit → Build α) :
    graph.KeepsShelter farm ((requireUnsealed type mutation >>= next).exec graph).2 := by
  rw [exec_requireUnsealed_bind, if_pos isFinal]
  exact refl interned

theorem withMember (interned : graph.Interned farm) (added : Member) :
    graph.KeepsShelter farm (graph.withMember added) := by
  have names : graph.KeepsNames (graph.withMember added) := .of_types rfl
  refine ⟨names, fun tame => tame.later names interned rfl, fun _ => rfl, ?_⟩
  intro type present shelters
  apply shelters.later names present
  · simp [Graph.withMember]
  · intro member created
    rw [memberAt_withMember_of_ne (Nat.ne_of_lt created)]
  · exact fun member listed => .inl listed

/-- A type adopts a member that mentions only what the type may mention. -/
theorem withDeclared (interned : graph.Interned farm) (created : member < graph.members.size)
    (mentionable : ∀ reference ∈ (graph.memberAt member).mentioned,
      graph.Mentionable type reference) :
    graph.KeepsShelter farm (graph.withDeclared type member) := by
  have frame : graph.Frame farm (· = type) 0 (graph.withDeclared type member) :=
    .withDeclared (by rfl) (Nat.zero_le member)
  have names := (KeepsNames.of_frame frame).1
  have mentions : ∀ known, ((graph.withDeclared type member).memberAt known).mentioned
      = (graph.memberAt known).mentioned := by
    intro known
    rw [Graph.withDeclared, withAdopted, memberAt_modifyType]
    rcases memberAt_withOwner_cases graph type member
      (Text.canonical (graph.memberAt member).identifier) known with same | ⟨rfl, changed⟩
    · rw [same]
    · rw [changed]
      rfl
  have count : (graph.withDeclared type member).members.size = graph.members.size :=
    size_modifyMember _
  have places := typeAt_withAdopted_cases graph type member
    (Text.canonical (graph.memberAt member).identifier) (graph.placed member)
  refine ⟨names, fun tame => tame.later names interned rfl, ?_, ?_⟩
  · intro other
    rcases places other with same | ⟨rfl, -, changed⟩
    · rw [Graph.withDeclared, same]
    · rw [Graph.withDeclared, changed, NominalType.headerTypes_placed]
  · intro other present shelters
    apply shelters.later names present (Nat.le_of_eq count.symm) fun known _ => mentions known
    intro known listed
    rcases places other with same | ⟨rfl, -, changed⟩
    · rw [Graph.withDeclared, same] at listed
      exact .inl listed
    · rw [Graph.withDeclared, changed] at listed
      rcases NominalType.mem_allMembers_placed listed with rfl | old
      · refine .inr ⟨count.symm ▸ created, ?_⟩
        intro reference mentioned
        rw [mentions] at mentioned
        exact names.mentionable present (mentionable reference mentioned)
      · exact .inl old

/-- A change of a type that lists no member. -/
theorem modifyType (interned : graph.Interned farm) {change : NominalType → NominalType}
    (identity : (graph.typeAt type).SameIdentity (change (graph.typeAt type)))
    (listed : (change (graph.typeAt type)).allMembers = (graph.typeAt type).allMembers)
    (header : (change (graph.typeAt type)).headerTypes = (graph.typeAt type).headerTypes) :
    graph.KeepsShelter farm (graph.modifyType type change) := by
  have names : graph.KeepsNames (graph.modifyType type change) :=
    ⟨by rw [size_modifyType], fun other _ => typeAt_modifyType_related .refl identity other⟩
  exact quiet names interned rfl rfl (typeAt_modifyType_kept NominalType.allMembers listed)
    (typeAt_modifyType_kept NominalType.headerTypes header)

theorem withSealed (interned : graph.Interned farm) (type : TypeId) :
    graph.KeepsShelter farm (graph.withSealed type) := by
  have started : graph.KeepsShelter farm
      (graph.modifyProgress type ({ · with isPreInitialized := true })) :=
    quiet (.of_types rfl) interned rfl rfl (fun _ => rfl) fun _ => rfl
  have kept : (graph.modifyProgress type
      ({ · with isPreInitialized := true })).Interned farm :=
    interned.of_eq rfl rfl
  exact started.trans (.modifyType kept ⟨rfl, rfl, rfl, rfl, rfl, rfl, rfl⟩
    (NominalType.allMembers_congr (fun _ => rfl) fun _ => rfl) rfl)

end KeepsShelter

end Shelter

end Graph

section Work

variable {resolver : Resolver} {type : TypeId} {bound : Nat} {base graph left : Graph}

/-- Making array types shelters every member as before. -/
theorem Sheltered.keepsShelter (sheltered : Sheltered resolver type bound base graph) :
    base.KeepsShelter resolver.farm graph := by
  have names : base.KeepsNames graph := .of_types sheltered.types
  refine ⟨names, fun _ => sheltered.arrays, ?_, ?_⟩
  · intro other
    rw [typeAt, sheltered.types, typeAt]
  · intro other present shelters
    apply shelters.later names present (by rw [sheltered.members])
    · intro member _
      rw [memberAt, sheltered.members, memberAt]
    · intro member listed
      rw [typeAt, sheltered.types] at listed
      exact .inl listed

theorem Sheltered.of_alters (sheltered : Sheltered resolver type bound graph graph)
    (alters : graph.Alters resolver.farm type bound left)
    (keeps : graph.KeepsShelter resolver.farm left) :
    Sheltered resolver type bound left left where
  piece := sheltered.piece.of_alters alters
  plain := sheltered.plain.later sheltered.piece.hosted keeps.names
  distinct := (KeepsNames.of_frame alters.frame).2.distinctNames sheltered.distinct
  types := rfl
  members := rfl
  arrays := keeps.arrays sheltered.arrays

/-- However a computation ends, it has only worked on the type, and it leaves all members sheltered;
what it gives satisfies a condition. -/
structure Build.Shelters {α : Type} (resolver : Resolver) (type : TypeId) (bound : Nat)
    (build : Build α) (graph : Graph) (given : α → Graph → Prop) : Prop where
  works : build.Works resolver type bound graph given
  keeps : graph.KeepsShelter resolver.farm (build.exec graph).2

namespace Build.Shelters

variable {α β : Type} {build : Build α} {given : α → Graph → Prop}

theorem pure (sheltered : Sheltered resolver type bound graph graph) {value : α}
    (holds : given value graph) :
    Build.Shelters resolver type bound (pure value) graph given :=
  ⟨.pure holds, .refl sheltered.piece.hosted.interned⟩

theorem bind (sheltered : Sheltered resolver type bound graph graph)
    (first : build.Shelters resolver type bound graph given) {next : α → Build β}
    {last : β → Graph → Prop}
    (rest : ∀ value left, Sheltered resolver type bound left left → given value left →
      (next value).Shelters resolver type bound left last) :
    Build.Shelters resolver type bound (build >>= next) graph last := by
  obtain ⟨⟨alters, result⟩, keeps⟩ := first
  rcases Build.exec_bind_cases build next graph with
    ⟨failure, left, run, ended⟩ | ⟨value, left, run, ended⟩
  · rw [run] at alters keeps
    refine ⟨⟨?_, ?_⟩, ?_⟩
    · rwa [ended]
    · intro value impossible
      rw [ended] at impossible
      cases impossible
    · rwa [ended]
  · rw [run] at alters keeps result
    have later := rest value left (sheltered.of_alters alters keeps) (result value rfl)
    refine ⟨⟨?_, ?_⟩, ?_⟩
    · rw [ended]
      exact alters.trans later.works.alters
    · rw [ended]
      exact later.works.result
    · rw [ended]
      exact keeps.trans later.keeps

theorem forEach {Item : Type} {body : Item → PUnit → Build (ForInStep PUnit)}
    (each : ∀ item left, Sheltered resolver type bound left left →
      (body item ⟨⟩).Shelters resolver type bound left fun step _ => step = .yield ⟨⟩)
    (sheltered : Sheltered resolver type bound graph graph) (items : List Item) :
    Build.Shelters resolver type bound (forIn items PUnit.unit body) graph fun _ _ => True := by
  induction items generalizing graph with
  | nil => exact .pure sheltered trivial
  | cons item rest ih =>
      rw [List.forIn_cons]
      apply Build.Shelters.bind sheltered (each item graph sheltered)
      rintro step left shelteredLeft rfl
      exact ih shelteredLeft

end Build.Shelters

/-! ## The members of a declaration -/

/-- What a declared member mentions may be mentioned in its type. -/
theorem declaredMember_shelters (sheltered : Sheltered resolver type bound graph graph)
    (declaration : MemberDeclaration) :
    (declaredMember resolver type declaration).Shelters resolver type bound graph
      fun given left => given.definingType = some type ∧
        given.isWithin left.types.size = true ∧
        ∀ reference ∈ given.mentioned, left.Mentionable type reference := by
  have works := declaredMember_works sheltered.piece type declaration
  have resolves := declaredMember_resolves sheltered declaration
  have keeps := resolves.sheltered.keepsShelter
  refine ⟨⟨works.alters, ?_⟩, keeps⟩
  intro member made
  obtain ⟨owned, within⟩ := works.result member made
  refine ⟨owned, within, ?_⟩
  intro reference mentioned
  exact keeps.names.mentionable sheltered.piece.present
    (resolves.result member made reference mentioned)

theorem newMember_shelters (sheltered : Sheltered resolver type bound graph graph) {member : Member}
    (within : member.isWithin graph.types.size = true) :
    Build.Shelters resolver type bound (liftM (newMember member) : Build MemberId) graph
      fun given left => left = graph.withMember member ∧ given = graph.members.size := by
  have run : (liftM (newMember member) : Build MemberId).exec graph
      = (.ok graph.members.size, graph.withMember member) :=
    rfl
  refine ⟨⟨(newMember_works sheltered.piece within).alters, ?_⟩, ?_⟩
  · rw [run]
    rintro _ ⟨⟩
    exact ⟨rfl, rfl⟩
  · rw [run]
    exact .withMember sheltered.piece.hosted.interned member

theorem declareMember_shelters (sheltered : Sheltered resolver type bound graph graph)
    {member : MemberId} (young : bound ≤ member) (created : member < graph.members.size)
    (adoptable : (graph.memberAt member).definingType = some type)
    (mentionable : ∀ reference ∈ (graph.memberAt member).mentioned,
      graph.Mentionable type reference) :
    (declareMember type (some member) (graph.memberAt member).isStatic).Shelters resolver type bound
      graph fun _ _ => True := by
  have interned := sheltered.piece.hosted.interned
  refine ⟨declareMember_works sheltered.piece young adoptable, ?_⟩
  cases isOpen : graph.isSealed type with
  | true => exact .of_sealed interned isOpen _ _
  | false =>
      have owner : ∀ owner ∈ (graph.memberAt member).definingType, owner = type := by
        rw [adoptable]
        rintro _ ⟨⟩
        rfl
      have frame : graph.Frame resolver.farm (· = type) 0 (graph.withDeclared type member) :=
        .withDeclared (by rfl) (Nat.zero_le member)
      exact .of_ends (declareMember_ends sheltered.piece.sound isOpen owner) interned frame
        (.withDeclared interned created mentionable)

theorem declareOne_shelters (sheltered : Sheltered resolver type bound graph graph)
    (declaration : MemberDeclaration) :
    (declareOne resolver type declaration).Shelters resolver type bound graph fun _ _ => True := by
  unfold declareOne
  apply Build.Shelters.bind sheltered (declaredMember_shelters sheltered declaration)
  rintro member next shelteredNext ⟨owned, within, mentionable⟩
  apply Build.Shelters.bind shelteredNext (newMember_shelters shelteredNext within)
  rintro id last shelteredLast ⟨rfl, rfl⟩
  have made : (next.withMember member).memberAt next.members.size = member :=
    memberAt_withMember_self member
  have names : next.KeepsNames (next.withMember member) := .of_types rfl
  have declares := declareMember_shelters shelteredLast shelteredNext.piece.bounded
    (by simp [Graph.withMember]) (by rw [made, owned]) fun reference mentioned =>
      names.mentionable shelteredNext.piece.present (mentionable reference (made ▸ mentioned))
  rwa [made] at declares

theorem markParsed_shelters (sheltered : Sheltered resolver type bound graph graph) :
    (markParsed type).Shelters resolver type bound graph fun _ _ => True := by
  have interned := sheltered.piece.hosted.interned
  refine ⟨markParsed_works sheltered.piece, ?_⟩
  cases isOpen : graph.isSealed type with
  | true => exact .of_sealed interned isOpen _ _
  | false =>
      have parsed : graph.KeepsShelter resolver.farm
          (graph.modifyType type ({ · with state := .parsed })) :=
        .modifyType interned ⟨rfl, rfl, rfl, rfl, rfl, rfl, rfl⟩
          (NominalType.allMembers_congr (fun _ => rfl) fun _ => rfl) rfl
      have frame : graph.Frame resolver.farm (· = type) 0
          (graph.modifyType type ({ · with state := .parsed })) :=
        .modifyType (by rfl) ⟨rfl, rfl, rfl, rfl, rfl, rfl, rfl⟩ rfl
      exact .of_ends (changeType_ends isOpen .markParsed _) interned frame parsed

theorem declareMembers_shelters {entry : PendingType}
    (sheltered : Sheltered resolver entry.type bound graph graph) :
    (declareMembers resolver entry).Shelters resolver entry.type bound graph fun _ _ => True := by
  unfold declareMembers
  apply Build.Shelters.bind sheltered
  · apply Build.Shelters.forEach ?_ sheltered
    intro declaration left shelteredLeft
    apply Build.Shelters.bind shelteredLeft (declareOne_shelters shelteredLeft declaration)
    intro _ next shelteredNext _
    exact .pure shelteredNext rfl
  · intro _ left shelteredLeft _
    exact markParsed_shelters shelteredLeft

/-- However the completion of a type ends, all members are sheltered as before, and the members that
the type has got are sheltered. -/
theorem completeType_keepsShelter {entry : PendingType}
    (unfinished : Unfinished resolver base entry graph) (plain : resolver.Plain graph)
    (distinct : graph.DistinctNames) (arrays : graph.TameArrays resolver.farm) :
    graph.KeepsShelter resolver.farm ((completeType resolver entry).exec graph).2 := by
  have sheltered : Sheltered resolver entry.type base.members.size graph graph :=
    ⟨unfinished.piece, plain, distinct, rfl, rfl, arrays⟩
  obtain ⟨⟨alters, -⟩, keeps⟩ := declareMembers_shelters sheltered
  rw [completeType_eq]
  rcases run : (declareMembers resolver entry).exec graph with ⟨failure | _, next⟩
  · rw [run] at keeps
    rwa [Build.exec_bind_of_error run]
  · rw [run] at alters keeps
    rw [Build.exec_bind_of_ok run]
    apply keeps.trans
    have piece := unfinished.piece.of_alters alters
    have interned := piece.hosted.interned
    have frame : next.Frame resolver.farm (· = entry.type) 0 (next.withSealed entry.type) :=
      .withSealed (by rfl)
    exact .of_ends (sealType_ends (alters.state.trans unfinished.isOpen) piece.fresh
      piece.undeferred) interned frame (.withSealed interned _)

end Work

end Nominal
