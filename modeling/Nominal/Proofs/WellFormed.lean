import Nominal.Proofs.HierarchyInvariant
import Nominal.Proofs.MemberInvariant
import Nominal.Proofs.ViewValues

/-!
# Well-formed graphs

A graph is well formed if its hierarchy and its declared members are in order.  Every change keeps a
graph well formed.  In well-formed graphs nothing above a sealed type changes any more, so a later
graph gives the same value to every view of a sealed type.
-/

namespace Nominal

namespace Graph

/-- The invariant of all operations. -/
structure WellFormed (graph : Graph) : Prop where
  hierarchical : graph.Hierarchical
  membered : graph.Membered

namespace WellFormed

variable {graph later : Graph} {type : TypeId} {change : NominalType → NominalType}

theorem start : ({} : Graph).WellFormed := by
  have blank : ∀ type, ({} : Graph).typeAt type = .blank := fun type =>
    typeAt_of_size_le (Nat.zero_le type)
  have unlinked : ∀ type supertype, ¬ ({} : Graph).Extends type supertype :=
    fun type supertype link => absurd (lt_size_of_extends link) (Nat.not_lt_zero type)
  refine ⟨⟨?_, ?_, ?_, ?_, ?_, ?_, ?_, ?_⟩, ⟨?_, ?_, ?_, ?_⟩⟩
  · exact fun link => absurd link (unlinked _ _)
  · exact fun present => absurd present (Nat.not_lt_zero _)
  · intro type cycle
    obtain ⟨_, link, _⟩ := Relation.TransGen.head'_iff.mp cycle
    exact unlinked _ _ link
  · exact fun _ link => absurd link (unlinked _ _)
  · exact fun isFinal => absurd (lt_size_of_isSealed isFinal) (Nat.not_lt_zero _)
  · exact fun link => absurd (extends_of_parent? link) (unlinked _ _)
  · intro type interface listed
    rw [blank] at listed
    cases listed
  · intro type use id listed
    rw [blank] at listed
    cases listed
  · intro member
    rw [memberAt_of_size_le (Nat.zero_le member)]
    rfl
  · intro type isStatic entry member listed
    exact absurd (lt_size_of_mem_declared listed) (Nat.not_lt_zero _)
  · intro type isStatic
    rw [blank]
    cases isStatic <;> exact List.nodup_nil
  · intro type isStatic name bucket found
    exact absurd (lt_size_of_mem_declared (Table.mem_of_get?_eq_some found)) (Nat.not_lt_zero _)

/-- The invariant is about types, members and places in arenas. -/
theorem of_eq (wellFormed : graph.WellFormed) (types : later.types = graph.types)
    (members : later.members = graph.members)
    (arenas : ∀ arena, (later.arenaAt arena).types = (graph.arenaAt arena).types) :
    later.WellFormed := by
  have typeAt_eq : ∀ type, later.typeAt type = graph.typeAt type := fun type => by
    simp only [typeAt, types]
  have memberAt_eq : ∀ member, later.memberAt member = graph.memberAt member := fun member => by
    simp only [memberAt, members]
  refine ⟨wellFormed.hierarchical.of_eq types arenas, wellFormed.membered.of_tables ?_ ?_⟩
  · refine ⟨?_, ?_, ?_⟩
    · intro type _
      rw [typeAt_eq]
      exact .refl _
    · intro member
      rw [memberAt_eq, types]
      exact wellFormed.membered.within member
    · intro member _
      exact ⟨_, memberAt_eq member, .inl rfl⟩
  · intro type isStatic
    rw [typeAt_eq]

/-- A change of an unsealed type that does not concern its members. -/
theorem modifyType (wellFormed : graph.WellFormed) (isOpen : graph.isSealed type = false)
    (effect : graph.TypeEffect type (graph.typeAt type) (change (graph.typeAt type)))
    (tables : ∀ isStatic, (change (graph.typeAt type)).declared isStatic
      = (graph.typeAt type).declared isStatic) : (graph.modifyType type change).WellFormed := by
  refine ⟨wellFormed.hierarchical.modifyType isOpen effect,
    wellFormed.membered.of_tables (.modifyType wellFormed.membered effect.identity) ?_⟩
  exact fun other isStatic => typeAt_modifyType_kept (·.declared isStatic) (tables isStatic) other

end WellFormed

/-! ## Changes -/

section Changes

variable {graph later : Graph} {deed : Deed} {type : TypeId} {change : NominalType → NominalType}

theorem TypeChange.tables (checked : graph.TypeChange type deed change) (isStatic : Bool) :
    (change (graph.typeAt type)).declared isStatic = (graph.typeAt type).declared isStatic := by
  cases checked with
  | describe _ described => exact described.members isStatic
  | implement => rfl
  | link => exact NominalType.mapClassPart_declared _ _ _
  | extend => rfl
  | freeze => rfl

theorem memberAt_withOwner_cases (graph : Graph) (type : TypeId) (member : MemberId)
    (identifier : String) (known : MemberId) :
    (graph.withOwner type member identifier).memberAt known = graph.memberAt known ∨
      known = member ∧ (graph.withOwner type member identifier).memberAt known
        = { graph.memberAt member with definingType := some type, identifier } := by
  by_cases here : known = member
  · subst here
    by_cases present : known < graph.members.size
    · exact .inr ⟨rfl, memberAt_modifyMember_self present _⟩
    · left
      have absent := Nat.le_of_not_lt present
      rw [memberAt_of_size_le (by simpa [withOwner] using absent), memberAt_of_size_le absent]
  · exact .inl (memberAt_modifyMember_of_ne here _)

/-- Binding a member to a type keeps what types have adopted. -/
theorem Membered.withOwner (membered : graph.Membered) {member : MemberId}
    (adoptable : ∀ owner ∈ (graph.memberAt member).definingType, owner = type) :
    graph.KeepsMembers
      (graph.withOwner type member (Text.canonical (graph.memberAt member).identifier)) := by
  have cases_at := memberAt_withOwner_cases graph type member
    (Text.canonical (graph.memberAt member).identifier)
  refine ⟨fun _ _ => .refl _, ?_, ?_⟩
  · intro known
    rcases cases_at known with same | ⟨rfl, changed⟩
    · rw [same]
      exact membered.within known
    · rw [changed]
      exact membered.within known
  · intro known adopted
    rcases cases_at known with same | ⟨rfl, changed⟩
    · exact ⟨_, same, .inl rfl⟩
    · obtain ⟨owner, owned⟩ := Option.isSome_iff_exists.mp adopted
      obtain rfl := adoptable owner owned
      exact ⟨_, by rw [changed, ← owned], .inr rfl⟩

/-- A bound member plays the same part as before, if its composed name is stable. -/
theorem Membered.alike_withOwner (membered : graph.Membered) (type : TypeId) {member : MemberId}
    (stable : Text.IsStable (graph.memberAt member).identifier) :
    graph.Alike (graph.withOwner type member (Text.canonical (graph.memberAt member).identifier))
      member := by
  have congr : ∀ known : Member, known.isWithin graph.types.size = true →
      known.key (graph.withOwner type member (Text.canonical (graph.memberAt member).identifier))
        = known.key graph := fun _ within => Member.key_congr within fun _ _ => rfl
  have within := membered.within member
  rcases memberAt_withOwner_cases graph type member
    (Text.canonical (graph.memberAt member).identifier) member with same | ⟨_, changed⟩
  · refine ⟨by rw [same], by rw [same], ?_⟩
    rw [keyOf, same, congr _ within]
    rfl
  · refine ⟨by rw [changed], by rw [changed], ?_⟩
    have stillWithin : Member.isWithin graph.types.size { graph.memberAt member with
        definingType := some type
        identifier := Text.canonical (graph.memberAt member).identifier } = true := within
    rw [keyOf, changed, congr _ stillWithin]
    simp only [Member.key, stable.canonical_canonical]
    rfl

/-- What a placement does to the tables of a type. -/
theorem Placement.tables {member : MemberId} {identifier : String}
    (checked : graph.Placement type member identifier change) :
    (∀ old : NominalType, ∀ isStatic, (change old).declared isStatic = old.declared isStatic) ∨
      change = (·.withListed (graph.memberAt member).isStatic identifier member) ∧
      (graph.memberAt member).kind.isInheritable = true ∧
      ((graph.typeAt type).isClass = false → (graph.memberAt member).visibility = .pub) ∧
      ∀ existing ∈ (graph.typeAt type).declaredByName identifier
        (graph.memberAt member).isStatic, graph.Overloads existing member := by
  cases checked with
  | overload inheritable consistent publicly accepted =>
      refine .inr ⟨rfl, inheritable, publicly, ?_⟩
      exact fun existing listed => overloads_of_overloadError? (consistent existing listed)
  | constructor | initializer | staticConstructor =>
      exact .inl fun old isStatic => NominalType.mapClassPart_declared _ _ _

theorem Membered.withAdopted (membered : graph.Membered) {member : MemberId}
    (adoptable : ∀ owner ∈ (graph.memberAt member).definingType, owner = type)
    (checked : graph.Placement type member (Text.canonical (graph.memberAt member).identifier)
      change) :
    (graph.withAdopted type member (Text.canonical (graph.memberAt member).identifier)
      change).Membered := by
  have keeps := membered.withOwner adoptable
  have bound := membered.of_tables keeps fun _ _ => rfl
  rcases checked.tables with kept | ⟨rfl, inheritable, publicly, consistent⟩
  · refine bound.of_tables (.modifyType bound checked.identity) ?_
    intro other isStatic
    rcases typeAt_withAdopted_cases graph type member
      (Text.canonical (graph.memberAt member).identifier) change other
      with same | ⟨rfl, _, changed⟩
    · rw [same]
      rfl
    · rw [changed, kept]
      rfl
  · have changed : (graph.withOwner type member
        (Text.canonical (graph.memberAt member).identifier)).memberAt member
        = { graph.memberAt member with
          definingType := some type
          identifier := Text.canonical (graph.memberAt member).identifier } :=
      memberAt_modifyMember_self (lt_size_of_isInheritable inheritable) _
    refine bound.insert ⟨?_, ?_, ?_, ?_, ?_⟩ ?_
    · rw [changed]
    · rw [changed]
    · rw [changed]
      exact inheritable
    · intro isInterface
      rw [changed]
      exact publicly isInterface
    · intro _
      rw [changed]
    · intro stable existing listed
      have found : existing ∈ (graph.typeAt type).declaredByName
          (Text.canonical (graph.memberAt member).identifier) (graph.memberAt member).isStatic := by
        rw [NominalType.declaredByName, stable]
        exact listed
      have owns := membered.owns_of_mem_bucket listed
      exact (consistent existing found).congr (keeps.alike membered owns stable)
        (membered.alike_withOwner type stable)

/-- Every change keeps a graph well formed. -/
theorem Change.wellFormed (changed : graph.Change deed later) (wellFormed : graph.WellFormed) :
    later.WellFormed := by
  cases changed with
  | openArena settings =>
      refine wellFormed.of_eq rfl rfl fun arena => ?_
      simp only [arenaAt, Array.getElem?_push]
      split
      next last => simp [last]
      next => rfl
  | intern arena name array =>
      refine wellFormed.of_eq rfl rfl fun other => ?_
      simp only [arenaAt, Array.getElem?_modify]
      split
      · cases graph.arenas[other]? <;> rfl
      · rfl
  | start | fail | callHook => exact wellFormed.of_eq rfl rfl fun _ => rfl
  | allocate arena shape identifier moduleName visibility properties present empty =>
      have bare : ∀ isStatic, NominalType.declared
          { identifier := Text.canonical identifier, moduleName, visibility, properties, arena,
            index := (graph.arenaAt arena).types.length, shape } isStatic = {} := by
        intro isStatic
        cases isStatic <;> rfl
      refine ⟨wellFormed.hierarchical.withType present rfl rfl ?_ rfl, ?_⟩
      · rcases empty with rfl | rfl <;> rfl
      · refine wellFormed.membered.of_tables ⟨?_, ?_, ?_⟩ ?_
        · intro type earlier
          rw [typeAt_withType_of_ne (Nat.ne_of_lt earlier)]
          exact .refl _
        · intro member
          exact Member.isWithin_of_le (wellFormed.membered.within member) (by simp)
        · exact fun member _ => ⟨_, rfl, .inl rfl⟩
        · intro type isStatic
          by_cases here : type = graph.types.size
          · rw [here, typeAt_withType_self, typeAt_of_size_le (Nat.le_refl _), bare]
            cases isStatic <;> rfl
          · rw [typeAt_withType_of_ne here]
  | create member within =>
      refine ⟨wellFormed.hierarchical.of_eq rfl fun _ => rfl,
        wellFormed.membered.of_tables ⟨fun _ _ => .refl _, ?_, ?_⟩ fun _ _ => rfl⟩
      · intro known
        by_cases here : known = graph.members.size
        · rw [here, memberAt_withMember_self]
          exact within
        · rw [memberAt_withMember_of_ne here]
          exact wellFormed.membered.within known
      · intro known adopted
        refine ⟨_, memberAt_withMember_of_ne ?_, .inl rfl⟩
        rintro rfl
        rw [memberAt_of_size_le (Nat.le_refl _)] at adopted
        cases adopted
  | reform type deed change present isOpen checked =>
      exact wellFormed.modifyType isOpen checked.effect checked.tables
  | declare type member place present isOpen adoptable checked =>
      refine ⟨?_, wellFormed.membered.withAdopted adoptable checked⟩
      exact (wellFormed.hierarchical.modifyType isOpen checked.effect).of_eq rfl fun _ => rfl

end Changes

/-! ## Views of later graphs -/

namespace WellFormed

variable {graph later : Graph}

/-- A later graph has the same chains of superclasses in a population that parents do not leave, if
it keeps the parents of the population. -/
theorem parentChain_congr (wellFormed : graph.WellFormed) {population : TypeId → Prop}
    (grows : graph.types.size ≤ later.types.size)
    (closed : ∀ type parent, population type → (graph.typeAt type).parent? = some parent →
      population parent)
    (parents : ∀ type, population type →
      (later.typeAt type).parent? = (graph.typeAt type).parent?)
    {type : TypeId} (inside : population type)
    (sized : type < graph.types.size ∨ later.types.size = graph.types.size) :
    later.parentChain type = graph.parentChain type := by
  have congr := parentChainFrom_congr closed parents later.types.size inside
  rcases sized with present | same
  · exact congr.trans (parentChainFrom_eq_parentChain wellFormed.hierarchical.acyclic
      (fun _ _ link => (wellFormed.hierarchical.linked link).1) present grows)
  · rw [parentChain, parentChain, congr, same]

/-- The key of a member that is kept is kept. -/
theorem sameMember (wellFormed : graph.WellFormed)
    (identity : ∀ type, type < graph.types.size →
      (graph.typeAt type).SameIdentity (later.typeAt type))
    {member : MemberId} (same : later.memberAt member = graph.memberAt member) :
    graph.SameMember later member := by
  refine ⟨same, ?_⟩
  unfold keyOf
  rw [same]
  exact Member.key_congr (wellFormed.membered.within member) fun type present =>
    (identity type present).qualifiedName

/-- A later graph agrees on a population that links do not leave, if it keeps the types and the
declared members of the population. -/
theorem agreeOn (wellFormed : graph.WellFormed) {population : TypeId → Prop}
    (grows : graph.types.size ≤ later.types.size)
    (identity : ∀ type, type < graph.types.size →
      (graph.typeAt type).SameIdentity (later.typeAt type))
    (closed : ∀ type supertype, population type → graph.Extends type supertype →
      population supertype)
    (types : ∀ type, population type → later.typeAt type = graph.typeAt type)
    (members : ∀ type isStatic name member, population type →
      graph.Owns type isStatic name member → later.memberAt member = graph.memberAt member)
    (sized : ∀ type, population type →
      type < graph.types.size ∨ later.types.size = graph.types.size) :
    graph.AgreeOn later population := by
  refine ⟨closed, types, ?_, ?_, ?_⟩
  · intro type inside isStatic entry listed member declared
    exact wellFormed.sameMember identity (members type isStatic entry.1 member inside
      (wellFormed.membered.owned listed declared))
  · intro type inside use listed
    unfold AnnotationUse.isInherited
    cases attached : use.type with
    | none => rfl
    | some id =>
        have present := wellFormed.hierarchical.annotated listed attached
        simp only [(identity id present).properties]
  · intro type inside
    exact wellFormed.parentChain_congr grows
      (fun type parent inside link => closed type parent inside (extends_of_parent? link))
      (fun type inside => congrArg NominalType.parent? (types type inside)) inside
      (sized type inside)

/-- Whatever is sealed looks the same in a later graph. -/
theorem agreeOn_sealed (wellFormed : graph.WellFormed) (keeps : graph.KeepsSealed later) :
    graph.AgreeOn later (graph.isSealed · = true) := by
  refine wellFormed.agreeOn keeps.grows keeps.identity ?_ keeps.frozen ?_ ?_
  · exact fun type supertype isFinal link => wellFormed.hierarchical.sealedAbove isFinal link
  · exact fun type _ _ member isFinal owns => keeps.adopted member type owns.owner isFinal
  · exact fun type isFinal => .inl (lt_size_of_isSealed isFinal)

/-- Everything looks the same in a graph with the same types and members. -/
theorem agreeOn_of_eq (wellFormed : graph.WellFormed) (types : later.types = graph.types)
    (members : later.members = graph.members) : graph.AgreeOn later fun _ => True := by
  have typeAt_eq : ∀ type, later.typeAt type = graph.typeAt type := fun type => by
    simp only [typeAt, types]
  refine wellFormed.agreeOn (by rw [types]) ?_ (fun _ _ _ _ => trivial)
    (fun type _ => typeAt_eq type) ?_ fun _ _ => .inr (by rw [types])
  · intro type _
    rw [typeAt_eq]
    exact .refl _
  · intro type isStatic name member _ _
    simp only [memberAt, members]

end WellFormed

end Graph

end Nominal
