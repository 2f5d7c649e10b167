import Nominal.Proofs.InheritanceRules
import Nominal.Proofs.Runs

/-!
# The order of declarations

The check against inherited members is made when a member is added and when a parent is set, and
never again.  What has been checked holds as long as classes are completed from the root down: an
operation is *timely* if nothing below the class that it changes declares a member yet.

In the graph that a run of timely operations leaves, every class still conforms.
-/

namespace Nominal

namespace Graph

/-! ## Classes that a change leaves alone -/

/-- A later graph keeps the parents and the members of some classes; parents do not leave them. -/
structure KeepsClasses (graph later : Graph) (population : TypeId → Prop) : Prop where
  grows : graph.types.size ≤ later.types.size
  present : ∀ {type}, population type → type < graph.types.size
  closed : ∀ {type parent}, population type → (graph.typeAt type).parent? = some parent →
    population parent
  parents : ∀ {type}, population type →
    (later.typeAt type).parent? = (graph.typeAt type).parent?
  tables : ∀ {type}, population type → ∀ isStatic,
    (later.typeAt type).declared isStatic = (graph.typeAt type).declared isStatic
  members : ∀ {type isStatic name member}, population type →
    graph.Owns type isStatic name member → graph.SameMember later member

theorem exists_entry_of_mem_declaredForCheck {type : NominalType} {member : MemberId}
    (listed : member ∈ type.declaredForCheck) :
    ∃ isStatic, ∃ entry ∈ (type.declared isStatic).entries, member ∈ entry.2 := by
  obtain ⟨isStatic, here⟩ : ∃ isStatic, member ∈ (type.declared isStatic).values.flatten := by
    rcases List.mem_append.mp listed with ofInstance | ofClass
    · exact ⟨false, ofInstance⟩
    · exact ⟨true, ofClass⟩
  obtain ⟨bucket, inValues, inBucket⟩ := List.mem_flatten.mp here
  obtain ⟨entry, inEntries, rfl⟩ := List.mem_map.mp inValues
  exact ⟨isStatic, entry, inEntries, inBucket⟩

/-- Listing a member under a name adds no other member to the tables. -/
theorem mem_declaredForCheck_withListed {type : NominalType} {member known : MemberId}
    {isStatic : Bool} {identifier : String}
    (listed : known ∈ (type.withListed isStatic identifier member).declaredForCheck) :
    known = member ∨ known ∈ type.declaredForCheck := by
  obtain ⟨asked, entry, inTable, declared⟩ := exists_entry_of_mem_declaredForCheck listed
  simp only [NominalType.withListed, NominalType.mapDeclared_declared] at inTable
  split at inTable
  next here =>
    rcases Table.mem_set inTable with rfl | earlier
    · rcases List.mem_append.mp declared with inBucket | new
      · cases found : (type.declared asked).get? identifier with
        | none => simp [found] at inBucket
        | some bucket =>
            rw [found, Option.getD_some] at inBucket
            exact .inr (NominalType.mem_declaredForCheck (Table.mem_of_get?_eq_some found)
              inBucket)
      · exact .inl (List.mem_singleton.mp new)
    · exact .inr (NominalType.mem_declaredForCheck earlier declared)
  next => exact .inr (NominalType.mem_declaredForCheck inTable declared)

theorem declaredForCheck_congr {old new : NominalType}
    (tables : ∀ isStatic, new.declared isStatic = old.declared isStatic) :
    new.declaredForCheck = old.declaredForCheck := by
  simp only [NominalType.declaredForCheck, tables]

namespace KeepsClasses

variable {graph later : Graph} {population : TypeId → Prop} {type : TypeId}

theorem of_mem_parentChain (keeps : graph.KeepsClasses later population)
    (inside : population type) {superclass : TypeId}
    (listed : superclass ∈ graph.parentChain type) : population superclass :=
  population_of_mem_parentChainFrom (fun _ _ => keeps.closed) inside listed

theorem ofClass (keeps : graph.KeepsClasses later population) (wellFormed : graph.WellFormed)
    (inside : population type) (isStatic : Bool) :
    ClassMemberMap.ofClass later type isStatic = ClassMemberMap.ofClass graph type isStatic := by
  have chain := wellFormed.parentChain_congr keeps.grows (fun _ _ => keeps.closed)
    (fun _ => keeps.parents) inside (.inl (keeps.present inside))
  unfold ClassMemberMap.ofClass
  rw [chain]
  congr 1
  apply List.map_congr_left
  intro superclass listed
  rw [keeps.tables (keeps.of_mem_parentChain inside listed)]

theorem sameMembers (keeps : graph.KeepsClasses later population) (wellFormed : graph.WellFormed)
    (inside : population type) (isStatic : Bool) :
    (ClassMemberMap.ofClass graph type isStatic).SameMembers graph later := by
  intro rank listed entry inRank member declared
  obtain ⟨superclass, inChain, rfl⟩ := List.mem_map.mp listed
  exact keeps.members (keeps.of_mem_parentChain inside inChain)
    (wellFormed.membered.owned inRank declared)

/-- What a class inherits depends on its parent and on the classes above. -/
theorem inheritedMembers (keeps : graph.KeepsClasses later population)
    (wellFormed : graph.WellFormed)
    (parent : (later.typeAt type).parent? = (graph.typeAt type).parent?)
    (above : ∀ parent, (graph.typeAt type).parent? = some parent → population parent)
    (isStatic : Bool) (name : String) :
    later.inheritedMembers type isStatic name = graph.inheritedMembers type isStatic name ∧
      ∀ inherited ∈ graph.inheritedMembers type isStatic name,
        later.memberAt inherited = graph.memberAt inherited := by
  unfold Graph.inheritedMembers
  rw [parent]
  cases link : (graph.typeAt type).parent? with
  | none => exact ⟨rfl, nofun⟩
  | some parent =>
      have inside := above parent link
      have same := keeps.sameMembers wellFormed inside isStatic
      refine ⟨?_, ?_⟩
      · dsimp only
        rw [keeps.ofClass wellFormed inside]
        exact congrArg (List.map (·.member)) (ClassMemberMap.loadedAtRank_congr same 0 name false)
      · intro inherited listed
        obtain ⟨loaded, listedLoaded, rfl⟩ := List.mem_map.mp listed
        obtain ⟨key, held⟩ := ClassMemberMap.mem_loadedAtRank.mp listedLoaded
        obtain ⟨-, place, -, takes, -⟩ := ClassMemberMap.takesPartAt_of_mem_mergeLevels held
        obtain ⟨superclass, bucket, inChain, found, declared, -⟩ := exists_bucket takes.declared
        have owns := wellFormed.membered.owned (Table.mem_of_get?_eq_some found) declared
        exact (keeps.members (keeps.of_mem_parentChain inside (List.mem_of_getElem? inChain))
          owns).entry

/-- The check of a member looks at its kind, visibility and staticness and at what its class
inherits. -/
theorem ancestorError? (keeps : graph.KeepsClasses later population)
    (wellFormed : graph.WellFormed)
    (parent : (later.typeAt type).parent? = (graph.typeAt type).parent?)
    (above : ∀ parent, (graph.typeAt type).parent? = some parent → population parent)
    {member : MemberId} {owner : Option TypeId} {name : String}
    (same : later.memberAt member
      = { graph.memberAt member with definingType := owner, identifier := name })
    (identifier : String) :
    later.ancestorError? type member identifier = none ↔
      graph.ancestorError? type member identifier = none := by
  obtain ⟨inherited, unchanged⟩ := keeps.inheritedMembers wellFormed parent above
    (graph.memberAt member).isStatic identifier
  unfold Graph.ancestorError?
  simp only [same]
  split
  next => rfl
  next =>
    rw [inherited, List.findSome?_eq_none_iff, List.findSome?_eq_none_iff]
    apply forall₂_congr
    intro known listed
    simp only [inheritanceError?, same, unchanged known listed]

theorem conforms (keeps : graph.KeepsClasses later population) (wellFormed : graph.WellFormed)
    (inside : population type) (conforms : graph.Conforms type) : later.Conforms type := by
  intro member listed
  rw [declaredForCheck_congr (keeps.tables inside)] at listed
  obtain ⟨isStatic, entry, inTable, declared⟩ := exists_entry_of_mem_declaredForCheck listed
  have same := keeps.members inside (wellFormed.membered.owned inTable declared)
  have above : ∀ parent, (graph.typeAt type).parent? = some parent → population parent :=
    fun _ => keeps.closed inside
  rw [keeps.ancestorError? wellFormed (keeps.parents inside) above same.entry, same.entry]
  exact conforms member listed

end KeepsClasses

/-- The class whose parent or members a deed concerns. -/
def Deed.subject? : Deed → Option TypeId
  | link type | declare type => some type
  | describe | implement _ | complete => none

section Untouched

variable {graph later : Graph} {deed : Deed} {type : TypeId} {change : NominalType → NominalType}

theorem TypeChange.parent? (checked : graph.TypeChange type deed change)
    (untouched : type ∉ deed.subject?) :
    (change (graph.typeAt type)).parent? = (graph.typeAt type).parent? := by
  cases checked with
  | describe _ described =>
      simp only [NominalType.parent?, NominalType.classPart, described.shape]
  | implement => rfl
  | link => exact absurd rfl untouched
  | extend => rfl
  | freeze => rfl

/-- A change leaves the types alone that it does not concern. -/
theorem Change.untouched (changed : graph.Change deed later) (present : type < graph.types.size)
    (untouched : type ∉ deed.subject?) :
    (later.typeAt type).parent? = (graph.typeAt type).parent? ∧
      ∀ isStatic,
        (later.typeAt type).declared isStatic = (graph.typeAt type).declared isStatic := by
  cases changed with
  | openArena | intern | create | start | fail | callHook => exact ⟨rfl, fun _ => rfl⟩
  | allocate =>
      rw [typeAt_withType_of_ne (Nat.ne_of_lt present)]
      exact ⟨rfl, fun _ => rfl⟩
  | reform reformed deed change _ _ checked =>
      rcases typeAt_modifyType_cases graph reformed change type with same | ⟨rfl, _, changed⟩
      · rw [same]
        exact ⟨rfl, fun _ => rfl⟩
      · rw [changed]
        exact ⟨checked.parent? untouched, checked.tables⟩
  | declare declaring member place =>
      have different : type ≠ declaring := fun same => untouched (same ▸ rfl)
      have same : (graph.withAdopted declaring member
          (Text.canonical (graph.memberAt member).identifier) place).typeAt type
          = graph.typeAt type := typeAt_modifyType_of_ne different place
      rw [same]
      exact ⟨rfl, fun _ => rfl⟩

/-- A change leaves the members alone that belong to types that it does not concern. -/
theorem Change.memberAt_untouched (changed : graph.Change deed later) {member : MemberId}
    (owner : (graph.memberAt member).definingType = some type) (untouched : type ∉ deed.subject?) :
    later.memberAt member = graph.memberAt member := by
  cases changed with
  | openArena | intern | start | fail | callHook | allocate | reform => rfl
  | create =>
      apply memberAt_withMember_of_ne
      rintro rfl
      rw [memberAt_of_size_le (Nat.le_refl _)] at owner
      cases owner
  | declare declaring adopted place present isOpen adoptable checked =>
      apply memberAt_modifyMember_of_ne
      rintro rfl
      exact untouched (adoptable type owner ▸ rfl)

/-- A change keeps every class that it does not concern. -/
theorem Change.keepsClasses (changed : graph.Change deed later) (wellFormed : graph.WellFormed)
    {population : TypeId → Prop}
    (present : ∀ {type}, population type → type < graph.types.size)
    (closed : ∀ {type parent}, population type → (graph.typeAt type).parent? = some parent →
      population parent)
    (untouched : ∀ {type}, population type → type ∉ deed.subject?) :
    graph.KeepsClasses later population := by
  refine ⟨changed.keepsSealed.grows, present, closed, ?_, ?_, ?_⟩
  · exact fun inside => (changed.untouched (present inside) (untouched inside)).1
  · exact fun inside => (changed.untouched (present inside) (untouched inside)).2
  · intro type isStatic name member inside owns
    exact wellFormed.sameMember changed.keepsSealed.identity
      (changed.memberAt_untouched owns.owner (untouched inside))

end Untouched

/-! ## What has been checked -/

/-- Nothing below a class declares a member. -/
def isSettled (graph : Graph) (type : TypeId) : Bool :=
  (List.range graph.types.size).all fun below =>
    below == type || !(graph.parentChain below).contains type
      || (graph.typeAt below).declaredForCheck.isEmpty

/-- A deed that does not touch what has been checked below. -/
def Deed.Timely (graph : Graph) : Deed → Prop
  | describe | complete => True
  | implement implementation =>
    ∀ serial member, implementation ≠ some (.deferred serial (.addMember member))
  | link type | declare type => graph.isSettled type = true

theorem Deed.Timely.isSettled {graph : Graph} {deed : Deed} {subject : TypeId}
    (timely : deed.Timely graph) (concerns : deed.subject? = some subject) :
    graph.isSettled subject = true := by
  cases deed with
  | link type =>
      obtain rfl := Option.some.inj concerns
      exact timely
  | declare type =>
      obtain rfl := Option.some.inj concerns
      exact timely
  | describe | implement | complete => cases concerns

theorem declaredForCheck_of_isSettled {graph : Graph} {type subject : TypeId}
    (settled : graph.isSettled subject = true) (present : type < graph.types.size)
    (below : subject ∈ graph.parentChain type) (different : type ≠ subject) :
    (graph.typeAt type).declaredForCheck = [] := by
  have here := List.all_eq_true.mp settled type (List.mem_range.mpr present)
  simpa [different, below] using here

/-- No type is exempt from checks, no deferred build declares members, and every class whose members
are checked conforms. -/
structure Checked (graph : Graph) : Prop where
  untrusted : ∀ type, (graph.progressAt type).isTrusted = false
  plain : ∀ type, ¬ graph.AddsMembers type
  conforms : ∀ type, (graph.settingsOf type).skipSanityChecks = false → graph.Conforms type

section Checks

variable {graph later : Graph} {deed : Deed} {type : TypeId}

/-- No change makes a type trusted. -/
theorem Change.untrusted (changed : graph.Change deed later)
    (untrusted : (graph.progressAt type).isTrusted = false) :
    (later.progressAt type).isTrusted = false := by
  cases changed with
  | openArena | intern | create | callHook | reform | declare => exact untrusted
  | start | fail =>
      refine (progress_modifyProgress BuildProgress.isTrusted ?_).trans untrusted
      exact fun _ => rfl
  | allocate =>
      rw [progressAt_withType]
      exact untrusted

theorem Change.plain (changed : graph.Change deed later) (timely : deed.Timely graph)
    (plain : ∀ type, ¬ graph.AddsMembers type) (type : TypeId) : ¬ later.AddsMembers type := by
  rintro ⟨serial, adding, implementation⟩
  have unchanged : (later.typeAt type).implementation = (graph.typeAt type).implementation →
      False := fun same => plain type ⟨serial, adding, same ▸ implementation⟩
  cases changed with
  | openArena | intern | create | callHook | start | fail => exact unchanged rfl
  | allocate =>
      by_cases new : type = graph.types.size
      · rw [new, typeAt_withType_self] at implementation
        cases implementation
      · exact unchanged (by rw [typeAt_withType_of_ne new])
  | reform reformed deed change _ _ checked =>
      rcases typeAt_modifyType_cases graph reformed change type with same | ⟨rfl, _, changed⟩
      · exact unchanged (by rw [same])
      · cases checked with
        | describe _ described => exact unchanged (changed ▸ described.implementation)
        | implement new =>
            rw [changed] at implementation
            exact timely serial adding implementation
        | link => exact unchanged (changed ▸ NominalType.mapClassPart_implementation _ _)
        | extend => exact unchanged (by rw [changed])
        | freeze => exact unchanged (by rw [changed])
  | declare declaring member place _ _ _ checked =>
      exact unchanged (sameLinks_modifyType checked.sameLinks type).implementation

theorem Hierarchical.arena_lt (hierarchical : graph.Hierarchical)
    (present : type < graph.types.size) : (graph.typeAt type).arena < graph.arenas.size := by
  have indexed := hierarchical.indexed present
  apply Nat.lt_of_not_le
  intro absent
  simp [arenaAt, Array.getElem?_eq_none absent] at indexed

/-- The settings of an arena never change. -/
theorem Change.settings (changed : graph.Change deed later) {arena : ArenaId}
    (present : arena < graph.arenas.size) :
    (later.arenaAt arena).settings = (graph.arenaAt arena).settings := by
  have modified : ∀ (other : ArenaId) (update : Arena → Arena),
      (∀ old, (update old).settings = old.settings) →
        ((graph.arenas.modify other update)[arena]?.getD {}).settings
          = (graph.arenaAt arena).settings := by
    intro other update keeps
    rw [arenaAt, Array.getElem?_modify]
    split
    · cases graph.arenas[arena]? with
      | none => rfl
      | some old => exact keeps old
    · rfl
  cases changed with
  | openArena => simp [arenaAt, Array.getElem?_push, Nat.ne_of_lt present]
  | intern other => exact modified other _ fun _ => rfl
  | allocate other => exact modified other _ fun _ => rfl
  | create | callHook | start | fail | reform | declare => rfl

theorem Change.settingsOf (changed : graph.Change deed later) (wellFormed : graph.WellFormed)
    (present : type < graph.types.size) : later.settingsOf type = graph.settingsOf type := by
  unfold Graph.settingsOf
  rw [(changed.keepsSealed.identity type present).arena]
  exact changed.settings (wellFormed.hierarchical.arena_lt present)

theorem declaredForCheck_of_size_le (absent : graph.types.size ≤ type) :
    (graph.typeAt type).declaredForCheck = [] := by
  rw [typeAt_of_size_le absent]
  rfl

/-- A type that was not there before declares nothing. -/
theorem Change.declaredForCheck_new (changed : graph.Change deed later)
    (absent : graph.types.size ≤ type) : (later.typeAt type).declaredForCheck = [] := by
  cases changed with
  | allocate =>
      by_cases new : type = graph.types.size
      · rw [new, typeAt_withType_self]
        rfl
      · rw [typeAt_withType_of_ne new]
        exact declaredForCheck_of_size_le absent
  | openArena | intern | create | callHook | start | fail =>
      exact declaredForCheck_of_size_le absent
  | reform => exact declaredForCheck_of_size_le (by simpa using absent)
  | declare =>
      apply declaredForCheck_of_size_le
      simpa [withAdopted, withOwner, modifyMember] using absent

/-- What stands above a parent stands above its subclass. -/
theorem WellFormed.mem_parentChain_of_parent (wellFormed : graph.WellFormed)
    (present : type < graph.types.size) {parent superclass : TypeId}
    (link : (graph.typeAt type).parent? = some parent)
    (listed : superclass ∈ graph.parentChain parent) : superclass ∈ graph.parentChain type := by
  have longer := parentChainFrom_eq_parentChain wellFormed.hierarchical.acyclic
    (fun _ _ link => (wellFormed.hierarchical.linked link).1) present (Nat.le_succ _)
  rw [← longer, Nat.succ_eq_add_one, parentChainFrom_succ, link]
  exact List.mem_cons_of_mem type listed

/-- A change that concerns a class keeps all classes that do not stand below it. -/
theorem Change.keepsOthers (changed : graph.Change deed later) (wellFormed : graph.WellFormed)
    {subject : TypeId} (concerns : deed.subject? = some subject) :
    graph.KeepsClasses later fun other =>
      other < graph.types.size ∧ subject ∉ graph.parentChain other := by
  refine changed.keepsClasses wellFormed And.left ?_ ?_
  · rintro type parent ⟨present, apart⟩ link
    refine ⟨(wellFormed.hierarchical.linked (extends_of_parent? link)).1, ?_⟩
    exact fun listed => apart (wellFormed.mem_parentChain_of_parent present link listed)
  · rintro type ⟨present, apart⟩ same
    rw [concerns] at same
    obtain rfl := Option.some.inj same
    exact apart (self_mem_parentChain present)

theorem ancestorError?_of_kind {member : MemberId} {identifier : String}
    (kind : (graph.memberAt member).kind.isInheritable = false) :
    graph.ancestorError? type member identifier = none := by
  rw [ancestorError?, if_pos (.inr kind)]

/-- A class that takes a member has checked it. -/
theorem Placement.accepted {member : MemberId} {identifier : String}
    {place : NominalType → NominalType}
    (checked : graph.Placement type member identifier place)
    (checks : graph.checksAncestors type = true) :
    graph.ancestorError? type member identifier = none := by
  cases checked with
  | overload _ _ _ accepted =>
      cases shape : (graph.typeAt type).shape with
      | classShape part =>
          exact accepted (by simp [NominalType.isClass, shape]) checks
      | interfaceShape =>
          have parentless : (graph.typeAt type).parent? = none := by
            simp [NominalType.parent?, NominalType.classPart, shape]
          simp [ancestorError?, inheritedMembers, parentless]
  | constructor kind => exact ancestorError?_of_kind (by rw [kind]; rfl)
  | initializer kind => exact ancestorError?_of_kind (by rw [kind]; rfl)
  | staticConstructor kind => exact ancestorError?_of_kind (by rw [kind]; rfl)

/-- A placed member is the only new one. -/
theorem Placement.mem_declaredForCheck {member known : MemberId} {identifier : String}
    {place : NominalType → NominalType}
    (checked : graph.Placement type member identifier place) {old : NominalType}
    (listed : known ∈ (place old).declaredForCheck) :
    known ∈ old.declaredForCheck ∨ known = member := by
  rcases checked.tables with kept | ⟨rfl, -, -, -⟩
  · rw [declaredForCheck_congr (kept old)] at listed
    exact .inl listed
  · exact (mem_declaredForCheck_withListed listed).symm

/-- The class that a change concerns has checked its members. -/
theorem Change.conforms_subject (changed : graph.Change deed later)
    (wellFormed : graph.WellFormed) {subject : TypeId} (concerns : deed.subject? = some subject)
    (checks : graph.checksAncestors subject = true) (conforms : graph.Conforms subject) :
    later.Conforms subject := by
  have keeps := changed.keepsOthers wellFormed concerns
  cases changed with
  | openArena | intern | create | callHook | start | fail | allocate => cases concerns
  | reform reformed deed change present isOpen checked =>
      cases checked with
      | describe | implement | extend | freeze => cases concerns
      | link parent linkable isClass parentIsClass accepted =>
          obtain rfl := Option.some.inj concerns
          intro member listed
          rw [typeAt_modifyType_self present,
            declaredForCheck_congr (NominalType.mapClassPart_declared _ _)] at listed
          exact accepted checks member listed
  | declare declaring member place present isOpen adoptable checked =>
      obtain rfl := Option.some.inj concerns
      have links := sameLinks_modifyType checked.sameLinks declaring
      have above : ∀ parent, (graph.typeAt declaring).parent? = some parent →
          parent < graph.types.size ∧ declaring ∉ graph.parentChain parent := by
        intro parent link
        refine ⟨(wellFormed.hierarchical.linked (extends_of_parent? link)).1, ?_⟩
        intro back
        exact wellFormed.hierarchical.acyclic declaring
          (.head' (extends_of_parent? link) (reaches_of_mem_parentChainFrom back))
      intro known listed
      have placed : ((graph.withAdopted declaring member
          (Text.canonical (graph.memberAt member).identifier) place).typeAt declaring)
          = place (graph.typeAt declaring) := typeAt_modifyType_self present place
      by_cases new : known = member
      · subst new
        by_cases inheritable : (graph.memberAt known).kind.isInheritable = true
        · have bound : (graph.withAdopted declaring known
              (Text.canonical (graph.memberAt known).identifier) place).memberAt known
              = { graph.memberAt known with
                definingType := some declaring
                identifier := Text.canonical (graph.memberAt known).identifier } :=
            memberAt_modifyMember_self (lt_size_of_isInheritable inheritable) _
          rw [keeps.ancestorError? wellFormed links.parent above bound, bound]
          exact checked.accepted checks
        · apply ancestorError?_of_kind
          rcases memberAt_withOwner_cases graph declaring known
            (Text.canonical (graph.memberAt known).identifier) known with same | ⟨-, bound⟩
          · simpa [withAdopted, same] using inheritable
          · simpa [withAdopted, bound] using inheritable
      · have same : (graph.withAdopted declaring member
            (Text.canonical (graph.memberAt member).identifier) place).memberAt known
            = graph.memberAt known := memberAt_modifyMember_of_ne new _
        rw [placed] at listed
        have earlier := (checked.mem_declaredForCheck listed).resolve_right new
        rw [keeps.ancestorError? wellFormed links.parent above same, same]
        exact conforms known earlier

/-- After a timely change every class whose members are checked conforms. -/
theorem Change.conforms (changed : graph.Change deed later) (timely : deed.Timely graph)
    (wellFormed : graph.WellFormed) (checked : graph.Checked)
    (checksOn : (later.settingsOf type).skipSanityChecks = false) : later.Conforms type := by
  by_cases present : type < graph.types.size
  · rw [changed.settingsOf wellFormed present] at checksOn
    have conforms := checked.conforms type checksOn
    cases concerns : deed.subject? with
    | none =>
        have keeps : graph.KeepsClasses later (· < graph.types.size) :=
          changed.keepsClasses wellFormed id
            (fun _ link => (wellFormed.hierarchical.linked (extends_of_parent? link)).1)
            (by simp [concerns])
        exact keeps.conforms wellFormed present conforms
    | some subject =>
        by_cases below : subject ∈ graph.parentChain type
        · by_cases here : type = subject
          · subst here
            refine changed.conforms_subject wellFormed concerns ?_ conforms
            simp [checksAncestors, checked.untrusted type, checksOn]
          · -- Nothing is declared below the class that changes.
            have settled := timely.isSettled concerns
            have empty := declaredForCheck_of_isSettled settled present below here
            intro member listed
            rw [declaredForCheck_congr (changed.untouched present
              (by simpa [concerns] using Ne.symm here)).2, empty] at listed
            cases listed
        · exact (changed.keepsOthers wellFormed concerns).conforms wellFormed ⟨present, below⟩
            conforms
  · intro member listed
    rw [changed.declaredForCheck_new (Nat.le_of_not_lt present)] at listed
    cases listed

/-- A timely change keeps what has been checked. -/
theorem Change.checked (changed : graph.Change deed later) (timely : deed.Timely graph)
    (wellFormed : graph.WellFormed) (checked : graph.Checked) : later.Checked :=
  ⟨fun type => changed.untrusted (checked.untrusted type), changed.plain timely checked.plain,
    fun _ => changed.conforms timely wellFormed checked⟩

end Checks

/-! ## Steps -/

variable {graph left : Graph}

/-- A graph with the same types and members keeps all classes. -/
theorem KeepsClasses.of_eq (wellFormed : graph.WellFormed) (types : left.types = graph.types)
    (members : left.members = graph.members) :
    graph.KeepsClasses left (· < graph.types.size) := by
  have typeAt_eq : ∀ type, left.typeAt type = graph.typeAt type := fun type => by
    simp only [typeAt, types]
  refine ⟨by rw [types], id, ?_, ?_, ?_, ?_⟩
  · exact fun _ link => (wellFormed.hierarchical.linked (extends_of_parent? link)).1
  · intro type _
    rw [typeAt_eq]
  · intro type _ isStatic
    rw [typeAt_eq]
  · intro type isStatic name member _ _
    refine wellFormed.sameMember ?_ (by simp only [memberAt, members])
    intro type _
    rw [typeAt_eq]
    exact .refl _

/-- What has been checked is about types, members and settings. -/
theorem Checked.of_eq (checked : graph.Checked) (wellFormed : graph.WellFormed)
    (types : left.types = graph.types) (members : left.members = graph.members)
    (arenas : left.arenas = graph.arenas)
    (untrusted : ∀ type, (left.progressAt type).isTrusted = false) : left.Checked := by
  have typeAt_eq : ∀ type, left.typeAt type = graph.typeAt type := fun type => by
    simp only [typeAt, types]
  have keeps := KeepsClasses.of_eq wellFormed types members
  refine ⟨untrusted, ?_, ?_⟩
  · intro type
    rw [AddsMembers, typeAt_eq]
    exact checked.plain type
  · intro type checksOn
    by_cases present : type < graph.types.size
    · rw [settingsOf, arenaAt, typeAt_eq, arenas] at checksOn
      exact keeps.conforms wellFormed present (checked.conforms type checksOn)
    · intro member listed
      rw [typeAt_eq, declaredForCheck_of_size_le (Nat.le_of_not_lt present)] at listed
      cases listed

theorem Checked.of_bare (checked : graph.Checked) (wellFormed : graph.WellFormed)
    (same : left.bare = graph.bare) : left.Checked := by
  refine checked.of_eq wellFormed (types_eq_of_bare same) (members_eq_of_bare same)
    (arenas_eq_of_bare same) ?_
  intro type
  rw [progressAt, progress_eq_of_bare same]
  exact checked.untrusted type

theorem Step.checked {allowed : Deed → Prop} (step : Step allowed graph left)
    (timely : ∀ deed, allowed deed → deed.Timely graph) (wellFormed : graph.WellFormed)
    (checked : graph.Checked) : left.Checked := by
  rcases step.effect with same | ⟨deed, changed, permitted, change, same⟩
  · exact checked.of_bare wellFormed same
  · exact (change.checked (timely deed permitted) wellFormed checked).of_bare
      (change.wellFormed wellFormed) same

/-- Steps that are timely in every graph keep what has been checked. -/
theorem Steps.checked {allowed : Deed → Prop} (steps : Steps allowed graph left)
    (timely : ∀ deed, allowed deed → ∀ graph, deed.Timely graph) (sound : graph.Sound)
    (checked : graph.Checked) : left.Checked := by
  induction steps with
  | refl => exact checked
  | tail earlier step induction =>
      exact step.checked (fun deed permitted => timely deed permitted _)
        (Steps.sound earlier sound).wellFormed induction

end Graph

/-! ## Timely runs -/

namespace Operation

/-- Whether an operation exempts no type from checks and changes no class below which members are
declared. -/
def isTimely (graph : Graph) : Operation → Bool
  | setParent type _ | declareMember type .. => graph.isSettled type
  | setTrusted _ isTrusted => !isTrusted
  | setImplementation _ (some (.deferred _ (.addMember _))) => false
  | _ => true

end Operation

namespace Graph

/-- Whether every operation of a run is timely in the graph in which it is performed. -/
def isTimely (graph : Graph) : List Operation → Bool
  | [] => true
  | operation :: rest => operation.isTimely graph && (operation.perform graph).isTimely rest

end Graph

open Nominal.Graph

variable {graph : Graph}

/-- Taking trust away changes nothing that has been checked. -/
theorem perform_setTrusted_checked (sound : graph.Sound) (checked : graph.Checked)
    (type : TypeId) : ((Operation.setTrusted type false).perform graph).Checked := by
  have distrusted : (graph.modifyProgress type ({ · with isTrusted := false })).Checked := by
    refine checked.of_eq sound.wellFormed rfl rfl rfl ?_
    intro other
    have old := checked.untrusted other
    simp only [progressAt, modifyProgress, Array.getElem?_modify] at old ⊢
    split
    · cases graph.progress[other]? <;> rfl
    · exact old
  unfold Operation.perform setTrusted
  dsimp only
  rw [exec_requireUnsealed_bind]
  split
  · exact checked
  · exact distrusted

theorem Graph.Deed.Seals.timely {deed : Deed} (seals : deed.Seals False) (graph : Graph) :
    deed.Timely graph := by
  cases deed with
  | complete => trivial
  | declare | describe | implement | link => exact seals.elim

/-- A timely operation keeps what has been checked. -/
theorem Operation.perform_checked (sound : graph.Sound) (checked : graph.Checked)
    {operation : Operation} (admissible : operation.isAdmissible graph = true)
    (timely : operation.isTimely graph = true) : (operation.perform graph).Checked := by
  have describing : (∀ type isTrusted, operation ≠ .setTrusted type isTrusted) →
      (∀ deed, operation.Does deed → ∀ graph, deed.Timely graph) →
        (operation.perform graph).Checked := fun untrusting always =>
    (perform_steps sound admissible untrusting).checked always sound checked
  cases operation with
  | setTrusted type isTrusted =>
      obtain rfl : isTrusted = false := by simpa [isTimely] using timely
      exact perform_setTrusted_checked sound checked type
  | setParent type parent =>
      simp only [isAdmissible, Bool.and_eq_true, Option.all_eq_true] at admissible
      refine (setParent_step sound admissible.1 fun id named => admissible.2 id named).checked ?_
        sound.wellFormed checked
      rintro deed rfl
      exact timely
  | declareMember type member isStatic =>
      refine (declareMember_step sound (by simpa [isAdmissible] using admissible) _ _).checked ?_
        sound.wellFormed checked
      rintro deed rfl
      exact timely
  | sealType type =>
      exact (sealType_steps type sound checked.plain).checked (fun _ seals => seals.timely) sound
        checked
  | finishBuild type sealNow =>
      exact (finishBuild_steps type sealNow sound checked.plain).checked
        (fun _ seals => seals.timely) sound checked
  | setImplementation type implementation =>
      apply describing (by simp)
      rintro deed rfl graph serial member rfl
      cases timely
  | _ =>
      apply describing (by simp)
      rintro deed rfl graph
      trivial

namespace Graph

/-- A timely run keeps what has been checked. -/
theorem after_checked (sound : graph.Sound) (checked : graph.Checked) {run : List Operation}
    (admitted : graph.admits run = true) (timely : graph.isTimely run = true) :
    (graph.after run).Checked := by
  induction run generalizing graph with
  | nil => exact checked
  | cons operation rest induction =>
      rw [admits, Bool.and_eq_true] at admitted
      rw [isTimely, Bool.and_eq_true] at timely
      exact induction (operation.perform_sound sound admitted.1).1
        (operation.perform_checked sound checked admitted.1 timely.1) admitted.2 timely.2

theorem checked_start : ({} : Graph).Checked := by
  refine ⟨fun _ => rfl, ?_, ?_⟩
  · rintro type ⟨serial, member, implementation⟩
    rw [typeAt_of_size_le (Nat.zero_le type)] at implementation
    cases implementation
  · intro type _ member listed
    rw [declaredForCheck_of_size_le (Nat.zero_le type)] at listed
    cases listed

/-- All classes of a chain belong to one arena. -/
theorem WellFormed.settingsOf_parentChain (wellFormed : graph.WellFormed)
    {type superclass : TypeId} (listed : superclass ∈ graph.parentChain type) :
    graph.settingsOf superclass = graph.settingsOf type := by
  unfold Graph.settingsOf
  have closed : ∀ other parent, (graph.typeAt other).arena = (graph.typeAt type).arena →
      (graph.typeAt other).parent? = some parent →
        (graph.typeAt parent).arena = (graph.typeAt type).arena := fun other parent same link =>
    (wellFormed.hierarchical.linked (extends_of_parent? link)).2.trans same
  rw [population_of_mem_parentChainFrom closed rfl listed]

/-- After a timely run, all classes above a class whose members are checked conform. -/
theorem conforms_after {run : List Operation} (admitted : ({} : Graph).admits run = true)
    (timely : ({} : Graph).isTimely run = true) {type superclass : TypeId}
    (checksOn : ((({} : Graph).after run).settingsOf type).skipSanityChecks = false)
    (listed : superclass ∈ (({} : Graph).after run).parentChain type) :
    (({} : Graph).after run).Conforms superclass := by
  have sound := sound_after admitted
  apply (after_checked sound_start checked_start admitted timely).conforms
  rw [sound.wellFormed.settingsOf_parentChain listed]
  exact checksOn

end Graph

end Nominal
