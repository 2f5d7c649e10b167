import Nominal.Graph.Views
import Nominal.Proofs.LoadedMembers
import Nominal.Proofs.Traversal

/-!
# The values of views

A `View` is a question about a type whose answer is kept once the type is sealed.  `View.ask` asks
it, and `View.value` computes its answer from the declarations alone, as if nothing had been kept.

The value of a view depends only on the type and on what stands above it: two graphs that agree on
a population of types, which links do not leave, give the same value to every view of its types.
-/

namespace Nominal

/-! ## Questions and answers -/

/-- A question about a type whose answer is kept. -/
inductive View where
  | ancestorPriorities
  | ancestors
  | extensionClasses
  | instanceMemberMap
  | staticMemberMap
  | instanceMembers
  | staticMembers
  | fields
  | methods
  | annotations
  | interfaceMemberMap
  deriving Repr, DecidableEq

namespace View

/-- What a view answers. -/
abbrev Answer : View → Type
  | ancestorPriorities => List TypePriority
  | ancestors | extensionClasses => List TypeId
  | instanceMemberMap | staticMemberMap => ClassMemberMap
  | instanceMembers | staticMembers | fields | methods => List MemberId
  | annotations => List AnnotationUse
  | interfaceMemberMap => InterfaceMemberMap

/-- Asks for a view of a type. -/
def ask (type : TypeId) : (view : View) → Query view.Answer
  | ancestorPriorities => ancestorPrioritiesView type
  | ancestors => ancestorsView type
  | extensionClasses => extensionClassesView type
  | instanceMemberMap => classMemberMapView type false
  | staticMemberMap => classMemberMapView type true
  | instanceMembers => classInstanceMembersView type
  | staticMembers => classStaticMembersView type
  | fields => fieldsView type
  | methods => methodsView type
  | annotations => annotationArrayView type
  | interfaceMemberMap => interfaceMemberMapView type

/-- The answer computed from the declarations. -/
def value (graph : Graph) (type : TypeId) : (view : View) → view.Answer
  | ancestorPriorities => graph.ancestorPriorities type false
  | ancestors => graph.ancestors type false
  | extensionClasses => graph.collectExtensions (type :: graph.ancestors type false)
  | instanceMemberMap => ClassMemberMap.ofClass graph type false
  | staticMemberMap => ClassMemberMap.ofClass graph type true
  | instanceMembers => (ClassMemberMap.ofClass graph type false).visibleMembers graph
  | staticMembers => (ClassMemberMap.ofClass graph type true).visibleMembers graph
  | fields =>
    graph.ofKind .field ((ClassMemberMap.ofClass graph type false).visibleMembers graph)
  | methods =>
    graph.ofKind .method ((ClassMemberMap.ofClass graph type false).visibleMembers graph)
  | annotations => graph.annotationArray type
  | interfaceMemberMap => InterfaceMemberMap.ofInterface graph type

/-- The kept answer. -/
def kept : (view : View) → ViewCache → Option view.Answer
  | ancestorPriorities, cache => cache.ancestorPriorities
  | ancestors, cache => cache.ancestors
  | extensionClasses, cache => cache.allExtensionClasses
  | instanceMemberMap, cache => cache.instanceMemberMap
  | staticMemberMap, cache => cache.staticMemberMap
  | instanceMembers, cache => cache.classInstanceMembers
  | staticMembers, cache => cache.classStaticMembers
  | fields, cache => cache.fields
  | methods, cache => cache.methods
  | annotations, cache => cache.annotationArray
  | interfaceMemberMap, cache => cache.interfaceMemberMap

/-- Keeps an answer. -/
def keep : (view : View) → view.Answer → ViewCache → ViewCache
  | ancestorPriorities, answer, cache => { cache with ancestorPriorities := some answer }
  | ancestors, answer, cache => { cache with ancestors := some answer }
  | extensionClasses, answer, cache => { cache with allExtensionClasses := some answer }
  | instanceMemberMap, answer, cache => { cache with instanceMemberMap := some answer }
  | staticMemberMap, answer, cache => { cache with staticMemberMap := some answer }
  | instanceMembers, answer, cache => { cache with classInstanceMembers := some answer }
  | staticMembers, answer, cache => { cache with classStaticMembers := some answer }
  | fields, answer, cache => { cache with fields := some answer }
  | methods, answer, cache => { cache with methods := some answer }
  | annotations, answer, cache => { cache with annotationArray := some answer }
  | interfaceMemberMap, answer, cache => { cache with interfaceMemberMap := some answer }

theorem kept_empty (view : View) : view.kept {} = none := by
  cases view <;> rfl

/-- Keeping an answer makes it the kept one and leaves the other views as they are. -/
theorem kept_keep (view asked : View) (answer : view.Answer) (cache : ViewCache) :
    asked.kept (view.keep answer cache) = asked.kept cache ∨
      ∃ same : view = asked, asked.kept (view.keep answer cache) = some (same ▸ answer) := by
  cases view <;> cases asked <;> first | exact .inl rfl | exact .inr ⟨rfl, rfl⟩

end View

/-! ## Members that two graphs agree on -/

namespace Graph

/-- A member that looks the same in two graphs, its key included. -/
structure SameMember (graph other : Graph) (member : MemberId) : Prop where
  entry : other.memberAt member = graph.memberAt member
  key : other.keyOf member = graph.keyOf member

end Graph

namespace ClassMemberMap

variable {graph other : Graph}

theorem mergeRank_congr (includeNonVisible : Bool) (distance : Nat) {members : List MemberId}
    (same : ∀ member ∈ members, graph.SameMember other member)
    (loaded : Table MemberKey LoadedMember) :
    mergeRank other includeNonVisible distance members loaded
      = mergeRank graph includeNonVisible distance members loaded := by
  have chosen : members.filter (takesPart other includeNonVisible distance)
      = members.filter (takesPart graph includeNonVisible distance) := by
    apply List.filter_congr
    intro member listed
    simp only [takesPart, (same member listed).entry]
  unfold mergeRank
  rw [chosen]
  apply List.foldl_ext
  intro loaded member listed
  rw [(same member (List.mem_of_mem_filter listed)).key]

/-- Both graphs agree on all members of a map. -/
def SameMembers (graph other : Graph) (map : ClassMemberMap) : Prop :=
  ∀ rank ∈ map.ranks, ∀ entry ∈ rank.2.entries, ∀ member ∈ entry.2,
    graph.SameMember other member

theorem exists_entry_of_mem_buckets {map : ClassMemberMap} {rank : Nat} {name : String}
    {bucket : List MemberId} (listed : bucket ∈ map.buckets rank name) {member : MemberId}
    (declared : member ∈ bucket) :
    ∃ level ∈ map.ranks, ∃ entry ∈ level.2.entries, member ∈ entry.2 := by
  obtain ⟨level, dropped, rfl⟩ := List.mem_map.mp listed
  refine ⟨level, List.mem_of_mem_drop dropped, ?_⟩
  cases found : level.2.get? (Text.canonical name) with
  | none => simp [found] at declared
  | some members =>
      rw [found, Option.getD_some] at declared
      exact ⟨_, Table.mem_of_get?_eq_some found, declared⟩

theorem mergeLevels_congr (includeNonVisible : Bool) (distance : Nat)
    {levels : List (List MemberId)}
    (same : ∀ bucket ∈ levels, ∀ member ∈ bucket, graph.SameMember other member) :
    mergeLevels other includeNonVisible distance levels
      = mergeLevels graph includeNonVisible distance levels := by
  induction levels generalizing distance with
  | nil => rfl
  | cons bucket farther induction =>
      rw [mergeLevels, mergeLevels, mergeRank_congr _ _ (same bucket List.mem_cons_self),
        induction (distance + 1) fun bucket listed => same bucket (List.mem_cons_of_mem _ listed)]

theorem loadedAtRank_congr {map : ClassMemberMap} (same : map.SameMembers graph other)
    (rank : Nat) (name : String) (includeNonVisible : Bool) :
    map.loadedAtRank other rank name includeNonVisible
      = map.loadedAtRank graph rank name includeNonVisible := by
  rw [loadedAtRank_eq, loadedAtRank_eq, mergeLevels_congr]
  intro bucket listed member declared
  obtain ⟨level, inMap, entry, inLevel, inEntry⟩ := exists_entry_of_mem_buckets listed declared
  exact same level inMap entry inLevel member inEntry

theorem names_congr {map : ClassMemberMap} (same : map.SameMembers graph other) :
    map.names other = map.names graph := by
  unfold names
  apply List.foldl_ext
  intro found entry listed
  obtain ⟨rank, rankListed, entryListed⟩ := List.mem_flatMap.mp listed
  have sameHidden : allHidden other entry.2 = allHidden graph entry.2 := by
    unfold allHidden
    rw [Bool.eq_iff_iff, List.all_eq_true, List.all_eq_true]
    apply forall₂_congr
    intro member inEntry
    rw [(same rank rankListed entry entryListed member inEntry).entry]
  rw [sameHidden]

theorem visibleMembers_congr {map : ClassMemberMap} (same : map.SameMembers graph other) :
    map.visibleMembers other = map.visibleMembers graph := by
  have loaded : (fun name => (loadedByName other map name false).map (·.member))
      = fun name => (loadedByName graph map name false).map (·.member) := by
    funext name
    exact congrArg (List.map (·.member)) (loadedAtRank_congr same 0 name false)
  unfold visibleMembers
  rw [names_congr same, loaded]

end ClassMemberMap

namespace InterfaceMemberMap

variable {graph other : Graph}

theorem addMember_congr (interface : TypeId) (name : String) (map : InterfaceMemberMap)
    {member : MemberId} (same : graph.SameMember other member) :
    addMember other interface name map member = addMember graph interface name map member := by
  simp only [addMember, same.entry, same.key]

theorem addInterface_congr (map : InterfaceMemberMap) {interface : TypeId}
    (sameType : other.typeAt interface = graph.typeAt interface)
    (sameMembers : ∀ entry ∈ (graph.typeAt interface).instanceMembers.entries,
      ∀ member ∈ entry.2, graph.SameMember other member) :
    addInterface other map interface = addInterface graph map interface := by
  unfold addInterface
  rw [sameType]
  apply List.foldl_ext
  intro map entry listed
  apply List.foldl_ext
  intro map member declared
  exact addMember_congr interface entry.1 map (sameMembers entry listed member declared)

end InterfaceMemberMap

/-! ## Graphs that agree on a population -/

namespace Graph

/-- Both graphs agree on the types of a population, on the members that they declare and on which
of their annotations are inherited.  Links do not leave the population. -/
structure AgreeOn (graph other : Graph) (population : TypeId → Prop) : Prop where
  closed : ∀ type supertype, population type → graph.Extends type supertype →
    population supertype
  types : ∀ type, population type → other.typeAt type = graph.typeAt type
  members : ∀ type, population type → ∀ isStatic,
    ∀ entry ∈ ((graph.typeAt type).declared isStatic).entries, ∀ member ∈ entry.2,
      graph.SameMember other member
  inherits : ∀ type, population type → ∀ use ∈ (graph.typeAt type).annotations,
    use.isInherited other = use.isInherited graph
  chains : ∀ type, population type → other.parentChain type = graph.parentChain type

theorem ofKind_congr {graph other : Graph} (kind : MemberKind) {members : List MemberId}
    (same : ∀ member ∈ members, other.memberAt member = graph.memberAt member) :
    other.ofKind kind members = graph.ofKind kind members := by
  apply List.filter_congr
  intro member listed
  rw [same member listed]

theorem inheritAnnotations_congr {graph other : Graph} {superclasses : List TypeId}
    (types : ∀ type ∈ superclasses, other.typeAt type = graph.typeAt type)
    (inherits : ∀ type ∈ superclasses, ∀ use ∈ (graph.typeAt type).annotations,
      use.isInherited other = use.isInherited graph) (found : List AnnotationUse) :
    other.inheritAnnotations found superclasses = graph.inheritAnnotations found superclasses := by
  induction superclasses generalizing found with
  | nil => rfl
  | cons superclass rest induction =>
      have grown : ∀ found : List AnnotationUse,
          (other.typeAt superclass).annotations.foldl
            (fun found use => if use.isInherited other ∧ use.type ∉ found.map (·.type)
              then found ++ [use] else found) found
          = (graph.typeAt superclass).annotations.foldl
            (fun found use => if use.isInherited graph ∧ use.type ∉ found.map (·.type)
              then found ++ [use] else found) found := by
        intro found
        rw [types superclass List.mem_cons_self]
        apply List.foldl_ext
        intro found use listed
        rw [inherits superclass List.mem_cons_self use listed]
      simp only [inheritAnnotations, grown]
      exact induction (fun type listed => types type (List.mem_cons_of_mem _ listed))
        (fun type listed => inherits type (List.mem_cons_of_mem _ listed)) _

namespace AgreeOn

variable {graph other : Graph} {population : TypeId → Prop} {type : TypeId}

theorem of_reaches (agree : graph.AgreeOn other population) (member : population type)
    {ancestor : TypeId} (path : graph.Reaches type ancestor) : population ancestor := by
  induction path with
  | refl => exact member
  | tail _ link reached => exact agree.closed _ _ reached link

theorem of_mem_parentChain (agree : graph.AgreeOn other population) (member : population type)
    {superclass : TypeId} (listed : superclass ∈ graph.parentChain type) :
    population superclass :=
  agree.of_reaches member (reaches_of_mem_parentChainFrom listed)

theorem supertypesOf (agree : graph.AgreeOn other population) (type : TypeId)
    (member : population type) : other.supertypesOf type = graph.supertypesOf type := by
  simp only [Graph.supertypesOf, agree.types type member]

theorem ancestorPriorities (agree : graph.AgreeOn other population) (member : population type) :
    other.ancestorPriorities type false = graph.ancestorPriorities type false :=
  ancestorPriorities_congr false agree.closed agree.supertypesOf member

theorem ancestors (agree : graph.AgreeOn other population) (member : population type) :
    other.ancestors type false = graph.ancestors type false := by
  simp only [Graph.ancestors, agree.ancestorPriorities member]

theorem extensionClasses (agree : graph.AgreeOn other population) (member : population type) :
    other.collectExtensions (type :: other.ancestors type false)
      = graph.collectExtensions (type :: graph.ancestors type false) := by
  rw [agree.ancestors member]
  unfold collectExtensions
  congr 1
  apply List.flatMap_congr
  intro owner listed
  have inPopulation : population owner := by
    rcases List.mem_cons.mp listed with rfl | above
    · exact member
    · exact agree.of_reaches member (reaches_of_mem_ancestors above)
  rw [agree.types owner inPopulation]

theorem classMemberMap (agree : graph.AgreeOn other population) (member : population type)
    (isStatic : Bool) :
    ClassMemberMap.ofClass other type isStatic = ClassMemberMap.ofClass graph type isStatic := by
  unfold ClassMemberMap.ofClass
  rw [agree.chains type member]
  congr 1
  apply List.map_congr_left
  intro superclass listed
  rw [agree.types superclass (agree.of_mem_parentChain member listed)]

theorem sameMembers (agree : graph.AgreeOn other population) (member : population type)
    (isStatic : Bool) :
    (ClassMemberMap.ofClass graph type isStatic).SameMembers graph other := by
  intro rank listed entry inRank declared inEntry
  obtain ⟨superclass, inChain, rfl⟩ := List.mem_map.mp listed
  exact agree.members superclass (agree.of_mem_parentChain member inChain) isStatic entry inRank
    declared inEntry

theorem visibleMembers (agree : graph.AgreeOn other population) (member : population type)
    (isStatic : Bool) :
    (ClassMemberMap.ofClass other type isStatic).visibleMembers other
      = (ClassMemberMap.ofClass graph type isStatic).visibleMembers graph := by
  rw [agree.classMemberMap member,
    ClassMemberMap.visibleMembers_congr (agree.sameMembers member isStatic)]

theorem ofKind_visibleMembers (agree : graph.AgreeOn other population)
    (member : population type) (kind : MemberKind) :
    other.ofKind kind ((ClassMemberMap.ofClass other type false).visibleMembers other)
      = graph.ofKind kind ((ClassMemberMap.ofClass graph type false).visibleMembers graph) := by
  rw [agree.visibleMembers member]
  apply ofKind_congr
  intro visible listed
  obtain ⟨name, _, loaded⟩ := List.mem_flatMap.mp listed
  obtain ⟨seen, inLookup, rfl⟩ := List.mem_map.mp loaded
  obtain ⟨_, held⟩ := (ClassMemberMap.mem_loadedAtRank).mp inLookup
  obtain ⟨_, place, _, takes, _⟩ := ClassMemberMap.takesPartAt_of_mem_mergeLevels held
  cases bucket : ((ClassMemberMap.ofClass graph type false).buckets 0 name)[place]? with
  | none => exact absurd takes.declared (by simp [bucket])
  | some members =>
      have declared : seen.member ∈ members := by simpa [bucket] using takes.declared
      obtain ⟨level, inMap, entry, inLevel, inEntry⟩ :=
        ClassMemberMap.exists_entry_of_mem_buckets (List.mem_of_getElem? bucket) declared
      exact (agree.sameMembers member false level inMap entry inLevel _ inEntry).entry

theorem annotationArray (agree : graph.AgreeOn other population) (member : population type) :
    other.annotationArray type = graph.annotationArray type := by
  unfold Graph.annotationArray
  rw [agree.chains type member, agree.types type member]
  have inPopulation : ∀ superclass ∈ (graph.parentChain type).tail, population superclass :=
    fun superclass listed => agree.of_mem_parentChain member (List.mem_of_mem_tail listed)
  exact inheritAnnotations_congr
    (fun superclass listed => agree.types superclass (inPopulation superclass listed))
    (fun superclass listed => agree.inherits superclass (inPopulation superclass listed)) _

theorem interfaceMemberMap (agree : graph.AgreeOn other population) (member : population type) :
    InterfaceMemberMap.ofInterface other type = InterfaceMemberMap.ofInterface graph type := by
  apply InterfaceMemberMap.ofInterface_congr agree.closed
    (fun type inside => congrArg NominalType.interfaces (agree.types type inside)) _ member
  intro interface map inPopulation
  exact InterfaceMemberMap.addInterface_congr map (agree.types interface inPopulation)
    (agree.members interface inPopulation false)

/-- Graphs that agree on a population give the same value to every view of its types. -/
theorem value (agree : graph.AgreeOn other population) (member : population type)
    (view : View) : view.value other type = view.value graph type := by
  cases view with
  | ancestorPriorities => exact agree.ancestorPriorities member
  | ancestors => exact agree.ancestors member
  | extensionClasses => exact agree.extensionClasses member
  | instanceMemberMap => exact agree.classMemberMap member false
  | staticMemberMap => exact agree.classMemberMap member true
  | instanceMembers => exact agree.visibleMembers member false
  | staticMembers => exact agree.visibleMembers member true
  | fields => exact agree.ofKind_visibleMembers member .field
  | methods => exact agree.ofKind_visibleMembers member .method
  | annotations => exact agree.annotationArray member
  | interfaceMemberMap => exact agree.interfaceMemberMap member

end AgreeOn

end Graph

end Nominal
