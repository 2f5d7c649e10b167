import Nominal.Proofs.MirroredStubs

/-!
# Linking in another order

A module lists its types in some order, and they are linked in that order.  Another order leads to
the same links.  Whether a link closes a cycle is seen by one of the types on that cycle, whichever
comes last.  Whether an annotation names an attribute class, however, is decided by the links that
have been made so far; the order does not matter if no annotation class, and nothing above it, is
declared after the types that use it.
-/

namespace Nominal

open Nominal.Graph

theorem Graph.reaches_of_supertypesOf {graph other : Graph} {type ancestor : TypeId}
    (path : graph.Reaches type ancestor)
    (same : ∀ between, graph.Reaches type between →
      other.supertypesOf between = graph.supertypesOf between) :
    other.Reaches type ancestor := by
  induction path with
  | refl => exact .refl
  | tail earlier link ih =>
      refine ih.tail ?_
      rw [Extends, same _ earlier]
      exact link

theorem Graph.reaches_congr {graph other : Graph} (same : other.supertypesOf = graph.supertypesOf) :
    other.Reaches = graph.Reaches := by
  unfold Graph.Reaches Graph.Extends
  rw [same]

theorem Graph.reaches_of_reaches {graph : Graph} {type ancestor : TypeId}
    (found : graph.reaches type ancestor = true) : graph.Reaches type ancestor := by
  obtain ⟨start, listed, path⟩ := reaches_of_reachesFrom found
  rwa [List.mem_singleton.mp listed] at path

/-! ## Some of the links -/

section Lists

variable {resolver : Resolver} {graph : Graph} {entry : PendingType}

theorem withLinks_append (before after : List PendingType) :
    resolver.withLinks graph (before ++ after)
      = resolver.withLinks (resolver.withLinks graph before) after := by
  induction before generalizing graph with
  | nil => rfl
  | cons entry rest ih => exact ih

theorem linksFailure?_eq_none_iff {entries : List PendingType} :
    resolver.linksFailure? graph entries = none ↔
      ∀ before entry after, entries = before ++ entry :: after →
        resolver.linkFailure? (resolver.withLinks graph before) entry.type entry.declaration
          = none := by
  induction entries generalizing graph with
  | nil => simp [Resolver.linksFailure?]
  | cons first rest ih =>
      rw [Resolver.linksFailure?, Option.or_eq_none_iff, Option.map_eq_none_iff, ih]
      constructor
      · rintro ⟨accepted, others⟩ before entry after equal
        cases before with
        | nil =>
            cases equal
            exact accepted
        | cons _ before =>
            cases equal
            exact others before entry after rfl
      · intro each
        refine ⟨each [] first rest rfl, ?_⟩
        rintro before entry after rfl
        exact each (first :: before) entry after rfl

theorem members_withLinks (entries : List PendingType) :
    (resolver.withLinks graph entries).members = graph.members := by
  induction entries generalizing graph with
  | nil => rfl
  | cons entry rest ih => exact ih

theorem arenas_withLinks (entries : List PendingType) :
    (resolver.withLinks graph entries).arenas = graph.arenas := by
  induction entries generalizing graph with
  | nil => rfl
  | cons entry rest ih => exact ih

theorem sameTypes_withLinks (entries : List PendingType) :
    graph.SameTypes (resolver.withLinks graph entries) := by
  induction entries generalizing graph with
  | nil => exact .refl graph
  | cons entry rest ih =>
      exact (Mirror.sameTypes_modifyType (resolver.linked_identity entry.declaration)).trans ih

/-- The links that have been made so far are links of a graph without cycles. -/
theorem hierarchical_withLinks {base : Graph} {entries : List PendingType}
    (grows : base.Grows resolver.farm graph)
    (ready : ∀ entry ∈ entries, Unfinished resolver base entry graph)
    (accepted : resolver.linksFailure? graph entries = none) :
    (resolver.withLinks graph entries).Hierarchical := by
  obtain ⟨left, -, leftGrows, -, -, -, complete⟩ := linkTypes_exec entries grows ready
  exact (leftGrows.houses.sound.wellFormed.of_bare (complete accepted).1.symm).hierarchical

/-- A type that gets its supertypes after some others have been linked. -/
def Resolver.withNextSupertypes (resolver : Resolver) (graph : Graph) (before : List PendingType)
    (entry : PendingType) : Graph :=
  (resolver.withLinks graph before).modifyType entry.type
    (resolver.withSupertypes entry.declaration)

theorem sameTypes_withNextSupertypes (before : List PendingType) (entry : PendingType) :
    graph.SameTypes (resolver.withNextSupertypes graph before entry) :=
  (sameTypes_withLinks before).trans
    (Mirror.sameTypes_modifyType (resolver.withSupertypes_identity entry.declaration))

/-- A type is linked after some of the others. -/
theorem exists_split_of_linksFailure? {entries : List PendingType}
    (accepted : resolver.linksFailure? graph entries = none) (waiting : entry ∈ entries) :
    ∃ before after, entries = before ++ entry :: after ∧
      resolver.supertypesFailure? (resolver.withLinks graph before) entry.type entry.declaration
        = none ∧
      resolver.partsFailure? (resolver.withNextSupertypes graph before entry) entry.type
        entry.declaration = none := by
  obtain ⟨before, after, split⟩ := List.append_of_mem waiting
  have found := linksFailure?_eq_none_iff.mp accepted before entry after split
  rw [Resolver.linkFailure?, Option.or_eq_none_iff] at found
  exact ⟨before, after, split, found⟩

/-- Extension classes and annotations are no supertypes. -/
theorem supertypesOf_withNextSupertypes (before : List PendingType) (entry : PendingType) :
    (resolver.withNextSupertypes graph before entry).supertypesOf
      = (resolver.withLinks graph (before ++ [entry])).supertypesOf := by
  have parts : resolver.withLinks graph (before ++ [entry])
      = (resolver.withNextSupertypes graph before entry).modifyType entry.type
          (resolver.withParts entry.declaration) := by
    rw [withLinks_append, Resolver.withNextSupertypes, modifyType_modifyType]
    rfl
  rw [parts]
  exact (supertypesOf_modifyType rfl).symm

section Partial

variable {before after : List PendingType}
  (distinct : ((before ++ after).map (·.type)).Nodup)
  (unlinked : ∀ entry ∈ after, graph.supertypesOf entry.type = [])

theorem supertypesOf_withLinks {type : TypeId} (linked : type ∉ after.map (·.type)) :
    (resolver.withLinks graph before).supertypesOf type
      = (resolver.withLinks graph (before ++ after)).supertypesOf type := by
  rw [withLinks_append, supertypesOf, supertypesOf, typeAt_withLinks_of_not_mem linked]

include distinct unlinked

theorem extends_withLinks_append {lower upper : TypeId}
    (link : (resolver.withLinks graph before).Extends lower upper) :
    (resolver.withLinks graph (before ++ after)).Extends lower upper := by
  by_cases waiting : lower ∈ after.map (·.type)
  · obtain ⟨entry, listed, rfl⟩ := List.mem_map.mp waiting
    have apart : entry.type ∉ before.map (·.type) := by
      rw [List.map_append, List.nodup_append] at distinct
      exact fun early => distinct.2.2 _ early _ waiting rfl
    rw [Extends, supertypesOf, typeAt_withLinks_of_not_mem apart, ← supertypesOf,
      unlinked entry listed] at link
    cases link
  · rwa [Extends, ← supertypesOf_withLinks waiting]

theorem reaches_withLinks_append {type ancestor : TypeId}
    (path : (resolver.withLinks graph before).Reaches type ancestor) :
    (resolver.withLinks graph (before ++ after)).Reaches type ancestor :=
  Relation.ReflTransGen.mono (fun _ _ => extends_withLinks_append distinct unlinked) _ _ path

end Partial

end Lists

/-! ## Refused links -/

namespace Mirror

section Accepted

variable {mirror : Mirror} {resolver image : Resolver} {graph other : Graph}
  (names : mirror.ShowsResolver resolver image) (frames : mirror.Frames graph other) {self : TypeId}
  (here : self < mirror.source.types.size) {declaration : TypeDeclaration}

section Checks

include frames here

theorem Frames.typeVisibilityError?_eq_none {type : TypeId}
    (present : type < mirror.source.types.size)
    (visible : graph.typeVisibilityError? { referencing := some self } (.nominal type) = none) :
    other.typeVisibilityError? { referencing := some (mirror.rename self) }
      (.nominal (mirror.rename type)) = none :=
  eq_none_of_rel (frames.typeVisibilityError? frames here present) visible

/-- A parent that is accepted in one graph is accepted in the other, unless it closes a cycle. -/
theorem Frames.parentError?_eq_none {parent : TypeId} (present : parent < mirror.source.types.size)
    (acyclic : other.reaches (mirror.rename parent) (mirror.rename self) = false)
    (accepted : graph.parentError? self parent = none) :
    other.parentError? (mirror.rename self) (mirror.rename parent) = none := by
  unfold Graph.parentError? at accepted ⊢
  rw [acyclic, (frames.face present).properties, if_neg Bool.false_ne_true]
  split at accepted
  · cases accepted
  · split at accepted
    · cases accepted
    next extensible =>
      rw [if_neg extensible]
      exact frames.typeVisibilityError?_eq_none here present accepted

theorem Frames.interfaceError?_eq_none {interface : TypeId}
    (present : interface < mirror.source.types.size)
    (acyclic : other.reaches (mirror.rename interface) (mirror.rename self) = false)
    (accepted : graph.interfaceError? self interface = none) :
    other.interfaceError? (mirror.rename self) (mirror.rename interface) = none := by
  unfold Graph.interfaceError? at accepted ⊢
  rw [acyclic, if_neg Bool.false_ne_true]
  split at accepted
  · cases accepted
  · exact frames.typeVisibilityError?_eq_none here present accepted

end Checks

include names frames here

theorem ShowsResolver.kindFailure?_eq_none {isClass : Bool} {name : String}
    (accepted : resolver.kindFailure? graph self isClass name = none) :
    image.kindFailure? other (mirror.rename self) isClass name = none :=
  eq_none_of_rel (ShowsResolver.kindFailure? frames here names frames isClass name) accepted

/-- Supertypes that are accepted in one graph are accepted in the other, unless they close a cycle.
-/
theorem ShowsResolver.supertypesFailure?_eq_none
    (accepted : resolver.supertypesFailure? graph self declaration = none)
    (acyclic : ∀ supertype ∈ resolver.declaredSupertypes declaration,
      other.reaches (mirror.rename supertype) (mirror.rename self) = false) :
    image.supertypesFailure? other (mirror.rename self) declaration = none := by
  have finds := Resolver.findsSupertypes accepted
  rw [Resolver.supertypesFailure?, Option.or_eq_none_iff, List.findSome?_eq_none_iff] at accepted ⊢
  obtain ⟨parentAccepted, interfacesAccepted⟩ := accepted
  refine ⟨?_, ?_⟩
  · cases isInterface : declaration.isInterface with
    | true => rfl
    | false =>
        obtain ⟨present, shown⟩ := names.declaredParent finds isInterface
        have asked := acyclic (resolver.declaredParent declaration)
          (by simp [Resolver.declaredSupertypes, isInterface])
        simp only [isInterface, Bool.false_eq_true, if_false, Resolver.parentFailure?,
          Option.or_eq_none_iff, Option.map_eq_none_iff] at parentAccepted ⊢
        obtain ⟨⟨root, parent⟩, allowed⟩ := parentAccepted
        refine ⟨⟨eq_none_of_rel (names.missingFailure? "Object" graph other) root, ?_⟩, ?_⟩
        · split
          · rfl
          next named =>
            rw [if_neg named] at parent
            exact names.kindFailure?_eq_none frames here parent
        · rw [shown]
          exact frames.parentError?_eq_none here present asked allowed
  · intro name listed
    have found := interfacesAccepted name listed
    obtain ⟨present, shown⟩ := names.denotedType (finds.interfaces name listed)
    have asked := acyclic (resolver.denoted name)
      (List.mem_append_right _ (List.mem_map_of_mem listed))
    simp only [Resolver.interfaceFailure?, Option.or_eq_none_iff, Option.map_eq_none_iff]
      at found ⊢
    rw [shown]
    exact ⟨names.kindFailure?_eq_none frames here found.1,
      frames.interfaceError?_eq_none here present asked found.2⟩

/-- Extension classes and annotations that are accepted in one graph are accepted in the other, if
the annotations name attribute classes there. -/
theorem ShowsResolver.partsFailure?_eq_none
    (accepted : resolver.partsFailure? graph self declaration = none)
    (attributes : ∀ mark ∈ declaration.annotations,
      resolver.Denotes mark.type (resolver.denoted mark.type) →
      resolver.farm.lookup? "Attribute" = some (resolver.builtin "Attribute") →
      resolver.isAttribute graph (resolver.denoted mark.type) = true →
        image.isAttribute other (mirror.rename (resolver.denoted mark.type)) = true) :
    image.partsFailure? other (mirror.rename self) declaration = none := by
  have parts := Resolver.findsParts accepted
  rw [Resolver.partsFailure?, Option.or_eq_none_iff, List.findSome?_eq_none_iff,
    List.findSome?_eq_none_iff] at accepted ⊢
  refine ⟨fun name listed => names.kindFailure?_eq_none frames here (accepted.1 name listed), ?_⟩
  intro mark listed
  have found := accepted.2 mark listed
  simp only [Resolver.annotationFailure?, Option.or_eq_none_iff] at found ⊢
  obtain ⟨isClass, base, derives⟩ := found
  refine ⟨names.kindFailure?_eq_none frames here isClass,
    eq_none_of_rel (names.missingFailure? _ graph other) base, ?_⟩
  split at derives
  next derived =>
    have denotes := parts.annotations mark listed
    rw [(names.denotedType denotes).2,
      attributes mark listed denotes (lookup?_of_missingFailure? base) derived]
    rfl
  next => cases derives

end Accepted

/-! ## The same types in another order -/

theorem type_showsEntry (mirror : Mirror) (entry : PendingType) :
    (mirror.showsEntry entry).type = mirror.rename entry.type :=
  rfl

/-- The stubs of a module in two graphs, where the module lists its types in different orders. -/
structure Relists (mirror : Mirror) (resolver image : Resolver) (base : Graph)
    (pending listed : List PendingType) (stubs imageStubs : Graph) : Prop where
  names : mirror.ShowsResolver resolver image
  shows : mirror.Shows resolver.farm (· < mirror.source.types.size) stubs imageStubs
  common : mirror.common = base.types.size
  stubbed : Stubbed resolver base pending stubs
  imageStubbed : Stubbed image base listed imageStubs
  entries : (pending.map mirror.showsEntry).Perm listed
  unlinked : ∀ entry ∈ pending, stubs.supertypesOf entry.type = []

namespace Relists

variable {mirror : Mirror} {resolver image : Resolver} {base : Graph}
  {pending listed : List PendingType} {stubs imageStubs : Graph}
  (relists : mirror.Relists resolver image base pending listed stubs imageStubs)

include relists

theorem present {entry : PendingType} (waiting : entry ∈ pending) :
    entry.type < mirror.source.types.size :=
  relists.shows.source.size ▸ (relists.stubbed.ready entry waiting).piece.present

theorem mem_listed {entry : PendingType} (waiting : entry ∈ pending) :
    mirror.showsEntry entry ∈ listed :=
  relists.entries.subset (List.mem_map_of_mem waiting)

theorem exists_entry {shown : PendingType} (waiting : shown ∈ listed) :
    ∃ entry ∈ pending, mirror.showsEntry entry = shown :=
  List.mem_map.mp (relists.entries.symm.subset waiting)

theorem eq_of_rename {entry other : PendingType} (waiting : entry ∈ pending)
    (otherWaiting : other ∈ pending)
    (same : mirror.rename entry.type = mirror.rename other.type) : entry = other :=
  List.inj_on_of_nodup_map relists.stubbed.distinct waiting otherWaiting
    (mirror.injective (relists.present waiting) (relists.present otherWaiting) same)

theorem rename_not_mem {type : TypeId} (present : type < mirror.source.types.size)
    (apart : type ∉ pending.map (·.type)) : mirror.rename type ∉ listed.map (·.type) := by
  intro waiting
  obtain ⟨shown, inListed, same⟩ := List.mem_map.mp waiting
  obtain ⟨entry, inPending, rfl⟩ := relists.exists_entry inListed
  apply apart
  rw [← mirror.injective (relists.present inPending) present same]
  exact List.mem_map_of_mem inPending

theorem imageUnlinked {shown : PendingType} (waiting : shown ∈ listed) :
    imageStubs.supertypesOf shown.type = [] := by
  obtain ⟨entry, inPending, rfl⟩ := relists.exists_entry waiting
  rw [showsEntry, relists.shows.supertypesOf (relists.present inPending),
    relists.unlinked entry inPending, List.map_nil]

variable (accepted : resolver.linksFailure? stubs pending = none)

include accepted

theorem hierarchical : (resolver.withLinks stubs pending).Hierarchical :=
  hierarchical_withLinks relists.stubbed.grows relists.stubbed.ready accepted

omit relists in
theorem finds {entry : PendingType} (waiting : entry ∈ pending) :
    resolver.FindsSupertypes entry.declaration ∧ resolver.FindsParts entry.declaration := by
  obtain ⟨before, after, -, supertypes, parts⟩ := exists_split_of_linksFailure? accepted waiting
  exact ⟨Resolver.findsSupertypes supertypes, Resolver.findsParts parts⟩

/-- All links together are the same in both orders. -/
theorem showsLinks :
    mirror.Shows resolver.farm (· < mirror.source.types.size) (resolver.withLinks stubs pending)
      (image.withLinks imageStubs listed) := by
  have retains : stubs.RetainsMembers (resolver.withLinks stubs pending) :=
    .of_eq (members_withLinks pending)
  have imageRetains : imageStubs.RetainsMembers (image.withLinks imageStubs listed) :=
    .of_eq (members_withLinks listed)
  refine relists.shows.step retains imageRetains (sameTypes_withLinks pending)
    (sameTypes_withLinks listed) ?_ ?_ ?_ ?_
  · intro type supertype _ link
    rw [← relists.shows.source.size, ← @size_withLinks resolver stubs pending]
    exact ((relists.hierarchical accepted).linked link).1
  · intro type inside
    by_cases waiting : type ∈ pending.map (·.type)
    · obtain ⟨entry, inPending, rfl⟩ := List.mem_map.mp waiting
      have ready := relists.stubbed.ready entry inPending
      have imageReady := relists.imageStubbed.ready _ (relists.mem_listed inPending)
      obtain ⟨finds, parts⟩ := finds accepted inPending
      have interfaces : ∀ interface ∈ (stubs.typeAt entry.type).interfaces,
          interface < mirror.source.types.size := fun interface declared =>
        relists.shows.closed inside (InterfaceMemberMap.extends_of_mem_interfaces declared)
      have linked := shows_linked relists.names finds ready.kind (relists.shows.face inside)
        (relists.shows.types inside) parts interfaces
        (relists.shows.bodies inside (relists.common ▸ ready.young))
      rw [typeAt_withLinks relists.stubbed.distinct inPending ready.piece.present,
        ← type_showsEntry, typeAt_withLinks relists.imageStubbed.distinct
          (relists.mem_listed inPending) imageReady.piece.present]
      right
      exact ⟨linked.1.later retains imageRetains, fun _ => linked.2.later retains imageRetains⟩
    · exact .inl ⟨typeAt_withLinks_of_not_mem waiting,
        typeAt_withLinks_of_not_mem (relists.rename_not_mem inside waiting)⟩
  · simp only [Graph.arenaAt, arenas_withLinks]
    exact relists.shows.arrays
  · simp only [Graph.arenaAt, arenas_withLinks]
    exact relists.shows.settings

theorem not_reaches_back {shown : PendingType} (waiting : shown ∈ listed) {supertype : TypeId}
    (link : (image.withLinks imageStubs listed).Extends shown.type supertype) :
    ¬ (image.withLinks imageStubs listed).Reaches supertype shown.type := by
  obtain ⟨entry, inPending, rfl⟩ := relists.exists_entry waiting
  have shows := relists.showsLinks accepted
  have present := relists.present inPending
  intro back
  rw [Extends, showsEntry, shows.supertypesOf present] at link
  obtain ⟨above, declared, rfl⟩ := List.mem_map.mp link
  obtain ⟨source, same, inside, path⟩ := shows.exists_of_reaches (shows.closed present declared)
    back
  rw [mirror.injective inside present same] at path
  exact (relists.hierarchical accepted).acyclic entry.type (.head' declared path)

/-- The search decides what stands above a type as soon as some links have been made. -/
theorem distinguished {part : Graph} (same : imageStubs.SameTypes part)
    (links : ∀ {lower upper}, part.Extends lower upper →
      (image.withLinks imageStubs listed).Extends lower upper) :
    part.Distinguished fun type =>
      ∃ source, source < mirror.source.types.size ∧ mirror.rename source = type := by
  have shows := relists.showsLinks accepted
  constructor
  · rintro _ supertype ⟨source, present, rfl⟩ link
    have link := links link
    rw [Extends, shows.supertypesOf present] at link
    obtain ⟨above, declared, rfl⟩ := List.mem_map.mp link
    exact ⟨above, shows.closed present declared, rfl⟩
  · rintro _ _ ⟨source, present, rfl⟩ ⟨other, otherPresent, rfl⟩ sameIndex
    have houses := relists.imageStubbed.grows.houses
    have inStubs : ∀ {type}, type < mirror.source.types.size →
        mirror.rename type < imageStubs.types.size := fun here =>
      relists.shows.target.size.symm ▸ mirror.present here
    rw [(same.identity _).index, (same.identity _).index] at sameIndex
    exact (houses.sound.wellFormed.hierarchical.distinguished image.farm.arena).injective
      ⟨inStubs present, houses.together (inStubs present)⟩
      ⟨inStubs otherPresent, houses.together (inStubs otherPresent)⟩ sameIndex

section Split

variable {before after : List PendingType} {shown : PendingType}
  (split : listed = before ++ shown :: after)

include split

omit relists accepted in
theorem split_append : listed = (before ++ [shown]) ++ after := by
  rw [split, List.append_assoc, List.singleton_append]

theorem supertypesFailure?_listed :
    image.supertypesFailure? (image.withLinks imageStubs before) shown.type shown.declaration
      = none := by
  have waiting : shown ∈ listed := by simp [split]
  obtain ⟨entry, inPending, rfl⟩ := relists.exists_entry waiting
  obtain ⟨earlier, later, -, found, -⟩ := exists_split_of_linksFailure? accepted inPending
  have frames := relists.shows.toFrames.step (@sameTypes_withLinks resolver stubs earlier)
    (@sameTypes_withLinks image imageStubs before)
  -- A cycle that is seen between two links would be a cycle of all links.
  refine relists.names.supertypesFailure?_eq_none frames (relists.present inPending) found ?_
  intro supertype declared
  rw [Bool.eq_false_iff]
  intro closes
  have ready := relists.imageStubbed.ready _ waiting
  have distinct := relists.imageStubbed.distinct
  have unlinked : ∀ other ∈ mirror.showsEntry entry :: after,
      imageStubs.supertypesOf other.type = [] := fun other inAfter =>
    relists.imageUnlinked (split ▸ List.mem_append_right before inAfter)
  have link : (image.withLinks imageStubs listed).Extends (mirror.rename entry.type)
      (mirror.rename supertype) := by
    rw [← type_showsEntry, Extends, supertypesOf,
      typeAt_withLinks distinct waiting ready.piece.present]
    apply mem_supertypes_linked ready.kind
    rw [showsEntry, (relists.names.declaredSupertypes (finds accepted inPending).1).2]
    exact List.mem_map_of_mem declared
  apply relists.not_reaches_back accepted waiting link
  rw [split] at distinct ⊢
  exact reaches_withLinks_append distinct unlinked (reaches_of_reaches closes)

/-- Extension classes and annotations are accepted in the other order as well, if nothing above an
annotation class is linked later. -/
theorem partsFailure?_listed
    (settled : ∀ mark ∈ shown.declaration.annotations, ∀ later ∈ after,
      ¬ (image.withLinks imageStubs listed).Reaches (image.denoted mark.type) later.type) :
    image.partsFailure? (image.withNextSupertypes imageStubs before shown) shown.type
      shown.declaration = none := by
  have waiting : shown ∈ listed := by simp [split]
  obtain ⟨entry, inPending, rfl⟩ := relists.exists_entry waiting
  obtain ⟨earlier, later, sourceSplit, -, found⟩ := exists_split_of_linksFailure? accepted inPending
  have sourceSplit := split_append sourceSplit
  have imageSplit := split_append split
  have imageSame := @sameTypes_withNextSupertypes image imageStubs before (mirror.showsEntry entry)
  have links := @supertypesOf_withNextSupertypes resolver stubs earlier entry
  have imageLinks :=
    @supertypesOf_withNextSupertypes image imageStubs before (mirror.showsEntry entry)
  have distinct := sourceSplit ▸ relists.stubbed.distinct
  have imageDistinct := imageSplit ▸ relists.imageStubbed.distinct
  refine relists.names.partsFailure?_eq_none (relists.shows.toFrames.step
    (sameTypes_withNextSupertypes earlier entry) imageSame) (relists.present inPending) found ?_
  intro mark declared denotes builtin derives
  obtain ⟨present, denoted⟩ := relists.names.denotedType denotes
  obtain ⟨basePresent, base⟩ := relists.names.builtinType builtin
  rw [Resolver.isAttribute, Bool.and_eq_true, bne_iff_ne] at derives ⊢
  rw [base]
  refine ⟨fun equal => derives.1 (mirror.injective present basePresent equal), ?_⟩
  -- What stands above the annotation class is compared in three steps: from the links made before
  -- this type to all links, from there to all links in the other order, and back to the links made
  -- before this type in that order.
  have path := reaches_of_reaches derives.2
  rw [reaches_congr links] at path
  have whole : (resolver.withLinks stubs pending).Reaches (resolver.denoted mark.type)
      (resolver.builtin "Attribute") := by
    rw [sourceSplit]
    refine reaches_withLinks_append distinct ?_ path
    intro other inLater
    exact relists.unlinked other (sourceSplit ▸ List.mem_append_right _ inLater)
  have imagePath := ((relists.showsLinks accepted).reaches_rename present whole).2
  refine (Graph.reaches_iff (relists.distinguished accepted imageSame ?_)
    ⟨_, present, rfl⟩).mpr ?_
  · intro lower upper link
    rw [imageSplit]
    refine extends_withLinks_append imageDistinct ?_ ?_
    · intro other inAfter
      exact relists.imageUnlinked (imageSplit ▸ List.mem_append_right _ inAfter)
    · rw [Extends, ← imageLinks]
      exact link
  · rw [reaches_congr imageLinks]
    refine reaches_of_supertypesOf imagePath ?_
    intro between above
    rw [imageSplit]
    apply supertypesOf_withLinks
    intro inAfter
    obtain ⟨other, otherAfter, rfl⟩ := List.mem_map.mp inAfter
    exact settled mark declared other otherAfter (denoted ▸ above)

end Split

/-- Links that are accepted in one order are accepted in another one, if nothing above an annotation
class is listed after the types that use it. -/
theorem linksFailure?_listed
    (settled : ∀ before shown after, listed = before ++ shown :: after →
      ∀ mark ∈ shown.declaration.annotations, ∀ later ∈ after,
        ¬ (image.withLinks imageStubs listed).Reaches (image.denoted mark.type) later.type) :
    image.linksFailure? imageStubs listed = none := by
  rw [linksFailure?_eq_none_iff]
  intro before shown after split
  rw [Resolver.linkFailure?, Option.or_eq_none_iff]
  exact ⟨relists.supertypesFailure?_listed accepted split,
    relists.partsFailure?_listed accepted split (settled before shown after split)⟩

end Relists

end Mirror

end Nominal
