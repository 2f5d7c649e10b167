import Nominal.Proofs.Linking
import Nominal.Proofs.Mirrors

/-!
# Checks in two graphs

The checks of a build look at names, kinds, visibilities and at what stands above a type.  In two
graphs that correspond to each other they find corresponding errors, or none in both.
-/

namespace Nominal

open Nominal.Graph

/-! ## Searches and sorts on corresponding lists -/

section Lists

variable {Item Other Value Shown : Type} {related : Item → Other → Prop}
  {shows : Value → Shown → Prop}

theorem rel_or {first second : Option Value} {firstShown secondShown : Option Shown}
    (early : Option.Rel shows first firstShown) (late : Option.Rel shows second secondShown) :
    Option.Rel shows (first.or second) (firstShown.or secondShown) := by
  cases early with
  | none => exact late
  | some found => exact .some found

theorem rel_map {found : Option Value} {foundShown : Option Shown}
    (related : Option.Rel shows found foundShown) {Label ShownLabel : Type}
    {labelled : Label → ShownLabel → Prop} {label : Value → Label} {shownLabel : Shown → ShownLabel}
    (each : ∀ {value shown}, shows value shown → labelled (label value) (shownLabel shown)) :
    Option.Rel labelled (found.map label) (foundShown.map shownLabel) := by
  cases related with
  | none => exact .none
  | some here => exact .some (each here)

theorem rel_findSome? {items : List Item} {others : List Other}
    (listed : List.Forall₂ related items others) {find : Item → Option Value}
    {findOther : Other → Option Shown}
    (each : ∀ {item other}, related item other → Option.Rel shows (find item) (findOther other)) :
    Option.Rel shows (items.findSome? find) (others.findSome? findOther) := by
  induction listed with
  | nil => exact .none
  | cons here _ ih =>
      rw [findSome?_cons_eq_or, findSome?_cons_eq_or]
      exact rel_or (each here) ih

theorem forall₂_mergeSort {before : Item → Item → Bool} {beforeOther : Other → Other → Bool}
    (agrees : ∀ {item other later shown}, related item other → related later shown →
      before item later = beforeOther other shown)
    {items : List Item} {others : List Other} (listed : List.Forall₂ related items others) :
    List.Forall₂ related (items.mergeSort before) (others.mergeSort beforeOther) := by
  -- Both lists are sorted as one list of pairs.
  have paired : ∀ pair ∈ items.zip others, related pair.1 pair.2 :=
    fun pair inside => (List.forall₂_iff_zip.mp listed).2 inside
  have first : (items.zip others).map Prod.fst = items :=
    List.map_fst_zip (Nat.le_of_eq listed.length_eq)
  have second : (items.zip others).map Prod.snd = others :=
    List.map_snd_zip (Nat.le_of_eq listed.length_eq.symm)
  have sortedFirst := @List.map_mergeSort _ _ (fun pair later => before pair.1 later.1) before
    Prod.fst (items.zip others) fun _ _ _ _ => rfl
  have sortedSecond := @List.map_mergeSort _ _ (fun pair later => before pair.1 later.1)
    beforeOther Prod.snd (items.zip others)
    fun pair inside later insideLater => agrees (paired pair inside) (paired later insideLater)
  rw [first] at sortedFirst
  rw [second] at sortedSecond
  rw [← sortedFirst, ← sortedSecond, List.forall₂_map_left_iff, List.forall₂_map_right_iff,
    List.forall₂_same]
  intro pair inside
  exact paired pair (List.mem_mergeSort.mp inside)

end Lists

theorem Graph.Lineage.unique {graph : Graph} {type : TypeId} {chain other : List TypeId}
    (lineage : graph.Lineage type chain) (another : graph.Lineage type other) :
    chain = other := by
  induction lineage generalizing other with
  | root parentless =>
      cases another with
      | root => rfl
      | child link => cases parentless.symm.trans link
  | child link _ ih =>
      cases another with
      | root parentless => cases parentless.symm.trans link
      | child found rest =>
          cases link.symm.trans found
          rw [ih rest]

theorem Graph.sealError?_eq (graph : Graph) (type : TypeId) :
    graph.sealError? type =
      (if (graph.typeAt type).isClass then
        match (graph.typeAt type).parent? with
        | none =>
          if (graph.typeAt type).properties.has .root then none else some (.missingParent type)
        | some parent =>
          if graph.isSealed parent then none else some (.unsealedSupertype type parent)
      else none).or
        (((graph.typeAt type).interfaces.find? fun interface => !graph.isSealed interface).map
          (.unsealedSupertype type)) := by
  unfold Graph.sealError? NominalType.isClass NominalType.parent? NominalType.classPart
  dsimp only
  cases (graph.typeAt type).shape with
  | classShape | interfaceShape => rfl

namespace Mirror

/-- Checks that find corresponding errors, or nothing. -/
abbrev Finds (mirror : Mirror) (graph other : Graph) : Option Error → Option Error → Prop :=
  Option.Rel (mirror.ShowsError graph other)

section Frames

variable {mirror : Mirror} {graph other : Graph} (frames : mirror.Frames graph other)
  {type : TypeId} (present : type < mirror.source.types.size) {member image : MemberId}
  (shows : mirror.ShowsMemberAt graph other member image)

include frames

include shows in
theorem Frames.keyOf : other.keyOf image = graph.keyOf member :=
  frames.key shows.shows

include present shows

theorem Frames.overloadError? {existing shown : MemberId}
    (known : mirror.ShowsMemberAt graph other existing shown) :
    mirror.Finds graph other (graph.overloadError? type member existing)
      (other.overloadError? (mirror.rename type) image shown) := by
  have named := frames.nameOf present
  have keys := frames.key shows.shows
  have knownKeys := frames.key known.shows
  obtain ⟨-, -, shows⟩ := shows
  obtain ⟨-, -, known⟩ := known
  have described := frames.describe shows
  unfold Graph.overloadError?
  simp only [shows.kind, known.kind, keys, knownKeys, shows.visibility, known.visibility]
  split
  · refine .some ⟨rfl, fun exact => ⟨?_, rfl⟩⟩
    simp only [Error.message?, shows.kind, known.kind, shows.identifier, named]
  · split
    · refine .some ⟨rfl, fun exact => ⟨?_, rfl⟩⟩
      simp only [Error.message?, shows.kind, named, described exact]
    · split
      · refine .some ⟨rfl, fun exact => ⟨?_, ?_⟩⟩
        · simp only [Error.message?, shows.visibility, known.visibility, named, described exact]
        · simp only [Error.hint?, known.visibility]
      · exact .none

theorem Frames.inheritanceError? {inherited shown : MemberId}
    (known : mirror.ShowsMemberAt graph other inherited shown) :
    mirror.Finds graph other (graph.inheritanceError? type member inherited)
      (other.inheritanceError? (mirror.rename type) image shown) := by
  have named := frames.nameOf present
  obtain ⟨-, -, shows⟩ := shows
  obtain ⟨-, -, known⟩ := known
  have described := frames.describe shows
  have knownName := frames.memberName known
  unfold Graph.inheritanceError?
  simp only [shows.kind, known.kind, shows.visibility, known.visibility]
  split
  · exact .none
  · split
    · refine .some ⟨rfl, fun exact => ⟨?_, rfl⟩⟩
      simp only [Error.message?, shows.kind, known.kind, shows.identifier, named, knownName]
    · split
      · refine .some ⟨rfl, fun exact => ⟨?_, rfl⟩⟩
        simp only [Error.message?, shows.identifier, named, knownName]
      · split
        · refine .some ⟨rfl, fun exact => ⟨?_, ?_⟩⟩
          · simp only [Error.message?, shows.kind, shows.visibility, known.visibility, named,
              knownName, described exact]
          · simp only [Error.hint?, known.visibility]
        · exact .none

theorem Frames.duplicateMember :
    mirror.ShowsError graph other (.duplicateMember type member)
      (.duplicateMember (mirror.rename type) image) := by
  refine ⟨rfl, fun exact => ⟨?_, rfl⟩⟩
  simp only [Error.message?, shows.shows.kind, frames.nameOf present,
    frames.describe shows.shows exact]

theorem Frames.invalidMemberKind (isStatic : Bool) :
    mirror.ShowsError graph other (.invalidMemberKind type member isStatic)
      (.invalidMemberKind (mirror.rename type) image isStatic) := by
  refine ⟨rfl, fun exact => ⟨?_, rfl⟩⟩
  simp only [Error.message?, shows.shows.kind, shows.shows.identifier, frames.nameOf present]

theorem Frames.duplicateError? {existing shown : List MemberId}
    (known : List.Forall₂ (mirror.ShowsMemberAt graph other) existing shown) :
    mirror.Finds graph other (graph.duplicateError? type existing member)
      (other.duplicateError? (mirror.rename type) shown image) := by
  have keys : shown.map other.keyOf = existing.map graph.keyOf :=
    map_eq_of_forall₂ known fun related => frames.keyOf related
  have any : (shown.any fun known => other.keyOf known = other.keyOf image)
      = existing.any fun known => graph.keyOf known = graph.keyOf member := by
    rw [frames.keyOf shows]
    have both := congrArg (List.any · (decide <| · = graph.keyOf member)) keys
    simpa only [List.any_map, Function.comp_def] using both
  unfold Graph.duplicateError?
  rw [any]
  split
  · exact .some (frames.duplicateMember present shows)
  · exact .none

end Frames

/-! ## Tables of members -/

section Tables

variable {mirror : Mirror} {graph other : Graph}

theorem ShowsTable.get? {table image : MemberTable}
    (shows : mirror.ShowsTable graph other table image)
    (name : String) :
    List.Forall₂ (mirror.ShowsMemberAt graph other) ((table.get? name).getD [])
      ((image.get? name).getD []) := by
  obtain ⟨entries⟩ := table
  obtain ⟨images⟩ := image
  unfold Table.get?
  dsimp only
  unfold ShowsTable at shows
  dsimp only at shows
  induction shows with
  | nil => exact .nil
  | @cons entry shown _ _ here _ ih =>
      rw [List.find?_cons, List.find?_cons, here.1]
      by_cases found : entry.1 = name
      · simpa [found] using here.2
      · simpa [found] using ih

/-- Corresponding entries of a look-up. -/
structure ShowsLoaded (mirror : Mirror) (graph other : Graph) (loaded shown : LoadedMember) :
    Prop where
  rank : shown.rank = loaded.rank
  member : mirror.ShowsMemberAt graph other loaded.member shown.member

/-- Corresponding tables of a look-up. -/
def ShowsMerged (mirror : Mirror) (graph other : Graph)
    (merged shown : Table MemberKey LoadedMember) :
    Prop :=
  List.Forall₂ (fun entry image => image.1 = entry.1 ∧
    mirror.ShowsLoaded graph other entry.2 image.2) merged.entries shown.entries

variable (frames : mirror.Frames graph other)

include frames

theorem Frames.override {merged shown : Table MemberKey LoadedMember}
    (shows : mirror.ShowsMerged graph other merged shown) (distance : Nat)
    {member image : MemberId} (related : mirror.ShowsMemberAt graph other member image) :
    mirror.ShowsMerged graph other (ClassMemberMap.override graph distance merged member)
      (ClassMemberMap.override other distance shown image) := by
  unfold ShowsMerged ClassMemberMap.override
  rw [Table.entries_erase_set, Table.entries_erase_set, frames.keyOf related]
  refine List.rel_append (List.rel_filter ?_ shows) (.cons ⟨rfl, rfl, related⟩ .nil)
  intro entry shownEntry here
  simp only [here.1]

theorem Frames.mergeRank {merged shown : Table MemberKey LoadedMember}
    (shows : mirror.ShowsMerged graph other merged shown) (includeNonVisible : Bool)
    (distance : Nat) {members images : List MemberId}
    (related : List.Forall₂ (mirror.ShowsMemberAt graph other) members images) :
    mirror.ShowsMerged graph other
      (ClassMemberMap.mergeRank graph includeNonVisible distance members merged)
      (ClassMemberMap.mergeRank other includeNonVisible distance images shown) := by
  induction related generalizing merged shown with
  | nil => exact shows
  | @cons member image members images here _ ih =>
      have takes : ClassMemberMap.takesPart other includeNonVisible distance image
          = ClassMemberMap.takesPart graph includeNonVisible distance member := by
        simp only [ClassMemberMap.takesPart, here.shows.visibility]
      rw [ClassMemberMap.mergeRank_eq_foldl, ClassMemberMap.mergeRank_eq_foldl, List.filter_cons,
        List.filter_cons, takes]
      split
      · rw [List.foldl_cons, List.foldl_cons]
        exact ih (frames.override shows distance here)
      · exact ih shows

theorem Frames.mergeLevels (includeNonVisible : Bool) (distance : Nat)
    {levels images : List (List MemberId)}
    (related : List.Forall₂ (List.Forall₂ (mirror.ShowsMemberAt graph other)) levels images) :
    mirror.ShowsMerged graph other
      (ClassMemberMap.mergeLevels graph includeNonVisible distance levels)
      (ClassMemberMap.mergeLevels other includeNonVisible distance images) := by
  induction related generalizing distance with
  | nil => exact .nil
  | cons here _ ih => exact frames.mergeRank (ih (distance + 1)) includeNonVisible distance here

end Tables

/-! ## What stands above a type -/

section Shows

variable {mirror : Mirror} {farm : Farm} {population : TypeId → Prop} {graph other : Graph}
  (shows : mirror.Shows farm population graph other) {type : TypeId} (inside : population type)

include shows inside

theorem Shows.lineage {chain : List TypeId} (lineage : graph.Lineage type chain) :
    other.Lineage (mirror.rename type) (chain.map mirror.rename) := by
  induction lineage with
  | root parentless =>
      refine .root ?_
      rw [(shows.types inside).parent, parentless]
      rfl
  | child link _ ih =>
      refine .child ?_ (ih (shows.closed inside (extends_of_parent? link)))
      rw [(shows.types inside).parent, link]
      rfl

theorem Shows.parentChain (hierarchical : graph.Hierarchical) (otherwise : other.Hierarchical) :
    other.parentChain (mirror.rename type) = (graph.parentChain type).map mirror.rename := by
  have present := shows.within inside
  have chain := shows.lineage inside
    (hierarchical.lineage (shows.source.size.symm ▸ present))
  exact (otherwise.lineage (shows.target.size.symm ▸ mirror.present present)).unique chain

theorem Shows.of_mem_parentChain {superclass : TypeId}
    (listed : superclass ∈ graph.parentChain type) : population superclass :=
  population_of_mem_parentChainFrom
    (fun _ _ inside link => shows.closed inside (extends_of_parent? link)) inside listed

theorem Shows.loadedByName (hierarchical : graph.Hierarchical) (otherwise : other.Hierarchical)
    (isStatic : Bool) (name : String) (includeNonVisible : Bool) :
    List.Forall₂ (mirror.ShowsLoaded graph other)
      ((ClassMemberMap.ofClass graph type isStatic).loadedByName graph name includeNonVisible)
      ((ClassMemberMap.ofClass other (mirror.rename type) isStatic).loadedByName other name
        includeNonVisible) := by
  have buckets : List.Forall₂ (List.Forall₂ (mirror.ShowsMemberAt graph other))
      ((ClassMemberMap.ofClass graph type isStatic).buckets 0 name)
      ((ClassMemberMap.ofClass other (mirror.rename type) isStatic).buckets 0 name) := by
    simp only [ClassMemberMap.buckets, ClassMemberMap.ofClass, List.drop_zero, List.map_map,
      shows.parentChain inside hierarchical otherwise]
    rw [List.forall₂_map_left_iff, List.forall₂_map_right_iff, List.forall₂_same]
    intro superclass listed
    exact ((shows.types (shows.of_mem_parentChain inside listed)).declared isStatic).get? _
  have merged := shows.toFrames.mergeLevels includeNonVisible 0 buckets
  have found := ClassMemberMap.loadedAtRank_eq graph
    (ClassMemberMap.ofClass graph type isStatic) 0 name includeNonVisible
  have foundOther := ClassMemberMap.loadedAtRank_eq other
    (ClassMemberMap.ofClass other (mirror.rename type) isStatic) 0 name includeNonVisible
  unfold ClassMemberMap.loadedByName
  rw [show (0 : Int) = ((0 : Nat) : Int) from rfl, found, foundOther]
  refine forall₂_mergeSort ?_ ?_
  · intro loaded shown later laterShown here there
    rw [here.rank, there.rank]
  · unfold Table.values
    rw [List.forall₂_map_left_iff, List.forall₂_map_right_iff]
    exact merged.imp fun _ _ related => related.2

theorem Shows.inheritedMembers (hierarchical : graph.Hierarchical) (otherwise : other.Hierarchical)
    (isStatic : Bool) (name : String) :
    List.Forall₂ (mirror.ShowsMemberAt graph other) (graph.inheritedMembers type isStatic name)
      (other.inheritedMembers (mirror.rename type) isStatic name) := by
  unfold Graph.inheritedMembers
  rw [(shows.types inside).parent]
  cases link : (graph.typeAt type).parent? with
  | none => exact .nil
  | some parent =>
      have above := shows.closed inside (extends_of_parent? link)
      dsimp only [Option.map_some]
      rw [List.forall₂_map_left_iff, List.forall₂_map_right_iff]
      exact (shows.loadedByName above hierarchical otherwise isStatic name false).imp
        fun _ _ related => related.member

section Checks

variable {member image : MemberId} (related : mirror.ShowsMemberAt graph other member image)

include related

theorem Shows.ancestorError? (hierarchical : graph.Hierarchical) (otherwise : other.Hierarchical)
    (identifier : String) :
    mirror.Finds graph other (graph.ancestorError? type member identifier)
      (other.ancestorError? (mirror.rename type) image identifier) := by
  unfold Graph.ancestorError?
  simp only [related.shows.visibility, related.shows.kind, related.shows.isStatic]
  split
  · exact .none
  · exact rel_findSome? (shows.inheritedMembers inside hierarchical otherwise _ identifier)
      fun known => shows.toFrames.inheritanceError? (shows.within inside) related known

theorem Shows.overloadErrors (identifier : String) (isStatic : Bool) :
    mirror.Finds graph other
      (((graph.typeAt type).declaredByName identifier isStatic).findSome?
        (graph.overloadError? type member))
      (((other.typeAt (mirror.rename type)).declaredByName identifier isStatic).findSome?
        (other.overloadError? (mirror.rename type) image)) :=
  rel_findSome? (((shows.types inside).declared isStatic).get? _)
    fun known => shows.toFrames.overloadError? (shows.within inside) related known

variable (young : mirror.common ≤ type)
  (checks : other.checksAncestors (mirror.rename type) = graph.checksAncestors type)

include checks in
theorem Shows.inheritableError? (hierarchical : graph.Hierarchical)
    (otherwise : other.Hierarchical) :
    mirror.Finds graph other (graph.inheritableError? type member)
      (other.inheritableError? (mirror.rename type) image) := by
  unfold Graph.inheritableError?
  simp only [related.shows.identifier, related.shows.isStatic, checks]
  refine rel_or (shows.overloadErrors inside related _ _) ?_
  split
  · exact shows.ancestorError? inside related hierarchical otherwise _
  · exact .none

theorem Shows.interfaceMemberError? :
    mirror.Finds graph other (graph.interfaceMemberError? type member)
      (other.interfaceMemberError? (mirror.rename type) image) := by
  have present := shows.within inside
  unfold Graph.interfaceMemberError?
  simp only [related.shows.kind, related.shows.isStatic, related.shows.visibility,
    related.shows.identifier]
  split
  · exact .some (shows.toFrames.invalidMemberKind present related _)
  · split
    · refine .some ⟨rfl, fun exact => ⟨?_, rfl⟩⟩
      simp only [Error.message?, related.shows.identifier, related.shows.visibility,
        shows.nameOf present]
    · exact shows.overloadErrors inside related _ _

include young checks

theorem Shows.classMemberError? (hierarchical : graph.Hierarchical)
    (otherwise : other.Hierarchical) :
    mirror.Finds graph other (graph.classMemberError? type member)
      (other.classMemberError? (mirror.rename type) image) := by
  have present := shows.within inside
  have body := shows.bodies inside young
  unfold Graph.classMemberError?
  rw [related.shows.kind, related.shows.isStatic]
  dsimp only
  split
  next => exact shows.inheritableError? inside related checks hierarchical otherwise
  next => exact shows.inheritableError? inside related checks hierarchical otherwise
  next => exact shows.toFrames.duplicateError? present related body.part.constructors
  next => exact shows.toFrames.duplicateError? present related body.part.initializers
  next =>
    cases found : (graph.typeAt type).classPart.staticConstructor <;>
      cases shown : (other.typeAt (mirror.rename type)).classPart.staticConstructor <;>
      have both := body.part.staticConstructor <;> rw [found, shown] at both
    · exact .none
    · cases both
    · cases both
    · exact .some (shows.toFrames.duplicateMember present related)
  all_goals exact .some (shows.toFrames.invalidMemberKind present related _)

/-- Whether a type takes a member does not depend on the graph. -/
theorem Shows.declareError? (hierarchical : graph.Hierarchical)
    (otherwise : other.Hierarchical) :
    mirror.Finds graph other (graph.declareError? type member)
      (other.declareError? (mirror.rename type) image) := by
  unfold Graph.declareError?
  rw [(shows.face (shows.within inside)).isClass]
  split
  · exact shows.classMemberError? inside related young checks hierarchical otherwise
  · exact shows.interfaceMemberError? inside related

end Checks

theorem Shows.isSealed : other.isSealed (mirror.rename type) = graph.isSealed type := by
  unfold Graph.isSealed NominalType.isSealed
  rw [(shows.types inside).state]

theorem Shows.unsealedSupertype {supertype : TypeId} (above : population supertype) :
    mirror.ShowsError graph other (.unsealedSupertype type supertype)
      (.unsealedSupertype (mirror.rename type) (mirror.rename supertype)) := by
  refine ⟨rfl, fun exact => ⟨?_, rfl⟩⟩
  simp only [Error.message?, shows.nameOf (shows.within inside), shows.nameOf (shows.within above)]

theorem Shows.sealError? :
    mirror.Finds graph other (graph.sealError? type) (other.sealError? (mirror.rename type)) := by
  have face := shows.face (shows.within inside)
  have related := shows.types inside
  rw [sealError?_eq, sealError?_eq]
  refine rel_or ?_ ?_
  · rw [face.isClass, related.parent, face.properties]
    split
    · cases link : (graph.typeAt type).parent? with
      | none =>
          dsimp only [Option.map_none]
          split
          · exact .none
          · refine .some ⟨rfl, fun exact => ⟨?_, rfl⟩⟩
            simp only [Error.message?, shows.nameOf (shows.within inside)]
      | some parent =>
          have above := shows.closed inside (extends_of_parent? link)
          dsimp only [Option.map_some]
          rw [shows.isSealed above]
          split
          · exact .none
          · exact .some (shows.unsealedSupertype inside above)
    · exact .none
  · have above : ∀ interface ∈ (graph.typeAt type).interfaces, population interface :=
      fun interface listed =>
        shows.closed inside (InterfaceMemberMap.extends_of_mem_interfaces listed)
    rw [related.interfaces]
    generalize (graph.typeAt type).interfaces = interfaces at above
    induction interfaces with
    | nil => exact .none
    | cons interface rest ih =>
        have here := above interface List.mem_cons_self
        rw [List.map_cons, List.find?_cons, List.find?_cons, shows.isSealed here]
        cases graph.isSealed interface with
        | true => exact ih fun listed inRest => above listed (List.mem_cons_of_mem _ inRest)
        | false => exact .some (shows.unsealedSupertype inside here)

end Shows

end Mirror

end Nominal
