import Nominal.Proofs.Reordering
import Nominal.Proofs.UserFaults

/-!
# The completion of a module step by step

The types of a module are completed one after the other.  A run can be cut at any type: what happens
after the cut leaves the types as they are that were completed before it.  If the supertypes that a
module declares itself count as dependencies, then everything above a type is completed before it.
-/

namespace Nominal

open Nominal.Graph

theorem Graph.RetainsMembers.of_frame {graph left : Graph} {farm : Farm} {touched : TypeId → Prop}
    (frame : graph.Frame farm touched graph.members.size left) : graph.RetainsMembers left :=
  ⟨frame.memberCount, fun old => frame.members _ old⟩

/-- Types are completed one after the other. -/
inductive CompletesEach (resolver : Resolver) : List PendingType → Graph → Graph → Prop
  | nil {graph : Graph} : CompletesEach resolver [] graph graph
  | cons {entry : PendingType} {rest : List PendingType} {graph next left : Graph}
      (ran : (completeType resolver entry).exec graph = (.ok (), next))
      (later : CompletesEach resolver rest next left) :
      CompletesEach resolver (entry :: rest) graph left

/-- The types at some places of a list, in the order of the places. -/
def entriesAt (pending : List PendingType) (places : List Nat) : List PendingType :=
  places.filterMap (pending[·]?)

section Runs

variable {resolver : Resolver} {base graph left : Graph} {pending : List PendingType}
  {entries before after : List PendingType} {entry : PendingType}

theorem completes_iff {order : List Nat} :
    Completes resolver pending order graph left ↔
      CompletesEach resolver (entriesAt pending order) graph left := by
  induction order generalizing graph with
  | nil =>
      constructor
      · rintro ⟨⟩
        exact .nil
      · rintro ⟨⟩
        exact .nil
  | cons place rest ih =>
      cases found : pending[place]? with
      | none =>
          rw [entriesAt, List.filterMap_cons_none found]
          constructor
          · rintro (_ | ⟨_, later⟩ | ⟨present, _, _⟩)
            · exact ih.mp later
            · rw [found] at present
              cases present
          · exact fun later => .skip found (ih.mpr later)
      | some entry =>
          rw [entriesAt, List.filterMap_cons_some found]
          constructor
          · rintro (_ | ⟨absent, _⟩ | ⟨present, ran, later⟩)
            · rw [found] at absent
              cases absent
            · rw [found] at present
              cases present
              exact .cons ran (ih.mp later)
          · rintro ⟨⟩
            next ran later => exact .cons found ran (ih.mpr later)

/-! ## Cutting a run -/

theorem completesEach_append_iff :
    CompletesEach resolver (before ++ after) graph left ↔
      ∃ middle, CompletesEach resolver before graph middle ∧
        CompletesEach resolver after middle left := by
  induction before generalizing graph with
  | nil =>
      constructor
      · exact fun later => ⟨graph, .nil, later⟩
      · rintro ⟨middle, ⟨⟩, later⟩
        exact later
  | cons entry rest ih =>
      constructor
      · rintro ⟨⟩
        next ran later =>
        obtain ⟨middle, early, late⟩ := ih.mp later
        exact ⟨middle, .cons ran early, late⟩
      · rintro ⟨middle, ⟨⟩, late⟩
        next ran early => exact .cons ran (ih.mpr ⟨middle, early, late⟩)

/-- All members that are there were there before. -/
theorem Unfinished.rebase (unfinished : Unfinished resolver base entry graph) :
    Unfinished resolver { base with members := graph.members } entry graph :=
  { unfinished with piece := { unfinished.piece with bounded := Nat.le_refl _ } }

namespace CompletesEach

theorem unique (completes : CompletesEach resolver entries graph left) {other : Graph}
    (again : CompletesEach resolver entries graph other) : other = left := by
  induction completes with
  | nil =>
      cases again
      rfl
  | cons ran later ih =>
      cases again with
      | cons ranAgain laterAgain =>
          rw [ran] at ranAgain
          cases ranAgain
          exact ih laterAgain

theorem unfinished (completes : CompletesEach resolver before graph left)
    (distinct : ((before ++ after).map (·.type)).Nodup)
    (ready : ∀ entry ∈ before ++ after, Unfinished resolver base entry graph) :
    ∀ entry ∈ after, Unfinished resolver base entry left := by
  induction completes with
  | nil => exact ready
  | @cons first rest graph next left ran later ih =>
      obtain ⟨steps, frame, -⟩ := completeType_work (ready first List.mem_cons_self)
      rw [ran] at steps frame
      rw [List.cons_append, List.map_cons, List.nodup_cons] at distinct
      refine ih distinct.2 fun waiting listed => ?_
      refine (ready waiting (List.mem_cons_of_mem first listed)).of_work steps frame ?_
      exact fun same => distinct.1 (same ▸ List.mem_map_of_mem listed)

theorem frame (completes : CompletesEach resolver entries graph left)
    (distinct : (entries.map (·.type)).Nodup)
    (ready : ∀ entry ∈ entries, Unfinished resolver base entry graph) :
    graph.Frame resolver.farm (· ∈ entries.map (·.type)) graph.members.size left := by
  induction completes with
  | nil => exact .refl _
  | @cons first rest graph next left ran later ih =>
      obtain ⟨-, frame, -⟩ := completeType_work (ready first List.mem_cons_self).rebase
      rw [ran] at frame
      have waiting : ∀ entry ∈ rest, Unfinished resolver base entry next :=
        (CompletesEach.cons ran .nil).unfinished distinct ready
      rw [List.map_cons, List.nodup_cons] at distinct
      have later := ih distinct.2 waiting
      refine Frame.trans (frame.mono ?_ (Nat.le_refl _)) (later.mono ?_ frame.memberCount)
      · rintro _ rfl
        exact List.mem_cons_self
      · exact fun _ touched => List.mem_cons_of_mem _ touched

end CompletesEach

/-- A type is completed between others. -/
structure Stage (resolver : Resolver) (linked left : Graph) (before : List PendingType)
    (entry : PendingType) (after : List PendingType) (early late : Graph) : Prop where
  earlier : CompletesEach resolver before linked early
  ran : (completeType resolver entry).exec early = (.ok (), late)
  later : CompletesEach resolver after late left

theorem exists_stage (completes : CompletesEach resolver (before ++ entry :: after) graph left) :
    ∃ early late, Stage resolver graph left before entry after early late := by
  obtain ⟨early, earlier, rest⟩ := completesEach_append_iff.mp completes
  cases rest with
  | cons ran later => exact ⟨early, _, earlier, ran, later⟩

end Runs

/-! ## Supertypes come first -/

/-- All supertypes that a module itself declares count as dependencies. -/
def Resolver.Tracks (resolver : Resolver) (base graph : Graph) (pending : List PendingType) :
    Prop :=
  ∀ entry ∈ pending, ∀ supertype ∈ resolver.declaredSupertypes entry.declaration,
    base.types.size ≤ supertype → ∃ place, pendingIndex? graph pending supertype = some place

section Order

variable {resolver : Resolver} {base graph : Graph} {pending : List PendingType} {order : List Nat}
  {before after : List PendingType} {entry : PendingType}

theorem mem_declaredSupertypes {declaration : TypeDeclaration} {old : NominalType}
    (kind : old.isClass = !declaration.isInterface) (unlinked : old.supertypes = [])
    {supertype : TypeId} (link : supertype ∈ (resolver.linked declaration old).supertypes) :
    supertype ∈ resolver.declaredSupertypes declaration := by
  rw [NominalType.supertypes, List.append_eq_nil_iff, Option.toList_eq_nil_iff] at unlinked
  have parts : (resolver.linked declaration old).supertypes
      = (resolver.withSupertypes declaration old).supertypes := rfl
  rw [parts, NominalType.supertypes, List.mem_append, resolver.withSupertypes_interfaces,
    mem_listedOnce, unlinked.2, NominalType.parent?,
    resolver.withSupertypes_classPart declaration kind] at link
  rw [Resolver.declaredSupertypes, List.mem_append]
  rcases link with asParent | impossible | asInterface
  · left
    cases isInterface : declaration.isInterface with
    | true =>
        rw [isInterface, if_pos rfl, ← NominalType.parent?, unlinked.1] at asParent
        cases asParent
    | false =>
        rw [isInterface] at asParent
        simpa using asParent
  · cases impossible
  · exact .inr asInterface

section Links

variable (stubbed : Stubbed resolver base pending graph)

include stubbed

theorem Stubbed.declared_of_extends
    (unlinked : ∀ entry ∈ pending, graph.supertypesOf entry.type = [])
    (listed : entry ∈ pending) {supertype : TypeId}
    (link : (resolver.withLinks graph pending).Extends entry.type supertype) :
    supertype ∈ resolver.declaredSupertypes entry.declaration := by
  have ready := stubbed.ready entry listed
  rw [Extends, supertypesOf, typeAt_withLinks stubbed.distinct listed ready.piece.present] at link
  exact mem_declaredSupertypes ready.kind (unlinked entry listed) link

/-- What was there before the module stays below what was there before. -/
theorem Stubbed.old_of_extends (sound : base.Sound) {lower upper : TypeId}
    (old : lower < base.types.size)
    (link : (resolver.withLinks graph pending).Extends lower upper) : upper < base.types.size := by
  have untouched : lower ∉ pending.map (·.type) := by
    intro waiting
    obtain ⟨entry, listed, rfl⟩ := List.mem_map.mp waiting
    exact Nat.not_lt.mpr (stubbed.ready entry listed).young old
  rw [Extends, supertypesOf, typeAt_withLinks_of_not_mem untouched, stubbed.grows.types old] at link
  exact (sound.wellFormed.hierarchical.linked link).1

end Links

theorem exists_place (split : entriesAt pending order = before ++ entry :: after) :
    ∃ early place late, order = early ++ place :: late ∧ entriesAt pending early = before ∧
      pending[place]? = some entry := by
  obtain ⟨early, rest, rfl, first, second⟩ := List.filterMap_eq_append_iff.mp split
  obtain ⟨skipped, place, late, rfl, absent, found, -⟩ := List.filterMap_eq_cons_iff.mp second
  refine ⟨early ++ skipped, place, late, by simp, ?_, found⟩
  rw [entriesAt, List.filterMap_append, first, List.filterMap_eq_nil_iff.mpr absent,
    List.append_nil]

/-- Supertypes that count as dependencies are completed first. -/
theorem supertype_before
    (plan : completionPlan (pending.map (resolver.dependencies graph pending)) = .ok order)
    (tracks : resolver.Tracks base graph pending)
    (split : entriesAt pending order = before ++ entry :: after) {supertype : TypeId}
    (declared : supertype ∈ resolver.declaredSupertypes entry.declaration)
    (young : base.types.size ≤ supertype) : supertype ∈ before.map (·.type) := by
  obtain ⟨early, place, late, rfl, rfl, found⟩ := exists_place split
  obtain ⟨ordered, -⟩ := DependencyGraph.ordered_of_solve plan
  obtain ⟨dependency, index⟩ := tracks entry (List.mem_of_getElem? found) supertype declared young
  have first : dependency ∈ early := by
    apply ordered.of_append_cons.2
    rw [DependencyGraph.dependsOn_lists, List.getElem?_map, found]
    exact List.mem_filterMap.mpr ⟨supertype, declared, index⟩
  obtain ⟨inRange, matched, -⟩ := List.findIdx?_eq_some_iff_getElem.mp index
  rw [Bool.and_eq_true, beq_iff_eq, beq_iff_eq] at matched
  rw [← matched.2]
  exact List.mem_map_of_mem
    (List.mem_filterMap.mpr ⟨dependency, first, List.getElem?_eq_getElem inRange⟩)

theorem above_cases (stubbed : Stubbed resolver base pending graph) (sound : base.Sound)
    (unlinked : ∀ entry ∈ pending, graph.supertypesOf entry.type = [])
    (plan : completionPlan (pending.map (resolver.dependencies graph pending)) = .ok order)
    (tracks : resolver.Tracks base graph pending)
    (split : entriesAt pending order = before ++ entry :: after) {ancestor : TypeId}
    (path : (resolver.withLinks graph pending).Reaches entry.type ancestor) :
    ancestor = entry.type ∨ ancestor < base.types.size ∨ ancestor ∈ before.map (·.type) := by
  have above : ∀ {before after : List PendingType} {entry : PendingType},
      entriesAt pending order = before ++ entry :: after → ∀ {supertype},
      (resolver.withLinks graph pending).Extends entry.type supertype →
      supertype < base.types.size ∨ supertype ∈ before.map (·.type) := by
    intro before after entry split supertype link
    have listed : entry ∈ pending := by
      obtain ⟨-, place, -, -, -, found⟩ := exists_place split
      exact List.mem_of_getElem? found
    have declared := stubbed.declared_of_extends unlinked listed link
    by_cases young : base.types.size ≤ supertype
    · exact .inr (supertype_before plan tracks split declared young)
    · exact .inl (Nat.lt_of_not_le young)
  induction path with
  | refl => exact .inl rfl
  | @tail lower upper _ link ih =>
      right
      rcases ih with rfl | old | earlier
      · exact above split link
      · exact .inl (stubbed.old_of_extends sound old link)
      · obtain ⟨first, listed, rfl⟩ := List.mem_map.mp earlier
        obtain ⟨initial, rest, rfl⟩ := List.append_of_mem listed
        rw [List.append_assoc, List.cons_append] at split
        refine (above split link).imp_right fun inInitial => ?_
        rw [List.map_append]
        exact List.mem_append_left _ inInitial

end Order

/-! ## Runs that are about to begin -/

/-- The types of a module are linked, and the order of their completion is known. -/
structure Planned (resolver : Resolver) (base : Graph) (pending : List PendingType)
    (stubs linked : Graph) (order : List Nat) : Prop where
  stubbed : Stubbed resolver base pending stubs
  unlinked : ∀ entry ∈ pending, stubs.supertypesOf entry.type = []
  accepted : resolver.linksFailure? stubs pending = none
  links : linked.bare = (resolver.withLinks stubs pending).bare
  grows : base.Grows resolver.farm linked
  unfinished : ∀ entry ∈ pending, Unfinished resolver base entry linked
  plan : completionPlan (pending.map (resolver.dependencies stubs pending)) = .ok order
  tracks : resolver.Tracks base stubs pending

/-- Types whose links are accepted can be completed in some order. -/
theorem exists_planned {resolver : Resolver} {base stubs : Graph} {pending : List PendingType}
    (stubbed : Stubbed resolver base pending stubs)
    (unlinked : ∀ entry ∈ pending, stubs.supertypesOf entry.type = [])
    (accepted : resolver.linksFailure? stubs pending = none)
    (tracks : resolver.Tracks base stubs pending) :
    ∃ linked order, Planned resolver base pending stubs linked order ∧
      ∀ last, CompletesEach resolver (entriesAt pending order) linked last →
        (finishModule resolver pending).exec stubs = (.ok resolver.module, last) := by
  obtain ⟨linked, grows, -, -, -, complete, ran⟩ := finishModule_exec stubbed
  obtain ⟨links, unfinished⟩ := complete accepted
  obtain ⟨order, plan⟩ := exists_completionPlan stubbed links
    grows.houses.sound.wellFormed.hierarchical.acyclic
  refine ⟨linked, order,
    ⟨stubbed, unlinked, accepted, links, grows, unfinished, plan, tracks⟩, ?_⟩
  intro last completes
  rw [ran, accepted, Option.elim_none, plan]
  dsimp only
  rw [completeTypes_eq_ok_iff.mpr (completes_iff.mpr completes)]
  rfl

namespace Planned

variable {resolver : Resolver} {base stubs linked left : Graph} {pending : List PendingType}
  {order : List Nat} {before after : List PendingType} {entry : PendingType}
  (planned : Planned resolver base pending stubs linked order)

include planned

theorem mem_entries : entry ∈ entriesAt pending order ↔ entry ∈ pending := by
  rw [entriesAt, List.mem_filterMap]
  constructor
  · rintro ⟨place, -, found⟩
    exact List.mem_of_getElem? found
  · intro listed
    obtain ⟨place, found⟩ := List.mem_iff_getElem?.mp listed
    refine ⟨place, (DependencyGraph.ordered_of_solve planned.plan).2 ?_, found⟩
    simpa using (List.getElem?_eq_some_iff.mp found).1

theorem distinct : ((entriesAt pending order).map (·.type)).Nodup := by
  rw [entriesAt, List.map_filterMap]
  refine (DependencyGraph.ordered_of_solve planned.plan).1.nodup.filterMap ?_
  intro place other type here there
  obtain ⟨entry, found, rfl⟩ := Option.map_eq_some_iff.mp here
  obtain ⟨same, foundSame, equal⟩ := Option.map_eq_some_iff.mp there
  have inRange : place < (pending.map (·.type)).length := by
    rw [List.length_map]
    exact (List.getElem?_eq_some_iff.mp found).1
  exact (List.getElem?_inj inRange planned.stubbed.distinct).mp (by simp [found, foundSame, equal])

theorem ready : ∀ entry ∈ entriesAt pending order, Unfinished resolver base entry linked :=
  fun entry listed => planned.unfinished entry (planned.mem_entries.mp listed)

theorem frame {first middle last : List PendingType} {early : Graph}
    (split : entriesAt pending order = first ++ (middle ++ last))
    (earlier : CompletesEach resolver first linked early)
    (part : CompletesEach resolver middle early left) :
    early.Frame resolver.farm (· ∈ middle.map (·.type)) early.members.size left := by
  have distinct := planned.distinct
  have ready := planned.ready
  rw [split] at distinct ready
  have waiting := earlier.unfinished distinct ready
  rw [List.map_append, List.map_append] at distinct
  exact part.frame distinct.of_append_right.of_append_left
    fun other listed => waiting other (List.mem_append_left last listed)

section Split

variable (split : entriesAt pending order = before ++ entry :: after)

include split

theorem mem_of_split : entry ∈ pending := by
  apply planned.mem_entries.mp
  simp [split]

theorem unfinished_left (completes : CompletesEach resolver before linked left) :
    Unfinished resolver base entry left := by
  have distinct := planned.distinct
  have ready := planned.ready
  rw [split] at distinct ready
  exact completes.unfinished distinct ready entry List.mem_cons_self

theorem not_mem : entry.type ∉ before.map (·.type) ∧ entry.type ∉ after.map (·.type) := by
  have distinct := planned.distinct
  rw [split, List.map_append, List.map_cons, List.nodup_append, List.nodup_cons] at distinct
  exact ⟨fun earlier => distinct.2.2 _ earlier _ List.mem_cons_self rfl, distinct.2.1.1⟩

/-- Everything above a type was there before the module, or is completed first. -/
theorem above (sound : base.Sound) {ancestor : TypeId}
    (path : linked.Reaches entry.type ancestor) :
    ancestor = entry.type ∨ ancestor < base.types.size ∨ ancestor ∈ before.map (·.type) := by
  rw [reaches_congr (supertypesOf_eq_of_bare planned.links)] at path
  exact above_cases planned.stubbed sound planned.unlinked planned.plan planned.tracks split path

end Split

/-- What follows the completion of a type leaves it as it is. -/
theorem settled {middle last : List PendingType} {early late : Graph}
    (split : entriesAt pending order = before ++ entry :: (middle ++ last))
    (earlier : CompletesEach resolver before linked early)
    (ran : (completeType resolver entry).exec early = (.ok (), late))
    (part : CompletesEach resolver middle late left) :
    late.RetainsMembers left ∧ left.typeAt entry.type = late.typeAt entry.type := by
  have upTo : CompletesEach resolver (before ++ [entry]) linked late :=
    completesEach_append_iff.mpr ⟨early, earlier, .cons ran .nil⟩
  have parts : entriesAt pending order = (before ++ [entry]) ++ (middle ++ last) := by
    rw [split, List.append_assoc, List.singleton_append]
  have frame := planned.frame parts upTo part
  have notLater := (planned.not_mem split).2
  rw [List.map_append, List.mem_append, not_or] at notLater
  exact ⟨.of_frame frame, frame.others _ notLater.1⟩

end Planned

end Nominal
