import Nominal.Proofs.MirroredLinks

/-!
# Finishing a module in two graphs

The stubs of a module are linked and completed one after the other.  Where two graphs correspond to
each other after the stubs have been made, and the types stand in the same order, both runs end
alike: with graphs that still correspond to each other, or with failures that do.
-/

namespace Nominal

open Nominal.Graph

namespace Mirror

variable {mirror : Mirror} {population : TypeId → Prop} {resolver image : Resolver}
  {graph other base imageBase : Graph}

section Lists

variable (names : mirror.ShowsResolver resolver image)
  (everything : ∀ {type}, type < mirror.source.types.size → population type)

/-! ## Linking -/

include names

theorem ShowsResolver.labelFailure {left last : Graph} {failure shown : Failure}
    (shows : mirror.ShowsFailure left last failure shown) (declaration : TypeDeclaration) :
    mirror.ShowsFailure left last (resolver.labelFailure declaration failure)
      (image.labelFailure declaration shown) := by
  cases shows with
  | rejected found =>
      simp only [Resolver.labelFailure, names.moduleName]
      exact .rejected (found.declaration _ _)
  | aborted found => exact .aborted found

theorem ShowsResolver.cycleFailure (pending : List PendingType) (cycle : DependencyCycle) :
    image.cycleFailure (pending.map mirror.showsEntry) cycle
      = resolver.cycleFailure pending cycle := by
  simp only [Resolver.cycleFailure, names.moduleName, List.getElem?_map, Option.map_map]
  rfl

omit names in
theorem pendingIndex?_agree (frames : mirror.Frames graph other) {pending : List PendingType}
    (present : ∀ entry ∈ pending, entry.type < mirror.source.types.size) {type : TypeId}
    (here : type < mirror.source.types.size) :
    pendingIndex? other (pending.map mirror.showsEntry) (mirror.rename type)
      = pendingIndex? graph pending type := by
  unfold pendingIndex?
  rw [(frames.face here).identifier]
  induction pending with
  | nil => rfl
  | cons entry rest ih =>
      have same : (mirror.rename entry.type == mirror.rename type) = (entry.type == type) := by
        rw [Bool.eq_iff_iff, beq_iff_eq, beq_iff_eq]
        exact ⟨mirror.injective (present entry List.mem_cons_self) here, congrArg mirror.rename⟩
      rw [List.map_cons, List.findIdx?_cons, List.findIdx?_cons,
        ih fun other listed => present other (List.mem_cons_of_mem entry listed)]
      simp only [showsEntry, same]

theorem dependencies_agree (frames : mirror.Frames graph other) {pending : List PendingType}
    (present : ∀ entry ∈ pending, entry.type < mirror.source.types.size) {entry : PendingType}
    (finds : resolver.FindsSupertypes entry.declaration) :
    image.dependencies other (pending.map mirror.showsEntry) (mirror.showsEntry entry)
      = resolver.dependencies graph pending entry := by
  obtain ⟨within, same⟩ := names.declaredSupertypes finds
  unfold Resolver.dependencies
  rw [showsEntry, same, List.filterMap_map]
  apply List.filterMap_congr
  intro supertype listed
  exact pendingIndex?_agree frames present (within supertype listed)

include everything

/-- Types are linked alike, one after the other. -/
theorem linksFailure?_agree {left last : Graph} (later : mirror.Frames left last)
    {entries : List PendingType} (shows : mirror.Shows resolver.farm population graph other)
    (unfinished : ∀ entry ∈ entries,
      mirror.BothUnfinished resolver image base imageBase entry graph other)
    (young : mirror.common ≤ base.types.size) :
    Option.Rel (mirror.ShowsFailure left last) (resolver.linksFailure? graph entries)
        (image.linksFailure? other (entries.map mirror.showsEntry)) ∧
      (resolver.linksFailure? graph entries = none →
        mirror.Shows resolver.farm population (resolver.withLinks graph entries)
            (image.withLinks other (entries.map mirror.showsEntry)) ∧
          ∀ entry ∈ entries, resolver.FindsSupertypes entry.declaration) := by
  -- Each link keeps the graphs alike and the remaining types unfinished in both of them.
  induction entries generalizing graph other with
  | nil => exact ⟨.none, fun _ => ⟨shows, by simp⟩⟩
  | cons entry rest ih =>
      have both := unfinished entry List.mem_cons_self
      have entryYoung := Nat.le_trans young both.here.young
      have found := linkFailure?_agree names everything shows both entryYoung later
      rw [Resolver.linksFailure?, List.map_cons, Resolver.linksFailure?]
      cases accepted : resolver.linkFailure? graph entry.type entry.declaration with
      | some failure =>
          rw [accepted] at found
          obtain ⟨imageFailure, shown, related⟩ := exists_of_rel found
          simp only [showsEntry, shown, Option.map_some, Option.some_or]
          exact ⟨.some (names.labelFailure related _), by simp⟩
      | none =>
          have imageAccepted := eq_none_of_rel found accepted
          have linked := shows.linkType names everything both entryYoung accepted
          have same := (linkType_performs both.here.piece both.here.isOpen both.here.kind
            both.here.memberless).left accepted
          have imageSame := (linkType_performs both.there.piece both.there.isOpen both.there.kind
            both.there.memberless).left imageAccepted
          have next := ih (linked.of_bare same imageSame) fun waiting listed =>
            have ready := unfinished waiting (List.mem_cons_of_mem entry listed)
            ⟨ready.here.of_linkType both.here accepted,
              ready.there.of_linkType both.there imageAccepted⟩
          rw [linksFailure?_of_bare same, linksFailure?_of_bare imageSame] at next
          simp only [showsEntry, imageAccepted, Option.map_none, Option.none_or]
          refine ⟨next.1, fun none => ?_⟩
          obtain ⟨nextShows, finds⟩ := next.2 none
          refine ⟨nextShows.of_bare (withLinks_of_bare same rest).symm
            (withLinks_of_bare imageSame _).symm, ?_⟩
          intro waiting listed
          rcases List.mem_cons.mp listed with rfl | inRest
          · rw [Resolver.linkFailure?, Option.or_eq_none_iff] at accepted
            exact Resolver.findsSupertypes accepted.1
          · exact finds waiting inRest

/-! ## Completion -/

theorem completeEntry_agree {entry : PendingType}
    (shows : mirror.Shows resolver.farm population graph other)
    (unfinished : mirror.BothUnfinished resolver image base imageBase entry graph other)
    (young : mirror.common ≤ base.types.size) :
    mirror.Agree resolver.farm population (fun _ _ => True)
      ((completeType resolver entry).exec graph)
      ((completeType image (mirror.showsEntry entry)).exec other) := by
  obtain ⟨here, there⟩ := unfinished
  have paired : mirror.Paired resolver image population entry.type graph other :=
    ⟨{ here.piece with bounded := Nat.zero_le _ }, here.isOpen,
      { there.piece with bounded := Nat.zero_le _ }, there.isOpen, shows⟩
  exact completeType_agree names paired (everything (shows.source.size ▸ here.piece.present))
    (Nat.le_trans young here.young) entry.declaration

/-- Types are completed alike, one after the other. -/
theorem completeTypes_agree {pending : List PendingType} {order : List Nat}
    (apart : (pending.map (·.type)).Nodup)
    (imageApart : ((pending.map mirror.showsEntry).map (·.type)).Nodup) (distinct : order.Nodup)
    (unfinished : AllUnfinished resolver base pending order graph)
    (imageUnfinished : AllUnfinished image imageBase (pending.map mirror.showsEntry) order other)
    (shows : mirror.Shows resolver.farm population graph other)
    (young : mirror.common ≤ base.types.size) :
    mirror.Agree resolver.farm population (fun _ _ => True)
      ((completeTypes resolver pending order).exec graph)
      ((completeTypes image (pending.map mirror.showsEntry) order).exec other) := by
  -- The remaining types stay unfinished in both graphs, because the places in the order differ.
  induction order generalizing graph other with
  | nil => exact .ok trivial shows
  | cons place rest ih =>
      have later := (List.nodup_cons.mp distinct).2
      rw [completeTypes_cons, completeTypes_cons, List.getElem?_map]
      cases found : pending[place]? with
      | none =>
          exact ih later (fun next listed => unfinished next (List.mem_cons_of_mem place listed))
            (fun next listed => imageUnfinished next (List.mem_cons_of_mem place listed)) shows
      | some entry =>
          have imageFound : (pending.map mirror.showsEntry)[place]?
              = some (mirror.showsEntry entry) := by rw [List.getElem?_map, found]; rfl
          have here := unfinished place List.mem_cons_self entry found
          have there := imageUnfinished place List.mem_cons_self _ imageFound
          have agree := completeEntry_agree names everything shows ⟨here, there⟩ young
          obtain ⟨steps, frame, -⟩ := completeType_work here
          obtain ⟨imageSteps, imageFrame, -⟩ := completeType_work there
          have label := exec_inDeclaration resolver.module.name entry.declaration.name
            (completeType resolver entry) graph
          have imageLabel := exec_inDeclaration image.module.name
            (mirror.showsEntry entry).declaration.name
            (completeType image (mirror.showsEntry entry))
            other
          dsimp only [Option.map_some]
          rw [Build.exec_bind, Build.exec_bind, label, imageLabel, names.moduleName]
          rcases run : (completeType resolver entry).exec graph with ⟨outcome, next⟩
          rcases imageRun : (completeType image (mirror.showsEntry entry)).exec other with
            ⟨imageOutcome, imageNext⟩
          rw [run, imageRun] at agree
          rw [run] at steps frame
          rw [imageRun] at imageSteps imageFrame
          cases agree with
          | ok _ nextShows =>
              exact ih later (unfinished.next apart distinct found steps frame)
                (imageUnfinished.next imageApart distinct imageFound imageSteps imageFrame)
                nextShows
          | error shows =>
              cases shows with
              | rejected error => exact .error (.rejected (error.declaration _ _))
              | aborted error => exact .error (.aborted error)

/-- After the stubs have been made, a module is finished alike in both graphs. -/
theorem finishModule_agree {pending : List PendingType}
    (shows : mirror.Shows resolver.farm population graph other)
    (stubbed : Stubbed resolver base pending graph)
    (imageStubbed : Stubbed image imageBase (pending.map mirror.showsEntry) other)
    (young : mirror.common ≤ base.types.size) :
    mirror.Agree resolver.farm population
      (fun module shown => module = resolver.module ∧ shown = image.module)
      ((finishModule resolver pending).exec graph)
      ((finishModule image (pending.map mirror.showsEntry)).exec other) := by
  obtain ⟨linked, -, size, -, nothing, complete, ran⟩ := finishModule_exec stubbed
  obtain ⟨imageLinked, -, imageSize, -, imageNothing, imageComplete, imageRan⟩ :=
    finishModule_exec imageStubbed
  have later : mirror.Frames linked imageLinked := shows.toFrames.step
    (.of_keepsSealed nothing.keeps size) (.of_keepsSealed imageNothing.keeps imageSize)
  have unfinished : ∀ entry ∈ pending,
      mirror.BothUnfinished resolver image base imageBase entry graph other := fun entry listed =>
    ⟨stubbed.ready entry listed, imageStubbed.ready _ (List.mem_map_of_mem listed)⟩
  have present : ∀ entry ∈ pending, entry.type < mirror.source.types.size :=
    fun entry listed => shows.source.size ▸ (stubbed.ready entry listed).piece.present
  obtain ⟨found, linkedShows⟩ :=
    linksFailure?_agree names everything later shows unfinished young
  rw [ran, imageRan]
  cases accepted : resolver.linksFailure? graph pending with
  | some failure =>
      rw [accepted] at found
      obtain ⟨imageFailure, shown, related⟩ := exists_of_rel found
      rw [shown]
      exact .error related
  | none =>
      obtain ⟨showsLinks, finds⟩ := linkedShows accepted
      obtain ⟨links, ready⟩ := complete accepted
      have imageAccepted := eq_none_of_rel found accepted
      obtain ⟨imageLinks, imageReady⟩ := imageComplete imageAccepted
      have same : (pending.map mirror.showsEntry).map
          (image.dependencies other (pending.map mirror.showsEntry))
          = pending.map (resolver.dependencies graph pending) := by
        rw [List.map_map]
        apply List.map_congr_left
        intro entry listed
        exact dependencies_agree names shows.toFrames present (finds entry listed)
      rw [imageAccepted, same]
      simp only [Option.elim_none]
      cases plan : completionPlan (pending.map (resolver.dependencies graph pending)) with
      | error cycle =>
          dsimp only
          rw [names.cycleFailure]
          exact .error (.rejected (.of_plain (fun _ _ => ⟨rfl, rfl⟩) linked imageLinked))
      | ok order =>
          obtain ⟨ordered, -⟩ := DependencyGraph.ordered_of_solve plan
          have completed := completeTypes_agree names everything stubbed.distinct
            imageStubbed.distinct ordered.nodup
            (fun _ _ entry found => ready entry (List.mem_of_getElem? found))
            (fun _ _ entry found => imageReady entry (List.mem_of_getElem? found))
            (showsLinks.of_bare links imageLinks) young
          dsimp only
          generalize (completeTypes resolver pending order).exec linked = run at completed
          generalize (completeTypes image (pending.map mirror.showsEntry) order).exec imageLinked
            = imageRun at completed
          cases completed with
          | ok _ shows => exact .ok ⟨rfl, rfl⟩ shows
          | error shows => exact .error shows

end Lists

end Mirror

end Nominal
