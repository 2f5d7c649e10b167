import Nominal.Proofs.CompletionRuns

/-!
# Completion in another order

The types of a module are completed in one graph, and in another graph in another order.  Each of
them finds the same types above it, completed or there before the module, so both runs complete it
alike. The runs can differ in the array types that they have made so far; those are found by name,
which makes no difference if the names of their elements tell types apart.
-/

namespace Nominal

open Nominal.Graph

/-! ## Array types -/

namespace Graph

variable {graph left : Graph} {farm : Farm}

theorem SameTypes.sole_iff (same : graph.SameTypes left) {element : TypeRef} :
    left.Sole element ↔ graph.Sole element := by
  unfold Sole
  simp only [same.size, same.qualifiedName]

/-- The array types that a graph has got are over the only types of their names. -/
def NewArraysApart (graph left : Graph) (farm : Farm) : Prop :=
  ∀ {name element base}, (graph.arenaAt farm.arena).arrays.get? name = none →
    (left.arenaAt farm.arena).arrays.get? name = some (.array element base) → left.Sole element

theorem NewArraysApart.of_frame {early : Graph} {touched : TypeId → Prop} {bound : Nat}
    (apart : graph.NewArraysApart left farm) (frame : early.Frame farm touched bound left) :
    graph.NewArraysApart early farm := fun absent found =>
  (SameTypes.of_frame frame).sole_iff.mp (apart absent (frame.arrays found))

end Graph

namespace Mirror

variable {mirror : Mirror} {farm : Farm} {base graph other : Graph}

theorem exists_showsRef {reference : TypeRef}
    (within : reference.isWithin mirror.source.types.size = true) :
    ∃ image, mirror.ShowsRef reference image ∧
      image.isWithin mirror.target.types.size = true := by
  induction reference with
  | primitive kind => exact ⟨_, .primitive kind, rfl⟩
  | nominal type =>
      have present : type < mirror.source.types.size := of_decide_eq_true within
      exact ⟨_, .nominal present, decide_eq_true (mirror.present present)⟩
  | array element owner ih =>
      rw [TypeRef.isWithin, Bool.and_eq_true] at within
      obtain ⟨image, shows, imageWithin⟩ := ih within.1
      refine ⟨.array image none, .array shows.qualifiedName fun _ => shows, ?_⟩
      rw [TypeRef.isWithin, imageWithin]
      rfl

/-- Array types correspond to each other if those that the two graphs have got can be told apart. -/
theorem Frames.agreesOnArrays (frames : mirror.Frames graph other)
    (common : mirror.common = base.types.size) (covered : mirror.common ≤ mirror.source.types.size)
    (interned : base.Interned farm) (graphInterned : graph.Interned farm)
    (otherInterned : other.Interned farm)
    (kept : ∀ {name array}, (base.arenaAt farm.arena).arrays.get? name = some array →
      (graph.arenaAt farm.arena).arrays.get? name = some array ∧
        (other.arenaAt farm.arena).arrays.get? name = some array)
    (apart : base.NewArraysApart graph farm) (imageApart : base.NewArraysApart other farm) :
    mirror.AgreesOnArrays (graph.arenaAt farm.arena).arrays (other.arenaAt farm.arena).arrays := by
  refine ⟨?_, ?_, ?_⟩
  · intro name array image found imageFound
    cases known : (base.arenaAt farm.arena).arrays.get? name with
    | some old =>
        cases (kept known).1.symm.trans found
        cases (kept known).2.symm.trans imageFound
        obtain ⟨element, rfl, within, -⟩ := interned name _ known
        have shown : mirror.ShowsRef element element := .of_common covered (common.symm ▸ within)
        exact .array shown.qualifiedName fun _ => shown
    | none =>
        obtain ⟨element, rfl, within, named⟩ := graphInterned name array found
        obtain ⟨shown, rfl, -, imageNamed⟩ := otherInterned name image imageFound
        rw [frames.source.size] at within
        obtain ⟨found, shows, foundWithin⟩ := exists_showsRef within
        have same : found.same shown = true := by
          refine imageApart known imageFound found (frames.target.size.symm ▸ foundWithin) ?_
          rw [frames.qualifiedName shows, named, imageNamed]
        have related := shows.congr (TypeRef.same_refl element) same
        exact .array related.qualifiedName fun _ => related
  · intro name element owner found absent
    refine frames.source.sole_iff.mp (apart ?_ found)
    by_contra known
    obtain ⟨array, known⟩ := Option.ne_none_iff_exists'.mp known
    rw [(kept known).2] at absent
    cases absent
  · intro name element owner found absent
    refine frames.target.sole_iff.mp (imageApart ?_ found)
    by_contra known
    obtain ⟨array, known⟩ := Option.ne_none_iff_exists'.mp known
    rw [(kept known).1] at absent
    cases absent

/-! ## Two runs -/

/-- Two runs that complete the types of a module in different orders. -/
structure Redoes (mirror : Mirror) (resolver image : Resolver) (base : Graph)
    (pending listed : List PendingType) (stubs imageStubs linked imageLinked : Graph)
    (order imageOrder : List Nat) : Prop where
  houses : base.Houses resolver.farm
  relists : mirror.Relists resolver image base pending listed stubs imageStubs
  planned : Planned resolver base pending stubs linked order
  imagePlanned : Planned image base listed imageStubs imageLinked imageOrder

/-- A type has been completed alike in both graphs. -/
structure CompletedAlike (mirror : Mirror) (linked graph other : Graph) (type : TypeId) : Prop where
  shows : mirror.ShowsType graph other (graph.typeAt type) (other.typeAt (mirror.rename type))
  body : mirror.ShowsBody graph other (graph.typeAt type) (other.typeAt (mirror.rename type))
  above : ∀ {supertype}, graph.Extends type supertype → linked.Reaches type supertype

theorem CompletedAlike.later {linked left last : Graph} {type : TypeId}
    (alike : mirror.CompletedAlike linked graph other type) (retains : graph.RetainsMembers left)
    (imageRetains : other.RetainsMembers last) (same : left.typeAt type = graph.typeAt type)
    (imageSame : last.typeAt (mirror.rename type) = other.typeAt (mirror.rename type)) :
    mirror.CompletedAlike linked left last type := by
  refine ⟨?_, ?_, ?_⟩
  · rw [same, imageSame]
    exact alike.shows.later retains imageRetains
  · rw [same, imageSame]
    exact alike.body.later retains imageRetains
  · intro supertype link
    rw [Extends, supertypesOf, same] at link
    exact alike.above link

namespace Redoes

variable {resolver image : Resolver} {pending listed : List PendingType}
  {stubs imageStubs linked imageLinked left : Graph} {order imageOrder : List Nat}

/-- What the second run has completed is as it was completed in the first run. -/
def CaughtUp (mirror : Mirror) (resolver : Resolver) (pending : List PendingType)
    (order : List Nat) (linked left : Graph) (done : List PendingType) (other : Graph) : Prop :=
  ∀ before entry after early late, entriesAt pending order = before ++ entry :: after →
    Stage resolver linked left before entry after early late → mirror.showsEntry entry ∈ done →
      mirror.CompletedAlike linked late other entry.type

variable
  (redoes : mirror.Redoes resolver image base pending listed stubs imageStubs linked imageLinked
    order imageOrder)

include redoes

theorem showsLinked :
    mirror.Shows resolver.farm (· < mirror.source.types.size) linked imageLinked :=
  (redoes.relists.showsLinks redoes.planned.accepted).of_bare redoes.planned.links
    redoes.imagePlanned.links

theorem covered : mirror.common ≤ mirror.source.types.size := by
  rw [redoes.relists.common, ← redoes.relists.shows.source.size]
  exact redoes.planned.stubbed.grows.size

theorem exists_done {done rest : List PendingType}
    (imageSplit : entriesAt listed imageOrder = done ++ rest) {type : TypeId}
    (listedType : type ∈ done.map (·.type)) :
    ∃ source ∈ pending, mirror.showsEntry source ∈ done ∧ mirror.rename source.type = type := by
  obtain ⟨shown, inDone, rfl⟩ := List.mem_map.mp listedType
  have inListed : shown ∈ listed :=
    redoes.imagePlanned.mem_entries.mp (imageSplit ▸ List.mem_append_left _ inDone)
  obtain ⟨source, inSource, rfl⟩ := redoes.relists.exists_entry inListed
  exact ⟨source, inSource, inDone, rfl⟩

section Step

variable {before after done rest : List PendingType} {entry : PendingType} {early late : Graph}
  (split : entriesAt pending order = before ++ entry :: after)
  (stage : Stage resolver linked left before entry after early late)
  (imageSplit : entriesAt listed imageOrder = done ++ mirror.showsEntry entry :: rest)
  (imageDone : CompletesEach image done imageLinked other)

include split imageSplit

/-- A type above the next one has not been worked on in either run, or it has been completed in
both. -/
theorem above_cases {ancestor : TypeId} (path : linked.Reaches entry.type ancestor) :
    (ancestor ∉ before.map (·.type) ∧ mirror.rename ancestor ∉ done.map (·.type)) ∨
      ∃ above ∈ before, above.type = ancestor ∧ mirror.showsEntry above ∈ done := by
  have sound := redoes.houses.sound
  have present := redoes.relists.present (redoes.planned.mem_of_split split)
  obtain ⟨inside, imagePath⟩ := redoes.showsLinked.reaches_rename present path
  -- Both runs complete what is above a type before that type, so each of them has done what the
  -- other one has done.
  by_cases here : ancestor ∈ before.map (·.type)
  · obtain ⟨above, earlier, rfl⟩ := List.mem_map.mp here
    have inPending : above ∈ pending :=
      redoes.planned.mem_entries.mp (split ▸ List.mem_append_left _ earlier)
    refine .inr ⟨above, earlier, rfl, ?_⟩
    rcases redoes.imagePlanned.above imageSplit sound imagePath with same | old | listedType
    · rw [mirror.injective inside present same] at here
      exact absurd here (redoes.planned.not_mem split).1
    · have young := (redoes.imagePlanned.unfinished _ (redoes.relists.mem_listed inPending)).young
      exact absurd old (Nat.not_lt.mpr young)
    · obtain ⟨source, inSource, inDone, same⟩ := redoes.exists_done imageSplit listedType
      rwa [← redoes.relists.eq_of_rename inSource inPending same]
  · refine .inl ⟨here, fun listedType => ?_⟩
    obtain ⟨source, inSource, inDone, same⟩ := redoes.exists_done imageSplit listedType
    obtain rfl := mirror.injective (redoes.relists.present inSource) inside same
    rcases redoes.planned.above split sound path with same | old | earlier
    · apply (redoes.imagePlanned.not_mem imageSplit).1
      rw [type_showsEntry, ← same, ← type_showsEntry]
      exact List.mem_map_of_mem inDone
    · exact Nat.not_lt.mpr (redoes.planned.unfinished source inSource).young old
    · exact here earlier

include stage

omit imageSplit in
/-- What both runs have completed above the next type is still the same. -/
theorem alike_above (caught : CaughtUp mirror resolver pending order linked left done other)
    {above : PendingType} (earlier : above ∈ before) (inDone : mirror.showsEntry above ∈ done) :
    mirror.CompletedAlike linked early other above.type := by
  obtain ⟨first, middle, rfl⟩ := List.append_of_mem earlier
  obtain ⟨start, finish, begun⟩ := exists_stage stage.earlier
  rw [List.append_assoc, List.cons_append] at split
  have whole : Stage resolver linked left first above (middle ++ entry :: after) start finish :=
    ⟨begun.earlier, begun.ran,
      completesEach_append_iff.mpr ⟨early, begun.later, .cons stage.ran stage.later⟩⟩
  obtain ⟨retains, same⟩ := redoes.planned.settled split begun.earlier begun.ran begun.later
  exact (caught _ _ _ _ _ split whole inDone).later retains (.of_eq rfl) same rfl

include imageDone

/-- Array types that can be told apart in the end can be told apart all the time. -/
theorem agreesOnArrays {last : Graph}
    (imageLater : CompletesEach image (mirror.showsEntry entry :: rest) other last)
    (apart : base.NewArraysApart left resolver.farm)
    (imageApart : base.NewArraysApart last resolver.farm) :
    mirror.AgreesOnArrays (early.arenaAt resolver.farm.arena).arrays
      (other.arenaAt resolver.farm.arena).arrays := by
  have farm := redoes.relists.names.farm
  have whole : CompletesEach resolver (entry :: after) early left := .cons stage.ran stage.later
  have frame := redoes.planned.frame split .nil stage.earlier
  have imageFrame := redoes.imagePlanned.frame imageSplit .nil imageDone
  have later := redoes.planned.frame (split.trans (by rw [List.append_nil])) stage.earlier whole
  have imageLater := redoes.imagePlanned.frame (imageSplit.trans (by rw [List.append_nil]))
    imageDone imageLater
  rw [farm] at imageFrame imageLater
  have interned := (redoes.planned.unfinished_left split stage.earlier).piece.hosted.interned
  have imageInterned :=
    (redoes.imagePlanned.unfinished_left imageSplit imageDone).piece.hosted.interned
  rw [farm] at imageInterned
  refine Frames.agreesOnArrays (redoes.showsLinked.toFrames.step (.of_frame frame)
    (.of_frame imageFrame)) redoes.relists.common redoes.covered redoes.houses.interned interned
    imageInterned ?_ (apart.of_frame later) (imageApart.of_frame imageLater)
  intro name array found
  exact ⟨frame.arrays (redoes.planned.grows.arrays found),
    imageFrame.arrays (redoes.imagePlanned.grows.arrays found)⟩

/-- Both runs find the same types above the next one. -/
theorem shows_stage (caught : CaughtUp mirror resolver pending order linked left done other)
    (arrays : mirror.exact → mirror.AgreesOnArrays (early.arenaAt resolver.farm.arena).arrays
      (other.arenaAt resolver.farm.arena).arrays) :
    mirror.Shows resolver.farm (linked.Reaches entry.type) early other := by
  have shows := redoes.showsLinked
  have present := redoes.relists.present (redoes.planned.mem_of_split split)
  have inside : ∀ {ancestor}, linked.Reaches entry.type ancestor →
      ancestor < mirror.source.types.size := fun path => (shows.reaches_rename present path).1
  have frame := redoes.planned.frame split .nil stage.earlier
  have imageFrame := redoes.imagePlanned.frame imageSplit .nil imageDone
  have retains := RetainsMembers.of_frame frame
  have imageRetains := RetainsMembers.of_frame imageFrame
  have alike : ∀ {above}, above ∈ before → mirror.showsEntry above ∈ done →
      mirror.CompletedAlike linked early other above.type := fun earlier inDone =>
    redoes.alike_above split stage caught earlier inDone
  refine ⟨shows.toFrames.step (.of_frame frame) (.of_frame imageFrame), inside, ?_, ?_, ?_, arrays,
    ?_⟩
  · intro ancestor supertype path link
    rcases redoes.above_cases split imageSplit path with ⟨apart, -⟩ | ⟨above, earlier, rfl, inDone⟩
    · rw [Extends, supertypesOf, frame.others _ apart] at link
      exact path.tail link
    · exact path.trans ((alike earlier inDone).above link)
  · intro ancestor path
    rcases redoes.above_cases split imageSplit path with
      ⟨apart, imageApart⟩ | ⟨above, earlier, rfl, inDone⟩
    · rw [frame.others _ apart, imageFrame.others _ imageApart]
      exact (shows.types (inside path)).later retains imageRetains
    · exact (alike earlier inDone).shows
  · intro ancestor path young
    rcases redoes.above_cases split imageSplit path with
      ⟨apart, imageApart⟩ | ⟨above, earlier, rfl, inDone⟩
    · rw [frame.others _ apart, imageFrame.others _ imageApart]
      exact (shows.bodies (inside path) young).later retains imageRetains
    · exact (alike earlier inDone).body
  · rw [imageFrame.settings, shows.settings, frame.settings]

theorem complete_agree (caught : CaughtUp mirror resolver pending order linked left done other)
    (arrays : mirror.exact → mirror.AgreesOnArrays (early.arenaAt resolver.farm.arena).arrays
      (other.arenaAt resolver.farm.arena).arrays) :
    ∃ next, (completeType image (mirror.showsEntry entry)).exec other = (.ok (), next) ∧
      mirror.CompletedAlike linked late next entry.type := by
  have here := redoes.planned.unfinished_left split stage.earlier
  have there := redoes.imagePlanned.unfinished_left imageSplit imageDone
  have paired : mirror.Paired resolver image (linked.Reaches entry.type) entry.type early other :=
    ⟨{ here.piece with bounded := Nat.zero_le _ }, here.isOpen,
      { there.piece with bounded := Nat.zero_le _ }, there.isOpen,
      redoes.shows_stage split stage imageSplit imageDone caught arrays⟩
  have young : mirror.common ≤ entry.type := redoes.relists.common ▸ here.young
  have agree := completeType_agree redoes.relists.names paired .refl young entry.declaration
  rw [stage.ran] at agree
  generalize run : (completeType image ⟨entry.declaration, mirror.rename entry.type⟩).exec other
    = outcome at agree
  cases agree with
  | ok _ shows =>
      exact ⟨_, run, shows.types .refl, shows.bodies .refl young,
        fun link => shows.closed .refl link⟩

end Step

/-- The second run has caught up with one type more when it has completed that type alike. -/
theorem caughtUp_next {done : List PendingType} {entry : PendingType} {next : Graph} {farm : Farm}
    {bound : Nat} (inPending : entry ∈ pending)
    (caught : CaughtUp mirror resolver pending order linked left done other)
    (frame : other.Frame farm (· ∈ [mirror.showsEntry entry].map (·.type)) bound next)
    (retains : other.RetainsMembers next)
    (alike : ∀ before after early late, entriesAt pending order = before ++ entry :: after →
      Stage resolver linked left before entry after early late →
        mirror.CompletedAlike linked late next entry.type) :
    CaughtUp mirror resolver pending order linked left (done ++ [mirror.showsEntry entry])
      next := by
  intro before found after early late split stage inDone
  by_cases same : found = entry
  · subst same
    exact alike before after early late split stage
  · have foundPending := redoes.planned.mem_of_split split
    have differs : mirror.rename found.type ≠ mirror.rename entry.type := fun equal =>
      same (redoes.relists.eq_of_rename foundPending inPending equal)
    rcases List.mem_append.mp inDone with earlier | here
    · refine (caught _ _ _ _ _ split stage earlier).later (.of_eq rfl) retains rfl
        (frame.others _ ?_)
      exact fun listedType => differs (List.mem_singleton.mp listedType)
    · exact absurd (congrArg PendingType.type (List.mem_singleton.mp here)) differs

/-- The second run catches up with the first one. -/
theorem completesEach_listed
    (completes : CompletesEach resolver (entriesAt pending order) linked left)
    (apart : mirror.exact → base.NewArraysApart left resolver.farm) {done rest : List PendingType}
    (imageSplit : entriesAt listed imageOrder = done ++ rest)
    (imageDone : CompletesEach image done imageLinked other)
    (caught : CaughtUp mirror resolver pending order linked left done other)
    (imageApart : mirror.exact → ∃ last, CompletesEach image rest other last ∧
      base.NewArraysApart last resolver.farm) :
    ∃ last, CompletesEach image rest other last ∧
      CaughtUp mirror resolver pending order linked left (done ++ rest) last := by
  induction rest generalizing done other with
  | nil =>
      rw [List.append_nil]
      exact ⟨other, .nil, caught⟩
  | cons shown rest ih =>
      have inListed := redoes.imagePlanned.mem_of_split imageSplit
      obtain ⟨entry, inPending, rfl⟩ := redoes.relists.exists_entry inListed
      -- Whichever way the first run is cut at this type, both runs agree on it.
      have agree : ∀ before after early late,
          entriesAt pending order = before ++ entry :: after →
          Stage resolver linked left before entry after early late →
          ∃ next, (completeType image (mirror.showsEntry entry)).exec other = (.ok (), next) ∧
            mirror.CompletedAlike linked late next entry.type := by
        intro before after early late split stage
        refine redoes.complete_agree split stage imageSplit imageDone caught fun exact => ?_
        obtain ⟨last, imageLater, lastApart⟩ := imageApart exact
        exact redoes.agreesOnArrays split stage imageSplit imageDone imageLater (apart exact)
          lastApart
      obtain ⟨before, after, split⟩ :=
        List.append_of_mem (redoes.planned.mem_entries.mpr inPending)
      obtain ⟨early, late, stage⟩ := exists_stage (split ▸ completes)
      obtain ⟨next, ran, -⟩ := agree before after early late split stage
      have parts : entriesAt listed imageOrder = (done ++ [mirror.showsEntry entry]) ++ rest := by
        rw [imageSplit, List.append_assoc, List.singleton_append]
      have step : CompletesEach image [mirror.showsEntry entry] other next := .cons ran .nil
      have frame := redoes.imagePlanned.frame
        (imageSplit.trans (by rw [List.singleton_append])) imageDone step
      have nextCaught : CaughtUp mirror resolver pending order linked left
          (done ++ [mirror.showsEntry entry]) next := by
        refine redoes.caughtUp_next inPending caught frame (.of_frame frame) ?_
        intro first others start finish foundSplit foundStage
        obtain ⟨again, ranAgain, alike⟩ := agree first others start finish foundSplit foundStage
        rw [ran] at ranAgain
        cases ranAgain
        exact alike
      have nextApart : mirror.exact → ∃ last, CompletesEach image rest next last ∧
          base.NewArraysApart last resolver.farm := by
        intro exact
        obtain ⟨last, imageLater, lastApart⟩ := imageApart exact
        cases imageLater with
        | cons ranAgain later =>
            rw [ran] at ranAgain
            cases ranAgain
            exact ⟨last, later, lastApart⟩
      obtain ⟨last, later, caughtUp⟩ := ih parts
        (completesEach_append_iff.mpr ⟨other, imageDone, step⟩) nextCaught nextApart
      rw [List.append_assoc, List.singleton_append] at caughtUp
      exact ⟨last, .cons ran later, caughtUp⟩

section Last

variable {last : Graph}
  (completes : CompletesEach resolver (entriesAt pending order) linked left)
  (imageCompletes : CompletesEach image (entriesAt listed imageOrder) imageLinked last)
  (caught : CaughtUp mirror resolver pending order linked left (entriesAt listed imageOrder) last)

include completes caught

theorem alike_last {entry : PendingType} (waiting : entry ∈ pending) :
    mirror.CompletedAlike linked left last entry.type := by
  obtain ⟨before, after, split⟩ := List.append_of_mem (redoes.planned.mem_entries.mpr waiting)
  obtain ⟨early, late, stage⟩ := exists_stage (split ▸ completes)
  obtain ⟨retains, same⟩ := redoes.planned.settled (split.trans (by rw [List.append_nil]))
    stage.earlier stage.ran stage.later
  have inDone := redoes.imagePlanned.mem_entries.mpr (redoes.relists.mem_listed waiting)
  exact (caught _ _ _ _ _ split stage inDone).later retains (.of_eq rfl) same rfl

include imageCompletes

/-- In the end a type is as it was in both graphs, or it has been completed alike. -/
theorem last_cases {type : TypeId} (inside : type < mirror.source.types.size) :
    (left.typeAt type = linked.typeAt type ∧
        last.typeAt (mirror.rename type) = imageLinked.typeAt (mirror.rename type)) ∨
      mirror.CompletedAlike linked left last type := by
  have frame := redoes.planned.frame (List.append_nil _).symm .nil completes
  have imageFrame := redoes.imagePlanned.frame (List.append_nil _).symm .nil imageCompletes
  by_cases waiting : type ∈ pending.map (·.type)
  · obtain ⟨entry, inPending, rfl⟩ := List.mem_map.mp waiting
    exact .inr (redoes.alike_last completes caught inPending)
  · refine .inl ⟨frame.others _ fun listedType => waiting ?_,
      imageFrame.others _ fun listedType => ?_⟩
    · obtain ⟨entry, inEntries, rfl⟩ := List.mem_map.mp listedType
      exact List.mem_map_of_mem (redoes.planned.mem_entries.mp inEntries)
    · obtain ⟨shown, inEntries, same⟩ := List.mem_map.mp listedType
      exact redoes.relists.rename_not_mem inside waiting
        (same ▸ List.mem_map_of_mem (redoes.imagePlanned.mem_entries.mp inEntries))

theorem shows_last (apart : mirror.exact → base.NewArraysApart left resolver.farm ∧
      base.NewArraysApart last resolver.farm) :
    mirror.Shows resolver.farm (· < mirror.source.types.size) left last := by
  have shows := redoes.showsLinked
  have farm := redoes.relists.names.farm
  have frame := redoes.planned.frame (List.append_nil _).symm .nil completes
  have imageFrame := redoes.imagePlanned.frame (List.append_nil _).symm .nil imageCompletes
  refine shows.step (.of_frame frame) (.of_frame imageFrame) (.of_frame frame)
    (.of_frame imageFrame) ?_ ?_ ?_ ?_
  · intro type supertype inside link
    rcases redoes.last_cases completes imageCompletes caught inside with ⟨same, -⟩ | completed
    · rw [Extends, supertypesOf, same] at link
      exact shows.closed inside link
    · exact (shows.reaches_rename inside (completed.above link)).1
  · intro type inside
    exact (redoes.last_cases completes imageCompletes caught inside).imp_right fun completed =>
      ⟨completed.shows, fun _ => completed.body⟩
  · intro exact
    obtain ⟨leftApart, lastApart⟩ := apart exact
    rw [farm] at imageFrame
    have imageInterned := redoes.imagePlanned.grows.houses.interned
    rw [farm] at imageInterned
    refine Frames.agreesOnArrays (shows.toFrames.step (.of_frame frame) (.of_frame imageFrame))
      redoes.relists.common redoes.covered redoes.houses.interned
      (frame.interned redoes.planned.grows.houses.interned) (imageFrame.interned imageInterned) ?_
      leftApart lastApart
    intro name array found
    exact ⟨frame.arrays (redoes.planned.grows.arrays found),
      imageFrame.arrays (redoes.imagePlanned.grows.arrays found)⟩
  · rw [imageFrame.settings, shows.settings, frame.settings]

end Last

end Redoes

end Mirror

end Nominal
