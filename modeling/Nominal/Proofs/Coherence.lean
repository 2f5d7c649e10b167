import Nominal.Proofs.Computation
import Nominal.Proofs.WellFormed

/-!
# Kept views

The kept views of a graph are *coherent* if each of them belongs to a sealed type and has the value
that would be computed now.  Asking for a view of a well-formed graph with coherent views answers
with its value, changes nothing but kept views and the journal, and leaves the views coherent.
-/

namespace Nominal

namespace Graph

/-! ## Coherent graphs -/

/-- Every kept view belongs to a sealed type and has the value computed from the declarations. -/
def Coherent (graph : Graph) : Prop :=
  ∀ (view : View) (type : TypeId) (answer : view.Answer),
    view.kept (graph.cacheAt type) = some answer →
      graph.isSealed type = true ∧ answer = view.value graph type

/-- A well-formed graph with coherent views. -/
structure Sound (graph : Graph) : Prop where
  wellFormed : graph.WellFormed
  coherent : graph.Coherent

/-- The effect of a query: at most kept views and the journal have changed. -/
structure Reads (graph left : Graph) : Prop where
  bare : left.bare = graph.bare
  sound : left.Sound

section Bare

variable {graph left : Graph} (same : left.bare = graph.bare)

include same

theorem types_eq_of_bare : left.types = graph.types :=
  eq_of_bare_eq Graph.types same fun _ => rfl

theorem members_eq_of_bare : left.members = graph.members :=
  eq_of_bare_eq Graph.members same fun _ => rfl

theorem arenas_eq_of_bare : left.arenas = graph.arenas :=
  eq_of_bare_eq Graph.arenas same fun _ => rfl

theorem progress_eq_of_bare : left.progress = graph.progress :=
  eq_of_bare_eq Graph.progress same fun _ => rfl

theorem typeAt_eq_of_bare (type : TypeId) : left.typeAt type = graph.typeAt type := by
  rw [typeAt, typeAt, types_eq_of_bare same]

theorem memberAt_eq_of_bare (member : MemberId) :
    left.memberAt member = graph.memberAt member := by
  rw [memberAt, memberAt, members_eq_of_bare same]

theorem isSealed_eq_of_bare (type : TypeId) : left.isSealed type = graph.isSealed type := by
  rw [isSealed, isSealed, typeAt_eq_of_bare same]

theorem WellFormed.of_bare (wellFormed : graph.WellFormed) : left.WellFormed :=
  wellFormed.of_eq (types_eq_of_bare same) (members_eq_of_bare same) fun arena => by
    rw [arenaAt, arenaAt, arenas_eq_of_bare same]

theorem value_eq_of_bare (wellFormed : graph.WellFormed) (view : View) (type : TypeId) :
    view.value left type = view.value graph type :=
  (wellFormed.agreeOn_of_eq (types_eq_of_bare same) (members_eq_of_bare same)).value trivial view

end Bare

namespace Reads

variable {graph left last : Graph}

theorem refl (sound : graph.Sound) : graph.Reads graph :=
  ⟨rfl, sound⟩

theorem trans (early : graph.Reads left) (late : left.Reads last) : graph.Reads last :=
  ⟨late.bare.trans early.bare, late.sound⟩

end Reads

section Reading

variable {graph left : Graph} (sound : graph.Sound) (read : graph.Reads left)

include read

theorem extends_eq_of_reads : left.Extends = graph.Extends := by
  funext type supertype
  rw [Extends, Extends, supertypesOf, supertypesOf, typeAt_eq_of_bare read.bare]

theorem reaches_eq_of_reads : left.Reaches = graph.Reaches := by
  rw [Reaches, Reaches, extends_eq_of_reads read]

include sound

theorem ofClass_eq_of_reads (type : TypeId) (isStatic : Bool) :
    ClassMemberMap.ofClass left type isStatic = ClassMemberMap.ofClass graph type isStatic := by
  cases isStatic with
  | true => exact value_eq_of_bare read.bare sound.wellFormed .staticMemberMap type
  | false => exact value_eq_of_bare read.bare sound.wellFormed .instanceMemberMap type

theorem parentChain_eq_of_reads (type : TypeId) :
    left.parentChain type = graph.parentChain type :=
  (sound.wellFormed.agreeOn_of_eq (types_eq_of_bare read.bare)
    (members_eq_of_bare read.bare)).chains type trivial

theorem loadedAtRank_eq_of_reads (type : TypeId) (isStatic : Bool) (rank : Nat) (name : String)
    (includeNonVisible : Bool) :
    (ClassMemberMap.ofClass graph type isStatic).loadedAtRank left rank name includeNonVisible
      = (ClassMemberMap.ofClass graph type isStatic).loadedAtRank graph rank name
          includeNonVisible := by
  have agree := sound.wellFormed.agreeOn_of_eq (types_eq_of_bare read.bare)
    (members_eq_of_bare read.bare)
  exact ClassMemberMap.loadedAtRank_congr (agree.sameMembers trivial isStatic) rank name
    includeNonVisible

theorem loadedByName_eq_of_reads (type : TypeId) (isStatic : Bool) (name : String)
    (includeNonVisible : Bool) :
    (ClassMemberMap.ofClass graph type isStatic).loadedByName left name includeNonVisible
      = (ClassMemberMap.ofClass graph type isStatic).loadedByName graph name
          includeNonVisible :=
  loadedAtRank_eq_of_reads sound read type isStatic 0 name includeNonVisible

end Reading

namespace Sound

variable {graph later : Graph}

/-- Kept views stay coherent while sealed types are left alone. -/
theorem of_keeps (sound : graph.Sound) (wellFormed : later.WellFormed)
    (keeps : graph.KeepsSealed later)
    (kept : ∀ (view : View) (type : TypeId) (answer : view.Answer),
      view.kept (later.cacheAt type) = some answer →
        view.kept (graph.cacheAt type) = some answer) : later.Sound := by
  refine ⟨wellFormed, ?_⟩
  intro view type answer held
  obtain ⟨isFinal, valued⟩ := sound.coherent view type answer (kept view type answer held)
  refine ⟨keeps.isSealed isFinal, ?_⟩
  rw [valued, (sound.wellFormed.agreeOn_sealed keeps).value isFinal view]

/-- A record in the journal changes nothing else. -/
theorem withJournal (sound : graph.Sound) (journal : Journal) :
    graph.Reads { graph with journal } := by
  have same : ({ graph with journal } : Graph).bare = graph.bare := rfl
  exact ⟨same, sound.of_keeps (sound.wellFormed.of_bare same) (.of_eq rfl rfl)
    fun _ _ _ held => held⟩

/-- A computed value is kept for a sealed type. -/
theorem keep (sound : graph.Sound) {type : TypeId} (isFinal : graph.isSealed type = true)
    (view : View) {answer : view.Answer} (valued : answer = view.value graph type) :
    graph.Reads (graph.modifyCache type (view.keep answer)) := by
  have same : (graph.modifyCache type (view.keep answer)).bare = graph.bare := rfl
  refine ⟨same, sound.wellFormed.of_bare same, ?_⟩
  intro asked other found held
  rw [value_eq_of_bare same sound.wellFormed, isSealed_eq_of_bare same]
  by_cases here : other = type
  · subst here
    by_cases present : other < graph.caches.size
    · have changed : (graph.modifyCache other (view.keep answer)).cacheAt other
          = view.keep answer (graph.cacheAt other) := by
        simp [modifyCache, cacheAt, present, Array.getElem_modify]
      rw [changed] at held
      rcases view.kept_keep asked answer (graph.cacheAt other) with old | ⟨rfl, new⟩
      · exact sound.coherent asked other found (old ▸ held)
      · refine ⟨isFinal, ?_⟩
        rw [← valued]
        exact Option.some.inj (held.symm.trans new)
    · have unchanged : (graph.modifyCache other (view.keep answer)).cacheAt other
          = graph.cacheAt other := by
        have absent := Nat.le_of_not_lt present
        simp [modifyCache, cacheAt, Array.getElem?_modify, Array.getElem?_eq_none absent]
      exact sound.coherent asked other found (unchanged ▸ held)
  · have unchanged : (graph.modifyCache type (view.keep answer)).cacheAt other
        = graph.cacheAt other := by
      simp [modifyCache, cacheAt, Array.getElem?_modify, Ne.symm here]
    exact sound.coherent asked other found (unchanged ▸ held)

end Sound

end Graph

/-! ## Queries that answer with a value -/

/-- The query answers with a value of the graph and has the effect of a query. -/
def Query.Answers {α : Type} (query : Query α) (value : Graph → α) : Prop :=
  ∀ graph, graph.Sound →
    (query.exec graph).1 = value graph ∧ graph.Reads (query.exec graph).2

namespace Query.Answers

variable {α β : Type} {query : Query α} {value : Graph → α}

theorem reads (answers : query.Answers value) {graph : Graph} (sound : graph.Sound) :
    graph.Reads (query.exec graph).2 :=
  (answers graph sound).2

theorem bind (answers : query.Answers value) {next : α → Query β} {result : Graph → β}
    (continues : ∀ graph, graph.Sound → ∀ left, graph.Reads left →
      ((next (value graph)).exec left).1 = result graph ∧
        left.Reads ((next (value graph)).exec left).2) :
    Query.Answers (query >>= next) result := by
  intro graph sound
  obtain ⟨answered, read⟩ := answers graph sound
  obtain ⟨resulted, readAgain⟩ := continues graph sound _ read
  rw [Query.exec_bind, answered]
  exact ⟨resulted, read.trans readAgain⟩

theorem recordTrace (operation : TraceOperation) (type : TypeId) :
    Query.Answers (recordTrace operation type) fun _ => () := by
  intro graph sound
  refine ⟨rfl, ?_⟩
  rw [Nominal.recordTrace, Query.exec_modify]
  dsimp only
  split
  · exact sound.withJournal _
  · exact .refl sound

theorem recordLog (type : TypeId) (record : LogRecord) :
    Query.Answers (recordLog type record) fun _ => () := by
  intro graph sound
  refine ⟨rfl, ?_⟩
  rw [Nominal.recordLog, Query.exec_modify]
  dsimp only
  split
  · exact sound.withJournal _
  · exact .refl sound

theorem traced (answers : query.Answers value) (operation : TraceOperation) (type : TypeId) :
    (traced operation type query).Answers value := by
  apply answers.bind
  intro graph sound left read
  have recorded := (recordTrace operation type).reads read.sound
  exact ⟨rfl, recorded⟩

theorem view (kept : View) {type : TypeId} {compute : Query kept.Answer}
    (computes : compute.Answers (kept.value · type)) :
    (view type kept.kept kept.keep compute).Answers (kept.value · type) := by
  intro graph sound
  obtain ⟨answered, read⟩ := computes graph sound
  by_cases isFinal : graph.isSealed type = true
  · cases held : kept.kept (graph.cacheAt type) with
    | some answer =>
        have run : (Nominal.view type kept.kept kept.keep compute).exec graph
            = (answer, graph) := by
          unfold Nominal.view
          rw [Query.exec_bind, Query.exec_get]
          dsimp only
          rw [if_pos isFinal, held]
          rfl
        rw [run]
        exact ⟨(sound.coherent kept type answer held).2, .refl sound⟩
    | none =>
        have run : (Nominal.view type kept.kept kept.keep compute).exec graph
            = ((compute.exec graph).1,
              (compute.exec graph).2.modifyCache type (kept.keep (compute.exec graph).1)) := by
          unfold Nominal.view
          rw [Query.exec_bind, Query.exec_get]
          dsimp only
          rw [if_pos isFinal, held]
          rfl
        rw [run]
        refine ⟨answered, read.trans (read.sound.keep ?_ kept ?_)⟩
        · rw [Graph.isSealed_eq_of_bare read.bare]
          exact isFinal
        · rw [answered, Graph.value_eq_of_bare read.bare sound.wellFormed]
  · have run : (Nominal.view type kept.kept kept.keep compute).exec graph = compute.exec graph := by
      unfold Nominal.view
      rw [Query.exec_bind, Query.exec_get]
      dsimp only
      rw [if_neg isFinal]
    rw [run]
    exact ⟨answered, read⟩

/-! ## The views -/

theorem ancestorPriorities (type : TypeId) :
    (ancestorPrioritiesView type).Answers (View.ancestorPriorities.value · type) := by
  refine view .ancestorPriorities (traced ?_ _ _)
  intro graph sound
  exact ⟨rfl, .refl sound⟩

theorem ancestors (type : TypeId) :
    (ancestorsView type).Answers (View.ancestors.value · type) := by
  refine view .ancestors ((ancestorPriorities type).bind ?_)
  intro graph sound left read
  exact ⟨rfl, .refl read.sound⟩

theorem extensionClasses (type : TypeId) :
    (extensionClassesView type).Answers (View.extensionClasses.value · type) := by
  refine view .extensionClasses (traced ((ancestors type).bind ?_) _ _)
  intro graph sound left read
  refine ⟨?_, .refl read.sound⟩
  show left.collectExtensions _ = graph.collectExtensions _
  simp only [Graph.collectExtensions, Graph.typeAt_eq_of_bare read.bare]
  rfl

theorem computeClassMemberMap (type : TypeId) (isStatic : Bool) :
    (computeClassMemberMap type isStatic).Answers (ClassMemberMap.ofClass · type isStatic) := by
  refine traced ?_ _ _
  intro graph sound
  exact ⟨rfl, (recordLog type _).reads sound⟩

theorem classMemberMap (type : TypeId) (isStatic : Bool) :
    (classMemberMapView type isStatic).Answers (ClassMemberMap.ofClass · type isStatic) := by
  cases isStatic with
  | true => exact view .staticMemberMap (computeClassMemberMap type true)
  | false => exact view .instanceMemberMap (computeClassMemberMap type false)

theorem classStaticMembers (type : TypeId) :
    (classStaticMembersView type).Answers (View.staticMembers.value · type) := by
  refine view .staticMembers ((classMemberMap type true).bind ?_)
  intro graph sound left read
  refine ⟨?_, .refl read.sound⟩
  have mapped := Graph.value_eq_of_bare read.bare sound.wellFormed .staticMemberMap type
  have valued := Graph.value_eq_of_bare read.bare sound.wellFormed .staticMembers type
  rw [← valued]
  exact congrArg (ClassMemberMap.visibleMembers left) mapped.symm

theorem classInstanceMembers (type : TypeId) :
    (classInstanceMembersView type).Answers (View.instanceMembers.value · type) := by
  refine view .instanceMembers ((classMemberMap type false).bind ?_)
  intro graph sound left read
  refine ⟨?_, .refl read.sound⟩
  have mapped := Graph.value_eq_of_bare read.bare sound.wellFormed .instanceMemberMap type
  have valued := Graph.value_eq_of_bare read.bare sound.wellFormed .instanceMembers type
  rw [← valued]
  exact congrArg (ClassMemberMap.visibleMembers left) mapped.symm

theorem ofKind (type : TypeId) (kind : MemberKind) :
    Query.Answers (do
        let members ← classInstanceMembersView type
        return (← MonadState.get).ofKind kind members)
      fun graph => graph.ofKind kind (View.instanceMembers.value graph type) := by
  apply (classInstanceMembers type).bind
  intro graph sound left read
  refine ⟨?_, .refl read.sound⟩
  show left.ofKind kind _ = graph.ofKind kind _
  simp only [Graph.ofKind, Graph.memberAt_eq_of_bare read.bare]

theorem fields (type : TypeId) : (fieldsView type).Answers (View.fields.value · type) :=
  view .fields (ofKind type .field)

theorem methods (type : TypeId) : (methodsView type).Answers (View.methods.value · type) :=
  view .methods (ofKind type .method)

theorem annotationArray (type : TypeId) :
    (annotationArrayView type).Answers (View.annotations.value · type) := by
  apply view .annotations
  intro graph sound
  exact ⟨rfl, .refl sound⟩

theorem interfaceMemberMap (type : TypeId) :
    (interfaceMemberMapView type).Answers (View.interfaceMemberMap.value · type) := by
  refine view .interfaceMemberMap (traced ?_ _ _)
  intro graph sound
  exact ⟨rfl, (recordLog type _).reads sound⟩

/-- Every view is answered with its value. -/
theorem ask (asked : View) (type : TypeId) : (asked.ask type).Answers (asked.value · type) := by
  cases asked with
  | ancestorPriorities => exact ancestorPriorities type
  | ancestors => exact ancestors type
  | extensionClasses => exact extensionClasses type
  | instanceMemberMap => exact classMemberMap type false
  | staticMemberMap => exact classMemberMap type true
  | instanceMembers => exact classInstanceMembers type
  | staticMembers => exact classStaticMembers type
  | fields => exact fields type
  | methods => exact methods type
  | annotations => exact annotationArray type
  | interfaceMemberMap => exact interfaceMemberMap type

end Query.Answers

end Nominal
