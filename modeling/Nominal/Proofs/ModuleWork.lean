import Nominal.Proofs.DeclarationOrder
import Nominal.Proofs.Linking
import Nominal.Proofs.ModuleStubs

/-!
# Work on all types of a module

The types of a module are linked one after the other and completed one after the other.  Work on one
of them leaves the others as they are, and everything that was in the graph before the module.
-/

namespace Nominal

open Nominal.Graph

/-! ## The graph between loads -/

namespace Graph

/-- A graph in which all types belong to the arena of a farm and are built without hooks that add
members. -/
structure Houses (graph : Graph) (farm : Farm) : Prop where
  sound : graph.Sound
  arena : farm.arena < graph.arenas.size
  together : ∀ {type}, type < graph.types.size → (graph.typeAt type).arena = farm.arena
  builtin : ∀ {name type}, farm.lookup? name = some type →
    (graph.typeAt type).isClass = true ∧ graph.isSealed type = true
  interned : graph.Interned farm
  plain : ∀ type, ¬ graph.AddsMembers type
  inStep : graph.progress.size = graph.types.size
  room : (graph.arenaAt farm.arena).types.length ≤ arenaCapacity

/-- Everything that was in a graph is still as it was. -/
structure Grows (farm : Farm) (graph left : Graph) : Prop where
  houses : left.Houses farm
  size : graph.types.size ≤ left.types.size
  types : ∀ {type}, type < graph.types.size → left.typeAt type = graph.typeAt type
  progress : ∀ {type}, type < graph.types.size → left.progressAt type = graph.progressAt type
  memberCount : graph.members.size ≤ left.members.size
  members : ∀ {member}, member < graph.members.size → left.memberAt member = graph.memberAt member
  settings : ∀ arena, (left.arenaAt arena).settings = (graph.arenaAt arena).settings
  population : (graph.arenaAt farm.arena).types.length ≤ (left.arenaAt farm.arena).types.length
  arrays : ∀ {arena name array}, (graph.arenaAt arena).arrays.get? name = some array →
    (left.arenaAt arena).arrays.get? name = some array

section Growth

variable {farm : Farm} {graph left last : Graph} {touched : TypeId → Prop} {bound : Nat}

theorem Houses.of_frame (houses : graph.Houses farm) (sound : left.Sound)
    (frame : graph.Frame farm touched bound left) (keeps : graph.KeepsSealed left) :
    left.Houses farm where
  sound := sound
  arena := frame.arenaCount.symm ▸ houses.arena
  together present := by
    rw [(frame.identityAt _).arena]
    exact houses.together (frame.size ▸ present)
  builtin found := by
    rw [(frame.identityAt _).isClass]
    exact ⟨(houses.builtin found).1, keeps.isSealed (houses.builtin found).2⟩
  interned := frame.interned houses.interned
  plain type := by
    rintro ⟨serial, member, deferred⟩
    rw [frame.implementation] at deferred
    exact houses.plain type ⟨serial, member, deferred⟩
  inStep := by rw [frame.progressCount, frame.size, houses.inStep]
  room := by
    rw [frame.population]
    exact houses.room

namespace Grows

theorem refl (houses : graph.Houses farm) : graph.Grows farm graph :=
  ⟨houses, Nat.le_refl _, fun _ => rfl, fun _ => rfl, Nat.le_refl _, fun _ => rfl, fun _ => rfl,
    Nat.le_refl _, fun found => found⟩

theorem work (grows : graph.Grows farm left) {allowed : Deed → Prop}
    (steps : Steps allowed left last) (frame : left.Frame farm touched bound last)
    (young : ∀ type, touched type → graph.types.size ≤ type)
    (bounded : graph.members.size ≤ bound) : graph.Grows farm last where
  houses := grows.houses.of_frame (steps.sound grows.houses.sound) frame steps.keepsSealed
  size := frame.size.symm ▸ grows.size
  types old := by
    rw [frame.others _ fun touches => Nat.not_lt.mpr (young _ touches) old, grows.types old]
  progress old := by
    rw [frame.progress _ fun touches => Nat.not_lt.mpr (young _ touches) old, grows.progress old]
  memberCount := Nat.le_trans grows.memberCount frame.memberCount
  members old := by rw [frame.members _ (Nat.lt_of_lt_of_le old bounded), grows.members old]
  settings arena := (frame.settings arena).trans (grows.settings arena)
  population := (frame.population farm.arena).symm ▸ grows.population
  arrays found := frame.arrays (grows.arrays found)

end Grows

end Growth

/-! ## Nothing gets sealed -/

/-- What is sealed is kept, and nothing else gets sealed. -/
structure SealsNothing (graph left : Graph) : Prop where
  keeps : graph.KeepsSealed left
  isSealed : ∀ type, left.isSealed type = graph.isSealed type

section Seals

variable {graph left last : Graph}

namespace SealsNothing

theorem refl (graph : Graph) : graph.SealsNothing graph :=
  ⟨.refl graph, fun _ => rfl⟩

theorem trans (early : graph.SealsNothing left) (late : left.SealsNothing last) :
    graph.SealsNothing last :=
  ⟨early.keeps.trans late.keeps, fun type => (late.isSealed type).trans (early.isSealed type)⟩

end SealsNothing

theorem Change.isSealed (changed : graph.Change .describe left) (type : TypeId) :
    left.isSealed type = graph.isSealed type := by
  cases changed with
  | openArena | intern | create => rfl
  | allocate => exact isSealed_withType rfl type
  | reform reformed _ change present isOpen checked =>
      have staysOpen := checked.isSealed (by simp) isOpen
      exact isSealed_modifyType (staysOpen.trans isOpen.symm) type

theorem Steps.sealsNothing (steps : Steps (· = .describe) graph left) :
    graph.SealsNothing left := by
  induction steps with
  | refl => exact .refl graph
  | tail _ step ih =>
      refine ih.trans ⟨step.keepsSealed, ?_⟩
      intro type
      rcases step.effect with same | ⟨_, changed, rfl, change, same⟩
      · exact isSealed_eq_of_bare same type
      · rw [isSealed_eq_of_bare same, change.isSealed]

theorem Alters.sealsNothing {farm : Farm} {type : TypeId} {bound : Nat}
    (alters : graph.Alters farm type bound left) : graph.SealsNothing left := by
  refine ⟨alters.steps.keepsSealed, ?_⟩
  intro other
  by_cases here : other = type
  · rw [here]
    exact alters.state
  · rw [Graph.isSealed, alters.frame.others other here, Graph.isSealed]

end Seals

end Graph

/-! ## The stubs -/

section Stubs

variable {farm : Farm} {graph left : Graph}

theorem interned_withStubs (interned : graph.Interned farm) (scope : Scope)
    (declarations : List TypeDeclaration) :
    (graph.withStubs scope farm.arena declarations).Interned farm := by
  intro name array found
  rw [(arenaAt_withStubs scope declarations farm.arena).2] at found
  obtain ⟨element, equal, within, named⟩ := interned name array found
  have size : (graph.withStubs scope farm.arena declarations).types.size
      = graph.types.size + declarations.length := size_withStubs scope declarations
  refine ⟨element, equal, ?_, ?_⟩
  · exact TypeRef.isWithin_of_le within (by omega)
  · rw [← named]
    refine element.qualifiedName_congr within ?_
    intro type old
    rw [nameOf, typeAt_withStubs_old scope declarations old, nameOf]

theorem exists_stub {scope : Scope} {made : List TypeDeclaration} {arena : ArenaId}
    (present : arena < graph.arenas.size)
    (same : left.bare = (graph.withStubs scope arena made).bare) {type : TypeId}
    (new : graph.types.size ≤ type) (inLeft : type < left.types.size) :
    ∃ declaration : TypeDeclaration, ∃ index,
      left.typeAt type = declaration.stub scope arena index := by
  rw [types_eq_of_bare same, size_withStubs] at inLeft
  obtain ⟨place, rfl⟩ := Nat.exists_eq_add_of_le new
  have inRange : place < made.length := Nat.lt_of_add_lt_add_left inLeft
  exact ⟨made[place], _, (typeAt_eq_of_bare same _).trans
    (typeAt_withStubs_new present scope (List.getElem?_eq_getElem inRange))⟩

theorem Graph.Houses.withStubs (houses : graph.Houses farm) (scope : Scope)
    {made : List TypeDeclaration} (sound : left.Sound) (keeps : graph.KeepsSealed left)
    (same : left.bare = (graph.withStubs scope farm.arena made).bare)
    (room : (left.arenaAt farm.arena).types.length ≤ arenaCapacity) : left.Houses farm := by
  have arenas := arenas_eq_of_bare same
  have inStep := @progressCount_withStubs graph farm.arena houses.inStep scope made
  refine ⟨sound, ?_, ?_, ?_, ?_, ?_, ?_, room⟩
  · rw [arenas, arenaCount_withStubs]
    exact houses.arena
  · intro type present
    by_cases old : type < graph.types.size
    · rw [(keeps.identity type old).arena]
      exact houses.together old
    · obtain ⟨declaration, index, isStub⟩ :=
        exists_stub houses.arena same (Nat.le_of_not_lt old) present
      rw [isStub]
      rfl
  · intro name type found
    obtain ⟨isClass, isFinal⟩ := houses.builtin found
    rw [(keeps.identity type (lt_size_of_isSealed isFinal)).isClass]
    exact ⟨isClass, keeps.isSealed isFinal⟩
  · exact (interned_withStubs houses.interned scope made).of_eq (types_eq_of_bare same)
      (by rw [Graph.arenaAt, arenas, Graph.arenaAt])
  · rintro type ⟨serial, member, deferred⟩
    by_cases old : type < graph.types.size
    · rw [typeAt_eq_of_bare same, typeAt_withStubs_old scope made old] at deferred
      exact houses.plain type ⟨serial, member, deferred⟩
    · by_cases present : type < left.types.size
      · obtain ⟨declaration, index, isStub⟩ :=
          exists_stub houses.arena same (Nat.le_of_not_lt old) present
        rw [isStub] at deferred
        cases deferred
      · rw [typeAt_of_size_le (Nat.le_of_not_lt present)] at deferred
        cases deferred
  · rw [progress_eq_of_bare same, types_eq_of_bare same, inStep]

/-- Stubs are additions. -/
theorem Graph.Houses.grows_withStubs (houses : graph.Houses farm) (scope : Scope)
    {made : List TypeDeclaration} (sound : left.Sound) (keeps : graph.KeepsSealed left)
    (same : left.bare = (graph.withStubs scope farm.arena made).bare)
    (room : (left.arenaAt farm.arena).types.length ≤ arenaCapacity) : graph.Grows farm left := by
  have typeAt := typeAt_eq_of_bare same
  have members := members_eq_of_bare same
  have arenaAt : ∀ arena, left.arenaAt arena
      = (graph.withStubs scope farm.arena made).arenaAt arena := by
    intro arena
    rw [Graph.arenaAt, arenas_eq_of_bare same, Graph.arenaAt]
  refine ⟨houses.withStubs scope sound keeps same room, ?_, ?_, ?_, ?_, ?_, ?_, ?_, ?_⟩
  · rw [types_eq_of_bare same, size_withStubs]
    exact Nat.le_add_right _ _
  · intro type old
    rw [typeAt, typeAt_withStubs_old scope made old]
  · intro type _
    rw [progressAt, progress_eq_of_bare same, ← progressAt, progressAt_withStubs]
  · rw [members, members_withStubs]
  · intro member _
    rw [memberAt, members, members_withStubs, memberAt]
  · intro arena
    rw [arenaAt, (arenaAt_withStubs scope made arena).1]
  · rw [arenaAt, length_arena_withStubs houses.arena]
    exact Nat.le_add_right _ _
  · intro arena name array found
    rw [arenaAt, (arenaAt_withStubs scope made arena).2]
    exact found

/-- However the making of stubs ends, they are additions, and nothing is sealed. -/
theorem declareTypes_grows (houses : graph.Houses farm) (module : Module)
    (declarations : List TypeDeclaration) :
    graph.Grows farm ((declareTypes farm.arena module declarations).exec graph).2 ∧
      graph.SealsNothing ((declareTypes farm.arena module declarations).exec graph).2 := by
  obtain ⟨free, capacity⟩ := Nat.exists_eq_add_of_le houses.room
  obtain ⟨made, left, bounded, ended, same, -, -⟩ :=
    declareTypes_exec declarations module houses.arena capacity.symm
  have steps := declareTypes_steps houses.sound houses.arena module declarations
  refine ⟨?_, steps.sealsNothing⟩
  rw [ended] at steps ⊢
  refine houses.grows_withStubs module.scope (steps.sound houses.sound) steps.keepsSealed same ?_
  rw [arenaAt, arenas_eq_of_bare same, ← arenaAt, length_arena_withStubs houses.arena]
  omega

end Stubs

/-! ## Types that are not finished -/

/-- A type of a module between its stub and its completion. -/
structure Unfinished (resolver : Resolver) (base : Graph) (entry : PendingType) (graph : Graph) :
    Prop where
  piece : Workpiece resolver entry.type base.members.size graph
  young : base.types.size ≤ entry.type
  isOpen : graph.isSealed entry.type = false
  kind : (graph.typeAt entry.type).isClass = !entry.declaration.isInterface
  memberless : (graph.typeAt entry.type).declaredForCheck = []

section Work

variable {resolver : Resolver} {base graph left : Graph} {entry : PendingType}

/-- Work on one type leaves the others unfinished. -/
theorem Unfinished.of_work (unfinished : Unfinished resolver base entry graph)
    {allowed : Deed → Prop} (steps : Steps allowed graph left) {other : TypeId}
    (frame : graph.Frame resolver.farm (· = other) base.members.size left)
    (apart : entry.type ≠ other) : Unfinished resolver base entry left where
  young := unfinished.young
  isOpen := by
    rw [isSealed, frame.others entry.type apart]
    exact unfinished.isOpen
  kind := by
    rw [frame.others entry.type apart]
    exact unfinished.kind
  memberless := by
    rw [frame.others entry.type apart]
    exact unfinished.memberless
  piece := by
    obtain ⟨sound, hosted, present, bounded, plain, undeferred, fresh⟩ := unfinished.piece
    refine ⟨steps.sound sound, hosted.of_frame frame, frame.size.symm ▸ present,
      Nat.le_trans bounded frame.memberCount, ?_, ?_, ?_⟩
    · rintro type ⟨serial, member, deferred⟩
      rw [frame.implementation] at deferred
      exact plain type ⟨serial, member, deferred⟩
    · rw [frame.implementation, undeferred]
    · rw [frame.progress entry.type apart, fresh]

/-- A type that is worked on stays unfinished as long as it gets no members. -/
theorem Unfinished.of_alters (unfinished : Unfinished resolver base entry graph) {other : TypeId}
    (alters : graph.Alters resolver.farm other base.members.size left)
    (memberless : (left.typeAt other).declaredForCheck = []) :
    Unfinished resolver base entry left := by
  by_cases same : entry.type = other
  · subst same
    refine ⟨unfinished.piece.of_alters alters, unfinished.young,
      alters.state.trans unfinished.isOpen, ?_, memberless⟩
    rw [(alters.frame.identityAt entry.type).isClass]
    exact unfinished.kind
  · exact unfinished.of_work alters.steps alters.frame same

theorem Unfinished.grows {touched : PendingType}
    (unfinished : Unfinished resolver base touched graph) (grows : base.Grows resolver.farm graph)
    {allowed : Deed → Prop} (steps : Steps allowed graph left)
    (frame : graph.Frame resolver.farm (· = touched.type) base.members.size left) :
    base.Grows resolver.farm left := by
  refine grows.work steps frame ?_ (Nat.le_refl _)
  rintro _ rfl
  exact unfinished.young

/-! ## Linking -/

namespace Resolver

/-- The graph in which some types are linked. -/
def withLinks (resolver : Resolver) (graph : Graph) : List PendingType → Graph
  | [] => graph
  | entry :: rest =>
    resolver.withLinks (graph.modifyType entry.type (resolver.linked entry.declaration)) rest

/-- A failure, labelled with the declaration that caused it. -/
def labelFailure (resolver : Resolver) (declaration : TypeDeclaration) : Failure → Failure
  | .rejected error =>
    .rejected (.declaration resolver.module.name declaration.name error)
  | .aborted error => .aborted error

/-- The failure of linking some types one after the other. -/
def linksFailure? (resolver : Resolver) (graph : Graph) : List PendingType → Option Failure
  | [] => none
  | entry :: rest =>
    ((resolver.linkFailure? graph entry.type entry.declaration).map
      (resolver.labelFailure entry.declaration)).or
        (resolver.linksFailure?
          (graph.modifyType entry.type (resolver.linked entry.declaration)) rest)

/-- The places of the declared supertypes of a type among the pending types. -/
def dependencies (resolver : Resolver) (graph : Graph) (pending : List PendingType)
    (entry : PendingType) : List Nat :=
  (resolver.declaredSupertypes entry.declaration).filterMap (pendingIndex? graph pending)

end Resolver

theorem exec_inDeclaration_of_outcome (resolver : Resolver) {α : Type} {build : Build α}
    {found : Option Failure} {value : α}
    (outcome : (build.exec graph).1 = found.elim (.ok value) .error)
    (declaration : TypeDeclaration) :
    (inDeclaration resolver.module.name declaration.name build).exec graph
      = ((found.map (resolver.labelFailure declaration)).elim (.ok value) .error,
          (build.exec graph).2) := by
  rw [exec_inDeclaration, outcome]
  rcases found with _ | (error | error) <;> rfl

theorem linksFailure?_of_bare (same : left.bare = graph.bare) (entries : List PendingType) :
    resolver.linksFailure? left entries = resolver.linksFailure? graph entries := by
  induction entries generalizing graph left with
  | nil => rfl
  | cons entry rest ih =>
      rw [Resolver.linksFailure?, Resolver.linksFailure?, ih (bare_modifyType same),
        eq_of_bare_eq (resolver.linkFailure? · entry.type entry.declaration) same
          (linkFailure?_bare resolver · entry.type entry.declaration)]

theorem withLinks_of_bare (same : left.bare = graph.bare) (entries : List PendingType) :
    (resolver.withLinks left entries).bare = (resolver.withLinks graph entries).bare := by
  induction entries generalizing graph left with
  | nil => exact same
  | cons entry rest ih => exact ih (bare_modifyType same)

theorem size_withLinks (entries : List PendingType) :
    (resolver.withLinks graph entries).types.size = graph.types.size := by
  induction entries generalizing graph with
  | nil => rfl
  | cons entry rest ih => rw [Resolver.withLinks, ih, size_modifyType]

theorem typeAt_withLinks_of_not_mem {type : TypeId} {entries : List PendingType}
    (apart : type ∉ entries.map (·.type)) :
    (resolver.withLinks graph entries).typeAt type = graph.typeAt type := by
  induction entries generalizing graph with
  | nil => rfl
  | cons entry rest ih =>
      rw [List.map_cons, List.mem_cons, not_or] at apart
      rw [Resolver.withLinks, ih apart.2, typeAt_modifyType_of_ne apart.1]

theorem typeAt_withLinks {entries : List PendingType} (distinct : (entries.map (·.type)).Nodup)
    (listed : entry ∈ entries) (present : entry.type < graph.types.size) :
    (resolver.withLinks graph entries).typeAt entry.type
      = resolver.linked entry.declaration (graph.typeAt entry.type) := by
  induction entries generalizing graph with
  | nil => cases listed
  | cons first rest ih =>
      rw [List.map_cons, List.nodup_cons] at distinct
      rw [Resolver.withLinks]
      rcases List.mem_cons.mp listed with rfl | later
      · rw [typeAt_withLinks_of_not_mem distinct.1, typeAt_modifyType_self present]
      · have apart : entry.type ≠ first.type := by
          rintro same
          exact distinct.1 (same ▸ List.mem_map_of_mem later)
        rw [ih distinct.2 later (by rwa [size_modifyType]), typeAt_modifyType_of_ne apart]

theorem mem_listedOnce {interface : TypeId} (listed added : List TypeId) :
    interface ∈ listedOnce listed added ↔ interface ∈ listed ∨ interface ∈ added := by
  induction added generalizing listed with
  | nil => simp [listedOnce]
  | cons next rest ih =>
      have step : listedOnce listed (next :: rest)
          = listedOnce (if next ∈ listed then listed else listed ++ [next]) rest := rfl
      rw [step, ih, List.mem_cons]
      split <;> grind

theorem mem_supertypes_linked {declaration : TypeDeclaration} {old : NominalType}
    (kind : old.isClass = !declaration.isInterface) {supertype : TypeId}
    (declared : supertype ∈ resolver.declaredSupertypes declaration) :
    supertype ∈ (resolver.linked declaration old).supertypes := by
  rw [Resolver.declaredSupertypes, List.mem_append] at declared
  unfold Resolver.linked Resolver.withParts Resolver.withSupertypes NominalType.supertypes
  rw [List.mem_append]
  rcases declared with asParent | asInterface
  · left
    cases isInterface : declaration.isInterface with
    | true =>
        rw [isInterface, if_pos rfl] at asParent
        cases asParent
    | false =>
        rw [isInterface] at asParent kind
        obtain rfl := List.mem_singleton.mp asParent
        unfold NominalType.isClass at kind
        unfold NominalType.mapClassPart NominalType.parent? NominalType.classPart
        cases shape : old.shape with
        | interfaceShape =>
            rw [shape] at kind
            cases kind
        | classShape part => simp
  · right
    exact (mem_listedOnce _ _).mpr (.inr asInterface)

theorem pendingIndex?_of_frame {touched : TypeId → Prop} {bound : Nat}
    (frame : graph.Frame resolver.farm touched bound left) (pending : List PendingType) :
    pendingIndex? left pending = pendingIndex? graph pending := by
  funext type
  unfold pendingIndex?
  rw [(frame.identityAt type).identifier]

theorem declaredForCheck_linked (resolver : Resolver) (declaration : TypeDeclaration)
    (old : NominalType) : (resolver.linked declaration old).declaredForCheck
      = old.declaredForCheck := by
  apply declaredForCheck_congr
  intro isStatic
  unfold Resolver.linked Resolver.withParts Resolver.withSupertypes
  cases declaration.isInterface with
  | true => cases isStatic <;> rfl
  | false =>
      have kept := old.mapClassPart_declared
        ({ · with parent := some (resolver.declaredParent declaration) }) isStatic
      cases isStatic <;> exact kept

/-- A type that is linked gets no members, so all types stay unfinished. -/
theorem Unfinished.of_linkType {waiting : PendingType}
    (unfinished : Unfinished resolver base waiting graph)
    (touched : Unfinished resolver base entry graph)
    (accepted : resolver.linkFailure? graph entry.type entry.declaration = none) :
    Unfinished resolver base waiting ((linkType resolver entry).exec graph).2 := by
  have performs := linkType_performs touched.piece touched.isOpen touched.kind touched.memberless
  refine unfinished.of_alters performs.alters ?_
  rw [typeAt_eq_of_bare (performs.left accepted), typeAt_modifyType_self touched.piece.present,
    declaredForCheck_linked]
  exact touched.memberless

/-- Types are linked one after the other, up to the first that is refused. -/
theorem linkTypes_exec (pending : List PendingType) {entries : List PendingType}
    (grows : base.Grows resolver.farm graph)
    (ready : ∀ entry ∈ entries, Unfinished resolver base entry graph) :
    ∃ left, (linkTypes resolver pending entries).exec graph
        = ((resolver.linksFailure? graph entries).elim
            (.ok (entries.map (resolver.dependencies graph pending))) .error, left) ∧
      base.Grows resolver.farm left ∧ left.types.size = graph.types.size ∧
      left.arenas = graph.arenas ∧ graph.SealsNothing left ∧
      (resolver.linksFailure? graph entries = none →
        left.bare = (resolver.withLinks graph entries).bare ∧
          ∀ entry, Unfinished resolver base entry graph → Unfinished resolver base entry left) := by
  induction entries generalizing graph with
  | nil =>
      exact ⟨graph, rfl, grows, rfl, rfl, .refl graph,
        fun _ => ⟨rfl, fun _ unfinished => unfinished⟩⟩
  | cons entry rest ih =>
      have unfinished := ready entry List.mem_cons_self
      have performs := linkType_performs unfinished.piece unfinished.isOpen unfinished.kind
        unfinished.memberless
      have run := exec_inDeclaration_of_outcome resolver performs.outcome entry.declaration
      have alters := performs.alters
      have grown := unfinished.grows grows alters.steps alters.frame
      rw [linkTypes, Resolver.linksFailure?]
      cases found : resolver.linkFailure? graph entry.type entry.declaration with
      | some failure =>
          rw [found] at run
          exact ⟨_, Build.exec_bind_of_error run, grown, alters.frame.size, performs.arenas,
            alters.sealsNothing, fun impossible => nomatch impossible⟩
      | none =>
          rw [found] at run
          have same := performs.left found
          have nextReady : ∀ other ∈ rest,
              Unfinished resolver base other ((linkType resolver entry).exec graph).2 := by
            intro other listed
            exact (ready other (List.mem_cons_of_mem _ listed)).of_linkType unfinished found
          obtain ⟨left, ended, leftGrows, size, arenas, nothing, complete⟩ := ih grown nextReady
          rw [linksFailure?_of_bare same] at ended complete
          refine ⟨left, ?_, leftGrows, size.trans alters.frame.size,
            arenas.trans performs.arenas, alters.sealsNothing.trans nothing, ?_⟩
          · rw [Build.exec_bind_of_ok run, Build.exec_get_bind, Build.exec_bind, ended,
              pendingIndex?_of_frame alters.frame]
            rw [Option.map_none, Option.none_or]
            cases resolver.linksFailure? _ rest with
            | some failure => rfl
            | none =>
                simp only [Option.elim_none, Build.exec_pure, List.map_cons]
                unfold Resolver.dependencies
                rw [pendingIndex?_of_frame alters.frame]
          · intro accepted
            obtain ⟨leftSame, kept⟩ := complete accepted
            refine ⟨leftSame.trans (withLinks_of_bare same rest), ?_⟩
            intro other otherUnfinished
            exact kept other (otherUnfinished.of_linkType unfinished found)

/-! ## Completion -/

theorem isSealed_withSealed {type : TypeId} (present : type < graph.types.size) :
    (graph.withSealed type).isSealed type = true := by
  have started : type < (graph.modifyProgress type
      ({ · with isPreInitialized := true })).types.size := present
  rw [withSealed, isSealed, typeAt_modifyType_self started]
  rfl

/-- Completing a type is work on it, and it is sealed if that succeeds. -/
theorem completeType_work (unfinished : Unfinished resolver base entry graph) :
    Steps (Deed.Concerns entry.type) graph ((completeType resolver entry).exec graph).2 ∧
      graph.Frame resolver.farm (· = entry.type) base.members.size
        ((completeType resolver entry).exec graph).2 ∧
      (((completeType resolver entry).exec graph).1 = .ok () →
        ((completeType resolver entry).exec graph).2.isSealed entry.type = true) := by
  have alters := (declareMembers_works unfinished.piece).alters
  rw [completeType_eq]
  rcases run : (declareMembers resolver entry).exec graph with ⟨failure | _, next⟩
  · rw [run] at alters
    rw [Build.exec_bind_of_error run]
    exact ⟨alters.steps, alters.frame, fun impossible => nomatch impossible⟩
  · rw [run] at alters
    rw [Build.exec_bind_of_ok run]
    have piece := unfinished.piece.of_alters alters
    have isOpen : next.isSealed entry.type = false := alters.state.trans unfinished.isOpen
    have ends := sealType_ends isOpen piece.fresh piece.undeferred
    have steps : Steps (Deed.Concerns entry.type) next ((sealType entry.type).exec next).2 := by
      refine Steps.mono
        (sealType_steps entry.type piece.sound fun other adds => piece.plain other adds) ?_
      rintro (_ | _ | _ | _ | _) seals
      all_goals trivial
    have left := ends.left
    refine ⟨alters.steps.trans steps, ?_, ?_⟩
    · cases found : next.sealError? entry.type with
      | some error =>
          rw [found] at left
          exact alters.frame.trans ((Frame.refl next).of_bare left)
      | none =>
          rw [found] at left
          exact alters.frame.trans (Frame.of_bare (Frame.withSealed (by rfl)) left)
    · intro succeeded
      cases found : next.sealError? entry.type with
      | some error =>
          rw [ends.outcome, found] at succeeded
          cases succeeded
      | none =>
          rw [found] at left
          rw [isSealed_eq_of_bare left]
          exact isSealed_withSealed piece.present

/-- Types are completed one after the other, as a list of places says. -/
inductive Completes (resolver : Resolver) (pending : List PendingType) :
    List Nat → Graph → Graph → Prop
  | nil {graph : Graph} : Completes resolver pending [] graph graph
  | skip {place : Nat} {order : List Nat} {graph left : Graph} (absent : pending[place]? = none)
      (rest : Completes resolver pending order graph left) :
      Completes resolver pending (place :: order) graph left
  | cons {place : Nat} {entry : PendingType} {order : List Nat} {graph next left : Graph}
      (found : pending[place]? = some entry)
      (ran : (completeType resolver entry).exec graph = (.ok (), next))
      (rest : Completes resolver pending order next left) :
      Completes resolver pending (place :: order) graph left

theorem completeTypes_cons (resolver : Resolver) (pending : List PendingType) (place : Nat)
    (order : List Nat) :
    completeTypes resolver pending (place :: order)
      = (match pending[place]? with
          | some entry =>
            inDeclaration resolver.module.name entry.declaration.name (completeType resolver entry)
          | none => return ()) >>= fun _ => completeTypes resolver pending order :=
  rfl

/-- Completion succeeds if each type is completed in turn. -/
theorem completeTypes_eq_ok_iff {pending : List PendingType} {order : List Nat} :
    (completeTypes resolver pending order).exec graph = (.ok (), left) ↔
      Completes resolver pending order graph left := by
  induction order generalizing graph with
  | nil =>
      constructor
      · rintro ⟨⟩
        exact .nil
      · rintro ⟨⟩
        rfl
  | cons place rest ih =>
      rw [completeTypes_cons]
      cases found : pending[place]? with
      | none =>
          constructor
          · exact fun ran => .skip found (ih.mp ran)
          · rintro (_ | ⟨_, rest⟩ | ⟨present, _, _⟩)
            · exact ih.mpr rest
            · rw [found] at present
              cases present
      | some entry =>
          have labelled := exec_inDeclaration resolver.module.name entry.declaration.name
            (completeType resolver entry) graph
          rcases run : (completeType resolver entry).exec graph with ⟨failure | value, next⟩
          · rw [run] at labelled
            constructor
            · intro ran
              dsimp only at ran
              rw [Build.exec_bind, labelled] at ran
              cases failure <;> cases ran
            · rintro (_ | ⟨absent, _⟩ | ⟨present, ran, _⟩)
              · rw [found] at absent
                cases absent
              · rw [found] at present
                cases present
                rw [run] at ran
                cases ran
          · rw [run] at labelled
            dsimp only
            rw [Build.exec_bind_of_ok labelled]
            constructor
            · exact fun ran => .cons found run (ih.mp ran)
            · rintro (_ | ⟨absent, _⟩ | ⟨present, ran, rest⟩)
              · rw [found] at absent
                cases absent
              · rw [found] at present
                cases present
                rw [run] at ran
                cases ran
                exact ih.mpr rest

/-- Places of a list that are to be completed. -/
def AllUnfinished (resolver : Resolver) (base : Graph) (pending : List PendingType)
    (order : List Nat) (graph : Graph) : Prop :=
  ∀ place ∈ order, ∀ entry, pending[place]? = some entry → Unfinished resolver base entry graph

/-- The completion of one type leaves the types at the other places unfinished. -/
theorem AllUnfinished.next {pending : List PendingType} {place : Nat} {order : List Nat}
    (unfinished : AllUnfinished resolver base pending (place :: order) graph)
    (apart : (pending.map (·.type)).Nodup) (distinct : (place :: order).Nodup)
    (found : pending[place]? = some entry) {allowed : Deed → Prop}
    (steps : Steps allowed graph left)
    (frame : graph.Frame resolver.farm (· = entry.type) base.members.size left) :
    AllUnfinished resolver base pending order left := by
  intro other listed waiting foundOther
  refine (unfinished other (List.mem_cons_of_mem place listed) waiting foundOther).of_work steps
    frame ?_
  intro same
  have differ : other ≠ place := by
    rintro rfl
    exact (List.nodup_cons.mp distinct).1 listed
  apply differ
  have inRange : other < (pending.map (·.type)).length := by
    rw [List.length_map]
    exact (List.getElem?_eq_some_iff.mp foundOther).1
  exact (List.getElem?_inj inRange apart).mp (by simp [foundOther, found, same])

/-- However completion ends, only new types have been worked on, and what the completion of one type
keeps is kept. -/
theorem completeTypes_keeps {pending : List PendingType} {order : List Nat} {holds : Graph → Prop}
    (each : ∀ entry graph, Unfinished resolver base entry graph → holds graph →
      holds ((completeType resolver entry).exec graph).2)
    (apart : (pending.map (·.type)).Nodup) (distinct : order.Nodup)
    (unfinished : AllUnfinished resolver base pending order graph)
    (grows : base.Grows resolver.farm graph) (start : holds graph) :
    base.Grows resolver.farm ((completeTypes resolver pending order).exec graph).2 ∧
      holds ((completeTypes resolver pending order).exec graph).2 := by
  induction order generalizing graph with
  | nil => exact ⟨grows, start⟩
  | cons place rest ih =>
      rw [completeTypes_cons]
      cases found : pending[place]? with
      | none =>
          refine ih (List.nodup_cons.mp distinct).2 ?_ grows start
          exact fun other listed => unfinished other (List.mem_cons_of_mem place listed)
      | some entry =>
          have here := unfinished place List.mem_cons_self entry found
          obtain ⟨steps, frame, -⟩ := completeType_work here
          have grown := here.grows grows steps frame
          have kept := each entry graph here start
          have labelled := exec_inDeclaration resolver.module.name entry.declaration.name
            (completeType resolver entry) graph
          dsimp only
          rw [Build.exec_bind, labelled]
          rcases run : (completeType resolver entry).exec graph with ⟨failure | value, next⟩
          · rw [run] at grown kept
            cases failure <;> exact ⟨grown, kept⟩
          · rw [run] at grown kept steps frame
            exact ih (List.nodup_cons.mp distinct).2
              (unfinished.next apart distinct found steps frame) grown kept

theorem Completes.isSealed {pending : List PendingType} {order : List Nat}
    (completes : Completes resolver pending order graph left)
    (apart : (pending.map (·.type)).Nodup) (distinct : order.Nodup)
    (unfinished : AllUnfinished resolver base pending order graph) :
    graph.KeepsSealed left ∧
      ∀ place ∈ order, ∀ entry, pending[place]? = some entry →
        left.isSealed entry.type = true := by
  induction completes with
  | nil => exact ⟨.refl _, fun _ impossible => nomatch impossible⟩
  | skip absent rest ih =>
      obtain ⟨keeps, finished⟩ := ih (List.nodup_cons.mp distinct).2
        fun other listed => unfinished other (List.mem_cons_of_mem _ listed)
      refine ⟨keeps, ?_⟩
      intro place listed entry found
      rcases List.mem_cons.mp listed with rfl | later
      · rw [absent] at found
        cases found
      · exact finished place later entry found
  | cons found ran rest ih =>
      obtain ⟨steps, frame, finished⟩ := completeType_work (unfinished _ List.mem_cons_self _ found)
      rw [ran] at steps frame finished
      obtain ⟨keeps, others⟩ := ih (List.nodup_cons.mp distinct).2
        (unfinished.next apart distinct found steps frame)
      refine ⟨steps.keepsSealed.trans keeps, ?_⟩
      intro place listed entry foundEntry
      rcases List.mem_cons.mp listed with rfl | later
      · rw [found] at foundEntry
        cases foundEntry
        exact keeps.isSealed (finished rfl)
      · exact others place later entry foundEntry

end Work

end Nominal
