import Nominal.Proofs.DependencyOrder
import Nominal.Proofs.ModuleWork

/-!
# What a load does to the graph

However the load of a module ends, the graph has only grown: everything that was there before is as
it was.  A load that succeeds has linked all types of the module and has sealed them, supertypes
first.
-/

namespace Nominal

open Nominal.Graph

section Work

variable {resolver : Resolver} {base graph left : Graph}

/-! ## After the stubs -/

/-- The stubs of a module, ready to be linked. -/
structure Stubbed (resolver : Resolver) (base : Graph) (pending : List PendingType)
    (graph : Graph) : Prop where
  grows : base.Grows resolver.farm graph
  distinct : (pending.map (·.type)).Nodup
  ready : ∀ entry ∈ pending, Unfinished resolver base entry graph

/-- Everything that is done after the stubs of a module have been made. -/
def finishModule (resolver : Resolver) (pending : List PendingType) : Build Module := do
  let dependencies ← linkTypes resolver pending pending
  let order ← completionOrder resolver.module.name pending dependencies
  completeTypes resolver pending order
  return resolver.module

/-- The order in which the types of a module are completed, or a cycle. -/
def completionPlan (dependencies : List (List Nat)) : Except DependencyCycle (List Nat) :=
  ((DependencyGraph.isolated dependencies.length).withLists 0 dependencies).solve
    (List.range dependencies.length)

/-- The failure of a plan that goes round in a circle. -/
def Resolver.cycleFailure (resolver : Resolver) (pending : List PendingType)
    (cycle : DependencyCycle) : Failure :=
  let nameAt := fun place =>
    (pending[place]?.map fun (entry : PendingType) => entry.declaration.name).getD ""
  .rejected (.declaration resolver.module.name ""
    (.circularDependency (nameAt cycle.dependent) (nameAt cycle.dependency)))

theorem exec_completionOrder (resolver : Resolver) (graph : Graph) (pending : List PendingType)
    {dependencies : List (List Nat)} (complete : dependencies.length = pending.length) :
    (completionOrder resolver.module.name pending dependencies).exec graph
      = ((completionPlan dependencies).mapError (resolver.cycleFailure pending), graph) := by
  unfold completionOrder completionPlan DependencyGraph.withLists
  rw [complete]
  dsimp only
  cases (List.foldl (fun graph entry => graph.setDependencies entry.2 entry.1)
    (DependencyGraph.isolated pending.length) dependencies.zipIdx).solve
      (List.range pending.length) <;> rfl

/-- The rest of a load links all types, plans their completion and completes them. -/
theorem finishModule_exec {pending : List PendingType}
    (stubbed : Stubbed resolver base pending graph) :
    ∃ linked, base.Grows resolver.farm linked ∧ linked.types.size = graph.types.size ∧
      linked.arenas = graph.arenas ∧ graph.SealsNothing linked ∧
      (resolver.linksFailure? graph pending = none →
        linked.bare = (resolver.withLinks graph pending).bare ∧
          ∀ entry ∈ pending, Unfinished resolver base entry linked) ∧
      (finishModule resolver pending).exec graph =
        (resolver.linksFailure? graph pending).elim
          (match completionPlan (pending.map (resolver.dependencies graph pending)) with
          | .error cycle => (.error (resolver.cycleFailure pending cycle), linked)
          | .ok order =>
            (((completeTypes resolver pending order).exec linked).1.map fun _ => resolver.module,
              ((completeTypes resolver pending order).exec linked).2))
          fun failure => (.error failure, linked) := by
  obtain ⟨linked, ran, grows, size, arenas, nothing, complete⟩ :=
    linkTypes_exec pending stubbed.grows stubbed.ready
  refine ⟨linked, grows, size, arenas, nothing, ?_, ?_⟩
  · intro accepted
    obtain ⟨same, kept⟩ := complete accepted
    exact ⟨same, fun entry listed => kept entry (stubbed.ready entry listed)⟩
  · unfold finishModule
    cases accepted : resolver.linksFailure? graph pending with
    | some failure =>
        rw [accepted] at ran
        exact Build.exec_bind_of_error ran
    | none =>
        rw [accepted] at ran
        have planned := exec_completionOrder resolver linked pending
          (List.length_map (resolver.dependencies graph pending))
        rw [Build.exec_bind_of_ok ran, Option.elim_none]
        cases plan : completionPlan (pending.map (resolver.dependencies graph pending)) with
        | error cycle =>
            rw [plan] at planned
            exact Build.exec_bind_of_error planned
        | ok order =>
            rw [plan] at planned
            rw [Build.exec_bind_of_ok planned, Build.exec_bind]
            dsimp only
            rcases (completeTypes resolver pending order).exec linked with ⟨_ | _, _⟩ <;> rfl

/-- A module whose stubs have been made is finished. -/
structure Finishes (resolver : Resolver) (base : Graph) (pending : List PendingType)
    (graph left : Graph) (linked : Graph) (order : List Nat) : Prop where
  accepted : resolver.linksFailure? graph pending = none
  links : linked.bare = (resolver.withLinks graph pending).bare
  unfinished : ∀ entry ∈ pending, Unfinished resolver base entry linked
  grows : base.Grows resolver.farm linked
  nothing : graph.SealsNothing linked
  plan : completionPlan (pending.map (resolver.dependencies graph pending)) = .ok order
  completes : Completes resolver pending order linked left

theorem Finishes.order {pending : List PendingType} {linked : Graph} {order : List Nat}
    (finishes : Finishes resolver base pending graph left linked order) :
    order.Nodup ∧ ∀ place < pending.length, place ∈ order := by
  obtain ⟨ordered, listed⟩ := DependencyGraph.ordered_of_solve finishes.plan
  refine ⟨ordered.nodup, ?_⟩
  intro place inRange
  apply listed
  simpa using inRange

theorem Finishes.allUnfinished {pending : List PendingType} {linked : Graph} {order : List Nat}
    (finishes : Finishes resolver base pending graph left linked order) :
    AllUnfinished resolver base pending order linked :=
  fun _ _ entry found => finishes.unfinished entry (List.mem_of_getElem? found)

/-- However the rest of a load ends, only new types have been worked on, and what linking and the
completion of one type keep is kept. -/
theorem finishModule_keeps {pending : List PendingType} {holds : Graph → Prop}
    (stubbed : Stubbed resolver base pending graph)
    (start : ∀ linked, base.Grows resolver.farm linked → linked.arenas = graph.arenas →
      graph.SealsNothing linked → holds linked)
    (each : ∀ entry left, Unfinished resolver base entry left → holds left →
      holds ((completeType resolver entry).exec left).2) :
    base.Grows resolver.farm ((finishModule resolver pending).exec graph).2 ∧
      holds ((finishModule resolver pending).exec graph).2 := by
  obtain ⟨linked, grows, -, arenas, nothing, complete, ran⟩ := finishModule_exec stubbed
  rw [ran]
  cases accepted : resolver.linksFailure? graph pending with
  | some failure => exact ⟨grows, start linked grows arenas nothing⟩
  | none =>
      rw [Option.elim_none]
      cases plan : completionPlan (pending.map (resolver.dependencies graph pending)) with
      | error cycle => exact ⟨grows, start linked grows arenas nothing⟩
      | ok order =>
          obtain ⟨ordered, -⟩ := DependencyGraph.ordered_of_solve plan
          exact completeTypes_keeps each stubbed.distinct ordered.nodup
            (fun place _ entry found => (complete accepted).2 entry (List.mem_of_getElem? found))
            grows (start linked grows arenas nothing)

/-- A load that succeeds has linked, planned and completed all types. -/
theorem exists_finishes {pending : List PendingType}
    (stubbed : Stubbed resolver base pending graph) {module : Module}
    (succeeded : (finishModule resolver pending).exec graph = (.ok module, left)) :
    module = resolver.module ∧
      ∃ linked order, Finishes resolver base pending graph left linked order := by
  obtain ⟨linked, grows, -, -, nothing, complete, ran⟩ := finishModule_exec stubbed
  rw [ran] at succeeded
  cases accepted : resolver.linksFailure? graph pending with
  | some failure =>
      rw [accepted] at succeeded
      cases succeeded
  | none =>
      rw [accepted, Option.elim_none] at succeeded
      obtain ⟨links, unfinished⟩ := complete accepted
      cases plan : completionPlan (pending.map (resolver.dependencies graph pending)) with
      | error cycle =>
          rw [plan] at succeeded
          cases succeeded
      | ok order =>
          rw [plan] at succeeded
          dsimp only at succeeded
          rcases completed : (completeTypes resolver pending order).exec linked with
            ⟨failure | _, last⟩
          · rw [completed] at succeeded
            cases succeeded
          · rw [completed] at succeeded
            cases succeeded
            exact ⟨rfl, linked, order, accepted, links, unfinished, grows, nothing, plan,
              completeTypes_eq_ok_iff.mp completed⟩

/-! ## The whole load -/

/-- All types of a module are sealed. -/
def Module.Complete (module : Module) (graph : Graph) : Prop :=
  ∀ {name type}, module.types.get? name = some type → graph.isSealed type = true

theorem Module.Complete.of_grows {module : Module} (complete : module.Complete graph) {farm : Farm}
    (grows : graph.Grows farm left) : module.Complete left := by
  intro name type found
  have isFinal := complete found
  rw [isSealed, grows.types (lt_size_of_isSealed isFinal)]
  exact isFinal

/-- The resolver of a declared module whose types are counted from a first one. -/
def loadResolver (farm : Farm) (serial : Nat) (imports : List Module)
    (declaration : ModuleDeclaration) (first : TypeId) : Resolver :=
  { farm, module :=
      (Module.importing serial declaration.name imports).withTypes first declaration.types }

theorem withTypes_parts (module : Module) (first : TypeId) (declarations : List TypeDeclaration) :
    (module.withTypes first declarations).imports = module.imports ∧
      (module.withTypes first declarations).name = module.name ∧
      (module.withTypes first declarations).scope = module.scope := by
  induction declarations generalizing module first with
  | nil => exact ⟨rfl, rfl, rfl⟩
  | cons declaration rest ih => exact ih _ _

theorem mem_of_importing {serial : Nat} {name key : String} {imports : List Module}
    {types : Table String TypeId}
    (found : (Module.importing serial name imports).imports.get? key = some types) :
    ∃ imported ∈ imports, imported.types = types := by
  have known : ∀ (imports : List Module) (table : Table String (Table String TypeId)),
      (imports.foldl (fun table imported => table.set imported.name imported.types) table).get? key
        = some types →
      table.get? key = some types ∨ ∃ imported ∈ imports, imported.types = types := by
    intro imports
    induction imports with
    | nil => exact fun _ found => .inl found
    | cons first rest ih =>
        intro table found
        rcases ih _ found with old | ⟨imported, listed, same⟩
        · rw [Table.get?_set] at old
          split at old
          · cases old
            exact .inr ⟨first, List.mem_cons_self, rfl⟩
          · exact .inl old
        · exact .inr ⟨imported, List.mem_cons_of_mem first listed, same⟩
  rcases known imports {} found with impossible | mentioned
  · cases impossible
  · exact mentioned

/-- A name denotes a type of the module itself, or one that was sealed before. -/
theorem denotes_loadResolver {farm : Farm} {serial : Nat} {imports : List Module}
    {declaration : ModuleDeclaration} {first : TypeId} (houses : graph.Houses farm)
    (complete : ∀ imported ∈ imports, imported.Complete graph)
    (distinct : (declaration.types.map (·.name)).Nodup) {name : String} {type : TypeId}
    (denotes : (loadResolver farm serial imports declaration first).Denotes name type) :
    (∃ entry ∈ pendingFrom first declaration.types,
        entry.declaration.name = name ∧ entry.type = type) ∨
      graph.isSealed type = true := by
  unfold Resolver.Denotes Module.lookupType? loadResolver at denotes
  dsimp only at denotes
  split at denotes
  next found =>
    cases denotes
    left
    have listed := Table.mem_of_get?_eq_some found
    rw [entries_withTypes first (by simpa [Module.importing, Table.keys] using distinct)] at listed
    simp only [Module.importing, List.nil_append, List.mem_map, Prod.mk.injEq] at listed
    obtain ⟨entry, pending, named, same⟩ := listed
    exact ⟨entry, pending, named, same⟩
  next =>
    right
    split at denotes
    next found =>
      cases denotes
      exact (houses.builtin found).2
    next =>
      rw [(withTypes_parts _ _ _).1] at denotes
      obtain ⟨⟨moduleName, typeName⟩, -, denotes⟩ := Option.bind_eq_some_iff.mp denotes
      obtain ⟨types, imported, denotes⟩ := Option.bind_eq_some_iff.mp denotes
      obtain ⟨source, listed, rfl⟩ := mem_of_importing imported
      exact complete source listed denotes

theorem pendingFrom_types (first : TypeId) (declarations : List TypeDeclaration) :
    (pendingFrom first declarations).map (·.type) = List.range' first declarations.length := by
  induction declarations generalizing first with
  | nil => rfl
  | cons declaration rest ih => rw [pendingFrom, List.map_cons, ih]; rfl

theorem pendingFrom_declarations (first : TypeId) (declarations : List TypeDeclaration) :
    (pendingFrom first declarations).map (·.declaration) = declarations := by
  induction declarations generalizing first with
  | nil => rfl
  | cons declaration rest ih => rw [pendingFrom, List.map_cons, ih]

theorem stub_of_mem_pendingFrom {arena : ArenaId} (present : arena < base.arenas.size)
    {scope : Scope}
    {declarations : List TypeDeclaration}
    (same : graph.bare = (base.withStubs scope arena declarations).bare) {entry : PendingType}
    (listed : entry ∈ pendingFrom base.types.size declarations) :
    base.types.size ≤ entry.type ∧ entry.type < graph.types.size ∧
      ∃ index, graph.typeAt entry.type = entry.declaration.stub scope arena index := by
  have size : graph.types.size = base.types.size + declarations.length := by
    rw [types_eq_of_bare same, size_withStubs]
  obtain ⟨place, inRange, rfl⟩ := List.getElem_of_mem listed
  have found := List.getElem?_eq_getElem inRange
  rw [getElem?_pendingFrom] at found
  obtain ⟨declared, foundDeclaration, equal⟩ := Option.map_eq_some_iff.mp found
  rw [← equal]
  dsimp only
  have placeInRange := (List.getElem?_eq_some_iff.mp foundDeclaration).1
  have inGraph : base.types.size + place < graph.types.size := by omega
  refine ⟨Nat.le_add_right _ _, inGraph, (base.arenaAt arena).types.length + place, ?_⟩
  rw [typeAt_eq_of_bare same, typeAt_withStubs_new present _ foundDeclaration]

section WithStubs

variable {farm : Farm} {serial : Nat} {imports : List Module} {declaration : ModuleDeclaration}
  (houses : base.Houses farm) (complete : ∀ imported ∈ imports, imported.Complete base)
  (distinct : (declaration.types.map (·.name)).Nodup) (grows : base.Grows farm graph)
  (same : graph.bare = (base.withStubs (.ofModule serial declaration.name) farm.arena
    declaration.types).bare)

include houses complete distinct grows same

/-- What the declarations of a module may mention is there as soon as the stubs are. -/
theorem hosted_of_withStubs :
    (loadResolver farm serial imports declaration base.types.size).Hosted graph := by
  refine ⟨?_, ?_, grows.houses.arena, grows.houses.together, grows.houses.interned⟩
  · intro name type denotes
    rcases denotes_loadResolver houses complete distinct denotes with
      ⟨entry, listed, -, rfl⟩ | isFinal
    · exact (stub_of_mem_pendingFrom houses.arena same listed).2.1
    · exact Nat.lt_of_lt_of_le (lt_size_of_isSealed isFinal) grows.size
  · exact fun found => (grows.houses.builtin found).1

theorem stubbed_of_withStubs :
    Stubbed (loadResolver farm serial imports declaration base.types.size) base
      (pendingFrom base.types.size declaration.types) graph := by
  have young := fun entry (listed : entry ∈ pendingFrom base.types.size declaration.types) =>
    stub_of_mem_pendingFrom houses.arena same listed
  have hosted := hosted_of_withStubs houses complete distinct grows same
  refine ⟨grows, ?_, ?_⟩
  · rw [pendingFrom_types]
    exact List.nodup_range'
  · intro entry listed
    obtain ⟨old, present, index, isStub⟩ := young entry listed
    refine ⟨⟨grows.houses.sound, hosted, present, grows.memberCount, grows.houses.plain, ?_, ?_⟩,
      old, ?_, ?_, ?_⟩
    · rw [isStub]
      rfl
    · rw [progressAt, progress_eq_of_bare same, ← progressAt, progressAt_withStubs,
        progressAt_of_size_le (houses.inStep ▸ old)]
    · rw [isSealed, isStub]
      rfl
    · rw [isStub]
      exact entry.declaration.isClass_stub ..
    · rw [isStub]
      rfl

end WithStubs

/-- A load makes all stubs and then finishes them. -/
theorem loadModule_exec {farm : Farm} {serial free : Nat} {imports : List Module}
    {declaration : ModuleDeclaration} (houses : graph.Houses farm)
    (complete : ∀ imported ∈ imports, imported.Complete graph)
    (named : declaration.name ≠ "")
    (capacity : (graph.arenaAt farm.arena).types.length + free = arenaCapacity) :
    ∃ stubs, graph.Grows farm stubs ∧ graph.SealsNothing stubs ∧
      (declarationsFailure? declaration.name free [] declaration.types = none →
        stubs.bare = (graph.withStubs (.ofModule serial declaration.name) farm.arena
            declaration.types).bare ∧
          (declaration.types.map (·.name)).Nodup ∧
          Stubbed (loadResolver farm serial imports declaration graph.types.size) graph
            (pendingFrom graph.types.size declaration.types) stubs) ∧
      (loadModule farm serial imports declaration).exec graph =
        (declarationsFailure? declaration.name free [] declaration.types).elim
          ((finishModule (loadResolver farm serial imports declaration graph.types.size)
            (pendingFrom graph.types.size declaration.types)).exec stubs)
          (fun failure => (.error failure, stubs)) ∧
      (∀ error, declarationsFailure? declaration.name free [] declaration.types
        = some (.aborted error) → (stubs.arenaAt farm.arena).types.length = arenaCapacity) ∧
      (stubs.arenaAt farm.arena).arrays = (graph.arenaAt farm.arena).arrays ∧
      ∃ made, stubs.bare
        = (graph.withStubs (.ofModule serial declaration.name) farm.arena made).bare := by
  obtain ⟨made, stubs, -, ran, same, whole, full⟩ := declareTypes_exec declaration.types
    (Module.importing serial declaration.name imports) houses.arena capacity
  obtain ⟨grows, nothing⟩ := declareTypes_grows houses
    (Module.importing serial declaration.name imports) declaration.types
  rw [ran] at grows nothing
  refine ⟨stubs, grows, nothing, ?_, ?_, ?_, ?_, made, same⟩
  · intro accepted
    rw [whole accepted] at same
    have distinct := nodup_of_declarationsFailure? List.nodup_nil accepted
    exact ⟨same, distinct, stubbed_of_withStubs houses complete distinct grows same⟩
  · unfold loadModule
    rw [if_neg named]
    change Build.exec (declareTypes farm.arena (Module.importing serial declaration.name imports)
      declaration.types >>= _) graph = _
    rw [Build.exec_bind, ran]
    have start : declarationsFailure? (Module.importing serial declaration.name imports).name free
        (Module.importing serial declaration.name imports).types.keys declaration.types
        = declarationsFailure? declaration.name free [] declaration.types := rfl
    rw [start]
    cases declarationsFailure? declaration.name free [] declaration.types with
    | some failure => rfl
    | none => rfl
  · intro error aborted
    rw [arenaAt, arenas_eq_of_bare same, ← arenaAt, length_arena_withStubs houses.arena,
      full error aborted, capacity]
  · rw [arenaAt, arenas_eq_of_bare same, ← arenaAt, (arenaAt_withStubs _ made farm.arena).2]

theorem loadModule_exec_unnamed (farm : Farm) (serial : Nat) (imports : List Module)
    {declaration : ModuleDeclaration} (unnamed : declaration.name = "") :
    (loadModule farm serial imports declaration).exec graph
      = (.error (.rejected (.invalidDeclaration "missing module name")), graph) := by
  unfold loadModule
  rw [if_pos unnamed]
  rfl

/-- However a load ends, everything that was in the graph is as it was, and what the completion of
one type keeps is kept. -/
theorem loadModule_keeps {farm : Farm} (serial : Nat) {imports : List Module}
    (declaration : ModuleDeclaration) {holds : Graph → Prop} (houses : graph.Houses farm)
    (complete : ∀ imported ∈ imports, imported.Complete graph)
    (start : ∀ linked, graph.Grows farm linked → graph.SealsNothing linked → holds linked)
    (each : ∀ (resolver : Resolver) entry left, resolver.farm = farm →
      Unfinished resolver graph entry left → holds left →
        holds ((completeType resolver entry).exec left).2) :
    graph.Grows farm ((loadModule farm serial imports declaration).exec graph).2 ∧
      holds ((loadModule farm serial imports declaration).exec graph).2 := by
  by_cases named : declaration.name = ""
  · rw [loadModule_exec_unnamed farm serial imports named]
    exact ⟨.refl houses, start graph (.refl houses) (.refl graph)⟩
  · obtain ⟨free, capacity⟩ := Nat.exists_eq_add_of_le houses.room
    obtain ⟨stubs, grows, nothing, ready, ran, -⟩ :=
      @loadModule_exec graph farm serial free imports declaration houses complete named
        capacity.symm
    rw [ran]
    cases accepted : declarationsFailure? declaration.name free [] declaration.types with
    | some failure => exact ⟨grows, start stubs grows nothing⟩
    | none =>
        exact finishModule_keeps (ready accepted).2.2
          (fun linked grown _ linking => start linked grown (nothing.trans linking))
          fun entry left => each (loadResolver farm serial imports declaration graph.types.size)
            entry left rfl

/-- However a load ends, everything that was in the graph is as it was. -/
theorem loadModule_grows {farm : Farm} (serial : Nat) {imports : List Module}
    (declaration : ModuleDeclaration) (houses : graph.Houses farm)
    (complete : ∀ imported ∈ imports, imported.Complete graph) :
    graph.Grows farm ((loadModule farm serial imports declaration).exec graph).2 :=
  (@loadModule_keeps graph farm serial imports declaration (fun _ => True) houses complete
    (fun _ _ _ => trivial) fun _ _ _ _ _ _ => trivial).1

/-- The stages of a load that succeeds. -/
structure Loads (farm : Farm) (serial : Nat) (imports : List Module)
    (declaration : ModuleDeclaration) (graph left stubs linked : Graph) (order : List Nat) :
    Prop where
  named : declaration.name ≠ ""
  accepted : ∃ free, (graph.arenaAt farm.arena).types.length + free = arenaCapacity ∧
    declarationsFailure? declaration.name free [] declaration.types = none
  same : stubs.bare = (graph.withStubs (.ofModule serial declaration.name) farm.arena
    declaration.types).bare
  distinct : (declaration.types.map (·.name)).Nodup
  stubbed : Stubbed (loadResolver farm serial imports declaration graph.types.size) graph
    (pendingFrom graph.types.size declaration.types) stubs
  finishes : Finishes (loadResolver farm serial imports declaration graph.types.size) graph
    (pendingFrom graph.types.size declaration.types) stubs left linked order

/-- A load that succeeds has gone through all stages. -/
theorem exists_loads {farm : Farm} {serial : Nat} {imports : List Module}
    {declaration : ModuleDeclaration} (houses : graph.Houses farm)
    (complete : ∀ imported ∈ imports, imported.Complete graph) {module : Module}
    (succeeded : (loadModule farm serial imports declaration).exec graph = (.ok module, left)) :
    module = (loadResolver farm serial imports declaration graph.types.size).module ∧
      ∃ stubs linked order,
        Loads farm serial imports declaration graph left stubs linked order := by
  by_cases named : declaration.name = ""
  · rw [loadModule_exec_unnamed farm serial imports named] at succeeded
    cases succeeded
  · obtain ⟨free, capacity⟩ := Nat.exists_eq_add_of_le houses.room
    obtain ⟨stubs, -, -, ready, ran, -⟩ :=
      @loadModule_exec graph farm serial free imports declaration houses complete named
        capacity.symm
    rw [ran] at succeeded
    cases accepted : declarationsFailure? declaration.name free [] declaration.types with
    | some failure =>
        rw [accepted] at succeeded
        cases succeeded
    | none =>
        rw [accepted] at succeeded
        obtain ⟨same, distinct, stubbed⟩ := ready accepted
        obtain ⟨isModule, linked, order, finishes⟩ := exists_finishes stubbed succeeded
        exact ⟨isModule, stubs, linked, order, named, ⟨free, capacity.symm, accepted⟩, same,
          distinct, stubbed, finishes⟩

section Loaded

variable {farm : Farm} {serial : Nat} {imports : List Module} {declaration : ModuleDeclaration}
  {stubs linked : Graph} {order : List Nat}
  (loads : Loads farm serial imports declaration graph left stubs linked order)

include loads

theorem Loads.entries :
    (loadResolver farm serial imports declaration graph.types.size).module.types.entries
      = (pendingFrom graph.types.size declaration.types).map fun entry =>
          (entry.declaration.name, entry.type) := by
  unfold loadResolver
  rw [entries_withTypes _ (by simpa [Module.importing, Table.keys] using loads.distinct)]
  rfl

theorem Loads.keys :
    (loadResolver farm serial imports declaration graph.types.size).module.types.keys
      = declaration.types.map (·.name) := by
  rw [Table.keys, loads.entries, List.map_map]
  conv_rhs => rw [← pendingFrom_declarations graph.types.size declaration.types, List.map_map]
  rfl

theorem Loads.typeList :
    (loadResolver farm serial imports declaration graph.types.size).module.typeList
      = (pendingFrom graph.types.size declaration.types).map (·.type) := by
  rw [Module.typeList, Table.values, loads.entries, List.map_map]
  rfl

/-- All types of a loaded module are sealed. -/
theorem Loads.isSealed {entry : PendingType}
    (listed : entry ∈ pendingFrom graph.types.size declaration.types) :
    left.isSealed entry.type = true := by
  obtain ⟨distinct, all⟩ := loads.finishes.order
  obtain ⟨place, inRange, rfl⟩ := List.getElem_of_mem listed
  exact (loads.finishes.completes.isSealed loads.stubbed.distinct distinct
    loads.finishes.allUnfinished).2 place (all place inRange) _ (List.getElem?_eq_getElem inRange)

theorem Loads.keepsSealed : linked.KeepsSealed left :=
  (loads.finishes.completes.isSealed loads.stubbed.distinct loads.finishes.order.1
    loads.finishes.allUnfinished).1

theorem Loads.identity (houses : graph.Houses farm) {entry : PendingType}
    (listed : entry ∈ pendingFrom graph.types.size declaration.types) :
    ∃ index, NominalType.SameIdentity
      (entry.declaration.stub (.ofModule serial declaration.name) farm.arena index)
      (left.typeAt entry.type) := by
  obtain ⟨-, present, index, isStub⟩ := stub_of_mem_pendingFrom houses.arena loads.same listed
  have linking := loads.finishes.nothing.keeps
  refine ⟨index, ?_⟩
  rw [← isStub]
  exact (linking.identity entry.type present).trans
    (loads.keepsSealed.identity entry.type (Nat.lt_of_lt_of_le present linking.grows))

theorem Loads.complete :
    (loadResolver farm serial imports declaration graph.types.size).module.Complete left := by
  intro name type found
  have listed := Table.mem_of_get?_eq_some found
  rw [loads.entries] at listed
  obtain ⟨entry, pending, same⟩ := List.mem_map.mp listed
  obtain ⟨-, rfl⟩ := Prod.mk.inj same
  exact loads.isSealed pending

end Loaded

end Work

end Nominal
