import Mathlib.Data.List.TakeWhile
import Nominal.Proofs.BuiltinNames

/-!
# Names in a session

A type is printed by its qualified name, and a session looks a name up by cutting it at the first
dot, taking the first module of the name before the dot and asking it for a type declared under the
rest.  The two are inverse for a type if its module is the first one of its name, the name of the
module has no dot, and the type was declared under a composed name.
-/

namespace Nominal

open Nominal.Graph

/-! ## Cutting at a dot -/

namespace Text

/-- What stands before the first dot has no dot. -/
theorem dot_not_mem_of_cutAtDot? {text before after : String}
    (cut : cutAtDot? text = some (before, after)) : '.' ∉ before.toList := by
  unfold cutAtDot? at cut
  dsimp only at cut
  split at cut
  next => cases cut
  next =>
    cases cut
    rw [String.toList_ofList]
    intro listed
    simpa using List.mem_takeWhile_imp listed

/-- A text is cut where two parts were joined by a dot, if that is the first one. -/
theorem cutAtDot?_append {before : String} (undotted : '.' ∉ before.toList) (after : String) :
    cutAtDot? (before ++ "." ++ after) = some (before, after) := by
  have passes : ∀ c ∈ before.toList, (c != '.') = true := by
    intro c listed
    simp only [bne_iff_ne, ne_eq]
    rintro rfl
    exact undotted listed
  have joined : (before ++ "." ++ after).toList = before.toList ++ '.' :: after.toList := by
    simp
  unfold cutAtDot?
  simp only [joined, List.takeWhile_append_of_pos passes, List.dropWhile_append_of_pos passes]
  simp

theorem dot_mem_append (before after : String) : '.' ∈ (before ++ "." ++ after).toList := by
  simp

end Text

/-! ## Modules under their names -/

/-- The types of a module are declared in it, each under another name. -/
structure Module.Registered (module : Module) (graph : Graph) : Prop where
  named : module.name ≠ ""
  distinct : module.types.keys.Nodup
  present : ∀ entry ∈ module.types.entries, entry.2 < graph.types.size
  moduleName : ∀ entry ∈ module.types.entries, (graph.typeAt entry.2).moduleName = module.name
  identifier : ∀ entry ∈ module.types.entries,
    (graph.typeAt entry.2).identifier = Text.canonical entry.1

section Later

variable {farm : Farm} {module : Module} {graph left : Graph}

theorem Farm.Registered.later (registered : farm.Registered graph)
    (present : ∀ entry ∈ farm.types.entries, entry.2 < graph.types.size)
    (keeps : graph.KeepsNames left) : farm.Registered left where
  distinct := registered.distinct
  named entry listed := (keeps.nameOf (present entry listed)).trans (registered.named entry listed)
  undotted := registered.undotted

theorem Module.Registered.later (registered : module.Registered graph)
    (keeps : graph.KeepsNames left) : module.Registered left where
  named := registered.named
  distinct := registered.distinct
  present entry listed := Nat.lt_of_lt_of_le (registered.present entry listed) keeps.grows
  moduleName entry listed := by
    rw [(keeps.identity entry.2 (registered.present entry listed)).moduleName]
    exact registered.moduleName entry listed
  identifier entry listed := by
    rw [(keeps.identity entry.2 (registered.present entry listed)).identifier]
    exact registered.identifier entry listed

end Later

/-- The qualified name of a type of a module. -/
theorem Module.Registered.nameOf {module : Module} {graph : Graph}
    (registered : module.Registered graph) {name : String} {type : TypeId}
    (listed : (name, type) ∈ module.types.entries) :
    graph.nameOf type = module.name ++ "." ++ Text.canonical name := by
  have moduleName := registered.moduleName _ listed
  have identifier := registered.identifier _ listed
  simp [Graph.nameOf, NominalType.qualifiedName, moduleName, identifier, registered.named]

/-- The stubs of a declared module are registered under the declared names. -/
theorem registered_of_stubs {farm : Farm} {serial : Nat} {imports : List Module}
    {declaration : ModuleDeclaration} {graph stubs : Graph} (houses : graph.Houses farm)
    (named : declaration.name ≠ "") (distinct : (declaration.types.map (·.name)).Nodup)
    (same : stubs.bare = (graph.withStubs (.ofModule serial declaration.name) farm.arena
      declaration.types).bare) :
    (loadResolver farm serial imports declaration graph.types.size).module.Registered stubs := by
  have name : (loadResolver farm serial imports declaration graph.types.size).module.name
      = declaration.name := (withTypes_parts _ _ _).2.1
  have entries :
      (loadResolver farm serial imports declaration graph.types.size).module.types.entries
      = (pendingFrom graph.types.size declaration.types).map fun entry =>
          (entry.declaration.name, entry.type) := by
    unfold loadResolver
    rw [entries_withTypes _ (by simpa [Module.importing, Table.keys] using distinct)]
    rfl
  have stub := fun entry listed =>
    @stub_of_mem_pendingFrom graph stubs farm.arena houses.arena _ _ same entry listed
  constructor
  · rwa [name]
  · rw [Table.keys, entries, List.map_map]
    rw [← pendingFrom_declarations graph.types.size declaration.types, List.map_map] at distinct
    exact distinct
  all_goals
    intro entry listed
    rw [entries] at listed
    obtain ⟨pending, isPending, rfl⟩ := List.mem_map.mp listed
    obtain ⟨-, present, index, isStub⟩ := stub pending isPending
  · exact present
  · rw [isStub, name]
    rfl
  · rw [isStub]
    rfl

/-- A loaded module lists the declared types under their names. -/
theorem Loads.registered {farm : Farm} {serial : Nat} {imports : List Module}
    {declaration : ModuleDeclaration} {graph left stubs linked : Graph} {order : List Nat}
    (loads : Loads farm serial imports declaration graph left stubs linked order)
    (houses : graph.Houses farm) :
    (loadResolver farm serial imports declaration graph.types.size).module.Registered left := by
  apply (registered_of_stubs houses loads.named loads.distinct loads.same).later
  exact .of_keepsSealed (loads.finishes.nothing.keeps.trans loads.keepsSealed)

namespace Workspace

variable {settings : ArenaSettings} {workspace : Workspace}

/-- All types that a session lists are registered under their names. -/
structure Registered (workspace : Workspace) : Prop where
  farm : workspace.farm.Registered workspace.graph
  modules : ∀ module ∈ workspace.modules, module.Registered workspace.graph

/-- Names stay as they are while no type changes its name. -/
theorem Registered.later (registered : workspace.Registered) (ready : workspace.Ready settings)
    {left : Graph} (keeps : workspace.graph.KeepsNames left) :
    Registered { workspace with graph := left } where
  farm := by
    apply registered.farm.later _ keeps
    intro entry listed
    apply lt_size_of_isSealed
    exact (ready.houses.builtin
      (Table.get?_eq_some_of_mem registered.farm.distinct listed)).2
  modules module listed := (registered.modules module listed).later keeps

theorem Registered.load (registered : workspace.Registered) (ready : workspace.Ready settings)
    {imports : List Module} (known : ∀ imported ∈ imports, imported ∈ workspace.modules)
    (declaration : ModuleDeclaration) :
    Registered (workspace.loadDeclaration imports declaration).2 := by
  have grows := ready.grows known declaration
  rcases ran : (loadModule workspace.farm workspace.loads imports declaration).exec
    workspace.graph with ⟨outcome, left⟩
  rw [ran] at grows
  have before := registered.later ready (.of_grows grows)
  cases outcome with
  | error failure =>
      rw [loadDeclaration_of_error ran]
      exact ⟨before.farm, before.modules⟩
  | ok module =>
      obtain ⟨journal, loaded⟩ := loadDeclaration_of_ok ran
      obtain ⟨rfl, stubs, linked, order, loads⟩ := exists_loads ready.houses
        (fun imported listed => ready.complete imported (known imported listed)) ran
      rw [loaded]
      constructor
      · exact ⟨before.farm.distinct, before.farm.named, before.farm.undotted⟩
      · intro module listed
        have names : module.Registered left := by
          rcases List.mem_append.mp listed with old | new
          · exact before.modules module old
          · obtain rfl := List.mem_singleton.mp new
            exact loads.registered ready.houses
        exact names.later (.of_types rfl)

theorem Session.registered (session : Session settings workspace) : workspace.Registered := by
  induction session with
  | start started =>
      refine ⟨(registered_start started).1, ?_⟩
      simp [(furnished_start started).2.1]
  | load session known declaration ih => exact ih.load session.ready known declaration
  | read session reads ih => exact ih.later session.ready (.of_types (types_eq_of_bare reads.bare))
  | intern session within ih =>
      apply ih.later session.ready
      exact .of_keepsSealed (arrayOf_step session.ready.houses.sound _ _ _).keepsSealed

/-! ## Printed names -/

/-- A name that a session finds is that of a built-in type or of a type of the first module of some
name. -/
theorem lookup?_eq_some_iff {name : String} {type : TypeId} :
    workspace.lookup? name = some type ↔
      workspace.farm.lookup? name = some type ∨
        workspace.farm.lookup? name = none ∧ ∃ moduleName typeName module,
          Text.cutAtDot? name = some (moduleName, typeName) ∧
            workspace.module? moduleName = some module ∧
            module.lookup? typeName = some type := by
  unfold Workspace.lookup?
  cases workspace.farm.lookup? name <;> simp [Option.bind_eq_some_iff]

/-- The printed name of a type is looked up as that type if and only if the type is built in, or
was declared under a composed name in the first module of a name without a dot. -/
theorem nameOf_roundTrips_iff (session : Session settings workspace) (type : TypeId) :
    workspace.lookup? (workspace.graph.nameOf type) = some type ↔
      type ∈ workspace.farm.typeList ∨
        ∃ module name, (name, type) ∈ module.types.entries ∧
          workspace.module? module.name = some module ∧ '.' ∉ module.name.toList ∧
          Text.canonical name = name := by
  have registered := session.registered
  rw [lookup?_eq_some_iff]
  constructor
  · rintro (builtin | ⟨-, moduleName, typeName, module, cut, found, declared⟩)
    · left
      exact List.mem_map_of_mem (Table.mem_of_get?_eq_some builtin)
    · right
      have isLoaded := List.mem_of_find?_eq_some found
      have sameName : module.name = moduleName := by simpa using List.find?_some found
      subst sameName
      have entry := Table.mem_of_get?_eq_some declared
      have undotted := Text.dot_not_mem_of_cutAtDot? cut
      rw [(registered.modules module isLoaded).nameOf entry, Text.cutAtDot?_append undotted] at cut
      have composed : Text.canonical typeName = typeName := by simpa using cut
      exact ⟨module, typeName, entry, found, undotted, composed⟩
  · rintro (builtin | ⟨module, name, entry, found, undotted, composed⟩)
    · left
      obtain ⟨⟨name, same⟩, listed, rfl⟩ := List.mem_map.mp builtin
      rw [registered.farm.named _ listed]
      exact Table.get?_eq_some_of_mem registered.farm.distinct listed
    · right
      have names := registered.modules module (List.mem_of_find?_eq_some found)
      rw [names.nameOf entry, composed]
      refine ⟨?_, module.name, name, module, Text.cutAtDot?_append undotted name, found,
        Table.get?_eq_some_of_mem names.distinct entry⟩
      cases builtin : workspace.farm.lookup? (module.name ++ "." ++ name) with
      | none => rfl
      | some other =>
          have listed := Table.mem_of_get?_eq_some builtin
          exact absurd (Text.dot_mem_append _ _) (registered.farm.undotted _ listed)

/-- A module whose name has a dot. -/
def dottedModule : ModuleDeclaration :=
  { name := "a.b", types := [{ className := "C" }] }

theorem nameOf_roundTrips_iff_baseModule :
    ∃ workspace, Session {} workspace ∧ 8 ∈ workspace.types true ∧
      workspace.graph.nameOf 8 = "base.P" ∧
      workspace.lookup? (workspace.graph.nameOf 8) = some 8 := by
  have evaluated : startsIn (fun started =>
      let loaded := (started.loadDeclaration [] baseModule).2
      decide (8 ∈ loaded.types true ∧ loaded.graph.nameOf 8 = "base.P" ∧
        (loaded.module? "base").any fun module =>
          module.name = "base" ∧ ("P", 8) ∈ module.types.entries)) = true := by
    decide +kernel
  obtain ⟨started, session, evaluated⟩ := exists_of_startsIn evaluated
  obtain ⟨listed, named, found⟩ := of_decide_eq_true evaluated
  have loaded := @Session.load {} started session [] (by simp) baseModule
  obtain ⟨module, first, held⟩ := (Option.any_eq_true _ _).mp found
  obtain ⟨sameName, entry⟩ := of_decide_eq_true held
  refine ⟨_, loaded, listed, named, (nameOf_roundTrips_iff loaded 8).mpr (.inr ?_)⟩
  rw [← sameName] at first
  exact ⟨module, "P", entry, first, by rw [sameName]; decide, by decide +kernel⟩

/-- The name of a type of a module with a dot in its name is cut at the wrong place. -/
theorem not_roundTrips_dottedModule :
    ∃ workspace, Session {} workspace ∧ 8 ∈ workspace.types true ∧
      workspace.graph.nameOf 8 = "a.b.C" ∧
      workspace.lookup? (workspace.graph.nameOf 8) = none := by
  have evaluated : startsIn (fun started =>
      let loaded := (started.loadDeclaration [] dottedModule).2
      decide (8 ∈ loaded.types true ∧ loaded.graph.nameOf 8 = "a.b.C" ∧
        loaded.lookup? (loaded.graph.nameOf 8) = none)) = true := by
    decide +kernel
  obtain ⟨started, session, evaluated⟩ := exists_of_startsIn evaluated
  exact ⟨_, .load session (by simp) dottedModule, of_decide_eq_true evaluated⟩

end Workspace

end Nominal
