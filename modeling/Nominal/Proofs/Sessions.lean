import Nominal.Proofs.Bootstrapped
import Nominal.Proofs.Guarantees

/-!
# Sessions

A session starts with the default built-in types and loads modules one after the other.  Loads may
fail, and between loads the graph may be read and array types may be asked for.  In every state of a
session the graph is ready for the next load.
-/

namespace Nominal

open Nominal.Graph

namespace Workspace

/-- The states of a session with some settings. -/
inductive Session (settings : ArenaSettings) : Workspace → Prop
  | start {isColored : Bool} {workspace : Workspace}
      (started : Workspace.start settings isColored = .ok workspace) : Session settings workspace
  | load {workspace : Workspace} (session : Session settings workspace) {imports : List Module}
      (known : ∀ imported ∈ imports, imported ∈ workspace.modules)
      (declaration : ModuleDeclaration) :
      Session settings (workspace.loadDeclaration imports declaration).2
  | read {workspace : Workspace} (session : Session settings workspace) {left : Graph}
      (reads : workspace.graph.Reads left) : Session settings { workspace with graph := left }
  | intern {workspace : Workspace} (session : Session settings workspace) {element : TypeRef}
      (within : element.isWithin workspace.graph.types.size = true) :
      Session settings
        { workspace with graph := ((workspace.farm.arrayOf element).exec workspace.graph).2 }

/-- A workspace whose graph is ready for the next load. -/
structure Ready (settings : ArenaSettings) (workspace : Workspace) : Prop where
  houses : workspace.graph.Houses workspace.farm
  complete : ∀ module ∈ workspace.modules, module.Complete workspace.graph
  configured : (workspace.graph.arenaAt workspace.farm.arena).settings = settings
  vetted : settings.skipSanityChecks = false → workspace.graph.Vetted

variable {settings : ArenaSettings} {workspace : Workspace}

/-- A session starts with a farm that is furnished with built-in types. -/
theorem furnished_start {isColored : Bool}
    (started : Workspace.start settings isColored = .ok workspace) :
    workspace.graph.Furnished workspace.farm ∧ workspace.modules = [] ∧
      (workspace.graph.arenaAt workspace.farm.arena).settings = settings := by
  have furnished := furnishes_defaults settings
  rcases run : (bootstrapRecorded Builtin.defaults settings.isLogging).exec
    (Graph.withArena settings) with ⟨failure | farm, graph⟩
  · rw [run] at furnished
    cases furnished
  · rw [run] at furnished
    obtain ⟨furnished, kept⟩ := of_decide_eq_true furnished
    unfold Workspace.start at started
    generalize bootstrapRecorded Builtin.defaults settings.isLogging = construction at run started
    have ran : ExceptT.run construction (Graph.withArena settings) = (.ok farm, graph) := run
    rw [ran] at started
    cases started
    exact ⟨furnished, rfl, kept⟩

theorem ready_start {isColored : Bool}
    (started : Workspace.start settings isColored = .ok workspace) : workspace.Ready settings := by
  obtain ⟨furnished, empty, kept⟩ := furnished_start started
  exact ⟨furnished.houses, by simp [empty], kept, fun _ => furnished.vetted⟩

theorem Ready.of_frame (ready : workspace.Ready settings) {left : Graph} (sound : left.Sound)
    (frame : workspace.graph.Frame workspace.farm (fun _ => False) 0 left)
    (nothing : workspace.graph.SealsNothing left) :
    Ready settings { workspace with graph := left } where
  houses := ready.houses.of_frame sound frame nothing.keeps
  complete module listed _ _ found := nothing.keeps.isSealed (ready.complete module listed found)
  configured := (frame.settings _).trans ready.configured
  vetted checksOn :=
    (ready.vetted checksOn).of_sealsNothing ready.houses.sound.wellFormed nothing

theorem Ready.read (ready : workspace.Ready settings) {left : Graph}
    (reads : workspace.graph.Reads left) :
    Ready settings { workspace with graph := left } :=
  ready.of_frame reads.sound ((Frame.refl workspace.graph).of_bare reads.bare)
    ⟨.of_eq (types_eq_of_bare reads.bare) (members_eq_of_bare reads.bare),
      isSealed_eq_of_bare reads.bare⟩

theorem Ready.intern (ready : workspace.Ready settings) {element : TypeRef}
    (within : element.isWithin workspace.graph.types.size = true) :
    Ready settings
      { workspace with graph := ((workspace.farm.arrayOf element).exec workspace.graph).2 } := by
  have step : Step (· = .describe) workspace.graph
      ((workspace.farm.arrayOf element).exec workspace.graph).2 :=
    arrayOf_step ready.houses.sound _ _ _
  have run : (workspace.farm.arrayOf element).exec workspace.graph = _ := exec_arrayOf _ _ _ _
  refine ready.of_frame step.sound ?_ (Steps.sealsNothing (.single step))
  rw [run]
  exact .withArray within

section Load

variable {imports : List Module} {declaration : ModuleDeclaration} {left : Graph}

theorem loadDeclaration_of_error {failure : Failure}
    (ran : (loadModule workspace.farm workspace.loads imports declaration).exec workspace.graph
      = (.error failure, left)) :
    workspace.loadDeclaration imports declaration
      = (.error failure, { workspace with graph := left, loads := workspace.loads + 1 }) := by
  have run : ExceptT.run (loadModule workspace.farm workspace.loads imports declaration)
      workspace.graph = (.error failure, left) := ran
  rw [loadDeclaration, Workspace.run, run]

theorem loadDeclaration_of_ok {module : Module}
    (ran : (loadModule workspace.farm workspace.loads imports declaration).exec workspace.graph
      = (.ok module, left)) :
    ∃ journal, workspace.loadDeclaration imports declaration
      = (.ok module, { workspace with
          graph := { left with journal }
          modules := workspace.modules ++ [module]
          loads := workspace.loads + 1 }) := by
  have run : ExceptT.run (loadModule workspace.farm workspace.loads imports declaration)
      workspace.graph = (.ok module, left) := ran
  rw [loadDeclaration, Workspace.run, run]
  exact ⟨_, rfl⟩

end Load

/-- However a load ends, everything that was in the graph is as it was. -/
theorem Ready.grows (ready : workspace.Ready settings) {imports : List Module}
    (known : ∀ imported ∈ imports, imported ∈ workspace.modules)
    (declaration : ModuleDeclaration) :
    workspace.graph.Grows workspace.farm
      ((loadModule workspace.farm workspace.loads imports declaration).exec workspace.graph).2 :=
  loadModule_grows workspace.loads declaration ready.houses
    fun imported listed => ready.complete imported (known imported listed)

/-- However a load ends, the workspace is ready for the next one. -/
theorem Ready.load (ready : workspace.Ready settings) {imports : List Module}
    (known : ∀ imported ∈ imports, imported ∈ workspace.modules)
    (declaration : ModuleDeclaration) :
    Ready settings (workspace.loadDeclaration imports declaration).2 := by
  have complete : ∀ imported ∈ imports, imported.Complete workspace.graph :=
    fun imported listed => ready.complete imported (known imported listed)
  have grows := ready.grows known declaration
  have vetted : settings.skipSanityChecks = false → ((loadModule workspace.farm workspace.loads
      imports declaration).exec workspace.graph).2.Vetted := by
    intro checksOn
    exact loadModule_vetted workspace.loads declaration ready.houses complete
      (ready.configured ▸ checksOn) (ready.vetted checksOn)
  rcases ran : (loadModule workspace.farm workspace.loads imports declaration).exec
    workspace.graph with ⟨outcome, left⟩
  rw [ran] at grows vetted
  have readyLeft : Ready settings
      { workspace with graph := left, loads := workspace.loads + 1 } :=
    ⟨grows.houses,
      fun module listed => Module.Complete.of_grows (ready.complete module listed) grows,
      (grows.settings _).trans ready.configured, vetted⟩
  cases outcome with
  | error failure =>
      rw [loadDeclaration_of_error ran]
      exact readyLeft
  | ok module =>
      obtain ⟨journal, loaded⟩ := loadDeclaration_of_ok ran
      rw [loaded]
      obtain ⟨rfl, stubs, linked, order, loads⟩ := exists_loads ready.houses complete ran
      have readyLogged := readyLeft.read (readyLeft.houses.sound.withJournal journal)
      refine ⟨readyLogged.houses, ?_, readyLogged.configured, readyLogged.vetted⟩
      intro module listed
      rcases List.mem_append.mp listed with old | new
      · exact readyLogged.complete module old
      · obtain rfl := List.mem_singleton.mp new
        exact loads.complete

theorem Session.ready (session : Session settings workspace) : workspace.Ready settings := by
  induction session with
  | start started => exact ready_start started
  | load _ known declaration ih => exact ih.load known declaration
  | read _ reads ih => exact ih.read reads
  | intern _ within ih => exact ih.intern within

/-! ## Loaded modules -/

/-- In a session with checks, a load that succeeds gives the declared types in order, all of them
sealed, and every look-up in a declared class is orderly, whether its superclasses are declared
before or after it, imported or built in.  The composed form of the name is taken to be composed. -/
theorem loadDeclaration_sealed_and_orderly (checksOn : settings.skipSanityChecks = false)
    (session : Session settings workspace) {imports : List Module}
    (known : ∀ imported ∈ imports, imported ∈ workspace.modules) {declaration : ModuleDeclaration}
    {module : Module} {loaded : Workspace}
    (succeeded : workspace.loadDeclaration imports declaration = (.ok module, loaded)) :
    module.types.keys = declaration.types.map (·.name) ∧
      (module.typeList.map fun type =>
          ((loaded.graph.typeAt type).moduleName, (loaded.graph.typeAt type).identifier,
            (loaded.graph.typeAt type).isClass))
        = (declaration.types.map fun declared =>
            (declaration.name, Text.canonical declared.name, !declared.isInterface)) ∧
      (∀ type ∈ module.typeList, loaded.graph.isSealed type = true) ∧
      ∀ type ∈ module.typeList, (loaded.graph.typeAt type).isClass = true →
        ∀ name, Text.IsStable name → ∀ isStatic,
          loaded.graph.Orderly (loaded.graph.lookUp type isStatic name) := by
  have ready := session.ready
  have complete : ∀ imported ∈ imports, imported.Complete workspace.graph :=
    fun imported listed => ready.complete imported (known imported listed)
  have readyLoaded := ready.load known declaration
  rw [succeeded] at readyLoaded
  rcases ran : (loadModule workspace.farm workspace.loads imports declaration).exec
    workspace.graph with ⟨failure | made, left⟩
  · rw [loadDeclaration_of_error ran] at succeeded
    cases succeeded
  · obtain ⟨journal, ended⟩ := loadDeclaration_of_ok ran
    rw [ended] at succeeded
    cases succeeded
    obtain ⟨rfl, stubs, linked, order, loads⟩ := exists_loads ready.houses complete ran
    have isFinal : ∀ type ∈ (loadResolver workspace.farm workspace.loads imports declaration
        workspace.graph.types.size).module.typeList, left.isSealed type = true := by
      intro type listed
      rw [loads.typeList] at listed
      obtain ⟨entry, pending, rfl⟩ := List.mem_map.mp listed
      exact loads.isSealed pending
    refine ⟨loads.keys, ?_, ?_, ?_⟩
    · rw [loads.typeList, List.map_map]
      conv_rhs => rw [← pendingFrom_declarations workspace.graph.types.size declaration.types,
        List.map_map]
      apply List.map_congr_left
      intro entry listed
      obtain ⟨index, identity⟩ := loads.identity ready.houses listed
      refine congrArg₂ Prod.mk identity.moduleName
        (congrArg₂ Prod.mk identity.identifier (identity.isClass.trans ?_))
      exact TypeDeclaration.isClass_stub ..
    · exact isFinal
    · intro type listed _ name stable isStatic
      have wellFormed := readyLoaded.houses.sound.wellFormed
      unfold Graph.lookUp
      rw [(Query.Answers.classMemberMap type isStatic _ readyLoaded.houses.sound).1]
      refine orderly_of_conforms wellFormed (lt_size_of_isSealed (isFinal type listed)) ?_ isStatic
        stable
      intro superclass above
      exact readyLoaded.vetted checksOn superclass
        (wellFormed.hierarchical.isSealed_of_reaches (isFinal type listed)
          (reaches_of_mem_parentChainFrom above))

/-! ## Sessions on given modules -/

/-- Whether a session with the default settings starts with a workspace that passes a check. -/
def startsIn (check : Workspace → Bool) : Bool :=
  match Workspace.start {} false with
  | .ok workspace => check workspace
  | .error _ => false

theorem started_of_startsIn {check : Workspace → Bool} (passed : startsIn check = true) :
    ∃ workspace, Workspace.start {} false = .ok workspace ∧ check workspace = true := by
  unfold startsIn at passed
  cases started : Workspace.start {} false with
  | error failure =>
      rw [started] at passed
      cases passed
  | ok workspace =>
      rw [started] at passed
      exact ⟨workspace, rfl, passed⟩

theorem exists_of_startsIn {check : Workspace → Bool} (passed : startsIn check = true) :
    ∃ workspace, Session {} workspace ∧ check workspace = true := by
  obtain ⟨workspace, started, checked⟩ := started_of_startsIn passed
  exact ⟨workspace, .start started, checked⟩

/-- Whether a load succeeds with a result that passes a check. -/
def accepts (workspace : Workspace) (imports : List Module) (declaration : ModuleDeclaration)
    (check : Module → Workspace → Bool) : Bool :=
  match workspace.loadDeclaration imports declaration with
  | (.ok module, loaded) => check module loaded
  | (.error _, _) => false

theorem exists_of_accepts {imports : List Module} {declaration : ModuleDeclaration}
    {check : Module → Workspace → Bool}
    (passed : workspace.accepts imports declaration check = true) :
    ∃ module loaded, workspace.loadDeclaration imports declaration = (.ok module, loaded) ∧
      check module loaded = true := by
  unfold accepts at passed
  rcases ended : workspace.loadDeclaration imports declaration with ⟨failure | module, loaded⟩
  · rw [ended] at passed
    cases passed
  · rw [ended] at passed
    exact ⟨module, loaded, rfl, passed⟩

/-- Whether a load fails and leaves a workspace that passes a check. -/
def rejects (workspace : Workspace) (imports : List Module) (declaration : ModuleDeclaration)
    (check : Workspace → Bool) : Bool :=
  match workspace.loadDeclaration imports declaration with
  | (.ok _, _) => false
  | (.error _, left) => check left

theorem exists_of_rejects {imports : List Module} {declaration : ModuleDeclaration}
    {check : Workspace → Bool} (passed : workspace.rejects imports declaration check = true) :
    ∃ failure left, workspace.loadDeclaration imports declaration = (.error failure, left) ∧
      check left = true := by
  unfold rejects at passed
  rcases ended : workspace.loadDeclaration imports declaration with ⟨failure | module, left⟩
  · rw [ended] at passed
    exact ⟨failure, left, rfl, passed⟩
  · rw [ended] at passed
    cases passed

/-- A module with a class that has a method. -/
def baseModule : ModuleDeclaration :=
  { name := "base"
    types := [{ className := "P"
                members := [{ kind := "method", name := "f", visibility := "protected" }] }] }

/-- A module whose classes stand below an imported one, subclasses first. -/
def reversedChain : ModuleDeclaration :=
  { name := "m"
    types := [
      { className := "B", parent := "A"
        members :=
          [{ kind := "method", name := "f", params := [{ name := "n", type := "int" }] }] },
      { className := "A", parent := "base.P", members := [{ kind := "method", name := "f" }] }] }

theorem loadDeclaration_sealed_and_orderly_reversedChain :
    ∃ workspace module loaded, Session {} workspace ∧
      workspace.loadDeclaration workspace.modules reversedChain = (.ok module, loaded) ∧
      module.typeList = [9, 10] ∧ (loaded.graph.typeAt 9).isClass = true ∧
      loaded.graph.isSealed 9 = true ∧
      loaded.graph.Orderly (loaded.graph.lookUp 9 false "f") := by
  have evaluated : startsIn (fun started =>
      let between := (started.loadDeclaration [] baseModule).2
      between.accepts between.modules reversedChain fun module loaded =>
        decide (module.typeList = [9, 10] ∧ (loaded.graph.typeAt 9).isClass = true)) = true := by
    decide +kernel
  obtain ⟨started, session, evaluated⟩ := exists_of_startsIn evaluated
  have between := @Session.load {} started session [] (by simp) baseModule
  obtain ⟨module, loaded, ended, passed⟩ := exists_of_accepts evaluated
  obtain ⟨listed, isClass⟩ := of_decide_eq_true passed
  obtain ⟨-, -, isFinal, orderly⟩ :=
    loadDeclaration_sealed_and_orderly rfl between (fun _ known => known) ended
  have member : 9 ∈ module.typeList := by simp [listed]
  exact ⟨_, module, loaded, between, ended, listed, isClass, isFinal 9 member,
    orderly 9 member isClass "f" (by decide +kernel) false⟩

end Workspace

end Nominal
