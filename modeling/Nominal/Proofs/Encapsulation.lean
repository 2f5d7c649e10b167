import Nominal.Proofs.ShelteredLoads

/-!
# Encapsulation of modules

However many modules are loaded into one farm, and whether or not some loads fail, no type of a
loaded module mentions a type that it may not mention.  Array types are kept under the names of
their elements, so this holds as long as no two types have the same name.
-/

namespace Nominal

open Nominal.Graph

/-! ## What a type mentions -/

namespace Graph

/-- The types that a type mentions: its parent and interfaces, its extension classes, the classes of
its annotations, and the types in the declarations of its members. -/
def mentionedTypes (graph : Graph) (type : TypeId) : List TypeId :=
  (graph.typeAt type).headerTypes ++ (graph.typeAt type).allMembers.flatMap fun member =>
    (graph.memberAt member).mentioned.filterMap TypeRef.innermost?

/-- No two types of an arena have the same name. -/
def DistinctIds (graph : Graph) (arena : ArenaId) : Prop :=
  ((graph.arenaAt arena).types.map graph.nameOf).Nodup

instance (graph : Graph) (arena : ArenaId) : Decidable (graph.DistinctIds arena) :=
  inferInstanceAs (Decidable (List.Nodup _))

section Mentions

variable {graph : Graph} {farm : Farm} {self type : TypeId}

/-- A sheltered type may mention all types that it mentions. -/
theorem Shelters.mayMention (shelters : graph.Shelters self)
    (mentioned : type ∈ graph.mentionedTypes self) : graph.MayMention self (.nominal type) := by
  rcases List.mem_append.mp mentioned with inHeader | inMember
  · exact (shelters.header type inHeader).2
  · obtain ⟨member, listed, inMember⟩ := List.mem_flatMap.mp inMember
    obtain ⟨reference, inMentioned, leads⟩ := List.mem_filterMap.mp inMember
    have mentionable := (shelters.members member listed).2 reference inMentioned
    exact mayMention_iff.mp mentionable.allowed type leads

theorem Houses.distinctNames (houses : graph.Houses farm)
    (distinct : graph.DistinctIds farm.arena) :
    graph.DistinctNames := by
  have placed : ∀ type < graph.types.size,
      (graph.arenaAt farm.arena).types[(graph.typeAt type).index]? = some type := by
    intro type present
    rw [← houses.together present]
    exact houses.sound.wellFormed.hierarchical.indexed present
  intro first firstPresent second secondPresent named
  have firstPlace := placed first firstPresent
  have secondPlace := placed second secondPresent
  have inRange := (List.getElem?_eq_some_iff.mp firstPlace).1
  have samePlace : (graph.typeAt first).index = (graph.typeAt second).index := by
    apply (List.getElem?_inj (by rwa [List.length_map]) distinct).mp
    rw [List.getElem?_map, List.getElem?_map, firstPlace, secondPlace, Option.map_some,
      Option.map_some, named]
  rw [samePlace, secondPlace] at firstPlace
  exact (Option.some.inj firstPlace).symm

end Mentions

end Graph

/-! ## Histories of loads -/

namespace Workspace

/-- No module has been loaded into a farm.  Its types are public and known by their names, and all
array types are over such types. -/
structure Opened (workspace : Workspace) : Prop where
  houses : workspace.graph.Houses workspace.farm
  unloaded : workspace.modules = []
  offers : workspace.graph.Offers workspace.farm
  arrays : ∀ name element base,
    (workspace.graph.arenaAt workspace.farm.arena).arrays.get? name = some (.array element base) →
      workspace.graph.IsOpen element

/-- The default built-in types are open. -/
theorem opened_start {settings : ArenaSettings} {isColored : Bool} {workspace : Workspace}
    (started : Workspace.start settings isColored = .ok workspace) : workspace.Opened := by
  obtain ⟨furnished, unloaded, -⟩ := furnished_start started
  obtain ⟨registered, -, isPublic⟩ := registered_start started
  refine ⟨furnished.houses, unloaded, ⟨?_, ?_⟩, ?_⟩
  · intro name type found
    exact registered.named _ (Table.mem_of_get?_eq_some found)
  · intro name type found
    exact isPublic type (lt_size_of_isSealed (furnished.houses.builtin found).2)
  · intro name element base found type leads
    obtain ⟨kept, equal, within, -⟩ := furnished.interned _ _ found
    cases equal
    exact isPublic type (TypeRef.lt_of_innermost? within leads)

/-- The states that are reached by loading modules and by reading the graph. -/
inductive LoadHistory (origin : Workspace) : Workspace → Prop
  | start : LoadHistory origin origin
  | load {workspace : Workspace} (history : LoadHistory origin workspace) {imports : List Module}
      (known : ∀ imported ∈ imports, imported ∈ workspace.modules)
      (declaration : ModuleDeclaration) :
      LoadHistory origin (workspace.loadDeclaration imports declaration).2
  | read {workspace : Workspace} (history : LoadHistory origin workspace) {left : Graph}
      (reads : workspace.graph.Reads left) : LoadHistory origin { workspace with graph := left }

/-- The graph is ready for the next load, and unless two types have the same name, array types are
tame and the types of all modules are sheltered. -/
structure Encapsulated (farm : Farm) (modules : List Module) (graph : Graph) : Prop where
  houses : graph.Houses farm
  offers : graph.Offers farm
  complete : ∀ module ∈ modules, module.Complete graph
  registered : ∀ module ∈ modules, module.Registered graph
  arrays : graph.DistinctNames → graph.TameArrays farm
  types : graph.DistinctNames → ∀ module ∈ modules, ∀ type ∈ module.typeList,
    type < graph.types.size ∧ graph.Shelters type

theorem Opened.encapsulated {workspace : Workspace} (opened : workspace.Opened) :
    Encapsulated workspace.farm workspace.modules workspace.graph where
  houses := opened.houses
  offers := opened.offers
  complete := by simp [opened.unloaded]
  registered := by simp [opened.unloaded]
  arrays _ name element base found := .inr (opened.arrays name element base found)
  types := by simp [opened.unloaded]

namespace Encapsulated

variable {farm : Farm} {modules imports : List Module} {graph left : Graph}

theorem present (encapsulated : Encapsulated farm modules graph) {name : String} {type : TypeId}
    (found : farm.lookup? name = some type) : type < graph.types.size :=
  lt_size_of_isSealed (encapsulated.houses.builtin found).2

/-- Reading changes nothing. -/
theorem read (encapsulated : Encapsulated farm modules graph) (reads : graph.Reads left) :
    Encapsulated farm modules left := by
  have houses := encapsulated.houses
  have keeps : graph.KeepsShelter farm left :=
    .of_bare (.refl houses.interned) houses.interned reads.bare
  have sealed : graph.KeepsSealed left :=
    .of_eq (types_eq_of_bare reads.bare) (members_eq_of_bare reads.bare)
  have frame : graph.Frame farm (fun _ => False) 0 left := (Frame.refl graph).of_bare reads.bare
  refine ⟨houses.of_frame reads.sound frame sealed,
    encapsulated.offers.later encapsulated.present keeps.names, ?_, ?_, ?_, ?_⟩
  · intro module listed name type found
    exact sealed.isSealed (encapsulated.complete module listed found)
  · intro module listed
    exact (encapsulated.registered module listed).later keeps.names
  · intro distinct
    exact keeps.arrays (encapsulated.arrays (keeps.names.distinctNames distinct))
  · intro distinct module listed type declared
    obtain ⟨present, shelters⟩ :=
      encapsulated.types (keeps.names.distinctNames distinct) module listed type declared
    exact ⟨Nat.lt_of_lt_of_le present keeps.names.grows, keeps.shelters present shelters⟩

/-- However a load ends, the types of the modules that were there before stay sheltered. -/
theorem grow (encapsulated : Encapsulated farm modules graph) (grows : graph.Grows farm left)
    (arrays : left.DistinctNames → left.TameArrays farm) : Encapsulated farm modules left := by
  have names : graph.KeepsNames left := .of_grows grows
  refine ⟨grows.houses, encapsulated.offers.later encapsulated.present names, ?_, ?_, arrays, ?_⟩
  · intro module listed
    exact Module.Complete.of_grows (encapsulated.complete module listed) grows
  · intro module listed
    exact (encapsulated.registered module listed).later names
  · intro distinct module listed type declared
    obtain ⟨present, shelters⟩ :=
      encapsulated.types (names.distinctNames distinct) module listed type declared
    exact ⟨Nat.lt_of_lt_of_le present names.grows, shelters.of_grows grows present⟩

/-- A module that has been loaded is sheltered like those before it. -/
theorem append {module : Module} (encapsulated : Encapsulated farm modules graph)
    (complete : module.Complete graph) (registered : module.Registered graph)
    (loaded : graph.DistinctNames → ∀ type ∈ module.typeList,
      type < graph.types.size ∧ graph.Shelters type) :
    Encapsulated farm (modules ++ [module]) graph where
  houses := encapsulated.houses
  offers := encapsulated.offers
  complete := by
    simp only [List.forall_mem_append, List.forall_mem_singleton]
    exact ⟨encapsulated.complete, complete⟩
  registered := by
    simp only [List.forall_mem_append, List.forall_mem_singleton]
    exact ⟨encapsulated.registered, registered⟩
  arrays := encapsulated.arrays
  types distinct := by
    simp only [List.forall_mem_append, List.forall_mem_singleton]
    exact ⟨encapsulated.types distinct, loaded distinct⟩

/-- However a load ends, the types of all loaded modules are sheltered. -/
theorem load {workspace : Workspace}
    (encapsulated : Encapsulated workspace.farm workspace.modules workspace.graph)
    (known : ∀ imported ∈ imports, imported ∈ workspace.modules)
    (declaration : ModuleDeclaration) :
    Encapsulated (workspace.loadDeclaration imports declaration).2.farm
      (workspace.loadDeclaration imports declaration).2.modules
      (workspace.loadDeclaration imports declaration).2.graph := by
  have houses := encapsulated.houses
  have complete : ∀ imported ∈ imports, imported.Complete workspace.graph :=
    fun imported listed => encapsulated.complete imported (known imported listed)
  have registered : ∀ imported ∈ imports, imported.Registered workspace.graph :=
    fun imported listed => encapsulated.registered imported (known imported listed)
  have grows : workspace.graph.Grows workspace.farm ((loadModule workspace.farm workspace.loads
      imports declaration).exec workspace.graph).2 :=
    loadModule_grows workspace.loads declaration houses complete
  have names := KeepsNames.of_grows grows
  have grown := encapsulated.grow grows fun distinct =>
    loadModule_tameArrays workspace.loads houses complete encapsulated.offers registered
      (encapsulated.arrays (names.distinctNames distinct)) distinct
  rcases ran : (loadModule workspace.farm workspace.loads imports declaration).exec
    workspace.graph with ⟨failure | module, left⟩
  · rw [ran] at grown
    rw [loadDeclaration_of_error ran]
    exact grown
  · rw [ran] at grown names
    obtain ⟨rfl, stubs, linked, order, loads⟩ := exists_loads houses complete ran
    obtain ⟨journal, result⟩ := loadDeclaration_of_ok ran
    have extended := grown.append loads.complete (loads.registered houses)
      fun distinct type declared => by
        rw [loads.typeList] at declared
        obtain ⟨entry, listed, rfl⟩ := List.mem_map.mp declared
        exact ⟨lt_size_of_isSealed (loads.isSealed listed),
          loads.shelters houses complete encapsulated.offers registered
            (encapsulated.arrays (names.distinctNames distinct)) distinct listed⟩
    rw [result]
    exact extended.read (extended.houses.sound.withJournal journal)

end Encapsulated

variable {origin workspace : Workspace}

theorem LoadHistory.encapsulated (history : LoadHistory origin workspace)
    (opened : origin.Opened) :
    Encapsulated workspace.farm workspace.modules workspace.graph := by
  induction history with
  | start => exact opened.encapsulated
  | load history known declaration ih => exact ih.load known declaration
  | read history reads ih => exact ih.read reads

/-- However many modules have been loaded into a farm, and whether or not loads have failed: unless
two types have the same name, every type of a loaded module may mention all types that it
mentions. -/
theorem checkTypeVisibility_of_mentioned (opened : origin.Opened)
    (history : LoadHistory origin workspace)
    (distinct : workspace.graph.DistinctIds workspace.farm.arena) {module : Module}
    (loaded : module ∈ workspace.modules) {type mentioned : TypeId}
    (declared : type ∈ module.typeList)
    (mentions : mentioned ∈ workspace.graph.mentionedTypes type) :
    (checkTypeVisibility (some (.nominal mentioned)) { referencing := some type }).exec
      workspace.graph = (.ok (), workspace.graph) := by
  have encapsulated := history.encapsulated opened
  have distinctNames := encapsulated.houses.distinctNames distinct
  obtain ⟨-, shelters⟩ := encapsulated.types distinctNames module loaded type declared
  have allowed := shelters.mayMention mentions
  unfold MayMention at allowed
  rw [exec_checkTypeVisibility, Option.bind_some, allowed]
  rfl

/-- A module with a class that others may not mention, and a class below an imported one that
mentions it in an array. -/
def guardedModule : ModuleDeclaration :=
  { name := "m"
    types := [
      { className := "Inner", visibility := "module" },
      { className := "Outer", parent := "base.P"
        members := [{ kind := "field", name := "parts", type := "Inner[][]" }] }] }

theorem checkTypeVisibility_of_mentioned_guardedModule :
    ∃ origin workspace module, origin.Opened ∧ LoadHistory origin workspace ∧
      workspace.graph.DistinctIds workspace.farm.arena ∧ module ∈ workspace.modules ∧
      10 ∈ module.typeList ∧ 9 ∈ workspace.graph.mentionedTypes 10 ∧
      workspace.graph.admitsType 9 { referencing := some 8 } = false ∧
      (checkTypeVisibility (some (.nominal 9)) { referencing := some 10 }).exec workspace.graph
        = (.ok (), workspace.graph) := by
  have evaluated : startsIn (fun started =>
      let between := (started.loadDeclaration [] baseModule).2
      let loaded := (between.loadDeclaration between.modules guardedModule).2
      loaded.modules.any fun module => decide (loaded.graph.DistinctIds loaded.farm.arena ∧
        10 ∈ module.typeList ∧ 9 ∈ loaded.graph.mentionedTypes 10 ∧
        loaded.graph.admitsType 9 { referencing := some 8 } = false)) = true := by
    decide +kernel
  obtain ⟨started, begins, evaluated⟩ := started_of_startsIn evaluated
  obtain ⟨module, listed, held⟩ := List.any_eq_true.mp evaluated
  obtain ⟨distinct, declared, mentions, foreign⟩ := of_decide_eq_true held
  have opened := opened_start begins
  have between := @LoadHistory.load started started .start [] (by simp) baseModule
  have history := between.load (fun _ known => known) guardedModule
  exact ⟨started, _, module, opened, history, distinct, listed, declared, mentions, foreign,
    checkTypeVisibility_of_mentioned opened history distinct listed declared mentions⟩

/-- A module with a private class and an array of it. -/
def privateElement : ModuleDeclaration :=
  { name := "m"
    types := [{ className := "C", visibility := "private"
                members := [{ kind := "field", name := "x", type := "C[]" }] }] }

/-- A module with a public class and an array of it. -/
def publicElement : ModuleDeclaration :=
  { name := "m"
    types := [{ className := "C" },
      { className := "D", members := [{ kind := "field", name := "x", type := "C[]" }] }] }

-- Of two classes with one name, the array type of the first is taken for that of the second.
example :
    startsIn (fun started =>
      let between := (started.loadDeclaration [] privateElement).2
      let loaded := (between.loadDeclaration [] publicElement).2
      decide (8 ∈ loaded.graph.mentionedTypes 10 ∧
        loaded.graph.admitsType 8 { referencing := some 10 } = false)) = true := by
  decide +kernel

end Workspace

end Nominal
