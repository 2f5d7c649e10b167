import Nominal.Proofs.BuiltinMembers
import Nominal.Proofs.DeferredBuilds
import Nominal.Proofs.Rosters

/-!
# The order of the built-in types

The construction of built-in types goes over their list several times: stubs, array types, parents
and members, completion.  If it succeeds, the farm has one sealed class for each listed type, in the
order of the list.

Nothing checks that parents are listed before their children.  It follows from sealing: a type that
is completed must be unsealed, and its parent must be sealed, so the parent has been completed
earlier.
-/

namespace Nominal

open Nominal.Graph

/-! ## Parts of a successful construction -/

namespace Build

variable {α β Item : Type} {graph left last : Graph}

theorem exec_bind_ok {build : Build β} {next : β → Build α} {value : α}
    (run : Build.exec (build >>= next) graph = (.ok value, last)) :
    ∃ middle left, build.exec graph = (.ok middle, left) ∧
      (next middle).exec left = (.ok value, last) := by
  rcases exec_bind_cases build next graph with ⟨_, _, _, failed⟩ | ⟨middle, left, first, rest⟩
  · rw [failed] at run
    cases run
  · exact ⟨middle, left, first, rest.symm.trans run⟩

/-- A build succeeds for each item of a list, one after the other. -/
inductive Passes (build : Item → Build Unit) : List Item → Graph → Graph → Prop where
  | nil (graph : Graph) : Passes build [] graph graph
  | cons {item : Item} {rest : List Item} {graph left last : Graph}
      (first : (build item).exec graph = (.ok (), left)) (later : Passes build rest left last) :
      Passes build (item :: rest) graph last

theorem passes_of_forM {build : Item → Build Unit} {items : List Item}
    (run : Build.exec (items.forM build) graph = (.ok (), last)) :
    Passes build items graph last := by
  induction items generalizing graph with
  | nil =>
      cases run
      exact .nil _
  | cons item rest ih =>
      obtain ⟨⟨⟩, left, first, later⟩ := exec_bind_ok run
      exact .cons first (ih later)

theorem forIn_eq_forM (items : List Item) (build : Item → Build Unit) :
    (forIn items PUnit.unit fun item _ => do
      build item
      return ForInStep.yield PUnit.unit) = items.forM build := by
  induction items with
  | nil => rfl
  | cons item rest ih =>
      rw [List.forIn_cons, bind_assoc]
      simp only [pure_bind, ih]
      rfl

end Build

theorem exec_requireUnsealed_ok {α : Type} {type : TypeId} {mutation : Mutation}
    {next : Unit → Build α} {graph left : Graph} {value : α}
    (run : (requireUnsealed type mutation >>= next).exec graph = (.ok value, left)) :
    graph.isSealed type = false ∧ (next ()).exec graph = (.ok value, left) := by
  rw [exec_requireUnsealed_bind] at run
  split at run
  · cases run
  · next isOpen => exact ⟨by simpa using isOpen, run⟩

/-- A step of the construction succeeds as it would without its label. -/
theorem exec_bootstrapStep_ok {builtin : BuiltinType} {step : Build Unit} {graph left : Graph}
    (run : (bootstrapStep builtin step).exec graph = (.ok (), left)) :
    step.exec graph = (.ok (), left) := by
  unfold bootstrapStep at run
  rw [Build.exec_tryCatch] at run
  rcases ended : step.exec graph with ⟨failure | value, after⟩
  · rw [ended] at run
    cases failure <;> cases run
  · rw [ended] at run
    exact run

/-- Asks for the array type over a primitive type. -/
def Farm.internPrimitive (farm : Farm) (kind : Primitive) : Build Unit := do
  if kind ≠ .void then let _ ← farm.arrayOf (.primitive kind)

/-- Asks for the array type over a built-in type that wants one. -/
def Farm.internWanted (farm : Farm) (builtin : BuiltinType) : Build Unit := do
  if builtin.wantsArrayType then
    let type ← farm.require builtin.name
    let _ ← farm.arrayOf (.nominal type)

/-- The passes of the construction. -/
theorem bootstrap_eq (arena : ArenaId) (builtins : List BuiltinType) :
    bootstrap arena builtins = (do
      let farm ← builtins.foldlM Farm.addStub { arena }
      Primitive.all.forM farm.internPrimitive
      builtins.forM farm.internWanted
      builtins.forM farm.implement
      builtins.forM farm.complete
      return farm) := by
  simp only [← Build.forIn_eq_forM]
  unfold bootstrap
  have primitives : ∀ (farm : Farm) (kind : Primitive), (do
      farm.internPrimitive kind
      return ForInStep.yield PUnit.unit) = (if kind ≠ .void then do
        let _ ← (farm.arrayOf (.primitive kind) : Build TypeRef)
        return ForInStep.yield PUnit.unit
      else return ForInStep.yield PUnit.unit : Build (ForInStep PUnit)) := by
    intro farm kind
    unfold Farm.internPrimitive
    split <;> simp
  have wanted : ∀ (farm : Farm) (builtin : BuiltinType), (do
      farm.internWanted builtin
      return ForInStep.yield PUnit.unit) = (if builtin.wantsArrayType then do
        let type ← farm.require builtin.name
        let _ ← (farm.arrayOf (.nominal type) : Build TypeRef)
        return ForInStep.yield PUnit.unit
      else return ForInStep.yield PUnit.unit : Build (ForInStep PUnit)) := by
    intro farm builtin
    unfold Farm.internWanted
    split <;> simp
  simp only [primitives, wanted]

/-! ## What the passes leave as it is -/

namespace Graph

variable {graph left last : Graph} {farm : Farm} {touched wider : TypeId → Prop} {type : TypeId}
  {deed : Deed}

/-- A part of the construction keeps sealed types, the identity of all types, and the parents of the
types that it does not touch. -/
structure Retains (farm : Farm) (touched : TypeId → Prop) (graph left : Graph) : Prop where
  holds : left.Holds farm
  keeps : graph.KeepsSealed left
  parents : ∀ {type}, type < graph.types.size → ¬ touched type →
    (left.typeAt type).parent? = (graph.typeAt type).parent?

theorem Change.parent?_of_ne (changed : graph.Change deed left) (present : type < graph.types.size)
    (apart : deed ≠ .link type) : (left.typeAt type).parent? = (graph.typeAt type).parent? := by
  have concerned : type ∉ deed.subject? → (left.typeAt type).parent? = _ :=
    fun untouched => (changed.untouched present untouched).1
  cases deed with
  | declare declaring =>
      have seals : (Deed.declare declaring).Seals True := trivial
      exact (changed.sameLinks seals type).parent
  | link linked => exact concerned fun same => apart (Option.some.inj same ▸ rfl)
  | describe | implement _ | complete => exact concerned nofun

theorem Steps.retains {allowed : Deed → Prop} (steps : Steps allowed graph left)
    (holds : left.Holds farm) (touches : ∀ type, allowed (.link type) → touched type) :
    graph.Retains farm touched left := by
  refine ⟨holds, steps.keepsSealed, ?_⟩
  intro type present untouched
  clear holds
  induction steps with
  | refl => rfl
  | @tail middle last earlier step ih =>
      rw [← ih]
      rcases step.effect with same | ⟨deed, changed, permitted, change, same⟩
      · rw [typeAt_eq_of_bare same]
      · rw [typeAt_eq_of_bare same]
        have present := Nat.lt_of_lt_of_le present (Steps.keepsSealed earlier).grows
        refine change.parent?_of_ne present ?_
        rintro rfl
        exact untouched (touches type permitted)

namespace Retains

theorem refl (holds : graph.Holds farm) : graph.Retains farm touched graph :=
  ⟨holds, .refl graph, fun _ _ => rfl⟩

theorem trans (early : graph.Retains farm touched left) (late : left.Retains farm touched last) :
    graph.Retains farm touched last := by
  refine ⟨late.holds, early.keeps.trans late.keeps, fun present untouched => ?_⟩
  rw [late.parents (Nat.lt_of_lt_of_le present early.keeps.grows) untouched,
    early.parents present untouched]

theorem mono (retains : graph.Retains farm touched left)
    (widens : ∀ type, touched type → wider type) : graph.Retains farm wider left :=
  ⟨retains.holds, retains.keeps, fun present apart =>
    retains.parents present fun touches => apart (widens _ touches)⟩

end Retains

end Graph

/-! ## Stubs -/

/-- The class that stands for a built-in type. -/
structure Graph.Represents (graph : Graph) (builtin : BuiltinType) (type : TypeId) : Prop where
  isClass : (graph.typeAt type).isClass = true
  identifier : (graph.typeAt type).identifier = Text.canonical builtin.name
  moduleName : (graph.typeAt type).moduleName = builtinModuleName
  properties : (graph.typeAt type).properties = builtin.properties

/-- The classes of a farm stand for some built-in types, in order, under their composed names. -/
structure Farm.Lists (farm : Farm) (graph : Graph) (builtins : List BuiltinType) : Prop where
  holds : graph.Holds farm
  names : farm.types.keys = builtins.map fun builtin => Text.canonical builtin.name
  distinct : farm.types.keys.Nodup
  represents : ∀ {builtin type}, builtin ∈ builtins →
    farm.lookup? (Text.canonical builtin.name) = some type → graph.Represents builtin type

section Stubs

variable {graph left : Graph} {farm grown : Farm} {builtin : BuiltinType}
  {builtins : List BuiltinType} {type : TypeId}

theorem Graph.Represents.of_keeps (represents : graph.Represents builtin type)
    (keeps : graph.KeepsSealed left) : left.Represents builtin type := by
  have identity := keeps.identity type (lt_size_of_isClass represents.isClass)
  exact ⟨identity.isClass.trans represents.isClass,
    identity.identifier.trans represents.identifier,
    identity.moduleName.trans represents.moduleName,
    identity.properties.trans represents.properties⟩

theorem Farm.Lists.of_retains {touched : TypeId → Prop} (lists : farm.Lists graph builtins)
    (retains : graph.Retains farm touched left) : farm.Lists left builtins :=
  ⟨retains.holds, lists.names, lists.distinct, fun listed found =>
    (lists.represents listed found).of_keeps retains.keeps⟩

theorem Farm.Lists.add (lists : farm.Lists graph builtins)
    (fresh : Text.canonical builtin.name ∉ farm.types.keys)
    (represents : graph.Represents builtin type) :
    { farm with types := farm.types.set (Text.canonical builtin.name) type : Farm }.Lists graph
      (builtins ++ [builtin]) where
  holds := by
    refine ⟨lists.holds.sound, lists.holds.arena, ?_, lists.holds.arrays⟩
    intro name asked found
    rw [Farm.lookup?, Table.get?_set] at found
    split at found
    · cases found
      exact represents.isClass
    · exact lists.holds.classes found
  names := by rw [Table.keys_set type fresh, lists.names, List.map_append, List.map_singleton]
  distinct := by
    rw [Table.keys_set type fresh]
    refine List.Nodup.append lists.distinct (List.nodup_singleton _) ?_
    rwa [List.disjoint_singleton]
  represents := by
    intro other asked listed found
    rw [Farm.lookup?, Table.get?_set] at found
    rcases List.mem_append.mp listed with old | new
    · have different : Text.canonical other.name ≠ Text.canonical builtin.name := by
        intro same
        rw [← same, lists.names] at fresh
        exact fresh (List.mem_map.mpr ⟨other, old, rfl⟩)
      rw [if_neg different] at found
      exact lists.represents old found
    · cases List.mem_singleton.mp new
      rw [if_pos rfl] at found
      cases found
      exact represents

theorem room_of_newStub {arena : ArenaId} {shape : TypeShape} {identifier moduleName : String}
    {visibility : Visibility} {properties : TypeProperties} {record : String → Nat → LogRecord}
    (run : (newStub arena shape identifier moduleName visibility properties record).exec graph
      = (.ok type, left)) : (graph.arenaAt arena).types.length ≠ arenaCapacity := by
  intro full
  unfold newStub at run
  rw [Build.exec_get_bind] at run
  dsimp only at run
  rw [if_pos full] at run
  cases run

theorem newClass_ok (holds : graph.Holds farm)
    (run : (newClass farm.arena builtin.name builtinModuleName .pub builtin.properties).exec graph
      = (.ok type, left)) :
    graph.Retains farm (fun _ => False) left ∧ left.Represents builtin type ∧
      (left.typeAt type).parent? = none := by
  unfold newClass at run
  have step := newStub_step holds.sound holds.arena (.inl rfl) builtin.name builtinModuleName .pub
    builtin.properties .classStub
  obtain ⟨stubbed, made, bare⟩ := newStub_exec (room_of_newStub run) (.classShape {}) builtin.name
    builtinModuleName .pub builtin.properties .classStub
  rw [run] at step
  cases run.symm.trans made
  have typeAt : left.typeAt graph.types.size = _ :=
    (typeAt_eq_of_bare bare _).trans (typeAt_withType_self _)
  have size : left.arenas.size = graph.arenas.size := by
    rw [arenas_eq_of_bare bare]
    exact Array.size_modify
  have arrays : (left.arenaAt farm.arena).arrays = (graph.arenaAt farm.arena).arrays := by
    rw [arenaAt, arenas_eq_of_bare bare, ← arenaAt]
    exact (arenaAt_withType graph _ farm.arena).2
  have leftHolds := holds.of_keeps step.sound step.keepsSealed (Nat.le_of_eq size.symm) arrays
  refine ⟨Steps.retains (.single step) leftHolds (by simp), ⟨?_, ?_, ?_, ?_⟩, ?_⟩
  all_goals rw [typeAt]
  all_goals rfl

theorem setTrusted_ok (holds : graph.Holds farm) {isTrusted : Bool}
    (run : (setTrusted type isTrusted).exec graph = (.ok (), left)) :
    graph.Retains farm (fun _ => False) left := by
  have kept : left.Sound ∧ graph.KeepsSealed left := by
    have performed : ((setTrusted type isTrusted).exec graph).2.Sound ∧
        graph.KeepsSealed ((setTrusted type isTrusted).exec graph).2 :=
      Operation.perform_setTrusted holds.sound type isTrusted
    rwa [run] at performed
  obtain ⟨-, changed⟩ := exec_requireUnsealed_ok run
  cases changed
  exact ⟨holds.of_keeps kept.1 kept.2 (Nat.le_refl _) rfl, kept.2, fun _ _ => rfl⟩

/-- A change of a stub that is not about its parent. -/
theorem changeType_ok (holds : graph.Holds farm) (present : type < graph.types.size)
    {mutation : Mutation} {deed : Deed} {change : NominalType → NominalType}
    (checked : graph.TypeChange type deed change) (apart : ∀ linked, deed ≠ .link linked)
    (run : (changeType type mutation change).exec graph = (.ok (), left)) :
    graph.Retains farm (fun _ => False) left := by
  have step := changeType_step holds.sound present mutation checked
  rw [run] at step
  obtain ⟨-, changed⟩ := exec_requireUnsealed_ok run
  cases changed
  exact Steps.retains (.single step) (holds.of_step step rfl)
    fun linked same => absurd same.symm (apart linked)

/-- A built-in type gets a stub without a parent, which is registered under a new name. -/
theorem addStub_ok (holds : graph.Holds farm)
    (run : (farm.addStub builtin).exec graph = (.ok grown, left)) :
    ∃ type, Text.canonical builtin.name ∉ farm.types.keys ∧
      grown = { farm with types := farm.types.set (Text.canonical builtin.name) type } ∧
      graph.Retains farm (fun _ => False) left ∧ left.Represents builtin type ∧
      (left.typeAt type).parent? = none := by
  unfold Farm.addStub at run
  obtain ⟨type, stubbed, made, run⟩ := Build.exec_bind_ok run
  obtain ⟨⟨⟩, trusted, trusts, run⟩ := Build.exec_bind_ok run
  obtain ⟨⟨⟩, placed, places, run⟩ := Build.exec_bind_ok run
  obtain ⟨⟨⟩, implemented, implements, run⟩ := Build.exec_bind_ok run
  obtain ⟨retains, represents, parentless⟩ := newClass_ok holds made
  have trusting := setTrusted_ok retains.holds trusts
  have present := lt_size_of_isClass (represents.of_keeps trusting.keeps).isClass
  have placing :=
    changeType_ok trusting.holds present (.describe _ ⟨⟨rfl, rfl, rfl, rfl, rfl, rfl, rfl⟩, rfl,
      fun _ => rfl, rfl, .inl rfl, rfl, fun _ listed => .inl listed⟩) nofun places
  have implementing :=
    changeType_ok placing.holds (Nat.lt_of_lt_of_le present placing.keeps.grows) (.implement _)
      nofun implements
  have finishing := (trusting.trans placing).trans implementing
  have finished := represents.of_keeps finishing.keeps
  rw [Build.exec_get_bind] at run
  dsimp only at run
  rw [finished.identifier, Table.contains_eq] at run
  split at run
  · cases run
  · next fresh =>
    cases run
    refine ⟨type, by simpa using fresh, rfl, retains.trans finishing, finished, ?_⟩
    rw [finishing.parents (lt_size_of_isClass represents.isClass) id, parentless]

/-- The stubs are registered in the order of the list. -/
theorem addStubs_ok {before : List BuiltinType} (lists : farm.Lists graph before)
    (parentless : ∀ {name type}, farm.lookup? name = some type →
      (graph.typeAt type).parent? = none)
    (run : (builtins.foldlM Farm.addStub farm).exec graph = (.ok grown, left)) :
    grown.Lists left (before ++ builtins) ∧ ∀ {name type}, grown.lookup? name = some type →
      (left.typeAt type).parent? = none := by
  induction builtins generalizing farm graph before with
  | nil =>
      cases run
      rw [List.append_nil]
      exact ⟨lists, parentless⟩
  | cons builtin rest ih =>
      rw [List.foldlM_cons] at run
      obtain ⟨next, between, added, run⟩ := Build.exec_bind_ok run
      obtain ⟨type, fresh, rfl, retains, represents, orphan⟩ := addStub_ok lists.holds added
      rw [List.append_cons]
      refine ih ((lists.of_retains retains).add fresh represents) ?_ run
      intro name asked found
      rw [Farm.lookup?, Table.get?_set] at found
      split at found
      · cases found
        exact orphan
      · rw [retains.parents (lists.holds.present found) id, parentless found]

end Stubs

/-! ## Array types -/

section Arrays

variable {graph left last : Graph} {farm : Farm}

theorem Build.Passes.retains {Item : Type} {build : Item → Build Unit} {items : List Item}
    (passes : Build.Passes build items graph last) (holds : graph.Holds farm)
    (each : ∀ {item graph left}, graph.Holds farm → (build item).exec graph = (.ok (), left) →
      graph.Retains farm (fun _ => False) left) : graph.Retains farm (fun _ => False) last := by
  induction passes with
  | nil => exact .refl holds
  | cons first _ ih =>
      have retains := each holds first
      exact retains.trans (ih retains.holds)

theorem arrayOf_retains (holds : graph.Holds farm) {element : TypeRef}
    (within : element.isWithin graph.types.size = true) :
    graph.Retains farm (fun _ => False)
      (graph.withArray farm.arena element (farm.lookup? "Array")) := by
  obtain ⟨-, changedHolds, step, -⟩ := holds.withArray within
  exact Steps.retains (.single step) changedHolds nofun

theorem internPrimitive_ok (holds : graph.Holds farm) {kind : Primitive}
    (run : (farm.internPrimitive kind).exec graph = (.ok (), left)) :
    graph.Retains farm (fun _ => False) left := by
  unfold Farm.internPrimitive at run
  split at run
  · obtain ⟨array, after, asked, ends⟩ := Build.exec_bind_ok run
    rw [exec_farm_arrayOf] at asked
    cases asked
    cases ends
    exact arrayOf_retains holds rfl
  · cases run
    exact .refl holds

theorem internWanted_ok (holds : graph.Holds farm) {builtin : BuiltinType}
    (run : (farm.internWanted builtin).exec graph = (.ok (), left)) :
    graph.Retains farm (fun _ => False) left := by
  unfold Farm.internWanted at run
  split at run
  · obtain ⟨type, same, required, ask⟩ := Build.exec_bind_ok run
    obtain ⟨rfl, found⟩ := exec_require_ok required
    obtain ⟨array, after, asked, ends⟩ := Build.exec_bind_ok ask
    rw [exec_farm_arrayOf] at asked
    cases asked
    cases ends
    exact arrayOf_retains holds (decide_eq_true (holds.present found))
  · cases run
    exact .refl holds

end Arrays

/-! ## Parents -/

section Parents

variable {graph left : Graph} {farm : Farm} {builtin : BuiltinType} {type parent : TypeId}

theorem relink_ok (sound : graph.Sound) (isOpen : graph.isSealed type = false)
    (linkable : graph.Linkable type parent) (isClass : (graph.typeAt type).isClass = true)
    (parentIsClass : (graph.typeAt parent).isClass = true)
    (run : (relink graph type parent).exec graph = (.ok (), left)) :
    left.bare = (graph.setParentLink type (some parent)).bare := by
  have linked := sound.setParentLink isOpen linkable isClass parentIsClass
  unfold relink at run
  rw [Build.exec_modify_bind] at run
  split at run
  · obtain ⟨after, read, checked⟩ := exec_checkDeclaredMembers linked
      (graph.typeAt type).declaredForCheck
    rw [Build.exec_tryCatch, checked] at run
    generalize List.findSome? _ _ = conflict at run
    cases conflict <;> cases run
    exact read.bare
  · cases run
    rfl

/-- A parent is only accepted in the arena of its class, as long as that is unsealed. -/
theorem open_of_setParent (run : (setParent type (some parent)).exec graph = (.ok (), left)) :
    graph.isSealed type = false ∧ (graph.typeAt parent).arena = (graph.typeAt type).arena := by
  unfold setParent at run
  obtain ⟨isOpen, run⟩ := exec_requireUnsealed_ok run
  rw [Build.exec_get_bind] at run
  dsimp only at run
  rw [exec_requireSameArena_bind] at run
  split at run
  · next sameArena => exact ⟨isOpen, sameArena⟩
  · cases run

theorem parent?_of_setParent (sound : graph.Sound) (isClass : (graph.typeAt type).isClass = true)
    (parentIsClass : (graph.typeAt parent).isClass = true)
    (run : (setParent type (some parent)).exec graph = (.ok (), left)) :
    (left.typeAt type).parent? = some parent := by
  have present := lt_size_of_isClass parentIsClass
  obtain ⟨isOpen, sameArena⟩ := open_of_setParent run
  rw [exec_setParent parent isOpen sameArena] at run
  split at run
  · cases run
  · next unreached =>
    rw [sound.wellFormed.hierarchical.reaches_iff present] at unreached
    split at run
    · cases run
    · generalize graph.typeVisibilityError? _ _ = hidden at run
      cases hidden with
      | some error => cases run
      | none =>
          have bare := relink_ok sound isOpen ⟨present, sameArena, unreached⟩ isClass
            parentIsClass run
          rw [typeAt_eq_of_bare bare, setParentLink,
            typeAt_modifyType_self (lt_size_of_isClass isClass),
            NominalType.mapClassPart_parent? isClass]

/-- A parent that is accepted is the parent of the class, and of no other one. -/
theorem setParent_ok (holds : graph.Holds farm) (isClass : (graph.typeAt type).isClass = true)
    (parentIsClass : (graph.typeAt parent).isClass = true)
    (run : (setParent type (some parent)).exec graph = (.ok (), left)) :
    graph.Retains farm (· = type) left ∧ (left.typeAt type).parent? = some parent := by
  have parentIsClasses : ∀ id ∈ some parent, (graph.typeAt id).isClass = true := by
    rintro _ ⟨⟩
    exact parentIsClass
  have step := setParent_step holds.sound isClass parentIsClasses
  rw [run] at step
  refine ⟨Steps.retains (.single step) (step.holds nofun holds) ?_,
    parent?_of_setParent holds.sound isClass parentIsClass run⟩
  intro linked same
  cases same
  rfl

/-- A built-in type that names a parent is linked to the class of that name, and then adds its
members. -/
theorem implement_cases (run : (farm.implement builtin).exec graph = (.ok (), left)) :
    ∃ middle, (builtin.implement farm (farm.builderOf builtin)).exec middle = (.ok (), left) ∧
      (builtin.parentName = "" ∧ middle = graph ∨
        builtin.parentName ≠ "" ∧ ∃ type parent, farm.lookup? builtin.name = some type ∧
          farm.lookup? builtin.parentName = some parent ∧
          (setParent type (some parent)).exec graph = (.ok (), middle)) := by
  unfold Farm.implement at run
  by_cases derived : builtin.parentName ≠ ""
  · rw [if_pos derived] at run
    cases found : farm.lookup? builtin.parentName with
    | none =>
        rw [found] at run
        cases run
    | some parent =>
        rw [found] at run
        obtain ⟨type, same, stub, linkAndAdd⟩ := Build.exec_bind_ok run
        obtain ⟨rfl, known⟩ := exec_builderOf_ok stub
        obtain ⟨⟨⟩, middle, links, adds⟩ := Build.exec_bind_ok linkAndAdd
        exact ⟨middle, exec_bootstrapStep_ok adds,
          .inr ⟨derived, type, parent, known, rfl, exec_bootstrapStep_ok links⟩⟩
  · rw [if_neg derived] at run
    exact ⟨graph, exec_bootstrapStep_ok run, .inl ⟨not_not.mp derived, rfl⟩⟩

/-- A built-in type that names a parent gets the class of that name as its parent; nothing else
happens to parents. -/
theorem implement_ok (orderly : builtin.IsOrderly) (holds : graph.Holds farm)
    (run : (farm.implement builtin).exec graph = (.ok (), left)) :
    graph.Retains farm
        (fun type => builtin.parentName ≠ "" ∧ farm.lookup? builtin.name = some type) left ∧
      (builtin.parentName ≠ "" → ∃ type parent, farm.lookup? builtin.name = some type ∧
        farm.lookup? builtin.parentName = some parent ∧
        (left.typeAt type).parent? = some parent) := by
  obtain ⟨middle, adds, links⟩ := implement_cases run
  have adding : middle.Holds farm → middle.Retains farm (fun _ => False) left := by
    intro middleHolds
    obtain ⟨steps, leftHolds⟩ := orderly.adds middleHolds adds
    exact steps.retains leftHolds fun _ => id
  rcases links with ⟨underived, rfl⟩ | ⟨derived, type, parent, known, found, links⟩
  · exact ⟨(adding holds).mono fun _ => False.elim, fun derived => absurd underived derived⟩
  · obtain ⟨linking, linked⟩ := setParent_ok holds (holds.classes known) (holds.classes found) links
    have later := adding linking.holds
    have present := Nat.lt_of_lt_of_le (holds.present known) linking.keeps.grows
    refine ⟨(linking.mono ?_).trans (later.mono fun _ => False.elim),
      fun _ => ⟨type, parent, known, found, ?_⟩⟩
    · rintro _ rfl
      exact ⟨derived, known⟩
    · rw [later.parents present id, linked]

/-- After this pass each class has the parent that its built-in type names. -/
theorem implementAll_ok {builtins : List BuiltinType} {last : Graph}
    (passes : Build.Passes farm.implement builtins graph last) (holds : graph.Holds farm)
    (orderly : ∀ builtin ∈ builtins, builtin.IsOrderly)
    (distinct : (builtins.map (·.name)).Nodup)
    (apart : ∀ {first second type}, farm.lookup? first = some type →
      farm.lookup? second = some type → first = second) :
    graph.Retains farm (fun type => ∃ builtin ∈ builtins, builtin.parentName ≠ "" ∧
        farm.lookup? builtin.name = some type) last ∧
      ∀ builtin ∈ builtins, builtin.parentName ≠ "" → ∃ type parent,
        farm.lookup? builtin.name = some type ∧ farm.lookup? builtin.parentName = some parent ∧
        (last.typeAt type).parent? = some parent := by
  induction passes with
  | nil => exact ⟨.refl holds, nofun⟩
  | @cons builtin rest graph left last first later ih =>
      rw [List.forall_mem_cons] at orderly
      rw [List.map_cons, List.nodup_cons] at distinct
      obtain ⟨retains, linked⟩ := implement_ok orderly.1 holds first
      obtain ⟨retainsLater, linkedLater⟩ := ih retains.holds orderly.2 distinct.2
      refine ⟨(retains.mono ?_).trans (retainsLater.mono ?_), ?_⟩
      · rintro type ⟨derived, known⟩
        exact ⟨builtin, List.mem_cons_self, derived, known⟩
      · rintro type ⟨other, listed, touches⟩
        exact ⟨other, List.mem_cons_of_mem _ listed, touches⟩
      · rw [List.forall_mem_cons]
        refine ⟨fun derived => ?_, linkedLater⟩
        obtain ⟨type, parent, known, found, isParent⟩ := linked derived
        refine ⟨type, parent, known, found, ?_⟩
        -- No later built-in type has the same name, so nothing later is about this class.
        rw [← isParent]
        apply retainsLater.parents (Nat.lt_of_lt_of_le (holds.present known) retains.keeps.grows)
        rintro ⟨other, listed, -, same⟩
        exact distinct.1 (List.mem_map.mpr ⟨other, listed, apart same known⟩)

end Parents

/-! ## Completion -/

section Completion

variable {graph left last : Graph} {farm : Farm} {builtin : BuiltinType} {type : TypeId}

theorem freeze_ok (run : (freeze type).exec graph = (.ok (), left))
    (present : type < left.types.size) : left.isSealed type = true := by
  have bare : left.bare = (graph.modifyType type ({ · with state := .frozen })).bare := by
    have ends := (freeze_ends graph type).left
    rwa [run] at ends
  have typePresent : type < graph.types.size := by
    rw [types_eq_of_bare bare] at present
    simpa using present
  rw [isSealed_eq_of_bare bare, isSealed, typeAt_modifyType_self typePresent]
  rfl

theorem exists_freeze_of_sealType (run : (sealType type).exec graph = (.ok (), left)) :
    ∃ before, (freeze type).exec before = (.ok (), left) := by
  unfold sealType at run
  rw [Build.exec_get_bind] at run
  rcases sealWithin_succ_cases (graph.types.size + 1) graph type with ⟨-, failure, failed⟩ |
    ⟨-, -, begun, -, frozen⟩ | ⟨serial, action, -, hooked⟩
  · cases run.symm.trans failed
  · exact ⟨begun, frozen.symm.trans run⟩
  · rw [hooked] at run
    unfold concludeHook at run
    split at run
    · exact ⟨_, run⟩
    · cases run
    · cases run

theorem ready_of_sealType (run : (sealType type).exec graph = (.ok (), left)) :
    graph.isSealed type = false ∧ graph.sealError? type = none := by
  unfold sealType sealWithin at run
  rw [Build.exec_get_bind] at run
  obtain ⟨isOpen, run⟩ := exec_requireUnsealed_ok run
  rw [Build.exec_get_bind] at run
  dsimp only at run
  split at run
  · cases run
  · split at run
    · cases run
    · next ready => exact ⟨isOpen, ready⟩

/-- A class that is completed was ready, and is sealed afterwards. -/
theorem complete_ok (orderly : builtin.IsOrderly) (holds : graph.Holds farm)
    (run : (farm.complete builtin).exec graph = (.ok (), left)) :
    ∃ type, farm.lookup? builtin.name = some type ∧ graph.isSealed type = false ∧
      graph.sealError? type = none ∧ Steps (Deed.Seals True) graph left ∧
      left.isSealed type = true := by
  obtain ⟨type, same, stub, seals⟩ := Build.exec_bind_ok
    (orderly.finishes (exec_bootstrapStep_ok run))
  obtain ⟨unchanged, found⟩ := exec_builderOf_ok stub
  rw [unchanged] at seals
  obtain ⟨isOpen, ready⟩ := ready_of_sealType seals
  have steps : Steps (Deed.Seals True) graph left := by
    have taken := sealType_steps type holds.sound fun _ _ => trivial
    rwa [seals] at taken
  obtain ⟨before, frozen⟩ := exists_freeze_of_sealType seals
  have present := Nat.lt_of_lt_of_le (holds.present found) steps.keepsSealed.grows
  exact ⟨type, found, isOpen, ready, steps, freeze_ok frozen present⟩

/-- How a pass leaves the classes that it completes: each is sealed, and its parent, which is none
of the classes that were completed together with it or later, or it is a root. -/
structure Graph.Completes (farm : Farm) (builtins : List BuiltinType) (graph last : Graph) :
    Prop where
  steps : Steps (Deed.Seals True) graph last
  opened : ∀ builtin ∈ builtins, ∃ type, farm.lookup? builtin.name = some type ∧
    graph.isSealed type = false
  finished : ∀ builtin ∈ builtins, ∀ type, farm.lookup? builtin.name = some type →
    last.isSealed type = true
  rooted : ∀ builtin ∈ builtins, ∀ type, farm.lookup? builtin.name = some type →
    (last.typeAt type).parent? = none → (last.typeAt type).properties.has .root = true
  ordered : ∀ {earlier later builtin}, builtins = earlier ++ builtin :: later →
    ∀ {type}, farm.lookup? builtin.name = some type → ∀ other ∈ builtin :: later,
      (last.typeAt type).parent? ≠ farm.lookup? other.name

/-- Whatever is completed later, and the class itself, is unsealed when the class is completed; its
parent is sealed. -/
theorem parent_ne_of_completed {builtins : List BuiltinType} {other : BuiltinType}
    (isOpen : graph.isSealed type = false) (ready : graph.sealError? type = none)
    (found : farm.lookup? builtin.name = some type)
    (opened : ∀ other ∈ builtins, ∃ type, farm.lookup? other.name = some type ∧
      graph.isSealed type = false) (listed : other ∈ builtin :: builtins) :
    (graph.typeAt type).parent? ≠ farm.lookup? other.name := by
  obtain ⟨asked, otherFound, otherOpen⟩ : ∃ type, farm.lookup? other.name = some type ∧
      graph.isSealed type = false := by
    rcases List.mem_cons.mp listed with rfl | later
    · exact ⟨type, found, isOpen⟩
    · exact opened other later
  rw [otherFound]
  intro link
  have above := sealedAbove_of_sealError? ready (extends_of_parent? link)
  rw [otherOpen] at above
  cases above

theorem completeAll_ok {builtins : List BuiltinType}
    (passes : Build.Passes farm.complete builtins graph last) (holds : graph.Holds farm)
    (orderly : ∀ builtin ∈ builtins, builtin.IsOrderly) :
    graph.Completes farm builtins last := by
  induction passes with
  | nil graph => exact ⟨.refl, nofun, nofun, nofun, by simp⟩
  | @cons builtin rest graph left last first later ih =>
      rw [List.forall_mem_cons] at orderly
      obtain ⟨type, found, isOpen, ready, steps, isFinal⟩ := complete_ok orderly.1 holds first
      have tail := ih (steps.holds id holds) orderly.2
      have opened : ∀ other ∈ rest, ∃ type, farm.lookup? other.name = some type ∧
          graph.isSealed type = false := by
        intro other listed
        obtain ⟨asked, otherFound, otherOpen⟩ := tail.opened other listed
        refine ⟨asked, otherFound, Bool.eq_false_iff.mpr fun early => ?_⟩
        rw [steps.keepsSealed.isSealed early] at otherOpen
        cases otherOpen
      have links := Steps.sameLinks (steps.trans tail.steps) type
      refine ⟨steps.trans tail.steps, ?opened, ?finished, ?rooted, ?ordered⟩
      case opened => exact List.forall_mem_cons.mpr ⟨⟨type, found, isOpen⟩, opened⟩
      case finished =>
        refine List.forall_mem_cons.mpr ⟨fun asked known => ?_, tail.finished⟩
        cases found.symm.trans known
        exact tail.steps.keepsSealed.isSealed isFinal
      case rooted =>
        refine List.forall_mem_cons.mpr ⟨fun asked known parentless => ?_, tail.rooted⟩
        cases found.symm.trans known
        rw [links.parent] at parentless
        rw [links.identity.properties]
        exact rooted_of_sealError? ready (holds.classes found) parentless
      case ordered =>
        intro before after other split asked known another listed
        cases before with
        | nil =>
            cases split
            cases found.symm.trans known
            rw [links.parent]
            exact parent_ne_of_completed isOpen ready found opened listed
        | cons _ before =>
            cases split
            exact tail.ordered rfl known another listed

end Completion

/-! ## The whole construction -/

/-- A farm shows what a list of built-in types asks for: sealed classes with the listed names, in
the order of the list and all different; those that name a parent have the class of that name, which
stands earlier in the list, and the others are root classes. -/
structure Farm.Presents (farm : Farm) (graph : Graph) (listed : List BuiltinType) : Prop where
  names : (farm.typeList.map fun type => (graph.typeAt type).identifier) = listed.map (·.name)
  distinct : (listed.map (·.name)).Nodup
  classes : ∀ {place : Nat} {builtin type}, listed[place]? = some builtin →
    farm.typeList[place]? = some type →
      graph.Represents builtin type ∧ graph.isSealed type = true
  derived : ∀ {place : Nat} {builtin type}, listed[place]? = some builtin →
    farm.typeList[place]? = some type → builtin.parentName ≠ "" →
      ∃ earlier < place, ∃ parent, farm.typeList[earlier]? = some parent ∧
        (graph.typeAt parent).identifier = builtin.parentName ∧
        (graph.typeAt type).parent? = some parent
  rooted : ∀ {place : Nat} {builtin type}, listed[place]? = some builtin →
    farm.typeList[place]? = some type → builtin.parentName = "" →
      (graph.typeAt type).parent? = none ∧ (graph.typeAt type).properties.has .root = true

section Presentation

variable {graph left : Graph} {farm : Farm} {listed : List BuiltinType}

namespace Farm.Lists

variable {name : String} {type : TypeId} {builtin : BuiltinType} {place : Nat}

/-- A class is registered under its own name. -/
theorem identifier_eq (lists : farm.Lists graph listed) (found : farm.lookup? name = some type) :
    (graph.typeAt type).identifier = name := by
  have key : name ∈ farm.types.keys :=
    List.mem_map.mpr ⟨_, Table.mem_of_get?_eq_some found, rfl⟩
  rw [lists.names] at key
  obtain ⟨builtin, inList, rfl⟩ := List.mem_map.mp key
  exact (lists.represents inList found).identifier

theorem eq_of_lookup? (lists : farm.Lists graph listed) {other : String}
    (found : farm.lookup? name = some type) (same : farm.lookup? other = some type) :
    name = other :=
  (lists.identifier_eq found).symm.trans (lists.identifier_eq same)

/-- The class at a place is registered under the name at that place. -/
theorem lookup?_at (lists : farm.Lists graph listed) (at_place : listed[place]? = some builtin)
    (standing : farm.typeList[place]? = some type) :
    farm.lookup? (Text.canonical builtin.name) = some type := by
  rw [Farm.typeList, Table.values, List.getElem?_map, Option.map_eq_some_iff] at standing
  obtain ⟨entry, entryAt, rfl⟩ := standing
  have keyAt : farm.types.keys[place]? = some (Text.canonical builtin.name) := by
    rw [lists.names, List.getElem?_map, at_place]
    rfl
  rw [Table.keys, List.getElem?_map, entryAt] at keyAt
  apply Table.get?_eq_some_of_mem lists.distinct
  rw [← Option.some.inj keyAt]
  exact List.mem_of_getElem? entryAt

theorem identifiers (lists : farm.Lists graph listed) :
    (farm.typeList.map fun type => (graph.typeAt type).identifier)
      = listed.map fun builtin => Text.canonical builtin.name := by
  rw [← lists.names, Farm.typeList, Table.values, Table.keys, List.map_map]
  apply List.map_congr_left
  intro entry inTable
  exact lists.identifier_eq (Table.get?_eq_some_of_mem lists.distinct inTable)

end Farm.Lists

/-- What the passes have done when all of them have succeeded. -/
structure Farm.Finished (farm : Farm) (graph : Graph) (listed : List BuiltinType) : Prop where
  lists : farm.Lists graph listed
  linked : ∀ builtin ∈ listed, builtin.parentName ≠ "" → ∃ type parent,
    farm.lookup? builtin.name = some type ∧ farm.lookup? builtin.parentName = some parent ∧
      (graph.typeAt type).parent? = some parent
  unlinked : ∀ builtin ∈ listed, builtin.parentName = "" → ∀ {type},
    farm.lookup? builtin.name = some type → (graph.typeAt type).parent? = none
  completed : ∃ before : Graph, before.Completes farm listed graph

theorem finished_of_bootstrap {start : Graph} {arena : ArenaId}
    (holds : start.Holds { arena }) (orderly : ∀ builtin ∈ listed, builtin.IsOrderly)
    (run : (bootstrap arena listed).exec start = (.ok farm, graph)) :
    farm.Finished graph listed := by
  rw [bootstrap_eq] at run
  obtain ⟨grown, stubbed, added, run⟩ := Build.exec_bind_ok run
  obtain ⟨⟨⟩, typed, interned, run⟩ := Build.exec_bind_ok run
  obtain ⟨⟨⟩, wanted, asked, run⟩ := Build.exec_bind_ok run
  obtain ⟨⟨⟩, implemented, implements, run⟩ := Build.exec_bind_ok run
  obtain ⟨⟨⟩, completed, completes, run⟩ := Build.exec_bind_ok run
  cases run
  have empty : Farm.Lists { arena } start [] := ⟨holds, rfl, List.nodup_nil, nofun⟩
  obtain ⟨lists, parentless⟩ := addStubs_ok empty nofun added
  rw [List.nil_append] at lists
  have arrays : stubbed.Retains farm (fun _ => False) wanted := by
    have first := (Build.passes_of_forM interned).retains lists.holds
      fun held ran => internPrimitive_ok held ran
    exact first.trans ((Build.passes_of_forM asked).retains first.holds
      fun held ran => internWanted_ok held ran)
  have distinct : (listed.map (·.name)).Nodup := by
    have keys := lists.distinct
    rw [lists.names] at keys
    exact List.Nodup.of_map Text.canonical (by rwa [List.map_map])
  obtain ⟨implementing, linked⟩ := implementAll_ok (Build.passes_of_forM implements) arrays.holds
    orderly distinct lists.eq_of_lookup?
  have completing := completeAll_ok (Build.passes_of_forM completes) implementing.holds orderly
  have sealing : implemented.Retains farm (fun _ => False) graph :=
    Steps.retains completing.steps (Steps.holds completing.steps id implementing.holds) nofun
  refine ⟨((lists.of_retains arrays).of_retains implementing).of_retains sealing, ?_, ?_,
    implemented, completing⟩
  · intro builtin inList derived
    obtain ⟨type, parent, known, found, isParent⟩ := linked builtin inList derived
    refine ⟨type, parent, known, found, ?_⟩
    rw [sealing.parents (implementing.holds.present known) id, isParent]
  · intro builtin inList underived type known
    rw [sealing.parents (implementing.holds.present known) id,
      implementing.parents (arrays.holds.present known), arrays.parents (lists.holds.present known)
      id, parentless known]
    -- A built-in type of this name that has a parent would be the same one.
    rintro ⟨other, otherInList, derived, same⟩
    have equal := List.inj_on_of_nodup_map distinct otherInList inList
      (lists.eq_of_lookup? same known)
    exact derived (equal ▸ underived)

namespace Farm.Finished

variable {builtin : BuiltinType} {place : Nat} {type : TypeId}

/-- Only composed names are found again, as far as composing twice is composing once. -/
theorem stable (finished : farm.Finished graph listed)
    (composed : ∀ builtin ∈ listed, Text.IsStable builtin.name) :
    ∀ builtin ∈ listed, Text.canonical builtin.name = builtin.name := by
  intro builtin inList
  obtain ⟨before, completes⟩ := finished.completed
  obtain ⟨type, found, -⟩ := completes.opened builtin inList
  have key : builtin.name ∈ farm.types.keys :=
    List.mem_map.mpr ⟨_, Table.mem_of_get?_eq_some found, rfl⟩
  rw [finished.lists.names] at key
  obtain ⟨other, otherInList, same⟩ := List.mem_map.mp key
  have twice := (composed other otherInList).canonical_canonical
  rwa [same] at twice

section Composed

variable (finished : farm.Finished graph listed)
  (composed : ∀ builtin ∈ listed, Text.IsStable builtin.name)

include finished composed

theorem names : farm.types.keys = listed.map (·.name) :=
  finished.lists.names.trans (List.map_congr_left (finished.stable composed))

/-- The class at a place is registered under the name at that place. -/
theorem lookup?_at (builtinAt : listed[place]? = some builtin)
    (standing : farm.typeList[place]? = some type) : farm.lookup? builtin.name = some type := by
  rw [← finished.stable composed builtin (List.mem_of_getElem? builtinAt)]
  exact finished.lists.lookup?_at builtinAt standing

/-- The parent that a built-in type names stands earlier in the list. -/
theorem derived_at (builtinAt : listed[place]? = some builtin)
    (standing : farm.typeList[place]? = some type) (derived : builtin.parentName ≠ "") :
    ∃ earlier < place, ∃ parent, farm.typeList[earlier]? = some parent ∧
      (graph.typeAt parent).identifier = builtin.parentName ∧
      (graph.typeAt type).parent? = some parent := by
  have known := finished.lookup?_at composed builtinAt standing
  obtain ⟨own, parent, ownFound, found, link⟩ :=
    finished.linked builtin (List.mem_of_getElem? builtinAt) derived
  cases ownFound.symm.trans known
  obtain ⟨earlier, entryAt⟩ := List.getElem?_of_mem (Table.mem_of_get?_eq_some found)
  have parentAt : farm.typeList[earlier]? = some parent := by
    rw [Farm.typeList, Table.values, List.getElem?_map, entryAt]
    rfl
  refine ⟨earlier, ?_, parent, parentAt, finished.lists.identifier_eq found, link⟩
  have nameAt : farm.types.keys[earlier]? = some builtin.parentName := by
    rw [Table.keys, List.getElem?_map, entryAt]
    rfl
  rw [finished.names composed, List.getElem?_map, Option.map_eq_some_iff] at nameAt
  obtain ⟨other, otherAt, sameName⟩ := nameAt
  by_contra notEarlier
  -- Otherwise the parent would have been completed together with the class, or after it.
  obtain ⟨before, completes⟩ := finished.completed
  obtain ⟨inRange, rfl⟩ := List.getElem?_eq_some_iff.mp builtinAt
  have dropped := List.drop_eq_getElem_cons inRange
  have split : listed = listed.take place ++ listed[place] :: listed.drop (place + 1) := by
    rw [← dropped, List.take_append_drop]
  have later : other ∈ listed[place] :: listed.drop (place + 1) := by
    rw [← dropped]
    apply List.mem_of_getElem? (i := earlier - place)
    rw [List.getElem?_drop, Nat.add_sub_cancel' (Nat.le_of_not_lt notEarlier)]
    exact otherAt
  apply completes.ordered split known other later
  rw [link, sameName, found]

theorem presents : farm.Presents graph listed where
  names := finished.lists.identifiers.trans
    (List.map_congr_left (finished.stable composed))
  distinct := finished.names composed ▸ finished.lists.distinct
  classes builtinAt standing := by
    obtain ⟨before, completes⟩ := finished.completed
    have inList := List.mem_of_getElem? builtinAt
    exact ⟨finished.lists.represents inList (finished.lists.lookup?_at builtinAt standing),
      completes.finished _ inList _ (finished.lookup?_at composed builtinAt standing)⟩
  derived builtinAt standing := finished.derived_at composed builtinAt standing
  rooted builtinAt standing underived := by
    obtain ⟨before, completes⟩ := finished.completed
    have inList := List.mem_of_getElem? builtinAt
    have known := finished.lookup?_at composed builtinAt standing
    have parentless := finished.unlinked _ inList underived known
    exact ⟨parentless, completes.rooted _ inList _ known parentless⟩

end Composed

end Farm.Finished

namespace Farm.Presents

theorem isSealed (presents : farm.Presents graph listed) {type : TypeId}
    (standing : type ∈ farm.typeList) : graph.isSealed type = true := by
  obtain ⟨place, typeAt⟩ := List.getElem?_of_mem standing
  obtain ⟨inRange, -⟩ := List.getElem?_eq_some_iff.mp typeAt
  have lengths := congrArg List.length presents.names
  rw [List.length_map, List.length_map] at lengths
  exact (presents.classes (List.getElem?_eq_getElem (lengths ▸ inRange)) typeAt).2

/-- Sealed classes do not change any more. -/
theorem of_keeps (presents : farm.Presents graph listed) (keeps : graph.KeepsSealed left) :
    farm.Presents left listed := by
  have same : ∀ {place type}, farm.typeList[place]? = some type →
      left.typeAt type = graph.typeAt type := fun standing =>
    keeps.frozen _ (presents.isSealed (List.mem_of_getElem? standing))
  constructor
  case names =>
    rw [← presents.names]
    apply List.map_congr_left
    intro type standing
    rw [keeps.frozen type (presents.isSealed standing)]
  case distinct => exact presents.distinct
  case classes =>
    intro place builtin type builtinAt standing
    obtain ⟨represents, isFinal⟩ := presents.classes builtinAt standing
    exact ⟨represents.of_keeps keeps, keeps.isSealed isFinal⟩
  case derived =>
    intro place builtin type builtinAt standing derived
    obtain ⟨earlier, isEarlier, parent, parentAt, named, link⟩ :=
      presents.derived builtinAt standing derived
    refine ⟨earlier, isEarlier, parent, parentAt, ?_, ?_⟩
    · rw [same parentAt, named]
    · rw [same standing, link]
  case rooted =>
    intro place builtin type builtinAt standing underived
    rw [same standing]
    exact presents.rooted builtinAt standing underived

end Farm.Presents

/-- Every successful construction in an arena of its own presents the listed built-in types. -/
theorem presents_of_bootstrap {settings : ArenaSettings}
    (orderly : ∀ builtin ∈ listed, builtin.IsOrderly)
    (composed : ∀ builtin ∈ listed, Text.IsStable builtin.name)
    (run : (bootstrap 0 listed).exec (Graph.withArena settings) = (.ok farm, graph)) :
    graph.Sound ∧ farm.Presents graph listed := by
  have opened : ({} : Graph).admits [.openArena settings] = true := rfl
  have sound : (Graph.withArena settings).Sound := sound_after opened
  have holds : (Graph.withArena settings).Holds { arena := 0 } :=
    ⟨sound, Nat.one_pos, nofun, nofun⟩
  have finished := finished_of_bootstrap holds orderly run
  exact ⟨finished.lists.holds.sound, finished.presents composed⟩

end Presentation

end Nominal
