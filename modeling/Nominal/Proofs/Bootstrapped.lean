import Nominal.Inspector.Workspace
import Nominal.Proofs.CheckedModules

/-!
# The default built-in types

A workspace starts with the default built-in types: sealed classes without interfaces and
annotations, each after its parent.  They are public, and each is registered under its own name,
which has neither a dot nor a comma and stands for nothing else.  That this is what their
construction leaves is a matter of evaluation, for each choice of settings; that such a graph is
sound and houses the farm is proved in general.
-/

namespace Nominal

open Nominal.Graph

/-- The built-in types that the loader relies on are there. -/
@[mk_iff]
structure Farm.Equipped (farm : Farm) : Prop where
  root : (farm.lookup? "Object").isSome = true
  attributeBase : (farm.lookup? "Attribute").isSome = true
  dynamic : (farm.lookup? "Dynamic").isSome = true

instance (farm : Farm) : Decidable farm.Equipped :=
  decidable_of_iff _ farm.equipped_iff.symm

namespace Graph

/-! ## Graphs of sealed classes -/

/-- A sealed class of a farm after its parent. -/
@[mk_iff]
structure FinishedClass (graph : Graph) (farm : Farm) (type : TypeId) : Prop where
  isClass : (graph.typeAt type).isClass = true
  isSealed : graph.isSealed type = true
  interfaces : (graph.typeAt type).interfaces = []
  annotations : (graph.typeAt type).annotations = []
  implementation : (graph.typeAt type).implementation = some .plain
  rooted : (graph.typeAt type).parent? = none → (graph.typeAt type).properties.has .root = true
  parent : ∀ parent ∈ (graph.typeAt type).parent?.toList, parent < type
  arena : (graph.typeAt type).arena = farm.arena
  indexed : (graph.arenaAt farm.arena).types[(graph.typeAt type).index]? = some type
  unasked : graph.cacheAt type = {}

/-- A class whose members keep the rules. -/
@[mk_iff]
structure FinishedMembers (graph : Graph) (type : TypeId) (isStatic : Bool) : Prop where
  distinct : ((graph.typeAt type).declared isStatic).keys.Nodup
  owned : ∀ entry ∈ ((graph.typeAt type).declared isStatic).entries, ∀ member ∈ entry.2,
    (graph.memberAt member).definingType = some type ∧
      (graph.memberAt member).isStatic = isStatic ∧
      (graph.memberAt member).kind.isInheritable = true ∧
      (graph.memberAt member).identifier = entry.1
  overloaded : ∀ entry ∈ ((graph.typeAt type).declared isStatic).entries,
    entry.2.Pairwise fun first second => graph.overloadError? type second first = none
  conforms : ∀ member ∈ (graph.typeAt type).declaredForCheck,
    graph.ancestorError? type member (graph.memberAt member).identifier = none

/-- Whether an array type is kept under the name of its element type. -/
def isInternedAs (graph : Graph) (farm : Farm) (name : String) : TypeRef → Bool
  | .array element base =>
    base = farm.lookup? "Array" ∧ element.isWithin graph.types.size = true ∧
      element.qualifiedName graph = name
  | _ => false

/-- A graph that holds the sealed classes of a farm and array types over them. -/
@[mk_iff]
structure Furnished (graph : Graph) (farm : Farm) : Prop where
  classes : ∀ type < graph.types.size, graph.FinishedClass farm type
  members : ∀ type < graph.types.size, ∀ isStatic, graph.FinishedMembers type isStatic
  within : ∀ member < graph.members.size,
    (graph.memberAt member).isWithin graph.types.size = true
  builtin : ∀ entry ∈ farm.types.entries, entry.2 < graph.types.size
  arrays : ∀ entry ∈ (graph.arenaAt farm.arena).arrays.entries,
    graph.isInternedAs farm entry.1 entry.2 = true
  arena : farm.arena < graph.arenas.size
  inStep : graph.progress.size = graph.types.size
  cacheCount : graph.caches.size = graph.types.size
  room : (graph.arenaAt farm.arena).types.length ≤ arenaCapacity
  equipped : farm.Equipped

instance (graph : Graph) (farm : Farm) (type : TypeId) :
    Decidable (graph.FinishedClass farm type) :=
  decidable_of_iff _ (finishedClass_iff graph farm type).symm

instance (graph : Graph) (type : TypeId) (isStatic : Bool) :
    Decidable (graph.FinishedMembers type isStatic) :=
  decidable_of_iff _ (finishedMembers_iff graph type isStatic).symm

instance (graph : Graph) (farm : Farm) : Decidable (graph.Furnished farm) :=
  decidable_of_iff _ (furnished_iff graph farm).symm

namespace Furnished

variable {graph : Graph} {farm : Farm} {type : TypeId}

theorem extends_lt (furnished : graph.Furnished farm) {supertype : TypeId}
    (link : graph.Extends type supertype) : type < graph.types.size ∧ supertype < type := by
  have present := lt_size_of_extends link
  have finished := furnished.classes type present
  rw [Extends, supertypesOf, NominalType.supertypes, finished.interfaces, List.append_nil] at link
  exact ⟨present, finished.parent supertype link⟩

theorem hierarchical (furnished : graph.Furnished farm) : graph.Hierarchical where
  linked link := by
    obtain ⟨present, earlier⟩ := furnished.extends_lt link
    have above := Nat.lt_trans earlier present
    exact ⟨above, (furnished.classes _ above).arena.trans (furnished.classes _ present).arena.symm⟩
  indexed present := by
    rw [(furnished.classes _ present).arena]
    exact (furnished.classes _ present).indexed
  acyclic type circle := by
    have earlier : ∀ {upper}, Relation.TransGen graph.Extends type upper → upper < type := by
      intro upper path
      induction path with
      | single link => exact (furnished.extends_lt link).2
      | tail _ link ih => exact Nat.lt_trans (furnished.extends_lt link).2 ih
    exact Nat.lt_irrefl type (earlier circle)
  sealedAbove _ link := by
    obtain ⟨present, earlier⟩ := furnished.extends_lt link
    exact (furnished.classes _ (Nat.lt_trans earlier present)).isSealed
  rooted isFinal _ := (furnished.classes _ (lt_size_of_isSealed isFinal)).rooted
  parents link := by
    obtain ⟨present, earlier⟩ := furnished.extends_lt (extends_of_parent? link)
    exact (furnished.classes _ (Nat.lt_trans earlier present)).isClass
  interfaces {type interface} listed := by
    by_cases present : type < graph.types.size
    · rw [(furnished.classes type present).interfaces] at listed
      cases listed
    · rw [typeAt_of_size_le (Nat.le_of_not_lt present)] at listed
      cases listed
  annotated {type use id} listed _ := by
    by_cases present : type < graph.types.size
    · rw [(furnished.classes type present).annotations] at listed
      cases listed
    · rw [typeAt_of_size_le (Nat.le_of_not_lt present)] at listed
      cases listed

theorem membered (furnished : graph.Furnished farm) : graph.Membered where
  within member := by
    by_cases present : member < graph.members.size
    · exact furnished.within member present
    · rw [memberAt_of_size_le (Nat.le_of_not_lt present)]
      rfl
  owned {type isStatic entry member} listed declared := by
    have present := lt_size_of_mem_declared listed
    obtain ⟨owner, staticness, inheritable, named⟩ :=
      (furnished.members type present isStatic).owned entry listed member declared
    refine ⟨owner, staticness, inheritable, ?_, fun _ => named⟩
    intro isInterface
    rw [(furnished.classes type present).isClass] at isInterface
    cases isInterface
  distinct type isStatic := by
    by_cases present : type < graph.types.size
    · exact (furnished.members type present isStatic).distinct
    · rw [typeAt_of_size_le (Nat.le_of_not_lt present)]
      cases isStatic <;> exact List.nodup_nil
  overloaded {type isStatic name bucket} found _ := by
    have listed := Table.mem_of_get?_eq_some found
    have present := lt_size_of_mem_declared listed
    exact ((furnished.members type present isStatic).overloaded _ listed).imp
      overloads_of_overloadError?

theorem sound (furnished : graph.Furnished farm) : graph.Sound := by
  refine ⟨⟨furnished.hierarchical, furnished.membered⟩, ?_⟩
  intro view type answer held
  have unasked : graph.cacheAt type = {} := by
    by_cases present : type < graph.types.size
    · exact (furnished.classes type present).unasked
    · rw [cacheAt, Array.getElem?_eq_none (furnished.cacheCount ▸ Nat.le_of_not_lt present)]
      rfl
  rw [unasked, view.kept_empty] at held
  cases held

theorem interned (furnished : graph.Furnished farm) : graph.Interned farm := by
  intro name array found
  have kept := furnished.arrays _ (Table.mem_of_get?_eq_some found)
  cases array with
  | array element base =>
      obtain ⟨rfl, within, named⟩ : base = farm.lookup? "Array" ∧ _ ∧ _ := by
        simpa [isInternedAs] using kept
      exact ⟨element, rfl, within, named⟩
  | primitive | nominal => cases kept

theorem houses (furnished : graph.Furnished farm) : graph.Houses farm where
  sound := furnished.sound
  arena := furnished.arena
  together present := (furnished.classes _ present).arena
  builtin found := by
    have finished := furnished.classes _
      (furnished.builtin _ (Table.mem_of_get?_eq_some found))
    exact ⟨finished.isClass, finished.isSealed⟩
  interned := furnished.interned
  plain type := by
    rintro ⟨serial, member, deferred⟩
    by_cases present : type < graph.types.size
    · rw [(furnished.classes type present).implementation] at deferred
      cases deferred
    · rw [typeAt_of_size_le (Nat.le_of_not_lt present)] at deferred
      cases deferred
  inStep := furnished.inStep
  room := furnished.room

theorem vetted (furnished : graph.Furnished farm) : graph.Vetted := by
  intro type isFinal
  exact (furnished.members type (lt_size_of_isSealed isFinal) false).conforms

end Furnished

end Graph

/-! ## The names of built-in types -/

/-- The types of a farm are registered under their names. -/
@[mk_iff]
structure Farm.Registered (farm : Farm) (graph : Graph) : Prop where
  distinct : farm.types.keys.Nodup
  named : ∀ entry ∈ farm.types.entries, graph.nameOf entry.2 = entry.1
  undotted : ∀ entry ∈ farm.types.entries, '.' ∉ entry.1.toList

instance (farm : Farm) (graph : Graph) : Decidable (farm.Registered graph) :=
  decidable_of_iff _ (farm.registered_iff graph).symm

namespace Graph

/-- A type was declared by a module. -/
def IsLoaded (graph : Graph) (type : TypeId) : Prop :=
  (graph.typeAt type).moduleName ≠ ""

instance (graph : Graph) (type : TypeId) : Decidable (graph.IsLoaded type) :=
  inferInstanceAs (Decidable (_ ≠ _))

/-- A name that stands for no type of a module, no array, no primitive type and no type that is left
open, and that has no comma. -/
@[mk_iff]
structure IsBuiltinName (name : String) : Prop where
  nonempty : name ≠ ""
  undotted : '.' ∉ name.toList
  unsuffixed : arrayElement? name.toList = none
  nominal : Primitive.ofName? name = none
  typed : name ≠ untypedName
  unseparated : ',' ∉ name.toList

instance (name : String) : Decidable (IsBuiltinName name) :=
  decidable_of_iff _ (isBuiltinName_iff name).symm

/-- Every type was declared by a module, or is known by a name of its own. -/
@[mk_iff]
structure NamesBuiltin (graph : Graph) : Prop where
  distinct : ∀ first < graph.types.size, ∀ second < graph.types.size, ¬ graph.IsLoaded first →
    ¬ graph.IsLoaded second → graph.nameOf first = graph.nameOf second → first = second
  builtin : ∀ type < graph.types.size, ¬ graph.IsLoaded type → IsBuiltinName (graph.nameOf type)

instance (graph : Graph) : Decidable graph.NamesBuiltin :=
  decidable_of_iff _ graph.namesBuiltin_iff.symm

end Graph

/-! ## The construction of the default types -/

/-- Whether a construction has succeeded and has furnished the graph. -/
def furnishes (settings : ArenaSettings) : Except Failure Farm × Graph → Bool
  | (.ok farm, graph) =>
    decide (graph.Furnished farm ∧ (graph.arenaAt farm.arena).settings = settings)
  | (.error _, _) => false

/-- Whether a construction has succeeded with types that are public, registered and known by names
of their own. -/
def registers : Except Failure Farm × Graph → Bool
  | (.ok farm, graph) =>
    decide (farm.Registered graph ∧ graph.NamesBuiltin ∧
      ∀ type < graph.types.size, (graph.typeAt type).visibility = .pub)
  | (.error _, _) => false

/-- The construction of the default types succeeds with every choice of settings.  Both sides are
stated together, so that each construction is evaluated once. -/
theorem constructs_defaults (settings : ArenaSettings) :
    furnishes settings ((bootstrapRecorded Builtin.defaults settings.isLogging).exec
        (Graph.withArena settings)) = true ∧
      registers ((bootstrapRecorded Builtin.defaults settings.isLogging).exec
        (Graph.withArena settings)) = true := by
  rcases settings with ⟨_ | _, _ | _, _ | _⟩
  all_goals decide +kernel

/-- The construction of the default types furnishes the graph. -/
theorem furnishes_defaults (settings : ArenaSettings) :
    furnishes settings ((bootstrapRecorded Builtin.defaults settings.isLogging).exec
      (Graph.withArena settings)) = true :=
  (constructs_defaults settings).1

/-- The default types are public, registered and known by names of their own. -/
theorem registers_defaults (settings : ArenaSettings) :
    registers ((bootstrapRecorded Builtin.defaults settings.isLogging).exec
      (Graph.withArena settings)) = true :=
  (constructs_defaults settings).2

end Nominal
