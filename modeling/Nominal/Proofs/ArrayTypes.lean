import Nominal.Proofs.BuiltinOrder
import Nominal.Proofs.DerivationOrder
import Nominal.Proofs.Mirrors
import Nominal.Proofs.PlainNames

/-!
# Array types

An arena keeps one array type for each name of an element type.  Whatever happens in the arena
between two requests, the declaration of types, loads of modules that succeed or fail, and other
requests, they are answered with the same array type if and only if their element types have the
same name.

An element type is named alike as long as it exists, so requests for the same element type are
answered alike.  The answer is an array over the element type that was asked for first under its
name; it is over the requested one if no other type has the name.
-/

namespace Nominal

open Nominal.Graph

/-! ## Operations that ask for no array type -/

section Operations

variable {graph left : Graph} {type : TypeId} {arena : ArenaId}

theorem arrays_eq_of_arenas (arenas : left.arenas = graph.arenas) (arena : ArenaId) :
    (left.arenaAt arena).arrays = (graph.arenaAt arena).arrays := by
  rw [arenaAt, arenas, ← arenaAt]

theorem Graph.Steps.arenas {allowed : Deed → Prop} (steps : Steps allowed graph left)
    (other : ¬ allowed .describe) : left.arenas = graph.arenas := by
  induction steps with
  | refl => rfl
  | tail _ step ih => exact (step.arenas other).1.trans ih

theorem arenas_requireUnsealed_bind {α : Type} (mutation : Mutation) {next : Unit → Build α}
    (rest : ((next ()).exec graph).2.arenas = graph.arenas) :
    ((requireUnsealed type mutation >>= next).exec graph).2.arenas = graph.arenas := by
  rw [exec_requireUnsealed_bind]
  split
  · rfl
  · exact rest

theorem arenas_requireSameArena_bind {α : Type} (other : TypeId) {next : Unit → Build α}
    (rest : ((next ()).exec graph).2.arenas = graph.arenas) :
    ((requireSameArena type other >>= next).exec graph).2.arenas = graph.arenas := by
  rw [exec_requireSameArena_bind]
  split
  · exact rest
  · rfl

theorem arenas_changeType (mutation : Mutation) (change : NominalType → NominalType) :
    ((changeType type mutation change).exec graph).2.arenas = graph.arenas :=
  arenas_requireUnsealed_bind mutation rfl

theorem arenas_addInterface (interface : Option TypeId) :
    ((addInterface type interface).exec graph).2.arenas = graph.arenas := by
  unfold addInterface
  refine arenas_requireUnsealed_bind _ ?_
  cases interface with
  | none => rfl
  | some interface =>
      refine arenas_requireSameArena_bind _ ?_
      rw [Build.exec_get_bind]
      split
      · rfl
      · rw [Build.exec_bind_of_verdict (exec_checkTypeVisibility _ _), Option.bind_some]
        cases graph.typeVisibilityError? { referencing := some type } (.nominal interface) with
        | some error => rfl
        | none =>
            dsimp only [Option.elim]
            split <;> rfl

theorem arenas_addExtensionClass (extension : Option TypeId) :
    ((addExtensionClass type extension).exec graph).2.arenas = graph.arenas := by
  unfold addExtensionClass
  refine arenas_requireUnsealed_bind _ ?_
  cases extension with
  | none => rfl
  | some added => exact arenas_requireSameArena_bind _ rfl

theorem arrays_newStub (stubArena : ArenaId) (shape : TypeShape) (identifier moduleName : String)
    (visibility : Visibility) (properties : TypeProperties) (record : String → Nat → LogRecord)
    (arena : ArenaId) :
    (((newStub stubArena shape identifier moduleName visibility properties record).exec
      graph).2.arenaAt arena).arrays = (graph.arenaAt arena).arrays := by
  by_cases full : (graph.arenaAt stubArena).types.length = arenaCapacity
  · unfold newStub
    rw [Build.exec_get_bind]
    dsimp only
    rw [if_pos full]
    rfl
  · obtain ⟨stubbed, made, bare⟩ := newStub_exec full shape identifier moduleName visibility
      properties record
    rw [made]
    exact (arrays_eq_of_arenas (arenas_eq_of_bare bare) arena).trans (arenaAt_withType ..).2

theorem arrays_withArray_of_ne {asked : ArenaId} (different : asked ≠ arena) (element : TypeRef)
    (base : Option TypeId) :
    ((graph.withArray asked element base).arenaAt arena).arrays = (graph.arenaAt arena).arrays := by
  unfold withArray
  split
  · rfl
  · rcases arenaAt_modify_cases graph asked _ arena with same | ⟨equal, -⟩
    · exact congrArg Arena.arrays same
    · exact absurd equal.symm different

theorem types_withArray (graph : Graph) (asked : ArenaId) (element : TypeRef)
    (base : Option TypeId) : (graph.withArray asked element base).types = graph.types := by
  unfold withArray
  split <;> rfl

theorem size_arenas_withArray (graph : Graph) (asked : ArenaId) (element : TypeRef)
    (base : Option TypeId) :
    (graph.withArray asked element base).arenas.size = graph.arenas.size := by
  unfold withArray
  split
  · rfl
  · exact Array.size_modify

theorem arrays_openArena (settings : ArenaSettings) :
    ({ graph with arenas := graph.arenas.push { settings } : Graph }.arenaAt arena).arrays
      = (graph.arenaAt arena).arrays := by
  simp only [arenaAt, Array.getElem?_push]
  split
  next last =>
    rw [last, Array.getElem?_size]
    rfl
  next => rfl

/-- Whether an operation asks for an array type of an arena. -/
def Operation.asksArray (arena : ArenaId) : Operation → Bool
  | arrayOf asked _ _ => asked == arena
  | _ => false

/-- The array types of an arena stay as they are while none of them is asked for. -/
theorem Operation.arrays_perform (sound : graph.Sound) {operation : Operation}
    (admissible : operation.isAdmissible graph = true)
    (other : operation.asksArray arena = false) :
    ((operation.perform graph).arenaAt arena).arrays = (graph.arenaAt arena).arrays := by
  have ofSteps : (∀ type isTrusted, operation ≠ .setTrusted type isTrusted) →
      ¬ operation.Does .describe →
        ((operation.perform graph).arenaAt arena).arrays = (graph.arenaAt arena).arrays :=
    fun untrusting silent =>
      arrays_eq_of_arenas ((perform_steps sound admissible untrusting).arenas silent) arena
  cases operation with
  | openArena settings => exact arrays_openArena settings
  | newClass | newInterface => exact arrays_newStub ..
  | newMember member => rfl
  | arrayOf asked element base =>
      have different : asked ≠ arena := by simpa [asksArray] using other
      have run := congrArg Prod.snd (exec_arrayOf graph asked element base)
      exact (congrArg (·.arenaAt arena |>.arrays) run).trans
        (arrays_withArray_of_ne different element base)
  | setTrusted type isTrusted =>
      exact arrays_eq_of_arenas (arenas_requireUnsealed_bind _ rfl) arena
  | addInterface type interface => exact arrays_eq_of_arenas (arenas_addInterface interface) arena
  | addExtensionClass type extension =>
      exact arrays_eq_of_arenas (arenas_addExtensionClass extension) arena
  | annotate | setScope | setHostType | setDocString | markParsed =>
      exact arrays_eq_of_arenas (arenas_changeType _ _) arena
  | setParent | declareMember | setImplementation | sealType | finishBuild =>
      exact ofSteps nofun (by simp [Does, Deed.Seals])
  | ask view type =>
      have read := (Query.Answers.ask view type).reads sound
      exact arrays_eq_of_arenas (arenas_eq_of_bare read.bare) arena
  | access type name site isStatic =>
      have read : graph.Reads ((Operation.access type name site isStatic).perform graph) :=
        (checkMemberAccess_inspects sound type).reads
      exact arrays_eq_of_arenas (arenas_eq_of_bare read.bare) arena

end Operations

/-! ## Requests in an arena -/

/-- A request for the array type over an element type, with its answer. -/
structure ArrayRequest where
  element : TypeRef
  answer : TypeRef

namespace Graph

/-- The states of an arena, with the requests for array types that have been made there, the latest
one first.  A state is a graph that holds nothing or the default built-in types, or comes from
another state by an operation, by a load of a module that may fail, by reading, or by a request over
types of the graph. -/
inductive Requested (arena : ArenaId) : Graph → List ArrayRequest → Prop
  | empty : Requested arena {} []
  | bootstrapped {settings : ArenaSettings} {isColored : Bool} {workspace : Workspace}
      (started : Workspace.start settings isColored = .ok workspace)
      (here : workspace.farm.arena = arena) : Requested arena workspace.graph []
  | perform {graph : Graph} {requests : List ArrayRequest} (earlier : Requested arena graph requests)
      {operation : Operation} (admissible : operation.isAdmissible graph = true)
      (other : operation.asksArray arena = false) :
      Requested arena (operation.perform graph) requests
  | load {graph : Graph} {requests : List ArrayRequest} (earlier : Requested arena graph requests)
      {farm : Farm} (houses : graph.Houses farm) (here : farm.arena = arena) {imports : List Module}
      (complete : ∀ imported ∈ imports, imported.Complete graph) (serial : Nat)
      (declaration : ModuleDeclaration) :
      Requested arena ((loadModule farm serial imports declaration).exec graph).2 requests
  | read {graph left : Graph} {requests : List ArrayRequest}
      (earlier : Requested arena graph requests) (reads : graph.Reads left) :
      Requested arena left requests
  | request {graph : Graph} {requests : List ArrayRequest} (earlier : Requested arena graph requests)
      (present : arena < graph.arenas.size) {element : TypeRef}
      (within : element.isWithin graph.types.size = true) (base : Option TypeId) :
      Requested arena ((arrayOf arena element base).exec graph).2
        (⟨element, ((arrayOf arena element base).exec graph).1⟩ :: requests)

/-- Every array type of an arena is kept under the name of its element type. -/
def ArraysNamed (graph : Graph) (arena : ArenaId) : Prop :=
  ∀ name array, (graph.arenaAt arena).arrays.get? name = some array →
    ∃ (element : TypeRef) (base : Option TypeId), array = .array element base ∧
      element.isWithin graph.types.size = true ∧ element.qualifiedName graph = name

/-- If all types of a graph have plain names, each another one, no two references share a name. -/
theorem sole_of_plain {graph : Graph} (distinct : graph.DistinctNames)
    (plain : ∀ type < graph.types.size, graph.PlainlyNamed type) {reference : TypeRef}
    (within : reference.isWithin graph.types.size = true) : graph.Sole reference := by
  have isPlain : ∀ {other : TypeRef}, other.isWithin graph.types.size = true →
      graph.IsPlain other :=
    fun inside type leads => plain type (TypeRef.lt_of_innermost? inside leads)
  exact fun other inside => same_of_qualifiedName distinct (isPlain inside) (isPlain within) inside
    within

/-- References that mean the same type have the same name. -/
theorem qualifiedName_eq_of_same (graph : Graph) {first second : TypeRef}
    (same : first.same second = true) :
    first.qualifiedName graph = second.qualifiedName graph := by
  induction first generalizing second with
  | primitive kind =>
      cases second with
      | primitive other =>
          have equal : kind = other := by simpa [TypeRef.same] using same
          rw [equal]
      | nominal | array => cases same
  | nominal type =>
      cases second with
      | nominal other =>
          have equal : type = other := by simpa [TypeRef.same] using same
          rw [equal]
      | primitive | array => cases same
  | array element base ih =>
      cases second with
      | array otherElement otherBase =>
          have elements : element.qualifiedName graph = otherElement.qualifiedName graph := ih same
          exact congrArg (· ++ "[]") elements
      | primitive | nominal => cases same

/-! ## What requests leave -/

section Answers

variable {arena : ArenaId} {graph left : Graph} {requests : List ArrayRequest}

theorem arraysNamed_of_interned {farm : Farm} (interned : graph.Interned farm) :
    graph.ArraysNamed farm.arena := by
  intro name array found
  obtain ⟨element, equal, within, named⟩ := interned name array found
  exact ⟨element, _, equal, within, named⟩

theorem ArraysNamed.later (named : graph.ArraysNamed arena) (keeps : graph.KeepsNames left)
    (arrays : (left.arenaAt arena).arrays = (graph.arenaAt arena).arrays) :
    left.ArraysNamed arena := by
  intro name array found
  rw [arrays] at found
  obtain ⟨element, base, equal, within, named⟩ := named name array found
  exact ⟨element, base, equal, TypeRef.isWithin_of_le within keeps.grows,
    (keeps.qualifiedName within).trans named⟩

/-- The answer to every request is kept under the name of its element type. -/
structure Answers (graph : Graph) (arena : ArenaId) (requests : List ArrayRequest) : Prop where
  sound : graph.Sound
  named : graph.ArraysNamed arena
  within : ∀ request ∈ requests, request.element.isWithin graph.types.size = true
  kept : ∀ request ∈ requests, (graph.arenaAt arena).arrays.get?
    (request.element.qualifiedName graph) = some request.answer

/-- Answers are kept while types keep their names and no array type is given up. -/
theorem Answers.later (answers : graph.Answers arena requests) (sound : left.Sound)
    (keeps : graph.KeepsNames left) (named : left.ArraysNamed arena)
    (arrays : ∀ {name array}, (graph.arenaAt arena).arrays.get? name = some array →
      (left.arenaAt arena).arrays.get? name = some array) :
    left.Answers arena requests where
  sound := sound
  named := named
  within request asked := TypeRef.isWithin_of_le (answers.within request asked) keeps.grows
  kept request asked := by
    rw [keeps.qualifiedName (answers.within request asked)]
    exact arrays (answers.kept request asked)

/-- Nothing happens to the answers while the array types stay as they are. -/
theorem Answers.of_arrays (answers : graph.Answers arena requests) (sound : left.Sound)
    (keeps : graph.KeepsNames left)
    (arrays : (left.arenaAt arena).arrays = (graph.arenaAt arena).arrays) :
    left.Answers arena requests :=
  answers.later sound keeps (answers.named.later keeps arrays) fun found => by rwa [arrays]

/-- An array type that is kept after a request was kept before, or is the one that is asked for. -/
theorem found_or_new_of_withArray (present : arena < graph.arenas.size) {element : TypeRef}
    {base : Option TypeId} {name : String} {array : TypeRef}
    (found : ((graph.withArray arena element base).arenaAt arena).arrays.get? name = some array) :
    (graph.arenaAt arena).arrays.get? name = some array ∨
      element.qualifiedName graph = name ∧ array = .array element base := by
  rw [get?_withArray present] at found
  split at found
  next same =>
    subst same
    rw [arrayFor] at found
    cases known : (graph.arenaAt arena).arrays.get? (element.qualifiedName graph) with
    | some held =>
        rw [known] at found
        exact .inl found
    | none =>
        rw [known] at found
        exact .inr ⟨rfl, (Option.some.inj found).symm⟩
  next => exact .inl found

/-- An array type that was kept before a request is given again. -/
theorem found_withArray (present : arena < graph.arenas.size) (element : TypeRef)
    (base : Option TypeId) {name : String} {array : TypeRef}
    (found : (graph.arenaAt arena).arrays.get? name = some array) :
    ((graph.withArray arena element base).arenaAt arena).arrays.get? name = some array := by
  rw [get?_withArray present]
  split
  next same => rw [arrayFor, ← same, found, Option.getD_some]
  next => exact found

/-- A request is answered with what is kept from then on. -/
theorem Answers.request (answers : graph.Answers arena requests)
    (present : arena < graph.arenas.size) {element : TypeRef}
    (within : element.isWithin graph.types.size = true) (base : Option TypeId) :
    ((arrayOf arena element base).exec graph).2.Answers arena
      (⟨element, ((arrayOf arena element base).exec graph).1⟩ :: requests) := by
  have step := arrayOf_step answers.sound arena element base
  have keeps := KeepsNames.of_keepsSealed step.keepsSealed
  have sound := step.sound
  rw [exec_arrayOf] at keeps sound ⊢
  have named : (graph.withArray arena element base).ArraysNamed arena := by
    intro name array found
    have kept : ∃ (inner : TypeRef) (base : Option TypeId), array = .array inner base ∧
        inner.isWithin graph.types.size = true ∧ inner.qualifiedName graph = name := by
      rcases found_or_new_of_withArray present found with known | ⟨sameName, new⟩
      · exact answers.named name array known
      · exact ⟨element, base, new, within, sameName⟩
    obtain ⟨inner, base, equal, inside, sameName⟩ := kept
    exact ⟨inner, base, equal, TypeRef.isWithin_of_le inside keeps.grows,
      (keeps.qualifiedName inside).trans sameName⟩
  have before := answers.later sound keeps named fun found =>
    found_withArray present element base found
  refine ⟨sound, named, ?_, ?_⟩
  · rw [List.forall_mem_cons]
    exact ⟨TypeRef.isWithin_of_le within keeps.grows, before.within⟩
  · rw [List.forall_mem_cons]
    refine ⟨?_, before.kept⟩
    rw [keeps.qualifiedName within, get?_withArray present, if_pos rfl]

/-- Whatever happens in an arena, the answers to requests are kept. -/
theorem Requested.answers (requested : Requested arena graph requests) :
    graph.Answers arena requests := by
  induction requested with
  | empty =>
      refine ⟨sound_start, ?_, by simp, by simp⟩
      intro name array found
      cases found
  | bootstrapped started here =>
      have houses := (Workspace.ready_start started).houses
      subst here
      exact ⟨houses.sound, arraysNamed_of_interned houses.interned, by simp, by simp⟩
  | perform _ admissible other ih =>
      obtain ⟨sound, keeps⟩ := Operation.perform_sound ih.sound admissible
      exact ih.of_arrays sound (.of_keepsSealed keeps)
        (Operation.arrays_perform ih.sound admissible other)
  | load _ houses here complete serial declaration ih =>
      have grows := loadModule_grows serial declaration houses complete
      subst here
      exact ih.later grows.houses.sound (.of_grows grows)
        (arraysNamed_of_interned grows.houses.interned) grows.arrays
  | read _ reads ih =>
      exact ih.of_arrays reads.sound (.of_types (types_eq_of_bare reads.bare))
        (arrays_eq_of_arenas (arenas_eq_of_bare reads.bare) arena)
  | request _ present within base ih => exact ih.request present within base

/-- A run that asks for no array type of an arena leads to another state of the arena. -/
theorem Requested.after (requested : Requested arena graph requests) {run : List Operation}
    (admitted : graph.admits run = true)
    (others : ∀ operation ∈ run, operation.asksArray arena = false) :
    Requested arena (graph.after run) requests := by
  induction run generalizing graph with
  | nil => exact requested
  | cons operation rest ih =>
      rw [admits, Bool.and_eq_true] at admitted
      rw [List.forall_mem_cons] at others
      exact ih (.perform requested admitted.1 others.1) admitted.2 others.2

/-! ## When requests are answered alike -/

/-- Two requests in an arena are answered with the same array type if and only if their element
types have the same name, whatever happens between them; so requests for the same element type are
answered alike.  The answer is an array over a type with the name of the element type.  If no other
type has this name, the answer is an array over the element type, and the requests that are answered
alike are those for this type. -/
theorem Requested.answer_eq_iff (requested : Requested arena graph requests)
    {first second : ArrayRequest} (firstAsked : first ∈ requests)
    (secondAsked : second ∈ requests) :
    (first.answer = second.answer ↔
        first.element.qualifiedName graph = second.element.qualifiedName graph) ∧
      (first.element.same second.element = true → first.answer = second.answer) ∧
      (∃ (element : TypeRef) (base : Option TypeId), first.answer = .array element base ∧
        element.qualifiedName graph = first.element.qualifiedName graph ∧
        (graph.Sole first.element → element.same first.element = true)) ∧
      (graph.Sole first.element →
        (first.answer = second.answer ↔ first.element.same second.element = true)) := by
  have answers := requested.answers
  have firstKept := answers.kept first firstAsked
  have secondKept := answers.kept second secondAsked
  obtain ⟨element, base, isArray, within, named⟩ := answers.named _ _ firstKept
  have alike : first.answer = second.answer ↔
      first.element.qualifiedName graph = second.element.qualifiedName graph := by
    constructor
    · intro equal
      obtain ⟨other, otherBase, otherArray, -, otherNamed⟩ := answers.named _ _ secondKept
      rw [isArray, otherArray] at equal
      cases equal
      exact named.symm.trans otherNamed
    · intro sameName
      rw [sameName] at firstKept
      exact Option.some.inj (firstKept.symm.trans secondKept)
  have sameAlike : first.element.same second.element = true → first.answer = second.answer :=
    fun same => alike.mpr (qualifiedName_eq_of_same graph same)
  refine ⟨alike, sameAlike, ⟨element, base, isArray, named, fun sole => sole element within named⟩,
    ?_⟩
  intro sole
  refine ⟨fun equal => ?_, sameAlike⟩
  rw [TypeRef.same_comm]
  exact sole second.element (answers.within second secondAsked) (alike.mp equal).symm

/-- Two classes, requests for the array type over the first one with different base classes, and a
third class that is declared between the requests. -/
def sharedArray : List Operation :=
  [.openArena {}, .newClass 0 "A" "m" .pub {}, .newClass 0 "B" "m" .pub {},
    .arrayOf 0 (.nominal 0) none, .newClass 0 "C" "m" .pub {}, .arrayOf 0 (.nominal 0) (some 1)]

/-- Both requests are answered with the same array type, over the first class. -/
theorem Requested.answer_eq_iff_sharedArray :
    ∃ requests first second, Requested 0 (({} : Graph).after sharedArray) requests ∧
      first ∈ requests ∧ second ∈ requests ∧
      (({} : Graph).after sharedArray).Sole first.element ∧ first.answer = second.answer ∧
      ∃ element base, first.answer = .array element base ∧
        element.same first.element = true := by
  have sole : (({} : Graph).after sharedArray).Sole (.nominal 0) :=
    sole_of_plain (by unfold DistinctNames; decide +kernel) (by decide +kernel) (by decide +kernel)
  have declared : Requested 0 (({} : Graph).after (sharedArray.take 3)) [] :=
    .after .empty (by decide +kernel) (by decide)
  have within : (TypeRef.nominal 0).isWithin
      (({} : Graph).after (sharedArray.take 3)).types.size = true := by
    decide +kernel
  have first := declared.request (by decide +kernel) within none
  have between : Requested 0 (({} : Graph).after (sharedArray.take 5)) _ :=
    @Requested.perform _ _ _ first (.newClass 0 "C" "m" .pub {}) (by decide +kernel) rfl
  have stillWithin : (TypeRef.nominal 0).isWithin
      (({} : Graph).after (sharedArray.take 5)).types.size = true := by
    decide +kernel
  have second := between.request (by decide +kernel) stillWithin (some 1)
  obtain ⟨-, same, ⟨element, base, isArray, -, atElement⟩, -⟩ :=
    second.answer_eq_iff (List.mem_cons_of_mem _ List.mem_cons_self) List.mem_cons_self
  exact ⟨_, _, _, second, List.mem_cons_of_mem _ List.mem_cons_self, List.mem_cons_self, sole,
    same rfl, element, base, isArray, atElement sole⟩

/-- If two element types have the same name, the next two requests for them are answered alike. -/
theorem Requested.exists_shared (requested : Requested arena graph requests)
    (present : arena < graph.arenas.size) {element other : TypeRef}
    (within : element.isWithin graph.types.size = true)
    (otherWithin : other.isWithin graph.types.size = true)
    (named : element.qualifiedName graph = other.qualifiedName graph) :
    ∃ last answer, Requested arena last (⟨other, answer⟩ :: ⟨element, answer⟩ :: requests) := by
  have keeps := KeepsNames.of_keepsSealed
    (arrayOf_step requested.answers.sound arena element none).keepsSealed
  have stillPresent : arena < ((arrayOf arena element none).exec graph).2.arenas.size := by
    rw [exec_arrayOf, size_arenas_withArray]
    exact present
  have asked := (requested.request present within none).request stillPresent
    (TypeRef.isWithin_of_le otherWithin keeps.grows) none
  have kept := (requested.request present within none).answers.kept _ List.mem_cons_self
  have again : ((arrayOf arena other none).exec ((arrayOf arena element none).exec graph).2).1
      = ((arrayOf arena element none).exec graph).1 := by
    have found := congrArg Prod.fst
      (exec_arrayOf ((arrayOf arena element none).exec graph).2 arena other none)
    rw [keeps.qualifiedName within, named, ← keeps.qualifiedName otherWithin] at kept
    exact found.trans (by rw [arrayFor, kept, Option.getD_some])
  rw [again] at asked
  exact ⟨_, _, asked⟩

end Answers

end Graph

/-! ## Requests in a session -/

namespace Workspace

variable {settings : ArenaSettings} {workspace : Workspace} {requests : List ArrayRequest}

/-- A load leaves the graph of the loader, apart from records. -/
theorem reads_loadDeclaration (session : Session settings workspace) {imports : List Module}
    (known : ∀ imported ∈ imports, imported ∈ workspace.modules)
    (declaration : ModuleDeclaration) :
    ((loadModule workspace.farm workspace.loads imports declaration).exec workspace.graph).2.Reads
      (workspace.loadDeclaration imports declaration).2.graph := by
  have sound := (session.ready.grows known declaration).houses.sound
  rcases ran : (loadModule workspace.farm workspace.loads imports declaration).exec
    workspace.graph with ⟨failure | module, left⟩
  · rw [ran] at sound
    rw [loadDeclaration_of_error ran]
    exact .refl sound
  · rw [ran] at sound
    obtain ⟨journal, ended⟩ := loadDeclaration_of_ok ran
    rw [ended]
    exact sound.withJournal journal

/-- A load leads to another state of the arena of a session, whether it succeeds or fails. -/
theorem requested_load (session : Session settings workspace)
    (requested : Requested workspace.farm.arena workspace.graph requests) {imports : List Module}
    (known : ∀ imported ∈ imports, imported ∈ workspace.modules)
    (declaration : ModuleDeclaration) :
    Requested workspace.farm.arena (workspace.loadDeclaration imports declaration).2.graph
      requests := by
  have ready := session.ready
  have loaded := requested.load ready.houses rfl
    (fun imported listed => ready.complete imported (known imported listed)) workspace.loads
    declaration
  exact loaded.read (reads_loadDeclaration session known declaration)

theorem farm_loadDeclaration (workspace : Workspace) (imports : List Module)
    (declaration : ModuleDeclaration) :
    (workspace.loadDeclaration imports declaration).2.farm = workspace.farm := by
  rcases ran : (loadModule workspace.farm workspace.loads imports declaration).exec
    workspace.graph with ⟨failure | module, left⟩
  · rw [loadDeclaration_of_error ran]
  · obtain ⟨journal, ended⟩ := loadDeclaration_of_ok ran
    rw [ended]

/-- Every state of a session is a state of its arena. -/
theorem Session.requested (session : Session settings workspace) :
    ∃ requests, Requested workspace.farm.arena workspace.graph requests := by
  induction session with
  | start started => exact ⟨[], .bootstrapped started rfl⟩
  | load session known declaration ih =>
      obtain ⟨requests, requested⟩ := ih
      refine ⟨requests, ?_⟩
      rw [farm_loadDeclaration]
      exact requested_load session requested known declaration
  | read session reads ih =>
      obtain ⟨requests, requested⟩ := ih
      exact ⟨requests, requested.read reads⟩
  | intern session within ih =>
      obtain ⟨requests, requested⟩ := ih
      exact ⟨_, requested.request session.ready.houses.arena within _⟩

/-- The two classes of a module that is loaded twice have one array type. -/
theorem not_answer_eq_iff_baseModule :
    ∃ arena graph requests first second, Requested arena graph requests ∧ first ∈ requests ∧
      second ∈ requests ∧ first.answer = second.answer ∧
      first.element.same second.element = false := by
  have evaluated : startsIn (fun started =>
      let once := (started.loadDeclaration [] baseModule).2
      let twice := (once.loadDeclaration [] baseModule).2
      decide (started.farm.arena < twice.graph.arenas.size ∧ 9 < twice.graph.types.size ∧
        twice.graph.nameOf 8 = twice.graph.nameOf 9)) = true := by
    decide +kernel
  obtain ⟨started, session, evaluated⟩ := exists_of_startsIn evaluated
  obtain ⟨present, size, named⟩ := of_decide_eq_true evaluated
  obtain ⟨requests, requested⟩ := session.requested
  have once := @requested_load _ _ _ session requested [] (by simp) baseModule
  have between := @Session.load {} started session [] (by simp) baseModule
  rw [← farm_loadDeclaration started [] baseModule] at once
  have twice := @requested_load _ _ _ between once [] (by simp) baseModule
  rw [farm_loadDeclaration] at twice
  have within : ∀ type ≤ 9, (TypeRef.nominal type).isWithin
      ((started.loadDeclaration [] baseModule).2.loadDeclaration [] baseModule).2.graph.types.size
        = true :=
    fun type bounded => decide_eq_true (Nat.lt_of_le_of_lt bounded size)
  obtain ⟨last, answer, shared⟩ :=
    twice.exists_shared present (within 8 (by decide)) (within 9 (by decide)) named
  exact ⟨_, last, _, _, _, shared, List.mem_cons_of_mem _ List.mem_cons_self, List.mem_cons_self,
    rfl, rfl⟩

end Workspace

end Nominal
