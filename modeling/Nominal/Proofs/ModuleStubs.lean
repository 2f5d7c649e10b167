import Nominal.Proofs.Loading

/-!
# The stubs of a module

Before anything else a module gets one stub for each of its declarations.  Whether that succeeds is
decided by the declarations alone, and the stubs are known in advance: they stand in the order of
the declarations behind the types that were there before.
-/

namespace Nominal

open Nominal.Graph

/-! ## One stub -/

/-- The visibility that a declaration asks for. -/
def TypeDeclaration.visibility? (declaration : TypeDeclaration) : Option Visibility :=
  if declaration.visibility = "" then some .pub else Visibility.ofKeyword? declaration.visibility

/-- The reason why there can be no stub of a declaration; its name may be known already. -/
def TypeDeclaration.error? (declaration : TypeDeclaration) (isKnown : Bool) : Option Error :=
  if (declaration.className == "") == (declaration.interfaceName == "") then
    some (.invalidDeclaration "a type declaration must declare either a class or an interface")
  else if Builtin.isReserved declaration.name then some (.reservedTypeName declaration.name)
  else if isKnown then some (.duplicateType declaration.name)
  else if declaration.visibility?.isNone then some (.invalidVisibility declaration.visibility)
  else if declaration.isInterface then
    if declaration.parent ≠ "" ∨ !declaration.implements.isEmpty then
      some (.invalidDeclaration
        "interfaces extend other interfaces, they have no parent and implement nothing")
    else none
  else if !declaration.extended.isEmpty then
    some (.invalidDeclaration "classes extend their parent, interfaces are implemented")
  else none

/-- The stub of a declaration. -/
def TypeDeclaration.stub (declaration : TypeDeclaration) (scope : Scope) (arena : ArenaId)
    (index : Nat) : NominalType :=
  { identifier := Text.canonical declaration.name, moduleName := scope.moduleName
    visibility := declaration.visibility?.getD .pub, properties := declaration.properties, arena
    index, shape := if declaration.isInterface then .interfaceShape else .classShape {}
    scope := some scope, docString := declaration.doc }

theorem TypeDeclaration.isClass_stub (declaration : TypeDeclaration) (scope : Scope)
    (arena : ArenaId) (index : Nat) :
    (declaration.stub scope arena index).isClass = !declaration.isInterface := by
  unfold NominalType.isClass TypeDeclaration.stub
  cases declaration.isInterface <;> rfl

/-- The graph with the stub of a declaration. -/
def Graph.withStub (graph : Graph) (scope : Scope) (arena : ArenaId)
    (declaration : TypeDeclaration) : Graph :=
  graph.withType (declaration.stub scope arena (graph.arenaAt arena).types.length)

section Stub

variable {graph : Graph} {arena : ArenaId}

theorem modifyType_withType (graph : Graph) (type : NominalType)
    (change : NominalType → NominalType) (arena : (change type).arena = type.arena) :
    (graph.withType type).modifyType graph.types.size change = graph.withType (change type) := by
  have types : (graph.types.push type).modify graph.types.size change
      = graph.types.push (change type) := by
    apply Array.ext_getElem?
    intro place
    rw [Array.getElem?_modify, Array.getElem?_push, Array.getElem?_push]
    by_cases here : graph.types.size = place
    · simp [here]
    · simp [here, Ne.symm here]
  simp only [Graph.modifyType, Graph.withType, types, arena]

theorem newStub_exec (room : (graph.arenaAt arena).types.length ≠ arenaCapacity) (shape : TypeShape)
    (identifier moduleName : String) (visibility : Visibility) (properties : TypeProperties)
    (record : String → Nat → LogRecord) :
    ∃ left : Graph, (newStub arena shape identifier moduleName visibility properties record).exec
        graph = (.ok graph.types.size, left) ∧
      left.bare = (graph.withType
        { identifier := Text.canonical identifier, moduleName, visibility, properties, arena,
          index := (graph.arenaAt arena).types.length, shape }).bare := by
  unfold newStub
  rw [Build.exec_get_bind]
  dsimp only
  rw [if_neg room, Build.exec_set_bind, Build.exec_lift_bind]
  exact ⟨_, rfl, bare_recordLog _ _ _⟩

theorem changeStub_exec {left : Graph} {type : NominalType} (mutation : Mutation)
    (change : NominalType → NominalType) (same : left.bare = (graph.withType type).bare)
    (isOpen : type.state = .building) (arena : (change type).arena = type.arena) :
    ∃ last : Graph, (changeType graph.types.size mutation change).exec left = (.ok (), last) ∧
      last.bare = (graph.withType (change type)).bare := by
  have unsealed : left.isSealed graph.types.size = false := by
    rw [isSealed_eq_of_bare same, isSealed, typeAt_withType_self, NominalType.isSealed, isOpen]
    rfl
  refine ⟨left.modifyType graph.types.size change, ?_, ?_⟩
  · rw [changeType, exec_requireUnsealed_bind, unsealed, if_neg Bool.false_ne_true]
    rfl
  · rw [← modifyType_withType graph type change arena]
    exact congrArg (fun bare : Graph => bare.modifyType graph.types.size change) same

theorem finishStub_exec {left : Graph} {type : NominalType} (scope : Scope) (docString : String)
    (same : left.bare = (graph.withType type).bare) (isOpen : type.state = .building) :
    ∃ last : Graph, Build.exec (do
        setScope graph.types.size (some scope)
        setDocString graph.types.size docString
        return graph.types.size) left = (.ok graph.types.size, last) ∧
      last.bare = (graph.withType { type with scope := some scope, docString }).bare := by
  obtain ⟨next, ran, nextBare⟩ := changeStub_exec .setScope ({ · with scope := some scope }) same
    isOpen rfl
  obtain ⟨last, ranLast, lastBare⟩ := changeStub_exec .setDocumentation ({ · with docString })
    nextBare isOpen rfl
  refine ⟨last, ?_, lastBare⟩
  rw [Build.exec_bind_of_ok (show (setScope _ _).exec left = _ from ran),
    Build.exec_bind_of_ok (show (setDocString _ _).exec next = _ from ranLast)]
  rfl

/-- Makes the stub of a declaration that nothing speaks against. -/
def makeStub (arena : ArenaId) (module : Module) (declaration : TypeDeclaration) :
    Build TypeId := do
  let type ← newStub arena
    (if declaration.isInterface then .interfaceShape else .classShape {}) declaration.name
    module.name
    (declaration.visibility?.getD .pub) declaration.properties
    (if declaration.isInterface then .interfaceStub else .classStub)
  setScope type (some module.scope)
  setDocString type declaration.doc
  return type

/-- All checks of a declaration are made before its stub. -/
theorem exec_declareType (module : Module) (declaration : TypeDeclaration) :
    (declareType arena module declaration).exec graph =
      (declaration.error? (module.types.contains declaration.name)).elim
        ((makeStub arena module declaration).exec graph)
        fun error => (.error (.rejected error), graph) := by
  unfold declareType TypeDeclaration.error?
  by_cases unclear : ((declaration.className == "") == (declaration.interfaceName == "")) = true
  · rw [if_pos unclear, if_pos unclear]
    rfl
  rw [if_neg unclear, if_neg unclear]
  dsimp only
  by_cases reserved : Builtin.isReserved declaration.name = true
  · rw [if_pos reserved, if_pos reserved]
    rfl
  rw [if_neg reserved, if_neg reserved]
  by_cases known : module.types.contains declaration.name = true
  · rw [if_pos known, if_pos known]
    rfl
  rw [if_neg known, if_neg known]
  have visible : ∀ next : Visibility → Build TypeId,
      (declaredVisibility declaration.visibility >>= next).exec graph
        = declaration.visibility?.elim
            (.error (.rejected (.invalidVisibility declaration.visibility)), graph)
            fun visibility => (next visibility).exec graph := by
    intro next
    unfold declaredVisibility TypeDeclaration.visibility?
    by_cases empty : declaration.visibility = ""
    · rw [if_pos empty, if_pos empty]
      rfl
    · rw [if_neg empty, if_neg empty]
      cases Visibility.ofKeyword? declaration.visibility <;> rfl
  rw [visible]
  unfold makeStub
  cases given : declaration.visibility? with
  | none => rfl
  | some visibility =>
      rw [Option.isNone_some, if_neg Bool.false_ne_true, Option.elim_some]
      by_cases isInterface : declaration.isInterface = true
      · simp only [isInterface, if_true]
        by_cases misplaced : declaration.parent ≠ "" ∨ (!declaration.implements.isEmpty) = true
        · rw [if_pos misplaced, if_pos misplaced]
          rfl
        · rw [if_neg misplaced, if_neg misplaced]
          rfl
      · simp only [isInterface]
        by_cases misplaced : (!declaration.extended.isEmpty) = true
        · rw [if_pos misplaced, if_pos misplaced]
          rfl
        · rw [if_neg misplaced, if_neg misplaced]
          rfl

theorem makeStub_exec (room : (graph.arenaAt arena).types.length ≠ arenaCapacity)
    (module : Module) (declaration : TypeDeclaration) :
    ∃ left : Graph,
      (makeStub arena module declaration).exec graph = (.ok graph.types.size, left) ∧
        left.bare = (graph.withStub module.scope arena declaration).bare := by
  obtain ⟨next, ran, nextBare⟩ := newStub_exec room
    (if declaration.isInterface then .interfaceShape else .classShape {}) declaration.name
    module.name
    (declaration.visibility?.getD .pub) declaration.properties
    (if declaration.isInterface then .interfaceStub else .classStub)
  obtain ⟨last, finished, lastBare⟩ :=
    finishStub_exec module.scope declaration.doc nextBare rfl
  exact ⟨last, (Build.exec_bind_of_ok ran).trans finished, lastBare⟩

theorem makeStub_exec_full (full : (graph.arenaAt arena).types.length = arenaCapacity)
    (module : Module) (declaration : TypeDeclaration) :
    (makeStub arena module declaration).exec graph = (.error (.misuse "arena is full"), graph) := by
  unfold makeStub newStub
  refine Build.exec_bind_of_error ?_
  rw [Build.exec_get_bind]
  dsimp only
  rw [if_pos full]
  rfl

end Stub

/-! ## All stubs -/

/-- The pending types of some declarations, counted from the first one. -/
def pendingFrom (first : TypeId) : List TypeDeclaration → List PendingType
  | [] => []
  | declaration :: rest => { declaration, type := first } :: pendingFrom (first + 1) rest

/-- The module with the types of some declarations, counted from the first one. -/
def Module.withTypes (module : Module) (first : TypeId) : List TypeDeclaration → Module
  | [] => module
  | declaration :: rest =>
    { module with types := module.types.set declaration.name first }.withTypes (first + 1) rest

/-- The graph with the stubs of some declarations. -/
def Graph.withStubs (graph : Graph) (scope : Scope) (arena : ArenaId) :
    List TypeDeclaration → Graph
  | [] => graph
  | declaration :: rest => (graph.withStub scope arena declaration).withStubs scope arena rest

/-- The failure of the declarations of a module, of which some names are known already and for which
an arena has a number of free places. -/
def declarationsFailure? (moduleName : String) (free : Nat) (known : List String) :
    List TypeDeclaration → Option Failure
  | [] => none
  | declaration :: rest =>
    match declaration.error? (known.contains declaration.name) with
    | some error => some (.rejected (.declaration moduleName declaration.name error))
    | none =>
      if free = 0 then some (.misuse "arena is full")
      else declarationsFailure? moduleName (free - 1) (known ++ [declaration.name]) rest

section Stubs

variable {graph : Graph} {arena : ArenaId}

theorem Table.contains_eq {Value : Type} (table : Table String Value) (key : String) :
    table.contains key = table.keys.contains key := by
  rw [Bool.eq_iff_iff]
  simp only [Table.contains, Table.keys, List.any_eq_true, decide_eq_true_eq, List.contains_iff_mem,
    List.mem_map]

theorem bare_withStub {left : Graph} (same : left.bare = graph.bare) (scope : Scope)
    (arena : ArenaId) (declaration : TypeDeclaration) :
    (left.withStub scope arena declaration).bare = (graph.withStub scope arena declaration).bare :=
  congrArg (fun bare : Graph => bare.withStub scope arena declaration) same

theorem bare_withStubs {left : Graph} (same : left.bare = graph.bare) (scope : Scope)
    (arena : ArenaId) (declarations : List TypeDeclaration) :
    (left.withStubs scope arena declarations).bare
      = (graph.withStubs scope arena declarations).bare := by
  induction declarations generalizing graph left with
  | nil => exact same
  | cons declaration rest ih => exact ih (bare_withStub same scope arena declaration)

theorem length_arena_withStub (present : arena < graph.arenas.size) (scope : Scope)
    (declaration : TypeDeclaration) :
    ((graph.withStub scope arena declaration).arenaAt arena).types.length
      = (graph.arenaAt arena).types.length + 1 := by
  have types := @arenaTypes_withType graph
    (declaration.stub scope arena (graph.arenaAt arena).types.length) present arena
  rw [withStub, types]
  exact (congrArg List.length (if_pos rfl)).trans List.length_append

/-- After a stub there is room for one stub less. -/
theorem capacity_of_withStub {left : Graph} {scope : Scope} {declaration : TypeDeclaration}
    {free : Nat} (present : arena < graph.arenas.size)
    (same : left.bare = (graph.withStub scope arena declaration).bare)
    (capacity : (graph.arenaAt arena).types.length + (free + 1) = arenaCapacity) :
    arena < left.arenas.size ∧ (left.arenaAt arena).types.length + free = arenaCapacity ∧
      left.types.size = graph.types.size + 1 := by
  have arenas := arenas_eq_of_bare same
  refine ⟨?_, ?_, ?_⟩
  · rw [arenas]
    simpa [withStub] using present
  · rw [arenaAt, arenas, ← arenaAt, length_arena_withStub present]
    omega
  · rw [types_eq_of_bare same]
    simp [withStub]

theorem TypeDeclaration.error?_known (declaration : TypeDeclaration) :
    declaration.error? true ≠ none := by
  unfold TypeDeclaration.error?
  split
  · simp
  · split <;> simp

/-- The declarations of a module get their stubs in order, up to the first that is refused, or until
the arena is full. -/
theorem declareTypes_exec (declarations : List TypeDeclaration) (module : Module) {free : Nat}
    (present : arena < graph.arenas.size)
    (capacity : (graph.arenaAt arena).types.length + free = arenaCapacity) :
    ∃ made left, made.length ≤ free ∧
      (declareTypes arena module declarations).exec graph
        = ((declarationsFailure? module.name free module.types.keys declarations).elim
            (.ok (module.withTypes graph.types.size declarations,
              pendingFrom graph.types.size declarations)) .error, left) ∧
      left.bare = (graph.withStubs module.scope arena made).bare ∧
      (declarationsFailure? module.name free module.types.keys declarations = none →
        made = declarations) ∧
      ∀ error, declarationsFailure? module.name free module.types.keys declarations
        = some (.aborted error) → made.length = free := by
  -- Every stub that is made takes one of the free places and adds its name to the known ones.
  induction declarations generalizing graph module free with
  | nil =>
      exact ⟨[], graph, Nat.zero_le free, rfl, rfl, fun _ => rfl, fun _ impossible =>
        nomatch impossible⟩
  | cons declaration rest ih =>
      have checked : (declareType arena module declaration).exec graph = _ :=
        exec_declareType module declaration
      rw [Table.contains_eq] at checked
      rw [declareTypes, declarationsFailure?]
      cases found : declaration.error? (module.types.keys.contains declaration.name) with
      | some error =>
          rw [found, Option.elim_some] at checked
          refine ⟨[], graph, Nat.zero_le free, ?_, rfl, by simp, by simp⟩
          refine Build.exec_bind_of_error ?_
          rw [exec_inDeclaration, checked]
          rfl
      | none =>
          rw [found, Option.elim_none] at checked
          cases free with
          | zero =>
              rw [makeStub_exec_full capacity] at checked
              refine ⟨[], graph, Nat.zero_le 0, ?_, rfl, by simp, fun _ _ => rfl⟩
              refine Build.exec_bind_of_error ?_
              rw [exec_inDeclaration, checked]
              rfl
          | succ free =>
              dsimp only
              rw [if_neg (Nat.succ_ne_zero free), Nat.add_sub_cancel]
              have room : (graph.arenaAt arena).types.length ≠ arenaCapacity := by omega
              obtain ⟨next, ran, nextBare⟩ := makeStub_exec room module declaration
              rw [ran] at checked
              have made : (inDeclaration module.name declaration.name
                  (declareType arena module declaration)).exec graph
                  = (.ok graph.types.size, next) := by
                rw [exec_inDeclaration, checked]
                rfl
              have unknown : declaration.name ∉ module.types.keys := by
                intro known
                rw [List.contains_iff_mem.mpr known] at found
                exact declaration.error?_known found
              obtain ⟨nextPresent, grownCapacity, nextSize⟩ :=
                capacity_of_withStub present nextBare capacity
              obtain ⟨others, left, bounded, ended, leftBare, complete, full⟩ :=
                @ih next { module with types := module.types.set declaration.name graph.types.size }
                  free nextPresent grownCapacity
              rw [Table.keys_set _ unknown] at ended complete full
              refine ⟨declaration :: others, left, ?_, ?_, ?_, ?_, ?_⟩
              · exact Nat.succ_le_succ bounded
              · rw [Build.exec_bind_of_ok made, Build.exec_bind, ended, nextSize]
                cases declarationsFailure? module.name free
                  (module.types.keys ++ [declaration.name]) rest <;> rfl
              · rw [leftBare]
                exact bare_withStubs nextBare module.scope arena others
              · intro succeeded
                rw [complete succeeded]
              · intro error aborted
                rw [List.length_cons, full error aborted]

theorem Build.steps_bind {α β : Type} {allowed : Deed → Prop} {build : Build α}
    {next : α → Build β} (first : Steps allowed graph (build.exec graph).2)
    (rest : ∀ value left, build.exec graph = (.ok value, left) →
      Steps allowed left ((next value).exec left).2) :
    Steps allowed graph ((build >>= next).exec graph).2 := by
  rcases run : build.exec graph with ⟨failure | value, left⟩
  · rw [run] at first
    rw [Build.exec_bind_of_error run]
    exact first
  · rw [run] at first
    rw [Build.exec_bind_of_ok run]
    exact first.trans (rest value left run)

theorem makeStub_steps (sound : graph.Sound) (present : arena < graph.arenas.size)
    (module : Module) (declaration : TypeDeclaration) :
    Steps (· = .describe) graph ((makeStub arena module declaration).exec graph).2 := by
  by_cases full : (graph.arenaAt arena).types.length = arenaCapacity
  · rw [makeStub_exec_full full]
  obtain ⟨next, ran, nextBare⟩ := newStub_exec full
    (if declaration.isInterface then .interfaceShape else .classShape {}) declaration.name
    module.name
    (declaration.visibility?.getD .pub) declaration.properties
    (if declaration.isInterface then .interfaceStub else .classStub)
  have empty : (if declaration.isInterface then .interfaceShape else .classShape {} : TypeShape)
      = .classShape {} ∨
      (if declaration.isInterface then .interfaceShape else .classShape {} : TypeShape)
        = .interfaceShape := by
    split
    · exact .inr rfl
    · exact .inl rfl
  have stub := newStub_step sound present empty declaration.name module.name
    (declaration.visibility?.getD .pub) declaration.properties
    (if declaration.isInterface then .interfaceStub else .classStub)
  have described : ∀ (graph : Graph) (old : NominalType) scope docString,
      graph.Described old { old with scope, docString } := fun _ _ _ _ =>
    ⟨⟨rfl, rfl, rfl, rfl, rfl, rfl, rfl⟩, rfl, fun _ => rfl, rfl, .inl rfl, rfl,
      fun _ listed => .inl listed⟩
  refine Build.steps_bind (.single stub) ?_
  intro type left made
  rw [ran] at made
  cases made
  rw [ran] at stub
  have nextPresent : graph.types.size < next.types.size := by
    rw [types_eq_of_bare nextBare]
    simp
  have first := changeType_step stub.sound nextPresent .setScope
    (.describe ({ · with scope := some module.scope }) (described next _ _ _))
  refine Build.steps_bind (.single first) ?_
  intro _ left scopeSet
  have scopeStep : Step (· = .describe) next ((setScope graph.types.size
    (some module.scope)).exec next).2 := first
  rw [scopeSet] at scopeStep
  have leftPresent : graph.types.size < left.types.size :=
    Nat.lt_of_lt_of_le nextPresent scopeStep.keepsSealed.grows
  have second := changeType_step scopeStep.sound leftPresent .setDocumentation
    (.describe ({ · with docString := declaration.doc }) (described left _ _ _))
  exact Build.steps_bind (.single second) fun _ _ _ => .refl

theorem arenaCount_makeStub (module : Module) (declaration : TypeDeclaration) :
    ((makeStub arena module declaration).exec graph).2.arenas.size = graph.arenas.size := by
  by_cases full : (graph.arenaAt arena).types.length = arenaCapacity
  · rw [makeStub_exec_full full]
  · obtain ⟨left, made, same⟩ := makeStub_exec full module declaration
    rw [made, arenas_eq_of_bare same]
    simp [withStub]

/-- However the making of stubs ends, it consists of steps. -/
theorem declareTypes_steps (sound : graph.Sound) (present : arena < graph.arenas.size)
    (module : Module) (declarations : List TypeDeclaration) :
    Steps (· = .describe) graph ((declareTypes arena module declarations).exec graph).2 := by
  induction declarations generalizing graph module with
  | nil => exact .refl
  | cons declaration rest ih =>
      have stub : Steps (· = .describe) graph ((inDeclaration module.name declaration.name
            (declareType arena module declaration)).exec graph).2 ∧
          ((inDeclaration module.name declaration.name
            (declareType arena module declaration)).exec graph).2.arenas.size
              = graph.arenas.size := by
        rw [exec_inDeclaration, exec_declareType]
        cases declaration.error? (module.types.contains declaration.name) with
        | some error => exact ⟨.refl, rfl⟩
        | none =>
            exact ⟨makeStub_steps sound present module declaration,
              arenaCount_makeStub module declaration⟩
      rw [declareTypes]
      refine Build.steps_bind stub.1 ?_
      intro type left made
      rw [made] at stub
      have leftPresent : arena < left.arenas.size := stub.2.symm ▸ present
      refine Build.steps_bind (ih (stub.1.sound sound) leftPresent _) ?_
      intro _ _ _
      exact .refl

/-! ## What the stubs look like -/

theorem size_withStub (scope : Scope) (declaration : TypeDeclaration) :
    (graph.withStub scope arena declaration).types.size = graph.types.size + 1 := by
  simp [withStub]

theorem size_withStubs (scope : Scope) (declarations : List TypeDeclaration) :
    (graph.withStubs scope arena declarations).types.size
      = graph.types.size + declarations.length := by
  induction declarations generalizing graph with
  | nil => rfl
  | cons declaration rest ih =>
      rw [withStubs, ih, size_withStub, List.length_cons]
      omega

theorem typeAt_withStubs_old (scope : Scope) (declarations : List TypeDeclaration) {type : TypeId}
    (old : type < graph.types.size) :
    (graph.withStubs scope arena declarations).typeAt type = graph.typeAt type := by
  induction declarations generalizing graph with
  | nil => rfl
  | cons declaration rest ih =>
      have stillOld : type < (graph.withStub scope arena declaration).types.size := by
        rw [size_withStub]
        exact Nat.lt_succ_of_lt old
      rw [withStubs, ih stillOld, withStub, typeAt_withType_of_ne (Nat.ne_of_lt old)]

theorem typeAt_withStubs_new (present : arena < graph.arenas.size) (scope : Scope)
    {declarations : List TypeDeclaration} {place : Nat} {declaration : TypeDeclaration}
    (found : declarations[place]? = some declaration) :
    (graph.withStubs scope arena declarations).typeAt (graph.types.size + place)
      = declaration.stub scope arena ((graph.arenaAt arena).types.length + place) := by
  induction declarations generalizing graph place with
  | nil => simp at found
  | cons first rest ih =>
      have arenas : arena < (graph.withStub scope arena first).arenas.size := by
        simpa [withStub] using present
      cases place with
      | zero =>
          cases found
          have old : graph.types.size < (graph.withStub scope arena declaration).types.size := by
            rw [size_withStub]
            exact Nat.lt_succ_self _
          rw [withStubs, Nat.add_zero, typeAt_withStubs_old _ _ old, withStub, typeAt_withType_self,
            Nat.add_zero]
      | succ place =>
          have later := ih arenas found
          rw [size_withStub, length_arena_withStub present] at later
          rw [withStubs,
            show graph.types.size + (place + 1) = graph.types.size + 1 + place by omega,
            later]
          congr 1
          omega

theorem members_withStubs (scope : Scope) (declarations : List TypeDeclaration) :
    (graph.withStubs scope arena declarations).members = graph.members := by
  induction declarations generalizing graph with
  | nil => rfl
  | cons declaration rest ih =>
      rw [withStubs, ih]
      rfl

/-- Stubs change the arenas in the list of their types only. -/
theorem arenaAt_withStubs (scope : Scope) (declarations : List TypeDeclaration)
    (asked : ArenaId) :
    ((graph.withStubs scope arena declarations).arenaAt asked).settings
        = (graph.arenaAt asked).settings ∧
      ((graph.withStubs scope arena declarations).arenaAt asked).arrays
        = (graph.arenaAt asked).arrays := by
  induction declarations generalizing graph with
  | nil => exact ⟨rfl, rfl⟩
  | cons declaration rest ih =>
      have one := arenaAt_withType graph
        (declaration.stub scope arena (graph.arenaAt arena).types.length) asked
      rw [withStubs]
      exact ⟨ih.1.trans one.1, ih.2.trans one.2⟩

theorem arenaCount_withStubs (scope : Scope) (declarations : List TypeDeclaration) :
    (graph.withStubs scope arena declarations).arenas.size = graph.arenas.size := by
  induction declarations generalizing graph with
  | nil => rfl
  | cons declaration rest ih =>
      rw [withStubs, ih]
      simp [withStub]

theorem length_arena_withStubs (present : arena < graph.arenas.size) (scope : Scope)
    (declarations : List TypeDeclaration) :
    ((graph.withStubs scope arena declarations).arenaAt arena).types.length
      = (graph.arenaAt arena).types.length + declarations.length := by
  induction declarations generalizing graph with
  | nil => rfl
  | cons declaration rest ih =>
      have stillPresent : arena < (graph.withStub scope arena declaration).arenas.size := by
        simpa [withStub] using present
      rw [withStubs, ih stillPresent, length_arena_withStub present, List.length_cons]
      omega

theorem progressCount_withStubs (inStep : graph.progress.size = graph.types.size) (scope : Scope)
    (declarations : List TypeDeclaration) :
    (graph.withStubs scope arena declarations).progress.size
      = (graph.withStubs scope arena declarations).types.size := by
  induction declarations generalizing graph with
  | nil => exact inStep
  | cons declaration rest ih =>
      have grown : (graph.withStub scope arena declaration).progress.size
          = (graph.withStub scope arena declaration).types.size := by
        simp [withStub, withType, inStep]
      exact ih grown

theorem progressAt_withStubs (scope : Scope) (declarations : List TypeDeclaration)
    (type : TypeId) :
    (graph.withStubs scope arena declarations).progressAt type = graph.progressAt type := by
  induction declarations generalizing graph with
  | nil => rfl
  | cons declaration rest ih => rw [withStubs, ih, withStub, progressAt_withType]

theorem getElem?_pendingFrom (first : TypeId) (declarations : List TypeDeclaration) (place : Nat) :
    (pendingFrom first declarations)[place]?
      = declarations[place]?.map fun declaration => ⟨declaration, first + place⟩ := by
  induction declarations generalizing first place with
  | nil => simp [pendingFrom]
  | cons declaration rest ih =>
      cases place with
      | zero => simp [pendingFrom]
      | succ place =>
          rw [pendingFrom, List.getElem?_cons_succ, List.getElem?_cons_succ, ih]
          simp only [Nat.add_assoc, Nat.add_comm 1]

/-- Declarations that are accepted have names that are new and different. -/
theorem nodup_of_declarationsFailure? {moduleName : String} {free : Nat} {known : List String}
    {declarations : List TypeDeclaration} (distinct : known.Nodup)
    (accepted : declarationsFailure? moduleName free known declarations = none) :
    (known ++ declarations.map (·.name)).Nodup := by
  induction declarations generalizing free known with
  | nil => simpa using distinct
  | cons declaration rest ih =>
      rw [declarationsFailure?] at accepted
      cases found : declaration.error? (known.contains declaration.name) with
      | some error =>
          rw [found] at accepted
          cases accepted
      | none =>
          rw [found] at accepted
          dsimp only at accepted
          split at accepted
          · cases accepted
          · have fresh : declaration.name ∉ known := by
              intro listed
              rw [List.contains_iff_mem.mpr listed] at found
              exact declaration.error?_known found
            have grown := ih (distinct.append (List.nodup_singleton _) (by simpa using fresh))
              accepted
            simpa using grown

theorem entries_withTypes {module : Module} (first : TypeId) {declarations : List TypeDeclaration}
    (distinct : (module.types.keys ++ declarations.map (·.name)).Nodup) :
    (module.withTypes first declarations).types.entries
      = module.types.entries
        ++ (pendingFrom first declarations).map fun entry =>
            (entry.declaration.name, entry.type) := by
  induction declarations generalizing module first with
  | nil => simp [Module.withTypes, pendingFrom]
  | cons declaration rest ih =>
      have fresh : declaration.name ∉ module.types.keys := by
        intro listed
        rw [List.nodup_append] at distinct
        exact distinct.2.2 _ listed _ (by simp) rfl
      rw [Module.withTypes, ih, pendingFrom, List.map_cons, Table.entries_set first fresh,
        List.append_assoc]
      · rfl
      · rw [Table.keys_set first fresh]
        simpa using distinct

end Stubs

end Nominal
