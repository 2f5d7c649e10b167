import Nominal.Proofs.Outcomes
import Nominal.Proofs.Runs

/-!
# Deferred builds

Sealing a type starts its deferred build, which may seal other types and so start theirs.
`Graph.hookRuns` lists the deferred builds that an attempt to seal a type starts, each with the
graph in which it starts and with the way it ends.

Along every run of operations a type has its deferred build started at most once, when everything
above it is sealed, and a type whose deferred build was refused is never sealed.  A deferred build
that aborts leaves no mark, so a type can be sealed after its deferred build has aborted.
-/

namespace Nominal

/-! ## The deferred builds that are started -/

/-- What a deferred build does when it is started. -/
def HookAction.run (depth : Nat) (type : TypeId) : HookAction → Build Unit
  | .succeed => return ()
  | .fail error => reject error
  | .raise printed => reject (.external printed)
  | .abort error => throw (.aborted error)
  | .addMember member => declareMember type member false
  | .sealSelf => sealWithin depth type
  | .sealOther other => sealWithin depth other

/-- The types that a deferred build tries to seal. -/
def HookAction.sealed? (type : TypeId) : HookAction → Option TypeId
  | .sealSelf => some type
  | .sealOther other => some other
  | _ => none

/-- A deferred build that was started: its record, the graph in which it started, and its end. -/
structure HookRun where
  call : HookCall
  start : Graph
  outcome : Except Failure Unit

namespace Graph

/-- The deferred build of a type has been started. -/
def hasBegun (graph : Graph) (type : TypeId) : Bool :=
  (graph.progressAt type).isPreInitialized

/-- The failure of the deferred build of a type. -/
def failureOf? (graph : Graph) (type : TypeId) : Option Error :=
  (graph.progressAt type).failure

/-- The deferred build that an attempt to seal a type starts. -/
def dueHook? (graph : Graph) (type : TypeId) : Option (Nat × HookAction) :=
  if graph.isSealed type || (graph.failureOf? type).isSome || (graph.sealError? type).isSome
      || graph.hasBegun type then none
  else
    match (graph.typeAt type).implementation with
    | some (.deferred serial action) => some (serial, action)
    | _ => none

/-- Records that the deferred build of a type starts. -/
def withHookCall (graph : Graph) (serial : Nat) (type : TypeId) : Graph :=
  { graph.modifyProgress type ({ · with isPreInitialized := true }) with
    hookCalls := graph.hookCalls ++ [{ serial, type, state := (graph.typeAt type).state }] }

/-- The deferred builds that an attempt to seal a type starts, in order. -/
def hookRuns : Nat → TypeId → Graph → List HookRun
  | 0, _, _ => []
  | depth + 1, type, graph =>
    match graph.dueHook? type with
    | none => []
    | some (serial, action) =>
      let start := graph.withHookCall serial type
      let own : HookRun :=
        { call := { serial, type, state := (graph.typeAt type).state }
          start
          outcome := ((action.run depth type).exec start).1 }
      own :: (action.sealed? type).elim [] fun target => hookRuns depth target start

end Graph

/-- The deferred builds that an operation starts. -/
def Operation.hookRuns (graph : Graph) : Operation → List HookRun
  | sealType type | finishBuild type true => Graph.hookRuns (graph.types.size + 2) type graph
  | _ => []

/-- The deferred builds that a run of operations starts. -/
def Graph.hookRunsDuring (graph : Graph) : List Operation → List HookRun
  | [] => []
  | operation :: rest => operation.hookRuns graph ++ (operation.perform graph).hookRunsDuring rest

namespace Graph

variable {graph middle left last : Graph} {type : TypeId} {runs later : List HookRun}

/-! ## What stays as it is -/

/-- No deferred build is started or ends, and nothing gets sealed. -/
structure Rests (graph left : Graph) : Prop where
  calls : left.hookCalls = graph.hookCalls
  begun : ∀ type, left.hasBegun type = graph.hasBegun type
  failures : ∀ type, left.failureOf? type = graph.failureOf? type
  isSealed : ∀ type, left.isSealed type = graph.isSealed type
  inStep : graph.progress.size = graph.types.size → left.progress.size = left.types.size

namespace Rests

theorem refl (graph : Graph) : graph.Rests graph :=
  ⟨rfl, fun _ => rfl, fun _ => rfl, fun _ => rfl, id⟩

theorem trans (early : graph.Rests middle) (late : middle.Rests left) : graph.Rests left :=
  ⟨late.calls.trans early.calls, fun type => (late.begun type).trans (early.begun type),
    fun type => (late.failures type).trans (early.failures type),
    fun type => (late.isSealed type).trans (early.isSealed type),
    fun inStep => late.inStep (early.inStep inStep)⟩

/-- The progress of all builds is as before. -/
theorem of_progress (calls : left.hookCalls = graph.hookCalls)
    (progress : ∀ type, left.progressAt type = graph.progressAt type)
    (isSealed : ∀ type, left.isSealed type = graph.isSealed type)
    (inStep : graph.progress.size = graph.types.size → left.progress.size = left.types.size) :
    graph.Rests left :=
  ⟨calls, fun type => by rw [hasBegun, progress, hasBegun],
    fun type => by rw [failureOf?, progress, failureOf?], isSealed, inStep⟩

theorem of_bare (same : left.bare = graph.bare) : graph.Rests left := by
  have calls : left.hookCalls = graph.hookCalls :=
    eq_of_bare_eq Graph.hookCalls same fun _ => rfl
  refine .of_progress calls ?_ (isSealed_eq_of_bare same) ?_
  · intro type
    rw [progressAt, progress_eq_of_bare same, progressAt]
  · rw [progress_eq_of_bare same, types_eq_of_bare same]
    exact id

end Rests

/-- A change that completes nothing lets all deferred builds rest. -/
theorem Change.rests {deed : Deed} (changed : graph.Change deed left)
    (incomplete : deed ≠ .complete) : graph.Rests left := by
  cases changed with
  | openArena | intern | create => exact .of_progress rfl (fun _ => rfl) (fun _ => rfl) id
  | allocate =>
      refine .of_progress rfl (progressAt_withType graph _) (isSealed_withType rfl) ?_
      intro inStep
      simp [withType, inStep]
  | start | fail | callHook => exact absurd rfl incomplete
  | reform type deed change present isOpen checked =>
      refine .of_progress rfl (fun _ => rfl) ?_ ?_
      · exact isSealed_modifyType ((checked.isSealed incomplete isOpen).trans isOpen.symm)
      · rw [size_modifyType]
        exact id
  | declare type member place present isOpen adoptable checked =>
      refine .of_progress rfl (fun _ => rfl) ?_ ?_
      · exact isSealed_modifyType ((checked.isSealed isOpen).trans isOpen.symm)
      · simp [withAdopted, withOwner, modifyMember, modifyType]

theorem Step.rests {allowed : Deed → Prop} (step : Step allowed graph left)
    (incomplete : ∀ deed, allowed deed → deed ≠ .complete) : graph.Rests left := by
  rcases step.effect with same | ⟨deed, changed, permitted, change, same⟩
  · exact .of_bare same
  · exact (change.rests (incomplete deed permitted)).trans (.of_bare same)

theorem Steps.rests {allowed : Deed → Prop} (steps : Steps allowed graph left)
    (incomplete : ∀ deed, allowed deed → deed ≠ .complete) : graph.Rests left := by
  induction steps with
  | refl => exact .refl graph
  | tail _ step ih => exact ih.trans (step.rests incomplete)

/-! ## What starting deferred builds does -/

/-- The failure of a deferred build is known only after it has been started, and the type is not
sealed. -/
structure Settled (graph : Graph) : Prop where
  inStep : graph.progress.size = graph.types.size
  begun : ∀ {type failure}, graph.failureOf? type = some failure → graph.hasBegun type = true
  isOpen : ∀ {type failure}, graph.failureOf? type = some failure → graph.isSealed type = false

/-- From one graph to another the listed deferred builds were started, each of them for the first
time and below sealed types, and the failures are kept of those that were refused. -/
structure Starts (graph left : Graph) (runs : List HookRun) : Prop where
  calls : left.hookCalls = graph.hookCalls ++ runs.map (·.call)
  kept : ∀ {type}, graph.hasBegun type = true →
    left.hasBegun type = true ∧ left.failureOf? type = graph.failureOf? type
  fresh : ∀ run ∈ runs, graph.hasBegun run.call.type = false
  begun : ∀ run ∈ runs, left.hasBegun run.call.type = true
  distinct : (runs.map (·.call.type)).Nodup
  prepared : ∀ run ∈ runs, ∀ supertype ∈ run.start.supertypesOf run.call.type,
    run.start.isSealed supertype = true
  refused : ∀ run ∈ runs, ∀ error, run.outcome = .error (.rejected error) →
    (left.failureOf? run.call.type).isSome = true

theorem Starts.nothing (calls : left.hookCalls = graph.hookCalls)
    (kept : ∀ {type}, graph.hasBegun type = true →
      left.hasBegun type = true ∧ left.failureOf? type = graph.failureOf? type) :
    graph.Starts left [] where
  calls := by rw [calls, List.map_nil, List.append_nil]
  kept := kept
  fresh := by simp
  begun := by simp
  distinct := List.nodup_nil
  prepared := by simp
  refused := by simp

theorem Rests.starts (rests : graph.Rests left) : graph.Starts left [] :=
  .nothing rests.calls fun begun => ⟨(rests.begun _).trans begun, rests.failures _⟩

theorem Rests.settled (rests : graph.Rests left) (settled : graph.Settled) : left.Settled where
  inStep := rests.inStep settled.inStep
  begun {type _} failed := by
    rw [rests.begun]
    exact settled.begun ((rests.failures type).symm.trans failed)
  isOpen {type _} failed := by
    rw [rests.isSealed]
    exact settled.isOpen ((rests.failures type).symm.trans failed)

namespace Starts

theorem trans (early : graph.Starts middle runs) (late : middle.Starts left later) :
    graph.Starts left (runs ++ later) where
  calls := by rw [late.calls, early.calls, List.map_append, List.append_assoc]
  kept begun :=
    have first := early.kept begun
    have second := late.kept first.1
    ⟨second.1, second.2.trans first.2⟩
  fresh run listed := by
    rcases List.mem_append.mp listed with old | new
    · exact early.fresh run old
    · have unbegun := late.fresh run new
      rw [Bool.eq_false_iff] at unbegun ⊢
      exact fun begun => unbegun (early.kept begun).1
  begun run listed := by
    rcases List.mem_append.mp listed with old | new
    · exact (late.kept (early.begun run old)).1
    · exact late.begun run new
  distinct := by
    rw [List.map_append, List.nodup_append]
    refine ⟨early.distinct, late.distinct, ?_⟩
    intro type old other new equal
    obtain ⟨run, listed, rfl⟩ := List.mem_map.mp old
    obtain ⟨second, secondListed, rfl⟩ := List.mem_map.mp new
    have begun := early.begun run listed
    rw [equal, late.fresh second secondListed] at begun
    cases begun
  prepared run listed := by
    rcases List.mem_append.mp listed with old | new
    · exact early.prepared run old
    · exact late.prepared run new
  refused run listed error ended := by
    rcases List.mem_append.mp listed with old | new
    · rw [(late.kept (early.begun run old)).2]
      exact early.refused run old error ended
    · exact late.refused run new error ended

end Starts

/-! ## What an attempt to seal a type can do -/

/-- What follows from the end of a deferred build: the type is frozen, the failure is kept, or the
attempt aborts. -/
def concludeHook (type : TypeId) : Except Failure Unit × Graph → Except Failure Unit × Graph
  | (.ok _, left) => (freeze type).exec left
  | (.error (.rejected cause), left) =>
    (.error (.rejected (.preInitialization type cause)),
      left.modifyProgress type ({ · with failure := some (.preInitialization type cause) }))
  | (.error (.aborted error), left) => (.error (.aborted error), left)

theorem exec_finishHook (run : Build Unit) (graph : Graph) :
    Build.exec (do
      let outcome ← recoverHook run
      match outcome with
      | some cause =>
        let failure := Error.preInitialization type cause
        modify (·.modifyProgress type ({ · with failure := some failure }))
        reject failure
      | none => freeze type) graph = concludeHook type (run.exec graph) := by
  rw [Build.exec_bind, exec_recoverHook]
  rcases run.exec graph with ⟨failure | _, left⟩
  · cases failure <;> rfl
  · rfl

/-- A deferred build is due. -/
structure Due (graph : Graph) (type : TypeId) (serial : Nat) (action : HookAction) : Prop where
  isOpen : graph.isSealed type = false
  unfailed : graph.failureOf? type = none
  ready : graph.sealError? type = none
  unbegun : graph.hasBegun type = false
  implementation : (graph.typeAt type).implementation = some (.deferred serial action)

theorem dueHook?_eq_some_iff {serial : Nat} {action : HookAction} :
    graph.dueHook? type = some (serial, action) ↔ graph.Due type serial action := by
  unfold dueHook?
  constructor
  · intro due
    split at due
    · cases due
    next fits =>
      simp only [Bool.or_eq_true, not_or, Bool.not_eq_true, Option.isSome_eq_false_iff,
        Option.isNone_iff_eq_none] at fits
      split at due
      next _ _ implementation =>
        cases due
        exact ⟨fits.1.1.1, fits.1.1.2, fits.1.2, fits.2, implementation⟩
      next => cases due
  · rintro ⟨isOpen, unfailed, ready, unbegun, implementation⟩
    simp [isOpen, unfailed, ready, unbegun, implementation]

/-- An attempt to seal a type fails at once, or freezes the type, or starts its deferred build. -/
theorem sealWithin_succ_cases (depth : Nat) (graph : Graph) (type : TypeId) :
    (graph.dueHook? type = none ∧
        ∃ failure, (sealWithin (depth + 1) type).exec graph = (.error failure, graph)) ∨
      (graph.dueHook? type = none ∧ graph.failureOf? type = none ∧ ∃ begun,
        (begun = graph ∨ begun = graph.modifyProgress type ({ · with isPreInitialized := true })) ∧
          (sealWithin (depth + 1) type).exec graph = (freeze type).exec begun) ∨
      ∃ serial action, graph.dueHook? type = some (serial, action) ∧
        (sealWithin (depth + 1) type).exec graph
          = concludeHook type ((action.run depth type).exec (graph.withHookCall serial type)) := by
  unfold sealWithin
  rw [exec_requireUnsealed_bind]
  split
  next isFinal => exact .inl ⟨by simp [dueHook?, isFinal], _, rfl⟩
  next isOpen =>
    rw [Build.exec_get_bind]
    dsimp only
    cases failed : (graph.progressAt type).failure with
    | some failure => exact .inl ⟨by simp [dueHook?, failureOf?, failed], _, rfl⟩
    | none =>
        cases refused : graph.sealError? type with
        | some error => exact .inl ⟨by simp [dueHook?, refused], _, rfl⟩
        | none =>
            dsimp only
            split
            next begun =>
              exact .inr (.inl ⟨by simp [dueHook?, hasBegun, begun], failed, graph, .inl rfl, rfl⟩)
            next unbegun =>
              rw [Build.exec_modify_bind]
              split
              next serial action implementation =>
                refine .inr (.inr ⟨serial, action, dueHook?_eq_some_iff.mpr
                  ⟨Bool.eq_false_iff.mpr isOpen, failed, refused, Bool.eq_false_iff.mpr unbegun,
                    implementation⟩, ?_⟩)
                rw [Build.exec_modify_bind]
                refine (exec_finishHook _ _).trans ?_
                cases action <;> rfl
              next plain =>
                refine .inr (.inl ⟨?_, failed, _, .inr rfl, rfl⟩)
                unfold dueHook?
                split
                · rfl
                · split
                  next serial action implementation => exact absurd implementation (plain _ _)
                  next => rfl

/-! ## The progress of a build -/

section Progress

variable {other : TypeId}

/-- The start of a deferred build is the only change of its type. -/
theorem hasBegun_begin :
    (graph.modifyProgress type ({ · with isPreInitialized := true })).hasBegun other = true ↔
      graph.hasBegun other = true ∨ other = type ∧ type < graph.progress.size := by
  unfold hasBegun
  by_cases present : type < graph.progress.size
  · by_cases here : other = type
    · simp [here, present, progressAt_modifyProgress_self present]
    · simp [here, progressAt_modifyProgress_of_ne here]
  · rw [modifyProgress_of_size_le (Nat.le_of_not_lt present)]
    simp [present]

theorem failureOf?_begin :
    (graph.modifyProgress type ({ · with isPreInitialized := true })).failureOf? other
      = graph.failureOf? other :=
  progress_modifyProgress BuildProgress.failure fun _ => rfl

theorem Settled.begin (settled : graph.Settled) (type : TypeId) :
    (graph.modifyProgress type ({ · with isPreInitialized := true })).Settled where
  inStep := by simpa [modifyProgress] using settled.inStep
  begun failed := hasBegun_begin.mpr (.inl (settled.begun (failureOf?_begin ▸ failed)))
  isOpen failed := settled.isOpen (failureOf?_begin ▸ failed)

theorem hasBegun_fail (failure : Error) (other : TypeId) :
    (graph.modifyProgress type ({ · with failure := some failure })).hasBegun other
      = graph.hasBegun other :=
  progress_modifyProgress BuildProgress.isPreInitialized fun _ => rfl

/-- The build of an open type that has begun may fail. -/
theorem Settled.fail (settled : graph.Settled) (begun : graph.hasBegun type = true)
    (isOpen : graph.isSealed type = false) (failure : Error) :
    (graph.modifyProgress type ({ · with failure := some failure })).Settled := by
  have failed : ∀ {other known}, (graph.modifyProgress type
      ({ · with failure := some failure })).failureOf? other = some known →
        other = type ∨ graph.failureOf? other = some known := by
    intro other known failed
    by_cases here : other = type
    · exact .inl here
    · rw [failureOf?, progressAt_modifyProgress_of_ne here] at failed
      exact .inr failed
  constructor
  · simpa [modifyProgress] using settled.inStep
  · intro other known isFailed
    rw [hasBegun_fail]
    rcases failed isFailed with rfl | before
    · exact begun
    · exact settled.begun before
  · intro other known isFailed
    rcases failed isFailed with rfl | before
    · exact isOpen
    · exact settled.isOpen before

theorem starts_begin (type : TypeId) :
    graph.Starts (graph.modifyProgress type ({ · with isPreInitialized := true })) [] :=
  .nothing rfl fun begun => ⟨hasBegun_begin.mpr (.inl begun), failureOf?_begin⟩

end Progress

/-! ## What an attempt to seal a type does -/

/-- What an attempt to seal a type does that ends in some way: it starts the listed deferred builds,
and it seals nothing unless it succeeds. -/
structure Attempt (graph : Graph) (ended : Except Failure Unit × Graph) (runs : List HookRun) :
    Prop where
  starts : graph.Starts ended.2 runs
  settled : ended.2.Settled
  isSealed : ∀ failure, ended.1 = .error failure →
    ∀ type, ended.2.isSealed type = graph.isSealed type

theorem Rests.attempt {outcome : Except Failure Unit} (rests : graph.Rests left)
    (settled : graph.Settled) : graph.Attempt (outcome, left) [] :=
  ⟨rests.starts, rests.settled settled, fun _ _ => rests.isSealed⟩

/-- Freezing a type that has not failed succeeds, and leaves the progress of all builds alone. -/
theorem freeze_attempt (settled : graph.Settled) (unfailed : graph.failureOf? type = none) :
    graph.Attempt ((freeze type).exec graph) [] ∧ ((freeze type).exec graph).1 = .ok () ∧
      ((freeze type).exec graph).2.hookCalls = graph.hookCalls ∧
      ∀ other, ((freeze type).exec graph).2.progressAt other = graph.progressAt other := by
  have ends := freeze_ends graph type
  have outcome : ((freeze type).exec graph).1 = .ok () := ends.outcome
  have same : ((freeze type).exec graph).2.bare
      = (graph.modifyType type ({ · with state := .frozen })).bare := ends.left
  have rests := Rests.of_bare same
  have progress : ∀ other,
      ((freeze type).exec graph).2.progressAt other = graph.progressAt other := by
    intro other
    rw [progressAt, progress_eq_of_bare same]
    rfl
  refine ⟨⟨.nothing rests.calls ?_, ?_, ?_⟩, outcome, rests.calls, progress⟩
  · intro other begun
    rw [hasBegun, failureOf?, progress]
    exact ⟨begun, rfl⟩
  · constructor
    · rw [progress_eq_of_bare same, types_eq_of_bare same, size_modifyType]
      exact settled.inStep
    · intro other failure failed
      rw [failureOf?, progress] at failed
      rw [hasBegun, progress]
      exact settled.begun failed
    · intro other failure failed
      rw [failureOf?, progress] at failed
      rw [rests.isSealed]
      have different : other ≠ type := by
        rintro rfl
        rw [failureOf?] at unfailed
        rw [unfailed] at failed
        cases failed
      rw [Graph.isSealed, typeAt_modifyType_of_ne different]
      exact settled.isOpen failed
  · intro failure ended
    rw [outcome] at ended
    cases ended

section Due

variable {serial : Nat} {action : HookAction} {outcome : Except Failure Unit}

theorem Due.present (due : graph.Due type serial action) (settled : graph.Settled) :
    type < graph.progress.size := by
  rw [settled.inStep]
  apply Nat.lt_of_not_le
  intro absent
  have implementation := due.implementation
  rw [typeAt_of_size_le absent] at implementation
  cases implementation

theorem hasBegun_withHookCall {other : TypeId} :
    (graph.withHookCall serial type).hasBegun other = true ↔
      graph.hasBegun other = true ∨ other = type ∧ type < graph.progress.size :=
  hasBegun_begin

theorem failureOf?_withHookCall {other : TypeId} :
    (graph.withHookCall serial type).failureOf? other = graph.failureOf? other :=
  failureOf?_begin

theorem Settled.withHookCall (settled : graph.Settled) (serial : Nat) (type : TypeId) :
    (graph.withHookCall serial type).Settled :=
  ⟨(settled.begin type).inStep, (settled.begin type).begun, (settled.begin type).isOpen⟩

/-- A deferred build that ends with the given outcome starts itself, and whatever is started while
it runs. -/
theorem Due.starts (due : graph.Due type serial action) (settled : graph.Settled)
    (nested : (graph.withHookCall serial type).Starts middle runs)
    (calls : left.hookCalls = middle.hookCalls)
    (others : ∀ other, other ≠ type → left.progressAt other = middle.progressAt other)
    (begun : left.hasBegun type = middle.hasBegun type)
    (refused : ∀ error, outcome = .error (.rejected error) →
      (left.failureOf? type).isSome = true) :
    graph.Starts left
      ({ call := { serial, type, state := (graph.typeAt type).state }
         start := graph.withHookCall serial type
         outcome } :: runs) := by
  have typeBegun : (graph.withHookCall serial type).hasBegun type = true :=
    hasBegun_withHookCall.mpr (.inr ⟨rfl, due.present settled⟩)
  have apart : ∀ run ∈ runs, run.call.type ≠ type := by
    intro run listed equal
    have unbegun := nested.fresh run listed
    rw [equal, typeBegun] at unbegun
    cases unbegun
  constructor
  · rw [calls, nested.calls, withHookCall, List.map_cons, List.append_assoc]
    rfl
  · intro other otherBegun
    have different : other ≠ type := by
      rintro rfl
      rw [due.unbegun] at otherBegun
      cases otherBegun
    rw [hasBegun, failureOf?, others other different]
    obtain ⟨stillBegun, sameFailure⟩ := nested.kept (hasBegun_withHookCall.mpr (.inl otherBegun))
    exact ⟨stillBegun, sameFailure.trans failureOf?_withHookCall⟩
  · intro run listed
    rcases List.mem_cons.mp listed with rfl | inner
    · exact due.unbegun
    · have unbegun := nested.fresh run inner
      rw [Bool.eq_false_iff] at unbegun ⊢
      exact fun begunBefore => unbegun (hasBegun_withHookCall.mpr (.inl begunBefore))
  · intro run listed
    rcases List.mem_cons.mp listed with rfl | inner
    · exact begun.trans (nested.kept typeBegun).1
    · rw [hasBegun, others _ (apart run inner)]
      exact nested.begun run inner
  · rw [List.map_cons, List.nodup_cons]
    refine ⟨?_, nested.distinct⟩
    intro again
    obtain ⟨run, listed, equal⟩ := List.mem_map.mp again
    exact apart run listed equal
  · intro run listed
    rcases List.mem_cons.mp listed with rfl | inner
    · intro supertype above
      exact sealedAbove_of_sealError? due.ready above
    · exact nested.prepared run inner
  · intro run listed error ended
    rcases List.mem_cons.mp listed with rfl | inner
    · exact refused error ended
    · rw [failureOf?, others _ (apart run inner)]
      exact nested.refused run inner error ended

/-- An attempt to seal a type with a deferred build ends as the end of the build demands. -/
theorem Due.attempt (due : graph.Due type serial action) (settled : graph.Settled)
    {ended : Except Failure Unit × Graph}
    (nested : (graph.withHookCall serial type).Attempt ended runs) :
    graph.Attempt (concludeHook type ended)
      ({ call := { serial, type, state := (graph.typeAt type).state }
         start := graph.withHookCall serial type
         outcome := ended.1 } :: runs) := by
  have typeBegun : (graph.withHookCall serial type).hasBegun type = true :=
    hasBegun_withHookCall.mpr (.inr ⟨rfl, due.present settled⟩)
  obtain ⟨middleBegun, middleFailure⟩ := nested.starts.kept typeBegun
  have unfailed : ended.2.failureOf? type = none :=
    middleFailure.trans (failureOf?_withHookCall.trans due.unfailed)
  have present : type < ended.2.progress.size := by
    apply Nat.lt_of_not_le
    intro absent
    rw [hasBegun, progressAt, Array.getElem?_eq_none absent] at middleBegun
    cases middleBegun
  obtain ⟨outcome, middle⟩ := ended
  cases outcome with
  | ok =>
      obtain ⟨frozen, succeeded, calls, progress⟩ := freeze_attempt nested.settled unfailed
      refine ⟨?_, frozen.settled, ?_⟩
      · refine due.starts settled nested.starts calls (fun other _ => progress other) ?_ ?_
        · rw [hasBegun, concludeHook, progress, hasBegun]
        · intro error ended
          cases ended
      · intro failure ended other
        rw [concludeHook, succeeded] at ended
        cases ended
  | error failure =>
      have isSealed := nested.isSealed _ rfl
      cases failure with
      | aborted error =>
          refine ⟨?_, nested.settled, fun _ _ => isSealed⟩
          refine due.starts settled nested.starts rfl (fun _ _ => rfl) rfl ?_
          intro error ended
          cases ended
      | rejected cause =>
          refine ⟨due.starts settled nested.starts rfl
            (fun _ different => progressAt_modifyProgress_of_ne different)
            (hasBegun_fail _ type) ?_,
            nested.settled.fail middleBegun ((isSealed type).trans due.isOpen) _,
            fun _ _ => isSealed⟩
          intro error _
          rw [concludeHook, failureOf?, progressAt_modifyProgress_self present]
          rfl

end Due

theorem Attempt.of_begin {ended : Except Failure Unit × Graph}
    (attempt : (graph.modifyProgress type ({ · with isPreInitialized := true })).Attempt ended
      runs) : graph.Attempt ended runs :=
  ⟨(starts_begin type).trans attempt.starts, attempt.settled, attempt.isSealed⟩

/-- Every attempt to seal a type starts the listed deferred builds, however deep they nest. -/
theorem sealWithin_attempt (depth : Nat) (type : TypeId) (sound : graph.Sound)
    (settled : graph.Settled) :
    graph.Attempt ((sealWithin depth type).exec graph) (hookRuns depth type graph) := by
  induction depth generalizing graph type with
  | zero => exact (Rests.refl graph).attempt settled
  | succ depth induction =>
      unfold hookRuns
      rcases sealWithin_succ_cases depth graph type with ⟨undue, failure, run⟩ |
        ⟨undue, unfailed, begun, started, run⟩ | ⟨serial, action, isDue, run⟩
      · rw [undue, run]
        exact (Rests.refl graph).attempt settled
      · rw [undue, run]
        rcases started with rfl | rfl
        · exact (freeze_attempt settled unfailed).1
        · exact .of_begin
            (freeze_attempt (settled.begin type) (failureOf?_begin.trans unfailed)).1
      · rw [isDue, run]
        have due := dueHook?_eq_some_iff.mp isDue
        have started : Steps (Deed.Seals True) graph (graph.withHookCall serial type) :=
          startHook_steps type sound _
        have startSound := started.sound sound
        have startSettled := settled.withHookCall serial type
        have rests : ∀ outcome : Except Failure Unit,
            (graph.withHookCall serial type).Attempt (outcome, graph.withHookCall serial type) [] :=
          fun _ => (Rests.refl _).attempt startSettled
        refine due.attempt settled ?_
        cases action with
        | succeed => exact rests _
        | fail error => exact rests _
        | raise printed => exact rests _
        | abort error => exact rests _
        | addMember member =>
            have present : type < (graph.withHookCall serial type).types.size :=
              settled.inStep ▸ due.present settled
            have step := declareMember_step startSound present member false
            refine (step.rests ?_).attempt startSettled
            rintro deed rfl
            exact Deed.noConfusion
        | sealSelf => exact induction type startSound startSettled
        | sealOther other => exact induction other startSound startSettled

end Graph

/-! ## What a run of operations does -/

open Nominal.Graph

variable {graph : Graph}

theorem sealType_attempt (type : TypeId) (sound : graph.Sound) (settled : graph.Settled) :
    graph.Attempt ((sealType type).exec graph)
      (Graph.hookRuns (graph.types.size + 2) type graph) := by
  unfold sealType
  rw [Build.exec_get_bind]
  exact sealWithin_attempt _ type sound settled

theorem finishBuild_true_left (type : TypeId) (graph : Graph) :
    ((finishBuild type true).exec graph).2 = ((sealType type).exec graph).2 := by
  unfold finishBuild
  rw [if_pos rfl, Build.exec_bind]
  rcases (sealType type).exec graph with ⟨_ | _, left⟩ <;> rfl

theorem setTrusted_rests (graph : Graph) (type : TypeId) (isTrusted : Bool) :
    graph.Rests ((Operation.setTrusted type isTrusted).perform graph) := by
  unfold Operation.perform Nominal.setTrusted
  dsimp only
  rw [exec_requireUnsealed_bind]
  split
  · exact .refl graph
  · refine ⟨rfl, ?_, ?_, fun _ => rfl, ?_⟩
    · intro other
      exact progress_modifyProgress BuildProgress.isPreInitialized fun _ => rfl
    · intro other
      exact progress_modifyProgress BuildProgress.failure fun _ => rfl
    · intro inStep
      simpa [Build.exec_modify, modifyProgress] using inStep

/-- Every operation starts the listed deferred builds. -/
theorem Operation.perform_starts (sound : graph.Sound) (settled : graph.Settled)
    {operation : Operation} (admissible : operation.isAdmissible graph = true) :
    graph.Starts (operation.perform graph) (operation.hookRuns graph) ∧
      (operation.perform graph).Settled := by
  have resting : graph.Rests (operation.perform graph) → operation.hookRuns graph = [] →
      graph.Starts (operation.perform graph) (operation.hookRuns graph) ∧
        (operation.perform graph).Settled := by
    intro rests nothing
    rw [nothing]
    exact ⟨rests.starts, rests.settled settled⟩
  cases operation with
  | sealType type =>
      have attempt := sealType_attempt type sound settled
      exact ⟨attempt.starts, attempt.settled⟩
  | finishBuild type sealNow =>
      cases sealNow with
      | false => exact resting (.refl graph) rfl
      | true =>
          have attempt := sealType_attempt type sound settled
          rw [perform, finishBuild_true_left]
          exact ⟨attempt.starts, attempt.settled⟩
  | setTrusted type isTrusted => exact resting (setTrusted_rests graph type isTrusted) rfl
  | openArena | newClass | newInterface | newMember | arrayOf | setParent | addInterface
  | addExtensionClass | annotate | setScope | setHostType | setImplementation | setDocString
  | markParsed | declareMember | ask | access =>
      refine resting ((perform_steps sound admissible ?_).rests ?_) rfl
      · rintro type isTrusted ⟨⟩
      · rintro deed rfl
        exact Deed.noConfusion

/-- Along every run each type has its deferred build started at most once. -/
theorem Graph.after_starts (sound : graph.Sound) (settled : graph.Settled) {run : List Operation}
    (admitted : graph.admits run = true) :
    graph.Starts (graph.after run) (graph.hookRunsDuring run) ∧ (graph.after run).Settled := by
  induction run generalizing graph with
  | nil => exact ⟨(Rests.refl graph).starts, settled⟩
  | cons operation rest induction =>
      rw [admits, Bool.and_eq_true] at admitted
      obtain ⟨starts, performed⟩ := operation.perform_starts sound settled admitted.1
      obtain ⟨startsRest, finished⟩ :=
        induction (operation.perform_sound sound admitted.1).1 performed admitted.2
      exact ⟨starts.trans startsRest, finished⟩

theorem Graph.settled_start : ({} : Graph).Settled := by
  constructor
  · rfl
  · intro type failure failed
    cases failed
  · intro type failure failed
    cases failed

/-- Along every run of operations the record of deferred builds is the list of those that were
started.  Each type has its deferred build started at most once, in a graph in which everything
directly above the type is sealed; and unless the deferred build aborts, the type is sealed only if
the build succeeds. -/
theorem deferredBuilds_after {run : List Operation}
    (admitted : ({} : Graph).admits run = true) :
    (({} : Graph).after run).hookCalls = (({} : Graph).hookRunsDuring run).map (·.call) ∧
      ((({} : Graph).hookRunsDuring run).map (·.call.type)).Nodup ∧
      ∀ hookRun ∈ ({} : Graph).hookRunsDuring run,
        (∀ supertype ∈ hookRun.start.supertypesOf hookRun.call.type,
            hookRun.start.isSealed supertype = true) ∧
          ((({} : Graph).after run).isSealed hookRun.call.type = true →
            hookRun.outcome = .ok () ∨ ∃ error, hookRun.outcome = .error (.aborted error)) := by
  obtain ⟨starts, settled⟩ := after_starts sound_start settled_start admitted
  refine ⟨starts.calls, starts.distinct, ?_⟩
  intro hookRun listed
  refine ⟨starts.prepared hookRun listed, ?_⟩
  intro isFinal
  cases ended : hookRun.outcome with
  | ok => exact .inl rfl
  | error failure =>
      cases failure with
      | aborted error => exact .inr ⟨error, rfl⟩
      | rejected error =>
          obtain ⟨kept, failed⟩ := Option.isSome_iff_exists.mp
            (starts.refused hookRun listed error ended)
          rw [settled.isOpen failed] at isFinal
          cases isFinal

/-- An interface with a deferred build, and one below it whose deferred build is refused and then
replaced. -/
def replacedBuild : List Operation :=
  [.openArena {}, .newInterface 0 "Upper" "m" .pub {}, .newInterface 0 "Lower" "m" .pub {},
    .addInterface 1 (some 0), .setImplementation 0 (some (.deferred 0 .succeed)),
    .setImplementation 1 (some (.deferred 1 (.fail (.external "broken")))), .sealType 1,
    .sealType 0, .sealType 1, .setImplementation 1 (some (.deferred 2 .succeed)), .sealType 1]

theorem deferredBuilds_after_replacedBuild :
    ({} : Graph).admits replacedBuild = true ∧
      (({} : Graph).hookRunsDuring replacedBuild).map (·.call.serial) = [0, 1] ∧
      (({} : Graph).after replacedBuild).hookCalls
        = (({} : Graph).hookRunsDuring replacedBuild).map (·.call) ∧
      ((({} : Graph).hookRunsDuring replacedBuild).map (·.call.type)).Nodup ∧
      (({} : Graph).after replacedBuild).isSealed 0 = true ∧
      (({} : Graph).after replacedBuild).isSealed 1 = false := by
  have admitted : ({} : Graph).admits replacedBuild = true := by
    decide +kernel
  obtain ⟨calls, distinct, -⟩ := deferredBuilds_after admitted
  refine ⟨admitted, ?_, calls, distinct, ?_, ?_⟩
  all_goals decide +kernel

/-- An interface whose deferred build aborts when the interface is sealed, twice. -/
def abortedBuild : List Operation :=
  [.openArena {}, .newInterface 0 "Mark" "m" .pub {},
    .setImplementation 0 (some (.deferred 0 (.abort (.unexpected (.text "broken"))))),
    .sealType 0, .sealType 0]

/-- A type whose deferred build has aborted is sealed by the next attempt. -/
theorem isSealed_abortedBuild :
    ({} : Graph).admits abortedBuild = true ∧
      (({} : Graph).hookRunsDuring abortedBuild).map (fun hookRun =>
          (hookRun.call.type, hookRun.outcome.isOk)) = [(0, false)] ∧
      (({} : Graph).after abortedBuild).isSealed 0 = true := by
  decide +kernel

end Nominal
