import Nominal.Builtin.Sequencer
import Nominal.Proofs.BuiltinOrder

/-!
# Calls on a sequencer

A sequencer is asked for its built-in types, or told to forget them, any number of times and in any
order.  What the functions of a built-in type do may differ from one request to the next, and they
may fail at any time.

Whatever a sequencer hands out presents the listed built-in types.  Constructions are numbered, and
a set is kept until the next reset, so two requests are answered with the same set exactly if there
is no reset between them.  A request that fails leaves nothing behind.
-/

namespace Nominal

open Nominal.Graph

/-! ## Built-in types that act differently -/

/-- An orderly built-in type, which differs from the listed one at most in its functions. -/
structure BuiltinType.Enacts (builtin listed : BuiltinType) : Prop where
  orderly : builtin.IsOrderly
  listing : builtin
    = { listed with implement := builtin.implement, complete := builtin.complete }

section Enacting

variable {builtins listed : List BuiltinType} {farm : Farm} {graph : Graph}

theorem exists_enacting (enacts : List.Forall₂ BuiltinType.Enacts builtins listed) {place : Nat}
    {builtin : BuiltinType} (listedAt : listed[place]? = some builtin) :
    ∃ enacting, builtins[place]? = some enacting ∧ enacting.Enacts builtin := by
  induction enacts generalizing place with
  | nil => cases listedAt
  | cons first _ ih =>
      cases place with
      | zero =>
          cases listedAt
          exact ⟨_, rfl, first⟩
      | succ place => exact ih listedAt

theorem orderly_of_enacts (enacts : List.Forall₂ BuiltinType.Enacts builtins listed) :
    ∀ builtin ∈ builtins, builtin.IsOrderly := by
  induction enacts with
  | nil => exact nofun
  | cons first _ ih => exact List.forall_mem_cons.mpr ⟨first.orderly, ih⟩

theorem names_of_enacts (enacts : List.Forall₂ BuiltinType.Enacts builtins listed) :
    builtins.map (·.name) = listed.map (·.name) := by
  induction enacts with
  | nil => rfl
  | cons first _ ih => rw [List.map_cons, List.map_cons, ih, first.listing]

theorem Farm.Presents.of_enacts (presents : farm.Presents graph builtins)
    (enacts : List.Forall₂ BuiltinType.Enacts builtins listed) : farm.Presents graph listed where
  names := presents.names.trans (names_of_enacts enacts)
  distinct := names_of_enacts enacts ▸ presents.distinct
  classes listedAt standing := by
    obtain ⟨enacting, enactingAt, enacts⟩ := exists_enacting enacts listedAt
    obtain ⟨represents, isFinal⟩ := presents.classes enactingAt standing
    rw [enacts.listing] at represents
    exact ⟨⟨represents.isClass, represents.identifier, represents.moduleName,
      represents.properties⟩, isFinal⟩
  derived listedAt standing derived := by
    obtain ⟨enacting, enactingAt, enacts⟩ := exists_enacting enacts listedAt
    have named := presents.derived enactingAt standing
    rw [enacts.listing] at named
    exact named derived
  rooted listedAt standing underived := by
    obtain ⟨enacting, enactingAt, enacts⟩ := exists_enacting enacts listedAt
    have named := presents.rooted enactingAt standing
    rw [enacts.listing] at named
    exact named underived

end Enacting

/-! ## One request -/

namespace Sequencer

/-- What a construction gives, in an arena that holds nothing. -/
def constructed (sequencer : Sequencer) : Except BootstrapFailure BuiltinSet :=
  match (bootstrapRecorded sequencer.builtins sequencer.isLogging).exec
      (Graph.withArena sequencer.settings) with
  | (.ok farm, graph) =>
    .ok { serial := sequencer.attempts, farm, graph := { graph with journal := {} } }
  | (.error failure, graph) => .error { failure, graph }

variable {sequencer : Sequencer}

/-- A request is answered with the set that is kept, or starts a construction. -/
theorem request_cases (sequencer : Sequencer) :
    (∃ kept, sequencer.current = some kept ∧ sequencer.request = (.ok kept, sequencer)) ∨
      sequencer.current = none ∧ sequencer.request.1 = sequencer.constructed ∧
        ∃ journal, sequencer.request.2 = { sequencer with
          attempts := sequencer.attempts + 1, current := sequencer.constructed.toOption,
          journal } := by
  cases current : sequencer.current with
  | some kept =>
      refine .inl ⟨kept, rfl, ?_⟩
      unfold request
      rw [current]
  | none =>
      refine .inr ⟨rfl, ?_⟩
      unfold request constructed
      rw [current]
      generalize bootstrapRecorded sequencer.builtins sequencer.isLogging = construction
      rcases run : construction.exec (Graph.withArena sequencer.settings) with
        ⟨failure | farm, graph⟩
      all_goals
        have ran : ExceptT.run construction (Graph.withArena sequencer.settings) = (_, graph) := run
        dsimp only
        rw [ran]
        exact ⟨rfl, _, rfl⟩

/-- A construction that succeeds presents its built-in types. -/
theorem presents_constructed {listed : List BuiltinType}
    (enacts : List.Forall₂ BuiltinType.Enacts sequencer.builtins listed)
    (composed : ∀ builtin ∈ listed, Text.IsStable builtin.name) {made : BuiltinSet}
    (ok : sequencer.constructed = .ok made) :
    made.serial = sequencer.attempts ∧ made.graph.Sound ∧ made.farm.Presents made.graph listed := by
  unfold constructed at ok
  rcases run : (bootstrapRecorded sequencer.builtins sequencer.isLogging).exec
    (Graph.withArena sequencer.settings) with ⟨failure | farm, graph⟩
  · rw [run] at ok
    cases ok
  · rw [run] at ok
    cases ok
    unfold bootstrapRecorded at run
    obtain ⟨built, left, bootstrapped, recorded⟩ := Build.exec_bind_ok run
    cases recorded
    have names := names_of_enacts enacts
    have stable : ∀ builtin ∈ sequencer.builtins, Text.IsStable builtin.name := by
      intro builtin inList
      have named : builtin.name ∈ listed.map (·.name) :=
        names ▸ List.mem_map.mpr ⟨builtin, inList, rfl⟩
      obtain ⟨other, otherInList, same⟩ := List.mem_map.mp named
      exact same ▸ composed other otherInList
    obtain ⟨sound, presents⟩ :=
      presents_of_bootstrap (orderly_of_enacts enacts) stable bootstrapped
    exact ⟨rfl, (sound.withJournal {}).sound, (presents.of_enacts enacts).of_keeps (.of_eq rfl rfl)⟩

/-! ## Many calls -/

/-- A call on a sequencer.  A request comes with what the functions of the built-in types do. -/
inductive Call where
  | request (builtins : List BuiltinType)
  | reset

/-- Whether the built-in types of a call are the listed ones. -/
def Call.Enacts (listed : List BuiltinType) : Call → Prop
  | request builtins => List.Forall₂ BuiltinType.Enacts builtins listed
  | reset => True

/-- The sequencer after a call. -/
def call (sequencer : Sequencer) : Call → Sequencer
  | .request builtins => { sequencer with builtins }.request.2
  | .reset => sequencer.reset

/-- The sequencer after some calls. -/
def after (sequencer : Sequencer) (calls : List Call) : Sequencer :=
  calls.foldl call sequencer

/-- The answer to a request. -/
def reply (sequencer : Sequencer) (builtins : List BuiltinType) :
    Except BootstrapFailure BuiltinSet :=
  { sequencer with builtins }.request.1

theorem after_append (sequencer : Sequencer) (calls later : List Call) :
    sequencer.after (calls ++ later) = (sequencer.after calls).after later :=
  List.foldl_append

/-- A request is answered with the set that is kept, or with a construction, which is kept if it
succeeds. -/
theorem reply_cases (sequencer : Sequencer) (builtins : List BuiltinType) :
    (∃ kept, sequencer.current = some kept ∧ sequencer.reply builtins = .ok kept ∧
        (sequencer.call (.request builtins)).current = some kept ∧
        (sequencer.call (.request builtins)).attempts = sequencer.attempts) ∨
      sequencer.current = none ∧
        sequencer.reply builtins = { sequencer with builtins }.constructed ∧
        (sequencer.call (.request builtins)).current = (sequencer.reply builtins).toOption ∧
        (sequencer.call (.request builtins)).attempts = sequencer.attempts + 1 := by
  unfold reply call
  rcases request_cases { sequencer with builtins } with ⟨kept, current, answered⟩ |
    ⟨current, answered, journal, left⟩
  · refine .inl ⟨kept, current, ?_⟩
    dsimp only
    rw [answered]
    exact ⟨rfl, current, rfl⟩
  · refine .inr ⟨current, answered, ?_⟩
    dsimp only
    rw [left, answered]
    exact ⟨rfl, rfl⟩

/-- Calls leave the configuration as it is. -/
theorem configuration_after (sequencer : Sequencer) (calls : List Call) :
    (sequencer.after calls).settings = sequencer.settings ∧
      (sequencer.after calls).isLogging = sequencer.isLogging := by
  induction calls generalizing sequencer with
  | nil => exact ⟨rfl, rfl⟩
  | cons call rest ih =>
      have kept : (sequencer.call call).settings = sequencer.settings ∧
          (sequencer.call call).isLogging = sequencer.isLogging := by
        cases call with
        | reset => exact ⟨rfl, rfl⟩
        | request builtins =>
            unfold Sequencer.call
            rcases request_cases { sequencer with builtins } with ⟨kept, -, answered⟩ |
              ⟨-, -, journal, left⟩
            · dsimp only
              rw [answered]
              exact ⟨rfl, rfl⟩
            · dsimp only
              rw [left]
              exact ⟨rfl, rfl⟩
      exact ⟨(ih _).1.trans kept.1, (ih _).2.trans kept.2⟩

/-! ### What is kept -/

/-- What is kept has a number that was given out, and presents the listed built-in types. -/
def Stocks (sequencer : Sequencer) (listed : List BuiltinType) : Prop :=
  ∀ kept, sequencer.current = some kept →
    kept.serial < sequencer.attempts ∧ kept.graph.Sound ∧ kept.farm.Presents kept.graph listed

/-- Whatever is kept, now or later, has a higher number. -/
structure IsPast (sequencer : Sequencer) (serial : Nat) : Prop where
  given : serial < sequencer.attempts
  renewed : ∀ kept, sequencer.current = some kept → serial < kept.serial

section Calls

variable {listed builtins : List BuiltinType} {calls : List Call} {kept : BuiltinSet} {serial : Nat}

/-- What is kept after a request was the answer. -/
theorem reply_of_current (current : (sequencer.call (.request builtins)).current = some kept) :
    sequencer.reply builtins = .ok kept := by
  rcases reply_cases sequencer builtins with ⟨former, -, answered, left, -⟩ | ⟨-, -, left, -⟩
  · cases left.symm.trans current
    exact answered
  · rw [left] at current
    cases answered : sequencer.reply builtins with
    | error failure =>
        rw [answered] at current
        cases current
    | ok given =>
        rw [answered] at current
        cases current
        rfl

section Composed

variable (composed : ∀ builtin ∈ listed, Text.IsStable builtin.name)

include composed

/-- An answer presents the listed built-in types, and is kept. -/
theorem Stocks.reply (stocks : sequencer.Stocks listed)
    (enacts : List.Forall₂ BuiltinType.Enacts builtins listed) {given : BuiltinSet}
    (ok : sequencer.reply builtins = .ok given) :
    given.graph.Sound ∧ given.farm.Presents given.graph listed ∧
      (sequencer.call (.request builtins)).current = some given ∧
      given.serial < (sequencer.call (.request builtins)).attempts := by
  rcases reply_cases sequencer builtins with ⟨kept, current, answered, left, attempts⟩ |
    ⟨-, answered, left, attempts⟩
  · cases answered.symm.trans ok
    obtain ⟨numbered, sound, presents⟩ := stocks given current
    exact ⟨sound, presents, left, attempts ▸ numbered⟩
  · have constructs := answered.symm.trans ok
    rw [ok] at left
    have enacted : List.Forall₂ BuiltinType.Enacts
      { sequencer with builtins }.builtins listed := enacts
    obtain ⟨numbered, sound, presents⟩ := presents_constructed enacted composed constructs
    refine ⟨sound, presents, left, ?_⟩
    rw [attempts, numbered]
    exact Nat.lt_succ_self _

theorem Stocks.call (stocks : sequencer.Stocks listed) {call : Call} (enacts : call.Enacts listed) :
    (sequencer.call call).Stocks listed := by
  intro kept current
  cases call with
  | reset => cases current
  | request builtins =>
      obtain ⟨sound, presents, -, numbered⟩ :=
        stocks.reply composed enacts (reply_of_current current)
      exact ⟨numbered, sound, presents⟩

theorem Stocks.after (stocks : sequencer.Stocks listed)
    (enacts : ∀ call ∈ calls, call.Enacts listed) : (sequencer.after calls).Stocks listed := by
  induction calls generalizing sequencer with
  | nil => exact stocks
  | cons call rest ih =>
      rw [List.forall_mem_cons] at enacts
      exact ih (stocks.call composed enacts.1) enacts.2

end Composed

/-- Without a reset the same set is kept. -/
theorem current_after (current : sequencer.current = some kept) (unreset : Call.reset ∉ calls) :
    (sequencer.after calls).current = some kept := by
  induction calls generalizing sequencer with
  | nil => exact current
  | cons call rest ih =>
      rw [List.mem_cons, not_or] at unreset
      refine ih ?_ unreset.2
      cases call with
      | reset => exact absurd rfl unreset.1
      | request builtins =>
          rcases reply_cases sequencer builtins with ⟨same, known, -, left, -⟩ | ⟨none, -⟩
          · rw [left, ← known, current]
          · cases none.symm.trans current

theorem attempts_after (sequencer : Sequencer) (calls : List Call) :
    sequencer.attempts ≤ (sequencer.after calls).attempts := by
  induction calls generalizing sequencer with
  | nil => exact Nat.le_refl _
  | cons call rest ih =>
      refine Nat.le_trans ?_ (ih (sequencer.call call))
      cases call with
      | reset => exact Nat.le_refl _
      | request builtins =>
          rcases reply_cases sequencer builtins with ⟨-, -, -, -, same⟩ | ⟨-, -, -, more⟩
          · exact Nat.le_of_eq same.symm
          · exact more ▸ Nat.le_succ _

theorem serial_constructed {made : BuiltinSet} (ok : sequencer.constructed = .ok made) :
    made.serial = sequencer.attempts := by
  unfold constructed at ok
  split at ok <;> cases ok
  rfl

/-! ### What is forgotten -/

theorem isPast_reset (given : serial < sequencer.attempts) :
    (sequencer.call .reset).IsPast serial :=
  ⟨given, nofun⟩

theorem IsPast.reply (past : sequencer.IsPast serial) {given : BuiltinSet}
    (ok : sequencer.reply builtins = .ok given) : serial < given.serial := by
  rcases reply_cases sequencer builtins with ⟨kept, current, answered, -⟩ | ⟨-, answered, -⟩
  · cases answered.symm.trans ok
    exact past.renewed given current
  · rw [serial_constructed (answered.symm.trans ok)]
    exact past.given

theorem IsPast.after (past : sequencer.IsPast serial) (calls : List Call) :
    (sequencer.after calls).IsPast serial := by
  induction calls generalizing sequencer with
  | nil => exact past
  | cons call rest ih =>
      apply ih
      cases call with
      | reset => exact isPast_reset past.given
      | request builtins =>
          exact ⟨Nat.lt_of_lt_of_le past.given (attempts_after sequencer [.request builtins]),
            fun kept current => past.reply (reply_of_current current)⟩

/-- After a reset, at any later time, all answers are new. -/
theorem serial_lt_of_reset (given : serial < sequencer.attempts) (forgets : Call.reset ∈ calls)
    {later : BuiltinSet} (ok : (sequencer.after calls).reply builtins = .ok later) :
    serial < later.serial := by
  obtain ⟨before, rest, rfl⟩ := List.append_of_mem forgets
  rw [after_append] at ok
  have still := Nat.lt_of_lt_of_le given (attempts_after sequencer before)
  exact ((isPast_reset still).after rest).reply ok

/-- Two answers are the same exactly if there is no reset between them. -/
theorem answers_agree_iff {former : List BuiltinType} {first second : BuiltinSet}
    (given : first.serial < (sequencer.call (.request former)).attempts)
    (current : (sequencer.call (.request former)).current = some first)
    (ok : ((sequencer.call (.request former)).after calls).reply builtins = .ok second) :
    (second.serial = first.serial ↔ Call.reset ∉ calls) ∧
      (second.serial = first.serial → second = first) := by
  have kept : Call.reset ∉ calls → second = first := by
    intro unreset
    have still := current_after current unreset
    rcases reply_cases ((sequencer.call (.request former)).after calls) builtins with
      ⟨same, known, answered, -⟩ | ⟨none, -⟩
    · cases still.symm.trans known
      cases ok.symm.trans answered
      rfl
    · cases still.symm.trans none
  have unreset : second.serial = first.serial → Call.reset ∉ calls := by
    intro same forgets
    exact absurd same (Nat.ne_of_gt (serial_lt_of_reset given forgets ok))
  exact ⟨⟨unreset, fun none => kept none ▸ rfl⟩, fun same => kept (unreset same)⟩

/-- A request that fails leaves nothing behind. -/
theorem current_of_failure {failure : BootstrapFailure}
    (failed : sequencer.reply builtins = .error failure) :
    (sequencer.call (.request builtins)).current = none := by
  rcases reply_cases sequencer builtins with ⟨kept, -, answered, -⟩ | ⟨-, -, left, -⟩
  · cases failed.symm.trans answered
  · rw [left, failed]
    rfl

/-- Without a set, a request starts a construction. -/
theorem reply_of_current_eq_none (none : sequencer.current = none) :
    sequencer.reply builtins = { sequencer with builtins }.constructed := by
  rcases reply_cases sequencer builtins with ⟨kept, current, -⟩ | ⟨-, answered, -⟩
  · cases none.symm.trans current
  · exact answered

end Calls

/-! ## All histories -/

/-- A sequencer is asked for built-in types and reset any number of times, and the functions of the
built-in types may act differently each time, or fail.

Whatever it answers presents the listed types, at the time of the answer and ever after.  Two
answers are the same set exactly if there is no reset between them.  A request that fails leaves no
set behind; the next one starts a construction in an arena of its own, whose number is higher than
that of every former answer. -/
theorem answers_after {listed : List BuiltinType}
    (composed : ∀ builtin ∈ listed, Text.IsStable builtin.name) {start : Sequencer}
    (unbuilt : start.current = none) {calls : List Call}
    (enacts : ∀ call ∈ calls, call.Enacts listed) {builtins : List BuiltinType}
    (acts : List.Forall₂ BuiltinType.Enacts builtins listed) :
    (∀ given, (start.after calls).reply builtins = .ok given →
      ∀ run, given.graph.admits run = true →
        given.farm.Presents (given.graph.after run) listed) ∧
    (∀ earlier former between first second, calls = earlier ++ .request former :: between →
      (start.after earlier).reply former = .ok first →
        (start.after calls).reply builtins = .ok second →
          (second.serial = first.serial ↔ Call.reset ∉ between) ∧
            (second.serial = first.serial → second = first)) ∧
    (∀ failure, (start.after calls).reply builtins = .error failure →
      let failed := start.after (calls ++ [.request builtins])
      failed.current = none ∧ ∃ number,
        (∀ next, failed.reply next
          = { start with builtins := next, attempts := number }.constructed) ∧
        ∀ earlier former between first, calls = earlier ++ .request former :: between →
          (start.after earlier).reply former = .ok first → first.serial < number) := by
  have stocks : ∀ {made : List Call}, (∀ call ∈ made, call.Enacts listed) →
      (start.after made).Stocks listed := by
    intro made enacts
    refine Stocks.after composed ?_ enacts
    intro kept current
    cases unbuilt.symm.trans current
  have former_given : ∀ {earlier former between first},
      calls = earlier ++ .request former :: between →
      (start.after earlier).reply former = .ok first →
        ((start.after earlier).call (.request former)).current = some first ∧
          first.serial < ((start.after earlier).call (.request former)).attempts := by
    rintro earlier former between first rfl ok
    rw [List.forall_mem_append, List.forall_mem_cons] at enacts
    obtain ⟨-, -, current, given⟩ := (stocks enacts.1).reply composed enacts.2.1 ok
    exact ⟨current, given⟩
  have split_after : ∀ {earlier former between}, calls = earlier ++ .request former :: between →
      start.after calls = ((start.after earlier).call (.request former)).after between := by
    rintro earlier former between rfl
    exact after_append start earlier _
  refine ⟨?_, ?_, ?_⟩
  · intro given ok run admitted
    obtain ⟨sound, presents, -⟩ := (stocks enacts).reply composed acts ok
    exact presents.of_keeps (after_sound sound admitted).2
  · intro earlier former between first second split firstOk secondOk
    obtain ⟨current, given⟩ := former_given split firstOk
    rw [split_after split] at secondOk
    exact answers_agree_iff given current secondOk
  · intro failure rejected failed
    have left : failed = (start.after calls).call (.request builtins) := after_append start calls _
    have empty : failed.current = none := left ▸ current_of_failure rejected
    refine ⟨empty, failed.attempts, ?_, ?_⟩
    · intro next
      obtain ⟨settings, isLogging⟩ := configuration_after start (calls ++ [.request builtins])
      rw [reply_of_current_eq_none empty]
      unfold constructed
      rw [← settings, ← isLogging]
    · intro earlier former between first split firstOk
      obtain ⟨-, given⟩ := former_given split firstOk
      rw [left]
      refine Nat.lt_of_lt_of_le given ?_
      exact Nat.le_trans (split_after split ▸ attempts_after _ between)
        (attempts_after _ [.request builtins])

/-- The default built-in types, none of which can be completed. -/
def refusingDefaults : List BuiltinType :=
  Builtin.defaults.map ({ · with complete := fun _ => reject (.text "refused") })

theorem enacts_defaults : List.Forall₂ BuiltinType.Enacts Builtin.defaults Builtin.defaults :=
  List.forall₂_same.mpr fun builtin listed => ⟨isOrderly_defaults builtin listed, rfl⟩

theorem enacts_refusingDefaults :
    List.Forall₂ BuiltinType.Enacts refusingDefaults Builtin.defaults := by
  refine List.forall₂_map_left_iff.mpr (List.forall₂_same.mpr fun builtin listed => ⟨?_, rfl⟩)
  exact ⟨fun holds ran => (isOrderly_defaults builtin listed).adds holds ran, nofun⟩

theorem constructed_defaults (settings : sequencer.settings = {})
    (isLogging : sequencer.isLogging = false) (builtins : sequencer.builtins = Builtin.defaults) :
    ∃ made, sequencer.constructed = .ok made := by
  have furnished := furnishes_defaults {}
  unfold constructed
  rw [settings, isLogging, builtins]
  rcases run : (bootstrapRecorded Builtin.defaults false).exec (Graph.withArena {}) with
    ⟨failure | farm, graph⟩
  · rw [run] at furnished
    cases furnished
  · exact ⟨_, rfl⟩

/-- Without a set the default built-in types are constructed. -/
theorem reply_defaults {calls : List Call} (empty : (({} : Sequencer).after calls).current = none) :
    ∃ made, (({} : Sequencer).after calls).reply Builtin.defaults = .ok made := by
  obtain ⟨settings, isLogging⟩ := configuration_after {} calls
  generalize ({} : Sequencer).after calls = later at *
  rw [reply_of_current_eq_none empty]
  exact constructed_defaults settings isLogging rfl

/-- A failure is followed by a construction, and that by a reset and another construction. -/
theorem answers_after_refusal :
    (∃ failure, ({} : Sequencer).reply refusingDefaults = .error failure) ∧
      ∃ first second,
        (({} : Sequencer).after [.request refusingDefaults]).reply Builtin.defaults = .ok first ∧
        (({} : Sequencer).after
            [.request refusingDefaults, .request Builtin.defaults, .reset]).reply Builtin.defaults
          = .ok second ∧
        second.serial ≠ first.serial ∧ second.farm.Presents second.graph Builtin.defaults := by
  have composed : ∀ builtin ∈ Builtin.defaults, Text.IsStable builtin.name := by decide +kernel
  have enacts : ∀ call ∈ [Call.request refusingDefaults, .request Builtin.defaults, .reset],
      call.Enacts Builtin.defaults := by
    simp only [List.forall_mem_cons]
    exact ⟨enacts_refusingDefaults, enacts_defaults, trivial, List.forall_mem_nil _⟩
  obtain ⟨failure, failed⟩ : ∃ failure,
      ({} : Sequencer).reply refusingDefaults = .error failure := by
    have fails : (({} : Sequencer).reply refusingDefaults).toBool = false := by decide +kernel
    generalize ({} : Sequencer).reply refusingDefaults = answer at *
    cases answer with
    | error failure => exact ⟨failure, rfl⟩
    | ok given => cases fails
  obtain ⟨empty, -⟩ := (@answers_after Builtin.defaults composed ({} : Sequencer) rfl [] nofun
    refusingDefaults enacts_refusingDefaults).2.2 failure failed
  obtain ⟨first, firstOk⟩ := reply_defaults empty
  obtain ⟨second, secondOk⟩ := @reply_defaults
    [.request refusingDefaults, .request Builtin.defaults, .reset] rfl
  obtain ⟨presents, agree, -⟩ :=
    @answers_after Builtin.defaults composed ({} : Sequencer) rfl _ enacts _ enacts_defaults
  refine ⟨⟨failure, failed⟩, first, second, firstOk, secondOk, ?_, presents second secondOk [] rfl⟩
  intro same
  have unreset := (agree [.request refusingDefaults] Builtin.defaults [.reset] first second rfl
    firstOk secondOk).1.mp same
  exact unreset (List.mem_singleton.mpr rfl)

end Sequencer

end Nominal
