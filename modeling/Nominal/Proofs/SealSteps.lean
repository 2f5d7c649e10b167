import Nominal.Proofs.BuildSteps

/-!
# Sealing as steps

Sealing a type runs its deferred build, which may seal other types or declare a member, and then
freezes the type.  None of these steps touches a link, so a type that was ready to be sealed stays
ready while its deferred build runs.
-/

namespace Nominal

namespace Graph

variable {graph later : Graph} {type : TypeId}

/-! ## What sealing leaves alone -/

/-- What a deferred build may do: complete types and, where that is allowed, declare members. -/
def Deed.Seals (mayDeclare : Prop) : Deed → Prop
  | complete => True
  | declare _ => mayDeclare
  | _ => False

theorem Deed.seals_complete {mayDeclare : Prop} : Deed.complete.Seals mayDeclare :=
  trivial

/-- What sealing leaves alone in a type. -/
structure SameLinks (old new : NominalType) : Prop where
  identity : old.SameIdentity new
  parent : new.parent? = old.parent?
  interfaces : new.interfaces = old.interfaces
  implementation : new.implementation = old.implementation

theorem SameLinks.refl (type : NominalType) : SameLinks type type :=
  ⟨.refl type, rfl, rfl, rfl⟩

theorem SameLinks.trans {first second third : NominalType} (early : SameLinks first second)
    (late : SameLinks second third) : SameLinks first third :=
  ⟨early.identity.trans late.identity, late.parent.trans early.parent,
    late.interfaces.trans early.interfaces, late.implementation.trans early.implementation⟩

theorem Placement.sameLinks {member : MemberId} {identifier : String}
    {place : NominalType → NominalType}
    (checked : graph.Placement type member identifier place) :
    SameLinks (graph.typeAt type) (place (graph.typeAt type)) := by
  have identity := checked.identity
  have kept : ∀ {update : ClassPart → ClassPart}, (∀ part, (update part).parent = part.parent) →
      SameLinks (graph.typeAt type) ((graph.typeAt type).mapClassPart update) := fun parent =>
    ⟨NominalType.mapClassPart_identity _ _, NominalType.mapClassPart_parent?_of_eq _ parent,
      NominalType.mapClassPart_interfaces _ _, NominalType.mapClassPart_implementation _ _⟩
  cases checked with
  | overload => exact ⟨identity, by simp, by simp, by simp⟩
  | constructor | initializer | staticConstructor => exact kept fun _ => rfl

theorem sameLinks_modifyType {change : NominalType → NominalType}
    (same : SameLinks (graph.typeAt type) (change (graph.typeAt type))) (other : TypeId) :
    SameLinks (graph.typeAt other) ((graph.modifyType type change).typeAt other) :=
  typeAt_modifyType_related .refl same other

theorem Change.sameLinks {mayDeclare : Prop} {deed : Deed} (sealing : deed.Seals mayDeclare)
    (changed : graph.Change deed later) (other : TypeId) :
    SameLinks (graph.typeAt other) (later.typeAt other) := by
  cases changed with
  | openArena | intern | allocate | create => cases sealing
  | start | fail | callHook => exact .refl _
  | reform type deed change present isOpen checked =>
      cases checked with
      | describe | implement | link | extend => cases sealing
      | freeze =>
          refine sameLinks_modifyType ⟨⟨rfl, rfl, rfl, rfl, rfl, rfl, rfl⟩, rfl, rfl, rfl⟩ other
  | declare type member place present isOpen adoptable checked =>
      exact sameLinks_modifyType checked.sameLinks other

theorem Steps.sameLinks {mayDeclare : Prop} (steps : Steps (Deed.Seals mayDeclare) graph later)
    (other : TypeId) : SameLinks (graph.typeAt other) (later.typeAt other) := by
  induction steps with
  | refl => exact .refl _
  | @tail middle last _ step earlier =>
      apply earlier.trans
      rcases step.effect with same | ⟨deed, changed, sealing, change, same⟩
      · rw [typeAt_eq_of_bare same]
        exact .refl _
      · rw [typeAt_eq_of_bare same]
        exact change.sameLinks sealing other

/-- A type that is ready to be sealed stays ready. -/
theorem Steps.ready {mayDeclare : Prop} (steps : Steps (Deed.Seals mayDeclare) graph later)
    (ready : graph.sealError? type = none) : later.sealError? type = none := by
  have same := steps.sameLinks type
  apply sealError?_eq_none
  · intro supertype link
    apply steps.keepsSealed.isSealed
    apply sealedAbove_of_sealError? ready
    rwa [Extends, supertypesOf, supertypes_eq_of_parts same.parent same.interfaces] at link
  · intro isClass parentless
    rw [same.identity.properties]
    exact rooted_of_sealError? ready (same.identity.isClass ▸ isClass) (same.parent ▸ parentless)

/-- The deferred build of a type declares a member. -/
def AddsMembers (graph : Graph) (type : TypeId) : Prop :=
  ∃ serial member, (graph.typeAt type).implementation = some (.deferred serial (.addMember member))

theorem Steps.addsMembers {mayDeclare : Prop} (steps : Steps (Deed.Seals mayDeclare) graph later)
    (adds : later.AddsMembers type) : graph.AddsMembers type := by
  obtain ⟨serial, member, implementation⟩ := adds
  exact ⟨serial, member, (steps.sameLinks type).implementation ▸ implementation⟩

end Graph

open Nominal.Graph

variable {graph : Graph} {type : TypeId}

/-! ## Freezing -/

/-- A type that is ready is frozen in one step; one that is frozen already stays as it is. -/
theorem freeze_step {mayDeclare : Prop} (sound : graph.Sound)
    (ready : graph.sealError? type = none) :
    Step (Deed.Seals mayDeclare) graph ((freeze type).exec graph).2 := by
  have frozen : Step (Deed.Seals mayDeclare) graph
      (graph.modifyType type ({ · with state := .frozen })) := by
    by_cases changes : type < graph.types.size ∧ graph.isSealed type = false
    · apply (Step.reform sound changes.1 changes.2 (.freeze ready)).mono
      rintro deed rfl
      trivial
    · have unchanged : graph.modifyType type ({ · with state := .frozen }) = graph := by
        apply modifyType_eq_self
        intro present
        have isFinal : (graph.typeAt type).state = .frozen := by
          simpa [present, isSealed, NominalType.isSealed] using changes
        rw [← isFinal]
      rw [unchanged]
      exact .refl sound
  unfold freeze
  rw [Build.exec_modify_bind, Build.exec_get_bind]
  dsimp only
  rw [Build.exec_lift_bind]
  have logged := (Query.Answers.recordLog type (.sealedType
    ((graph.modifyType type ({ · with state := .frozen })).typeAt type).qualifiedName
    ((graph.modifyType type ({ · with state := .frozen })).typeAt type).staticMembers.size
    ((graph.modifyType type ({ · with state := .frozen })).typeAt type).instanceMembers.size)).reads
      frozen.sound
  have traced := (Query.Answers.recordTrace .sealType type).reads logged.sound
  exact (frozen.reading logged).reading traced

/-! ## Deferred builds -/

theorem exec_recoverHook (run : Build Unit) (graph : Graph) :
    (recoverHook run).exec graph =
      match run.exec graph with
      | (.ok _, left) => (.ok none, left)
      | (.error (.rejected cause), left) => (.ok (some cause), left)
      | (.error (.aborted error), left) => (.error (.aborted error), left) := by
  unfold recoverHook
  rw [Build.exec_bind, Build.exec_tryCatch]
  rw [Build.exec_bind]
  rcases run.exec graph with ⟨failure | _, left⟩
  · cases failure <;> rfl
  · rfl

theorem recoverHook_left (run : Build Unit) (graph : Graph) :
    ((recoverHook run).exec graph).2 = (run.exec graph).2 := by
  rw [exec_recoverHook]
  rcases run.exec graph with ⟨failure | _, left⟩
  · cases failure <;> rfl
  · rfl

/-- After its deferred build a type is frozen, or the failure of the build is kept. -/
theorem finishHook_steps {mayDeclare : Prop} {run : Build Unit} (sound : graph.Sound)
    (ready : graph.sealError? type = none)
    (ran : Steps (Deed.Seals mayDeclare) graph (run.exec graph).2) :
    Steps (Deed.Seals mayDeclare) graph (Build.exec (do
      let outcome ← recoverHook run
      match outcome with
      | some cause =>
        let failure := Error.preInitialization type cause
        modify (·.modifyProgress type ({ · with failure := some failure }))
        reject failure
      | none => freeze type) graph).2 := by
  have recovered := recoverHook_left run graph
  rw [Build.exec_bind]
  rcases ended : (recoverHook run).exec graph with ⟨outcome, left⟩
  rw [ended] at recovered
  obtain rfl : left = (run.exec graph).2 := recovered
  have leftSound := ran.sound sound
  cases outcome with
  | error failure => exact ran
  | ok outcome =>
      cases outcome with
      | some cause =>
          exact ran.tail (.of_change (.refl leftSound) Deed.seals_complete (.fail type _) rfl
            fun _ _ _ held => held)
      | none => exact ran.tail (freeze_step leftSound (ran.ready ready))

/-- The start of a deferred build is recorded before it runs. -/
theorem startHook_steps (type : TypeId) {mayDeclare : Prop} (sound : graph.Sound)
    (call : HookCall) :
    Steps (Deed.Seals mayDeclare) graph
      { graph.modifyProgress type ({ · with isPreInitialized := true }) with
        hookCalls := graph.hookCalls ++ [call] } := by
  have started : Step (Deed.Seals mayDeclare) graph
      (graph.modifyProgress type ({ · with isPreInitialized := true })) :=
    .of_change (.refl sound) Deed.seals_complete (.start type) rfl fun _ _ _ held => held
  exact (Relation.ReflTransGen.single started).tail (.of_change (.refl started.sound)
    Deed.seals_complete (.callHook call) rfl fun _ _ _ held => held)

/-- Sealing is a sequence of steps, whatever the deferred builds of the types do. -/
theorem sealWithin_steps (depth : Nat) (type : TypeId) {mayDeclare : Prop} (sound : graph.Sound)
    (declares : ∀ other, graph.AddsMembers other → mayDeclare) :
    Steps (Deed.Seals mayDeclare) graph ((sealWithin depth type).exec graph).2 := by
  induction depth generalizing graph type with
  | zero => exact .refl
  | succ depth induction =>
      unfold sealWithin
      rw [exec_requireUnsealed_bind]
      split
      · exact .refl
      rw [Build.exec_get_bind]
      dsimp only
      cases failed : (graph.progressAt type).failure with
      | some failure => exact .refl
      | none =>
          dsimp only
          cases refused : graph.sealError? type with
          | some error => exact .refl
          | none =>
              dsimp only
              split
              · exact .single (freeze_step sound refused)
              rw [Build.exec_modify_bind]
              split
              next serial action implementation =>
                have called : Steps (Deed.Seals mayDeclare) graph _ :=
                  startHook_steps type sound
                    { serial, type, state := (graph.typeAt type).state }
                have present : type < graph.types.size := by
                  apply Nat.lt_of_not_le
                  intro absent
                  rw [typeAt_of_size_le absent] at implementation
                  cases implementation
                have sealing : ∀ other, Steps (Deed.Seals mayDeclare) _
                    ((sealWithin depth other).exec _).2 := fun other =>
                  induction other (called.sound sound) fun adding adds =>
                    declares adding (called.addsMembers adds)
                refine called.trans
                  (finishHook_steps (called.sound sound) (called.ready refused) ?_)
                cases action with
                | succeed => exact .refl
                | fail error => exact .refl
                | raise printed => exact .refl
                | abort error => exact .refl
                | addMember member =>
                    refine .single
                      ((declareMember_step (called.sound sound) present member false).mono ?_)
                    rintro deed rfl
                    exact declares type ⟨serial, member, implementation⟩
                | sealSelf => exact sealing type
                | sealOther other => exact sealing other
              next =>
                have started : Steps (Deed.Seals mayDeclare) graph
                    (graph.modifyProgress type ({ · with isPreInitialized := true })) :=
                  .single (.of_change (.refl sound) Deed.seals_complete (.start type) rfl
                    fun _ _ _ held => held)
                exact started.tail (freeze_step (started.sound sound) (started.ready refused))

/-- Sealing a type is a sequence of steps. -/
theorem sealType_steps (type : TypeId) {mayDeclare : Prop} (sound : graph.Sound)
    (declares : ∀ other, graph.AddsMembers other → mayDeclare) :
    Steps (Deed.Seals mayDeclare) graph ((sealType type).exec graph).2 := by
  unfold sealType
  rw [Build.exec_get_bind]
  exact sealWithin_steps _ type sound declares

theorem finishBuild_steps (type : TypeId) (sealNow : Bool) {mayDeclare : Prop}
    (sound : graph.Sound) (declares : ∀ other, graph.AddsMembers other → mayDeclare) :
    Steps (Deed.Seals mayDeclare) graph ((finishBuild type sealNow).exec graph).2 := by
  unfold finishBuild
  cases sealNow with
  | false => exact .refl
  | true =>
      have ran := sealType_steps type sound declares
      rw [if_pos rfl, Build.exec_bind]
      rcases ended : (sealType type).exec graph with ⟨outcome, left⟩
      rw [ended] at ran
      cases outcome <;> exact ran

end Nominal
