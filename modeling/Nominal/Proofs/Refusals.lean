import Nominal.Proofs.Outcomes
import Nominal.Proofs.Runs

/-!
# Refused operations

An operation that fails leaves every declaration as it was: the types with their supertypes, members
and states, and the members with their owners and names.  Most operations check first and change
afterwards.  Setting a parent makes the link first and takes it back, and sealing starts the
deferred build first, which is recorded apart from the declarations.
-/

namespace Nominal

open Nominal.Graph

namespace Graph

/-- Two graphs in which the same is declared. -/
structure SameDeclarations (graph left : Graph) : Prop where
  types : left.types = graph.types
  members : left.members = graph.members

namespace SameDeclarations

variable {graph left last : Graph}

theorem refl (graph : Graph) : graph.SameDeclarations graph :=
  ⟨rfl, rfl⟩

theorem trans (early : graph.SameDeclarations left) (late : left.SameDeclarations last) :
    graph.SameDeclarations last :=
  ⟨late.types.trans early.types, late.members.trans early.members⟩

theorem of_bare (same : left.bare = graph.bare) : graph.SameDeclarations left :=
  ⟨types_eq_of_bare same, members_eq_of_bare same⟩

end SameDeclarations

end Graph

/-- A build that leaves all declarations as they are if it fails. -/
def Build.Cautious {α : Type} (build : Build α) (graph : Graph) : Prop :=
  ∀ failure, (build.exec graph).1 = .error failure →
    graph.SameDeclarations (build.exec graph).2

namespace Build.Cautious

variable {α β : Type} {build : Build α} {graph : Graph}

theorem of_ok {value : α} (succeeds : (build.exec graph).1 = .ok value) : build.Cautious graph := by
  intro failure failed
  rw [succeeds] at failed
  cases failed

theorem of_same (same : graph.SameDeclarations (build.exec graph).2) : build.Cautious graph :=
  fun _ _ => same

theorem bind {left : Graph} {outcome : Except Failure α} {next : α → Build β}
    (first : build.exec graph = (outcome, left)) (same : graph.SameDeclarations left)
    (rest : ∀ value, outcome = .ok value → (next value).Cautious left) :
    Build.Cautious (build >>= next) graph := by
  intro failure failed
  cases outcome with
  | error found =>
      rw [Build.exec_bind_of_error first]
      exact same
  | ok value =>
      rw [Build.exec_bind_of_ok first] at failed ⊢
      exact same.trans (rest value rfl failure failed)

theorem get_bind {next : Graph → Build β} (rest : (next graph).Cautious graph) :
    Build.Cautious (get >>= next) graph :=
  rest

theorem check_bind {check : Build Unit} {found : Option Error} {left : Graph}
    {next : Unit → Build β} (checks : check.exec graph = (verdict found, left))
    (same : graph.SameDeclarations left) (rest : (next ()).Cautious left) :
    Build.Cautious (check >>= next) graph :=
  bind checks same fun _ _ => rest

theorem requireUnsealed_bind {type : TypeId} (mutation : Mutation) {next : Unit → Build β}
    (rest : graph.isSealed type = false → (next ()).Cautious graph) :
    Build.Cautious (requireUnsealed type mutation >>= next) graph := by
  intro failure failed
  rw [exec_requireUnsealed_bind] at failed ⊢
  by_cases isFinal : graph.isSealed type = true
  · rw [if_pos isFinal]
    exact .refl graph
  · rw [if_neg isFinal] at failed ⊢
    exact rest (by simpa using isFinal) failure failed

theorem requireSameArena_bind {type other : TypeId} {next : Unit → Build β}
    (rest : (graph.typeAt other).arena = (graph.typeAt type).arena → (next ()).Cautious graph) :
    Build.Cautious (requireSameArena type other >>= next) graph := by
  intro failure failed
  rw [exec_requireSameArena_bind] at failed ⊢
  by_cases sameArena : (graph.typeAt other).arena = (graph.typeAt type).arena
  · rw [if_pos sameArena] at failed ⊢
    exact rest sameArena failure failed
  · rw [if_neg sameArena]
    exact .refl graph

end Build.Cautious

section Operations

variable {graph : Graph} {type : TypeId}

/-! ## Supertypes -/

/-- A parent that is refused after the link was made is taken back. -/
theorem relink_cautious {parent : TypeId} (sound : graph.Sound)
    (isOpen : graph.isSealed type = false)
    (linkable : graph.Linkable type parent) (isClass : (graph.typeAt type).isClass = true)
    (parentIsClass : (graph.typeAt parent).isClass = true) :
    (relink graph type parent).Cautious graph := by
  have linked := sound.setParentLink isOpen linkable isClass parentIsClass
  intro failure failed
  unfold relink at failed ⊢
  rw [Build.exec_modify_bind] at failed ⊢
  by_cases checks : graph.checksAncestors type = true
  · rw [if_pos checks] at failed ⊢
    obtain ⟨left, read, checked⟩ := exec_checkDeclaredMembers linked
      (graph.typeAt type).declaredForCheck
    rw [Build.exec_tryCatch, checked] at failed ⊢
    cases conflict : (graph.typeAt type).declaredForCheck.findSome? fun member =>
        (graph.setParentLink type (some parent)).ancestorError? type member
          ((graph.setParentLink type (some parent)).memberAt member).identifier with
    | none =>
        rw [conflict] at failed
        cases failed
    | some error =>
        have restored :
            (left.setParentLink type (graph.typeAt type).parent?).bare = graph.bare := by
          rw [← setParentLink_restore graph.bare type (some parent)]
          exact congrArg (fun bare : Graph => bare.setParentLink type (graph.typeAt type).parent?)
            read.bare
        exact .of_bare restored
  · rw [if_neg checks] at failed
    cases failed

theorem setParent_cautious (sound : graph.Sound) (isClass : (graph.typeAt type).isClass = true)
    {parent : Option TypeId} (parentIsClass : ∀ id ∈ parent, (graph.typeAt id).isClass = true) :
    (setParent type parent).Cautious graph := by
  unfold setParent
  refine .requireUnsealed_bind .setParent fun isOpen => .get_bind ?_
  cases parent with
  | none => exact .of_same (.refl graph)
  | some parent =>
      have parentIsClass := parentIsClass parent rfl
      have present := lt_size_of_isClass parentIsClass
      refine .requireSameArena_bind fun sameArena => ?_
      by_cases cyclic : graph.reaches parent type = true
      · rw [if_pos cyclic]
        exact .of_same (.refl graph)
      · rw [if_neg cyclic]
        by_cases isFinal : (graph.typeAt parent).properties.has .final = true
        · rw [if_pos isFinal]
          exact .of_same (.refl graph)
        · rw [if_neg isFinal]
          refine .check_bind (exec_checkTypeVisibility _ _) (.refl graph) ?_
          have apart : ¬ graph.Reaches parent type := by
            rwa [sound.wellFormed.hierarchical.reaches_iff present] at cyclic
          exact relink_cautious sound isOpen ⟨present, sameArena, apart⟩ isClass parentIsClass

theorem addInterface_cautious (interface : Option TypeId) :
    (addInterface type interface).Cautious graph := by
  unfold addInterface
  refine .requireUnsealed_bind .addInterface fun _ => ?_
  cases interface with
  | none => exact .of_same (.refl graph)
  | some added =>
      refine .requireSameArena_bind fun _ => .get_bind ?_
      by_cases cyclic : graph.reaches added type = true
      · rw [if_pos cyclic]
        exact .of_same (.refl graph)
      · rw [if_neg cyclic]
        refine .check_bind (exec_checkTypeVisibility _ _) (.refl graph) ?_
        split
        · exact .of_same (.refl graph)
        · exact .of_ok rfl

/-! ## Members -/

theorem addInheritable_cautious (sound : graph.Sound) (member : MemberId) (identifier : String) :
    (addInheritable type member identifier).Cautious graph := by
  have inserted : ∀ left : Graph, (insertMember type member identifier).Cautious left :=
    fun left => .of_ok (congrArg Prod.fst (insertMember_exec member identifier))
  unfold addInheritable
  refine .get_bind (.check_bind (exec_checkOverloads _ _) (.refl graph) ?_)
  by_cases checks : graph.checksAncestors type = true
  · rw [if_pos checks]
    obtain ⟨left, read, checked⟩ := exec_checkAgainstAncestors sound member identifier
    exact .check_bind checked (.of_bare read.bare) (inserted left)
  · rw [if_neg checks]
    exact inserted graph

theorem listDistinct_cautious (existing : List MemberId) (member : MemberId) (identifier : String)
    (place : NominalType → NominalType) :
    Build.Cautious (do
      checkDistinctKey type existing member
      adopt type member identifier
      modify (·.modifyType type place)) graph :=
  .check_bind (exec_checkDistinctKey _ _) (.refl graph) (.of_ok rfl)

theorem addClassInstanceMember_cautious (sound : graph.Sound) (member : MemberId)
    (identifier : String) : (addClassInstanceMember type member identifier).Cautious graph := by
  unfold addClassInstanceMember
  refine .get_bind ?_
  cases (graph.memberAt member).kind with
  | constructor | initializer => exact listDistinct_cautious _ member identifier _
  | field | method => exact addInheritable_cautious sound member identifier
  | unknown | staticConstructor => exact .of_same (.refl graph)

theorem addClassStaticMember_cautious (sound : graph.Sound) (member : MemberId)
    (identifier : String) : (addClassStaticMember type member identifier).Cautious graph := by
  unfold addClassStaticMember
  refine .get_bind ?_
  cases (graph.memberAt member).kind with
  | staticConstructor =>
      dsimp only
      split
      · exact .of_same (.refl graph)
      · exact .of_ok rfl
  | field | method => exact addInheritable_cautious sound member identifier
  | unknown | constructor | initializer => exact .of_same (.refl graph)

theorem addInterfaceMember_cautious (member : MemberId) (identifier : String) (isStatic : Bool) :
    (addInterfaceMember type member identifier isStatic).Cautious graph := by
  unfold addInterfaceMember
  refine .get_bind ?_
  dsimp only
  split
  · exact .of_same (.refl graph)
  · split
    · exact .of_same (.refl graph)
    · exact .check_bind (exec_checkOverloads _ _) (.refl graph)
        (.of_ok (congrArg Prod.fst (insertMember_exec member identifier)))

theorem declareMember_cautious (sound : graph.Sound) (member : Option MemberId) (isStatic : Bool) :
    (declareMember type member isStatic).Cautious graph := by
  unfold declareMember
  refine .requireUnsealed_bind _ fun _ => ?_
  rcases @requireAdoptable_cases graph type member isStatic with
    ⟨failure, refused⟩ | ⟨id, _, _, offered⟩
  · exact .bind refused (.refl graph) fun _ impossible => nomatch impossible
  · refine .bind offered (.refl graph) ?_
    rintro _ ⟨⟩
    refine .get_bind ?_
    split
    · split
      · exact addClassStaticMember_cautious sound id _
      · exact addClassInstanceMember_cautious sound id _
    · exact addInterfaceMember_cautious id _ isStatic

/-! ## Sealing -/

/-- A deferred build that does not build types. -/
def HookAction.isPassive : HookAction → Bool
  | succeed | fail _ | raise _ | abort _ => true
  | addMember _ | sealSelf | sealOther _ => false

/-- An implementation whose deferred build, if it has one, does not build types. -/
def Implementation.isPassive : Implementation → Bool
  | plain => true
  | deferred _ action => action.isPassive

/-- After a deferred build that changes no declaration, the type is frozen or its failure is
kept. -/
theorem finishHook_cautious {hook : Build Unit}
    (same : graph.SameDeclarations (hook.exec graph).2) :
    Build.Cautious (do
      let outcome ← recoverHook hook
      match outcome with
      | some cause =>
        let failure := Error.preInitialization type cause
        modify (·.modifyProgress type ({ · with failure := some failure }))
        reject failure
      | none => freeze type) graph := by
  rw [← recoverHook_left] at same
  refine .bind rfl same ?_
  intro outcome _
  cases outcome with
  | none => exact .of_ok (freeze_ends _ _).outcome
  | some cause => exact .of_same ⟨rfl, rfl⟩

theorem sealType_cautious
    (passive : ∀ implementation ∈ (graph.typeAt type).implementation,
      implementation.isPassive = true) : (sealType type).Cautious graph := by
  unfold sealType
  refine .get_bind ?_
  unfold sealWithin
  refine .requireUnsealed_bind .sealType fun _ => .get_bind ?_
  cases (graph.progressAt type).failure with
  | some failure => exact .of_same (.refl graph)
  | none =>
      cases graph.sealError? type with
      | some error => exact .of_same (.refl graph)
      | none =>
          dsimp only
          split
          · exact .of_ok (freeze_ends _ _).outcome
          · refine .bind rfl ⟨rfl, rfl⟩ fun _ _ => ?_
            split
            next serial action implementation =>
              refine .bind rfl ⟨rfl, rfl⟩ fun _ _ => finishHook_cautious ?_
              have harmless := passive _ implementation
              cases action with
              | succeed | fail | raise | abort => exact .refl _
              | addMember | sealSelf | sealOther => cases harmless
            next => exact .of_ok (freeze_ends _ _).outcome

end Operations

/-! ## After every run -/

/-- After every run, an operation that fails changes nothing that is declared anywhere, and leaves
the member that it was offered as it was.  The deferred build of a type that is sealed is taken not
to build types. -/
theorem builders_cautious_after {run : List Operation} (admitted : ({} : Graph).admits run = true) :
    (∀ type parent,
        (Operation.setParent type parent).isAdmissible (({} : Graph).after run) = true →
        (setParent type parent).Cautious (({} : Graph).after run)) ∧
      (∀ type interface, (addInterface type interface).Cautious (({} : Graph).after run)) ∧
      (∀ type member isStatic,
        (declareMember type member isStatic).Cautious (({} : Graph).after run)) ∧
      ∀ type, (∀ implementation ∈ ((({} : Graph).after run).typeAt type).implementation,
          implementation.isPassive = true) →
        (sealType type).Cautious (({} : Graph).after run) := by
  have sound := sound_after admitted
  refine ⟨?_, fun _ => addInterface_cautious, fun _ => declareMember_cautious sound,
    fun _ => sealType_cautious⟩
  intro type parent admissible
  simp only [Operation.isAdmissible, Bool.and_eq_true, Option.all_eq_true] at admissible
  exact setParent_cautious sound admissible.1 fun id named => admissible.2 id named

/-- A class with a method and a root class with a field of the same name, whose deferred build
fails. -/
def incompatiblePair : List Operation :=
  [.openArena {}, .newClass 0 "Root" "m" .pub (.ofList [.root]), .newClass 0 "Leaf" "m" .pub {},
    .newMember (.field none .pub false false "x" none), .declareMember 0 (some 0) false,
    .newMember (.method none .pub false "x" [] none), .declareMember 1 (some 1) false,
    .setImplementation 0 (some (.deferred 0 (.fail (.user (.text "refused")))))]

theorem builders_cautious_after_incompatiblePair :
    ({} : Graph).admits incompatiblePair = true ∧
      ((setParent 1 (some 0)).exec (({} : Graph).after incompatiblePair)).1
        = .error (.rejected (.incompatibleMemberKind 1 1 0)) ∧
      (({} : Graph).after incompatiblePair).SameDeclarations
        ((setParent 1 (some 0)).exec (({} : Graph).after incompatiblePair)).2 ∧
      ((sealType 0).exec (({} : Graph).after incompatiblePair)).1
        = .error (.rejected (.preInitialization 0 (.user (.text "refused")))) ∧
      (({} : Graph).after incompatiblePair).SameDeclarations
        ((sealType 0).exec (({} : Graph).after incompatiblePair)).2 := by
  have admitted : ({} : Graph).admits incompatiblePair = true := by
    decide +kernel
  have unlinked : ((setParent 1 (some 0)).exec (({} : Graph).after incompatiblePair)).1
      = .error (.rejected (.incompatibleMemberKind 1 1 0)) := by
    decide +kernel
  have unsealed : ((sealType 0).exec (({} : Graph).after incompatiblePair)).1
      = .error (.rejected (.preInitialization 0 (.user (.text "refused")))) := by
    decide +kernel
  obtain ⟨parents, -, -, seals⟩ := builders_cautious_after admitted
  refine ⟨admitted, unlinked, parents 1 (some 0) (by decide +kernel) _ unlinked, unsealed,
    seals 0 ?_ _ unsealed⟩
  decide +kernel

end Nominal
