import Nominal.Proofs.Steps

/-!
# The operations as steps

Each operation on a sound graph is a sequence of steps.  Stubs, descriptions and supertypes take one
step each, and so does a member; an operation that fails takes none.
-/

namespace Nominal

open Nominal.Graph

variable {graph : Graph} {type : TypeId}

/-! ## Stubs and members -/

theorem newStub_step (sound : graph.Sound) {arena : ArenaId}
    (present : arena < graph.arenas.size) {shape : TypeShape}
    (empty : shape = .classShape {} ∨ shape = .interfaceShape)
    (identifier moduleName : String) (visibility : Visibility) (properties : TypeProperties)
    (record : String → Nat → LogRecord) :
    Step (· = .describe) graph ((newStub arena shape identifier moduleName visibility properties
      record).exec graph).2 := by
  rw [newStub, Build.exec_get_bind]
  dsimp only
  split
  · exact .refl sound
  · rw [Build.exec_set_bind, Build.exec_lift_bind]
    have step : Step (· = .describe) graph { graph with
        arenas := graph.arenas.modify arena fun old =>
          { old with types := old.types ++ [graph.types.size] }
        types := graph.types.push
          { identifier := Text.canonical identifier, moduleName, visibility, properties, arena,
            index := (graph.arenaAt arena).types.length, shape }
        progress := graph.progress.push {}
        caches := graph.caches.push {} } := by
      refine .of_change (.refl sound) rfl
        (.allocate arena shape identifier moduleName visibility properties present empty) rfl ?_
      intro view type answer held
      simp only [cacheAt, Array.getElem?_push] at held
      split at held
      · rw [Option.getD_some, view.kept_empty] at held
        cases held
      · exact held
    exact step.reading ((Query.Answers.recordLog _ _).reads step.sound)

theorem newMember_step (sound : graph.Sound) {member : Member}
    (within : member.isWithin graph.types.size = true) :
    Step (· = .describe) graph ((newMember member).exec graph).2 :=
  .of_change (.refl sound) rfl (.create member within) rfl fun _ _ _ held => held

theorem arrayOf_step (sound : graph.Sound) (arena : ArenaId) (element : TypeRef)
    (base : Option TypeId) :
    Step (· = .describe) graph ((arrayOf arena element base).exec graph).2 := by
  rw [arrayOf, Query.exec_bind, Query.exec_get]
  dsimp only
  split
  · exact .refl sound
  · exact .of_change (.refl sound) rfl (.intern arena _ _) rfl fun _ _ _ held => held

/-! ## Descriptions -/

theorem Graph.Step.reform (sound : graph.Sound) (present : type < graph.types.size)
    (isOpen : graph.isSealed type = false) {deed : Deed} {change : NominalType → NominalType}
    (checked : graph.TypeChange type deed change) :
    Step (· = deed) graph (graph.modifyType type change) :=
  .of_change (.refl sound) rfl (.reform type deed change present isOpen checked) rfl
    fun _ _ _ held => held

theorem changeType_step (sound : graph.Sound) (present : type < graph.types.size)
    (mutation : Mutation) {deed : Deed} {change : NominalType → NominalType}
    (checked : graph.TypeChange type deed change) :
    Step (· = deed) graph ((changeType type mutation change).exec graph).2 := by
  rw [changeType, exec_requireUnsealed_bind]
  split
  · exact .refl sound
  next isOpen => exact .reform sound present (by simpa using isOpen) checked

theorem addExtensionClass_step (sound : graph.Sound) (present : type < graph.types.size)
    (extension : Option TypeId) :
    Step (· = .describe) graph ((addExtensionClass type extension).exec graph).2 := by
  unfold addExtensionClass
  rw [exec_requireUnsealed_bind]
  split
  · exact .refl sound
  next isOpen =>
    cases extension with
    | none => exact .refl sound
    | some added =>
        dsimp only
        rw [exec_requireSameArena_bind]
        split
        · refine .reform sound present (by simpa using isOpen) (.describe _ ?_)
          exact ⟨⟨rfl, rfl, rfl, rfl, rfl, rfl, rfl⟩, rfl, fun _ => rfl, rfl, .inl rfl, rfl,
            fun _ listed => .inl listed⟩
        · exact .refl sound

/-! ## Members -/

theorem insertMember_exec (member : MemberId) (identifier : String) :
    (insertMember type member identifier).exec graph = (.ok (), graph.withAdopted type member
      identifier (·.withListed (graph.memberAt member).isStatic identifier member)) := by
  have isStatic : ((graph.withOwner type member identifier).memberAt member).isStatic
      = (graph.memberAt member).isStatic := by
    rcases memberAt_withOwner_cases graph type member identifier member with same | ⟨_, changed⟩
    · rw [same]
    · rw [changed]
  rw [← isStatic]
  rfl

/-- Adopting a member after reading is one step, if its place has been checked. -/
theorem Graph.Step.declare {left : Graph} (read : graph.Reads left)
    (present : type < graph.types.size) (isOpen : graph.isSealed type = false)
    {member : MemberId}
    (adoptable : ∀ owner ∈ (graph.memberAt member).definingType, owner = type)
    {place : NominalType → NominalType}
    (checked : graph.Placement type member (Text.canonical (graph.memberAt member).identifier)
      place) :
    Step (· = .declare type) graph (left.withAdopted type member
      (Text.canonical (graph.memberAt member).identifier) place) := by
  refine .of_change read rfl (.declare type member place present isOpen adoptable checked) ?_
    fun _ _ _ held => held
  exact congrArg (fun bare : Graph => bare.withAdopted type member
    (Text.canonical (graph.memberAt member).identifier) place) read.bare

theorem insertMember_step {left : Graph} (read : graph.Reads left)
    (present : type < graph.types.size) (isOpen : graph.isSealed type = false)
    {member : MemberId}
    (adoptable : ∀ owner ∈ (graph.memberAt member).definingType, owner = type)
    (checked : graph.Placement type member (Text.canonical (graph.memberAt member).identifier)
      (·.withListed (graph.memberAt member).isStatic
        (Text.canonical (graph.memberAt member).identifier) member)) :
    Step (· = .declare type) graph ((insertMember type member
      (Text.canonical (graph.memberAt member).identifier)).exec left).2 := by
  rw [insertMember_exec, memberAt_eq_of_bare read.bare]
  exact .declare read present isOpen adoptable checked

theorem addInheritable_step (sound : graph.Sound) (present : type < graph.types.size)
    (isOpen : graph.isSealed type = false) (isClass : (graph.typeAt type).isClass = true)
    {member : MemberId}
    (adoptable : ∀ owner ∈ (graph.memberAt member).definingType, owner = type)
    (inheritable : (graph.memberAt member).kind.isInheritable = true) :
    Step (· = .declare type) graph ((addInheritable type member
      (Text.canonical (graph.memberAt member).identifier)).exec graph).2 := by
  unfold addInheritable
  rw [Build.exec_get_bind]
  dsimp only
  rw [Build.exec_bind_of_verdict (exec_checkOverloads _ _)]
  cases conflict : ((graph.typeAt type).declaredByName
      (Text.canonical (graph.memberAt member).identifier)
      (graph.memberAt member).isStatic).findSome? (graph.overloadError? type member) with
  | some error => exact .refl sound
  | none =>
      have consistent := List.findSome?_eq_none_iff.mp conflict
      have isNoInterface : (graph.typeAt type).isClass = false →
          (graph.memberAt member).visibility = .pub := by
        intro isInterface
        rw [isClass] at isInterface
        cases isInterface
      rw [Option.elim_none]
      by_cases checks : graph.checksAncestors type = true
      · obtain ⟨left, read, checked⟩ := exec_checkAgainstAncestors sound member
          (Text.canonical (graph.memberAt member).identifier)
        rw [if_pos checks, Build.exec_bind_of_verdict checked]
        cases inherited : graph.ancestorError? type member
            (Text.canonical (graph.memberAt member).identifier) with
        | some error => exact .of_reads read
        | none =>
            exact insertMember_step read present isOpen adoptable
              (.overload inheritable consistent isNoInterface fun _ _ => inherited)
      · rw [if_neg checks]
        exact insertMember_step (.refl sound) present isOpen adoptable
          (.overload inheritable consistent isNoInterface fun _ checks' => absurd checks' checks)

theorem requireAdoptable_cases (member : Option MemberId) (isStatic : Bool) :
    (∃ failure, (requireAdoptable type member isStatic).exec graph = (.error failure, graph)) ∨
      ∃ id, (∀ owner ∈ (graph.memberAt id).definingType, owner = type) ∧
        ((graph.memberAt id).kind.isInheritable = true →
          (graph.memberAt id).isStatic = isStatic) ∧
        (requireAdoptable type member isStatic).exec graph
          = (.ok (id, Text.canonical (graph.memberAt id).identifier), graph) := by
  unfold requireAdoptable
  cases member with
  | none => exact .inl ⟨_, rfl⟩
  | some id =>
      dsimp only
      rw [Build.exec_get_bind]
      cases foreign : (graph.memberAt id).definingType.filter (· ≠ type) with
      | some declaring => exact .inl ⟨_, rfl⟩
      | none =>
          have adoptable : ∀ owner ∈ (graph.memberAt id).definingType, owner = type := by
            simpa [Option.filter_eq_none_iff] using foreign
          dsimp only
          split
          · exact .inl ⟨_, rfl⟩
          next matching =>
            refine .inr ⟨id, adoptable, ?_, rfl⟩
            intro inheritable
            simpa [inheritable] using matching

section Adopting

variable (sound : graph.Sound) (present : type < graph.types.size)
  (isOpen : graph.isSealed type = false) {member : MemberId}
  (adoptable : ∀ owner ∈ (graph.memberAt member).definingType, owner = type)

include sound present isOpen adoptable

/-- A member that must only differ in its key from those that it is listed with. -/
theorem listDistinct_step {existing : List MemberId} {place : NominalType → NominalType}
    (checked : (∀ other ∈ existing, graph.keyOf other ≠ graph.keyOf member) →
      graph.Placement type member (Text.canonical (graph.memberAt member).identifier) place) :
    Step (· = .declare type) graph (Build.exec (do
      checkDistinctKey type existing member
      adopt type member (Text.canonical (graph.memberAt member).identifier)
      modify (·.modifyType type place)) graph).2 := by
  rw [Build.exec_bind_of_verdict (exec_checkDistinctKey _ _)]
  split
  · exact .refl sound
  next fresh =>
    refine .declare (.refl sound) present isOpen adoptable (checked ?_)
    simpa using fresh

theorem addClassInstanceMember_step (isClass : (graph.typeAt type).isClass = true) :
    Step (· = .declare type) graph ((addClassInstanceMember type member
      (Text.canonical (graph.memberAt member).identifier)).exec graph).2 := by
  unfold addClassInstanceMember
  rw [Build.exec_get_bind]
  dsimp only
  split
  next kind =>
    exact listDistinct_step sound present isOpen adoptable fun fresh => .constructor kind fresh
  next kind =>
    exact listDistinct_step sound present isOpen adoptable fun fresh => .initializer kind fresh
  next kind =>
    exact addInheritable_step sound present isOpen isClass adoptable (by rw [kind]; rfl)
  next kind =>
    exact addInheritable_step sound present isOpen isClass adoptable (by rw [kind]; rfl)
  next => exact .refl sound
  next => exact .refl sound

theorem addClassStaticMember_step (isClass : (graph.typeAt type).isClass = true) :
    Step (· = .declare type) graph ((addClassStaticMember type member
      (Text.canonical (graph.memberAt member).identifier)).exec graph).2 := by
  unfold addClassStaticMember
  rw [Build.exec_get_bind]
  split
  next kind =>
    split
    · exact .refl sound
    next fresh =>
      exact .declare (.refl sound) present isOpen adoptable
        (.staticConstructor kind (by simpa using fresh))
  next kind =>
    exact addInheritable_step sound present isOpen isClass adoptable (by rw [kind]; rfl)
  next kind =>
    exact addInheritable_step sound present isOpen isClass adoptable (by rw [kind]; rfl)
  next => exact .refl sound
  next => exact .refl sound
  next => exact .refl sound

theorem addInterfaceMember_step (isInterface : (graph.typeAt type).isClass = false)
    {isStatic : Bool} (staticness : (graph.memberAt member).kind.isInheritable = true →
      (graph.memberAt member).isStatic = isStatic) :
    Step (· = .declare type) graph ((addInterfaceMember type member
      (Text.canonical (graph.memberAt member).identifier) isStatic).exec graph).2 := by
  unfold addInterfaceMember
  rw [Build.exec_get_bind]
  dsimp only
  split
  · exact .refl sound
  next kind =>
    have inheritable : (graph.memberAt member).kind.isInheritable = true := by simpa using kind
    split
    · exact .refl sound
    next publicly =>
      rw [Build.exec_bind_of_verdict (exec_checkOverloads _ _)]
      cases conflict : ((graph.typeAt type).declaredByName
          (Text.canonical (graph.memberAt member).identifier) isStatic).findSome?
            (graph.overloadError? type member) with
      | some error => exact .refl sound
      | none =>
          have consistent := List.findSome?_eq_none_iff.mp conflict
          refine insertMember_step (.refl sound) present isOpen adoptable
            (.overload inheritable ?_ (fun _ => by simpa using publicly) ?_)
          · rw [staticness inheritable]
            exact consistent
          · intro isClass
            rw [isInterface] at isClass
            cases isClass

end Adopting

/-- A type that adopts a member takes one step. -/
theorem declareMember_step (sound : graph.Sound) (present : type < graph.types.size)
    (member : Option MemberId) (isStatic : Bool) :
    Step (· = .declare type) graph ((declareMember type member isStatic).exec graph).2 := by
  unfold declareMember
  rw [exec_requireUnsealed_bind]
  split
  · exact .refl sound
  next unsealed =>
    have isOpen : graph.isSealed type = false := by simpa using unsealed
    rcases requireAdoptable_cases member isStatic with
      ⟨failure, refused⟩ | ⟨id, adoptable, staticness, run⟩
    · rw [Build.exec_bind_of_error refused]
      exact .refl sound
    · rw [Build.exec_bind_of_ok run]
      dsimp only
      rw [Build.exec_get_bind]
      split
      next isClass =>
        split
        · exact addClassStaticMember_step sound present isOpen adoptable isClass
        · exact addClassInstanceMember_step sound present isOpen adoptable isClass
      next isInterface =>
        exact addInterfaceMember_step sound present isOpen adoptable (by simpa using isInterface)
          staticness

end Nominal
