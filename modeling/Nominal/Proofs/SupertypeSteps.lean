import Nominal.Proofs.BuildSteps

/-!
# Supertypes as steps

Setting a parent and adding an interface take one step each.  A parent that is rejected after the
link was made is taken back, and then nothing has changed but kept views.

Both operations search the hierarchy first, and in a well-formed graph the search is exact: they
report a cycle if and only if the type is reached from its new supertype.
-/

namespace Nominal

namespace Graph

variable {graph : Graph} {type : TypeId}

/-! ## The search in a well-formed graph -/

/-- Indices tell the types of an arena apart. -/
theorem Hierarchical.distinguished (hierarchical : graph.Hierarchical) (arena : ArenaId) :
    graph.Distinguished fun type =>
      type < graph.types.size ∧ (graph.typeAt type).arena = arena := by
  constructor
  · rintro type supertype ⟨_, rfl⟩ link
    exact hierarchical.linked link
  · rintro type other ⟨present, rfl⟩ ⟨otherPresent, sameArena⟩ sameIndex
    have first := hierarchical.indexed present
    have second := hierarchical.indexed otherPresent
    rw [sameArena, ← sameIndex, first] at second
    exact Option.some.inj second

/-- In a well-formed graph the search decides what is reached. -/
theorem Hierarchical.reaches_iff (hierarchical : graph.Hierarchical) {source target : TypeId}
    (present : source < graph.types.size) :
    graph.reaches source target = true ↔ graph.Reaches source target :=
  Graph.reaches_iff (hierarchical.distinguished (graph.typeAt source).arena) ⟨present, rfl⟩

/-! ## Setting and restoring a parent -/

theorem mapClassPart_restore (type : NominalType) (parent : Option TypeId) :
    (type.mapClassPart ({ · with parent })).mapClassPart ({ · with parent := type.parent? })
      = type := by
  cases shape : type.shape with
  | classShape part =>
      obtain ⟨_, _, _, _, _, _, _, _⟩ := type
      cases shape
      rfl
  | interfaceShape => simp only [NominalType.mapClassPart, shape]

/-- Setting a parent and then the former one changes nothing. -/
theorem setParentLink_restore (graph : Graph) (type : TypeId) (parent : Option TypeId) :
    (graph.setParentLink type parent).setParentLink type (graph.typeAt type).parent? = graph := by
  rw [setParentLink, setParentLink, modifyType_modifyType]
  exact modifyType_eq_self fun _ => mapClassPart_restore (graph.typeAt type) parent

/-- The former parent can be restored in any graph that reading has left. -/
theorem bare_restore {left : Graph} {parent : Option TypeId}
    (same : left.bare = (graph.setParentLink type parent).bare) :
    (left.setParentLink type (graph.typeAt type).parent?).bare = graph.bare := by
  rw [← setParentLink_restore graph.bare type parent]
  exact congrArg (fun bare : Graph => bare.setParentLink type (graph.typeAt type).parent?) same

theorem ancestorError?_eq_of_reads (sound : graph.Sound) {left : Graph} (read : graph.Reads left)
    (member : MemberId) (identifier : String) :
    left.ancestorError? type member identifier = graph.ancestorError? type member identifier := by
  have rejects : left.inheritanceError? type member = graph.inheritanceError? type member := by
    funext ancestor
    simp only [inheritanceError?, memberAt_eq_of_bare read.bare]
  simp only [ancestorError?, inheritedMembers, typeAt_eq_of_bare read.bare,
    memberAt_eq_of_bare read.bare, rejects, ofClass_eq_of_reads sound read,
    loadedByName_eq_of_reads sound read]

end Graph

open Nominal.Graph

variable {graph : Graph} {type : TypeId}

/-- The check of declared members reads, and ends with the first error that it finds. -/
theorem exec_checkDeclaredMembers (sound : graph.Sound) (members : List MemberId) :
    ∃ left, graph.Reads left ∧ (checkDeclaredMembers type members).exec graph
      = (verdict (members.findSome? fun member =>
          graph.ancestorError? type member (graph.memberAt member).identifier), left) := by
  induction members generalizing graph with
  | nil => exact ⟨graph, .refl sound, rfl⟩
  | cons member rest induction =>
      obtain ⟨left, read, checked⟩ := exec_checkAgainstAncestors sound member
        (graph.memberAt member).identifier
      rw [checkDeclaredMembers, Build.exec_get_bind, Build.exec_bind_of_verdict checked,
        List.findSome?_cons]
      cases graph.ancestorError? type member (graph.memberAt member).identifier with
      | some error => exact ⟨left, read, rfl⟩
      | none =>
          obtain ⟨last, readRest, checkedRest⟩ := induction read.sound
          refine ⟨last, read.trans readRest, ?_⟩
          simp only [ancestorError?_eq_of_reads sound read, memberAt_eq_of_bare read.bare]
            at checkedRest
          exact checkedRest

/-- The part of `setParent` that comes after all checks of the new parent itself. -/
def relink (graph : Graph) (type parent : TypeId) : Build Unit := do
  modify (·.setParentLink type (some parent))
  if graph.checksAncestors type then
    try checkDeclaredMembers type (graph.typeAt type).declaredForCheck
    catch failure =>
      modify (·.setParentLink type (graph.typeAt type).parent?)
      throw failure

theorem exec_setParent (parent : TypeId) (isOpen : graph.isSealed type = false)
    (sameArena : (graph.typeAt parent).arena = (graph.typeAt type).arena) :
    (setParent type (some parent)).exec graph =
      if graph.reaches parent type then
        (.error (.rejected (.cyclicInheritance type parent)), graph)
      else if (graph.typeAt parent).properties.has .final then
        (.error (.rejected (.invalidParent type parent)), graph)
      else
        (graph.typeVisibilityError? { referencing := some type } (.nominal parent)).elim
          ((relink graph type parent).exec graph) fun error => (.error (.rejected error), graph) := by
  unfold setParent
  rw [exec_requireUnsealed_bind, if_neg (by simp [isOpen]), Build.exec_get_bind]
  dsimp only
  rw [exec_requireSameArena_bind, if_pos sameArena]
  split
  · rfl
  · split
    · rfl
    · rw [Build.exec_bind_of_verdict (exec_checkTypeVisibility _ _)]
      rfl

/-- Neither check of members reports a cycle. -/
theorem ancestorError?_ne_cyclicInheritance (member : MemberId) (identifier : String)
    (subject supertype : TypeId) :
    graph.ancestorError? type member identifier ≠ some (.cyclicInheritance subject supertype) := by
  intro found
  simp only [ancestorError?] at found
  split at found
  · cases found
  · obtain ⟨ancestor, _, rejected⟩ := List.exists_of_findSome?_eq_some found
    simp only [inheritanceError?] at rejected
    repeat' split at rejected
    all_goals cases rejected

section Linking

variable {parent : TypeId} (sound : graph.Sound) (isOpen : graph.isSealed type = false)
  (linkable : graph.Linkable type parent) (isClass : (graph.typeAt type).isClass = true)
  (parentIsClass : (graph.typeAt parent).isClass = true)

include isOpen linkable isClass parentIsClass

include sound in
theorem Graph.Sound.setParentLink : (graph.setParentLink type (some parent)).Sound := by
  have effect := TypeEffect.of_parent linkable isClass parentIsClass
  refine sound.of_keeps (sound.wellFormed.modifyType isOpen effect ?_)
    (.modifyType isOpen effect.identity) fun _ _ _ held => held
  exact NominalType.mapClassPart_declared _ _

/-- A parent that passed all checks is one change. -/
theorem link_change (accepted : graph.checksAncestors type = true →
      ∀ member ∈ (graph.typeAt type).declaredForCheck,
        (graph.setParentLink type (some parent)).ancestorError? type member
          (graph.memberAt member).identifier = none) :
    graph.Change (.link type) (graph.setParentLink type (some parent)) :=
  .reform type _ _ (lt_size_of_isClass isClass) isOpen
    (.link parent linkable isClass parentIsClass accepted)

include sound in
/-- A class takes a new parent, or keeps its former one, in one step. -/
theorem relink_step : ∃ found left, (relink graph type parent).exec graph = (verdict found, left) ∧
    (∀ subject supertype, found ≠ some (.cyclicInheritance subject supertype)) ∧
    Step (· = .link type) graph left := by
  have linked := sound.setParentLink isOpen linkable isClass parentIsClass
  unfold relink
  rw [Build.exec_modify_bind]
  by_cases checks : graph.checksAncestors type = true
  · rw [if_pos checks]
    obtain ⟨left, read, checked⟩ := exec_checkDeclaredMembers linked
      (graph.typeAt type).declaredForCheck
    rw [Build.exec_tryCatch, checked]
    cases conflict : (graph.typeAt type).declaredForCheck.findSome? fun member =>
        (graph.setParentLink type (some parent)).ancestorError? type member
          ((graph.setParentLink type (some parent)).memberAt member).identifier with
    | some error =>
        -- The former parent is restored in the graph that the checks have left.
        have bare := bare_restore read.bare
        have stillOpen : left.isSealed type = false := by
          rw [isSealed_eq_of_bare read.bare, isSealed, setParentLink,
            typeAt_modifyType_self (lt_size_of_isClass isClass)]
          simpa [isSealed, NominalType.isSealed] using isOpen
        have restored : (left.setParentLink type (graph.typeAt type).parent?).Sound :=
          read.sound.of_keeps (sound.wellFormed.of_bare bare)
            (.modifyType stillOpen (NominalType.mapClassPart_identity _ _)) fun _ _ _ held => held
        refine ⟨some error, _, rfl, ?_, .of_reads ⟨bare, restored⟩⟩
        intro subject supertype equal
        obtain ⟨member, _, rejected⟩ := List.exists_of_findSome?_eq_some conflict
        exact ancestorError?_ne_cyclicInheritance member _ subject supertype
          (rejected.trans equal)
    | none =>
        have accepted := List.findSome?_eq_none_iff.mp conflict
        refine ⟨none, left, rfl, (by simp), read.sound, .inr ⟨_, _, rfl, ?_, read.bare⟩⟩
        exact link_change isOpen linkable isClass parentIsClass fun _ => accepted
  · rw [if_neg checks]
    refine ⟨none, _, rfl, (by simp), linked, .inr ⟨_, _, rfl, ?_, rfl⟩⟩
    exact link_change isOpen linkable isClass parentIsClass fun checked => absurd checked checks

end Linking

/-- Setting a parent takes one step. -/
theorem setParent_step (sound : graph.Sound) (isClass : (graph.typeAt type).isClass = true)
    {parent : Option TypeId} (parentIsClass : ∀ id ∈ parent, (graph.typeAt id).isClass = true) :
    Step (· = .link type) graph ((setParent type parent).exec graph).2 := by
  by_cases isFinal : graph.isSealed type = true
  · unfold setParent
    rw [exec_requireUnsealed_bind, if_pos isFinal]
    exact .refl sound
  have isOpen : graph.isSealed type = false := by simpa using isFinal
  cases parent with
  | none =>
      unfold setParent
      rw [exec_requireUnsealed_bind, if_neg isFinal]
      exact .refl sound
  | some parent =>
      have parentIsClass := parentIsClass parent rfl
      have present := lt_size_of_isClass parentIsClass
      by_cases sameArena : (graph.typeAt parent).arena = (graph.typeAt type).arena
      · rw [exec_setParent parent isOpen sameArena]
        split
        · exact .refl sound
        next unreached =>
          split
          · exact .refl sound
          · cases graph.typeVisibilityError? { referencing := some type } (.nominal parent) with
            | some error => exact .refl sound
            | none =>
                have linkable : graph.Linkable type parent := by
                  refine ⟨present, sameArena, ?_⟩
                  rwa [sound.wellFormed.hierarchical.reaches_iff present] at unreached
                obtain ⟨found, left, run, _, step⟩ :=
                  relink_step sound isOpen linkable isClass parentIsClass
                rw [Option.elim_none, run]
                exact step
      · unfold setParent
        rw [exec_requireUnsealed_bind, if_neg isFinal, Build.exec_get_bind]
        dsimp only
        rw [exec_requireSameArena_bind, if_neg sameArena]
        exact .refl sound

theorem exec_addInterface (interface : TypeId) (isOpen : graph.isSealed type = false)
    (sameArena : (graph.typeAt interface).arena = (graph.typeAt type).arena) :
    (addInterface type (some interface)).exec graph =
      if graph.reaches interface type then
        (.error (.rejected (.cyclicInheritance type interface)), graph)
      else
        (graph.typeVisibilityError? { referencing := some type } (.nominal interface)).elim
          (if interface ∈ (graph.typeAt type).interfaces then (.ok (), graph)
            else (.ok (), graph.modifyType type fun old =>
              { old with interfaces := old.interfaces ++ [interface] }))
          fun error => (.error (.rejected error), graph) := by
  unfold addInterface
  rw [exec_requireUnsealed_bind, if_neg (by simp [isOpen])]
  dsimp only
  rw [exec_requireSameArena_bind, if_pos sameArena, Build.exec_get_bind]
  split
  · rfl
  · rw [Build.exec_bind_of_verdict (exec_checkTypeVisibility _ _)]
    congr 1
    split <;> rfl

/-- Adding an interface takes one step. -/
theorem addInterface_step (sound : graph.Sound) (present : type < graph.types.size)
    {interface : Option TypeId} (interfacePresent : ∀ id ∈ interface, id < graph.types.size)
    (isInterface : ∀ id ∈ interface, (graph.typeAt id).isClass = false) :
    Step (· = .describe) graph ((addInterface type interface).exec graph).2 := by
  by_cases isFinal : graph.isSealed type = true
  · unfold addInterface
    rw [exec_requireUnsealed_bind, if_pos isFinal]
    exact .refl sound
  have isOpen : graph.isSealed type = false := by simpa using isFinal
  cases interface with
  | none =>
      unfold addInterface
      rw [exec_requireUnsealed_bind, if_neg isFinal]
      exact .refl sound
  | some interface =>
      have interfacePresent := interfacePresent interface rfl
      by_cases sameArena : (graph.typeAt interface).arena = (graph.typeAt type).arena
      · rw [exec_addInterface interface isOpen sameArena]
        split
        · exact .refl sound
        next unreached =>
          cases graph.typeVisibilityError? { referencing := some type } (.nominal interface) with
          | some error => exact .refl sound
          | none =>
              rw [Option.elim_none]
              split
              · exact .refl sound
              · have linkable : graph.Linkable type interface := by
                  refine ⟨interfacePresent, sameArena, ?_⟩
                  rwa [sound.wellFormed.hierarchical.reaches_iff interfacePresent] at unreached
                exact .reform sound present isOpen
                  (.extend interface linkable (isInterface interface rfl))
      · unfold addInterface
        rw [exec_requireUnsealed_bind, if_neg isFinal]
        dsimp only
        rw [exec_requireSameArena_bind, if_neg sameArena]
        exact .refl sound

/-! ## Cycles -/

/-- The operation was refused because it would have made a cycle. -/
def ReportsCycle {α : Type} (outcome : Except Failure α) : Prop :=
  ∃ subject supertype, outcome = .error (.rejected (.cyclicInheritance subject supertype))

theorem typeVisibilityError?_ne_cyclicInheritance (graph : Graph) (site : AccessSite)
    (reference : TypeRef) (subject supertype : TypeId) : graph.typeVisibilityError? site reference
      ≠ some (.cyclicInheritance subject supertype) := by
  induction reference with
  | primitive kind => exact nofun
  | nominal id =>
      rw [typeVisibilityError?]
      split <;> exact nofun
  | array element base induction => exact induction

theorem not_reportsCycle_verdict {found : Option Error}
    (other : ∀ subject supertype, found ≠ some (.cyclicInheritance subject supertype)) :
    ¬ ReportsCycle (verdict found) := by
  rintro ⟨subject, supertype, reported⟩
  cases found with
  | none => cases reported
  | some error =>
      cases reported
      exact other subject supertype rfl

/-- Setting a parent reports a cycle exactly if the class is reached from its new parent. -/
theorem setParent_reportsCycle_iff (sound : graph.Sound) (isOpen : graph.isSealed type = false)
    (isClass : (graph.typeAt type).isClass = true) {parent : TypeId}
    (parentIsClass : (graph.typeAt parent).isClass = true)
    (sameArena : (graph.typeAt parent).arena = (graph.typeAt type).arena) :
    ReportsCycle ((setParent type (some parent)).exec graph).1 ↔ graph.Reaches parent type := by
  have present := lt_size_of_isClass parentIsClass
  rw [exec_setParent parent isOpen sameArena,
    ← sound.wellFormed.hierarchical.reaches_iff present]
  by_cases reached : graph.reaches parent type = true
  · rw [if_pos reached]
    exact iff_of_true ⟨type, parent, rfl⟩ reached
  · rw [if_neg reached]
    refine iff_of_false ?_ reached
    split
    · rintro ⟨_, _, reported⟩
      cases reported
    · cases refused : graph.typeVisibilityError? { referencing := some type }
        (.nominal parent) with
      | some error =>
          have other := typeVisibilityError?_ne_cyclicInheritance graph
            { referencing := some type } (.nominal parent)
          rw [refused] at other
          exact not_reportsCycle_verdict other
      | none =>
          have linkable : graph.Linkable type parent := by
            refine ⟨present, sameArena, ?_⟩
            rwa [sound.wellFormed.hierarchical.reaches_iff present] at reached
          obtain ⟨found, left, run, other, _⟩ :=
            relink_step sound isOpen linkable isClass parentIsClass
          rw [Option.elim_none, run]
          exact not_reportsCycle_verdict other

/-- Adding an interface reports a cycle exactly if the type is reached from the interface. -/
theorem addInterface_reportsCycle_iff (sound : graph.Sound) (isOpen : graph.isSealed type = false)
    {interface : TypeId} (present : interface < graph.types.size)
    (sameArena : (graph.typeAt interface).arena = (graph.typeAt type).arena) :
    ReportsCycle ((addInterface type (some interface)).exec graph).1 ↔
      graph.Reaches interface type := by
  rw [exec_addInterface interface isOpen sameArena,
    ← sound.wellFormed.hierarchical.reaches_iff present]
  by_cases reached : graph.reaches interface type = true
  · rw [if_pos reached]
    exact iff_of_true ⟨type, interface, rfl⟩ reached
  · rw [if_neg reached]
    refine iff_of_false ?_ reached
    cases refused : graph.typeVisibilityError? { referencing := some type }
      (.nominal interface) with
    | some error =>
        have other := typeVisibilityError?_ne_cyclicInheritance graph
          { referencing := some type } (.nominal interface)
        rw [refused] at other
        exact not_reportsCycle_verdict other
    | none =>
        rw [Option.elim_none]
        rintro ⟨_, _, reported⟩
        split at reported <;> cases reported

end Nominal
