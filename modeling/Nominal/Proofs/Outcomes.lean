import Nominal.Proofs.SealSteps
import Nominal.Proofs.SupertypeSteps

/-!
# How builds end

The operations of a build look at the graph, refuse with the first thing that is wrong, and
otherwise change the graph.  Each of them is described by the error that it finds, which is a
function of the graph, and by the graph that it leaves if it finds none.  Views that were computed
on the way are left out of this description.
-/

namespace Nominal

open Nominal.Graph

/-- A computation ends with the error that was found; if there is none, it gives a value and leaves
a changed graph. -/
structure Build.Ends {α : Type} (build : Build α) (graph : Graph) (found : Option Error) (value : α)
    (changed : Graph) : Prop where
  outcome : (build.exec graph).1 = found.elim (.ok value) fun error => .error (.rejected error)
  left : (build.exec graph).2.bare = (found.elim changed fun _ => graph).bare

namespace Build.Ends

variable {α β : Type} {build : Build α} {graph changed : Graph} {found : Option Error} {value : α}

theorem of_verdict {check : Build Unit} {left : Graph}
    (checks : check.exec graph = (verdict found, left)) (same : left.bare = graph.bare) :
    check.Ends graph found () graph := by
  constructor
  · rw [checks]
    cases found <;> rfl
  · rw [checks]
    cases found <;> exact same

/-- After a check that leaves the graph as it is, the rest is as if it had started there. -/
theorem check_bind {check : Build Unit} {next : Unit → Build β} {foundLater : Option Error}
    {result : β} (checks : check.Ends graph found () graph)
    (rest : ∀ left : Graph, left = (check.exec graph).2 → left.bare = graph.bare →
      (next ()).Ends left foundLater result changed) :
    Build.Ends (check >>= next) graph (found.or foundLater) result changed := by
  rcases run : check.exec graph with ⟨ended, left⟩
  have outcome := checks.outcome
  have same := checks.left
  rw [run] at outcome same
  cases found with
  | some error =>
      have failed : check.exec graph = (.error (.rejected error), left) := by
        rw [run]
        exact congrArg (·, left) outcome
      constructor
      · rw [Build.exec_bind_of_error failed]
        rfl
      · rw [Build.exec_bind_of_error failed]
        exact same
  | none =>
      have passed : check.exec graph = (.ok (), left) := by
        rw [run]
        exact congrArg (·, left) outcome
      have later := rest left (by rw [run]) same
      constructor
      · rw [Build.exec_bind_of_ok passed]
        exact later.outcome
      · rw [Build.exec_bind_of_ok passed, later.left, Option.none_or]
        cases foundLater with
        | none => rfl
        | some error => exact same

theorem of_reject (error : Error) (value : α) :
    Build.Ends (reject error) graph (some error) value changed :=
  ⟨rfl, rfl⟩

theorem of_exec (run : build.exec graph = (.ok value, changed)) :
    build.Ends graph none value changed :=
  ⟨by rw [run]; rfl, by rw [run]; rfl⟩

theorem get_bind {next : Graph → Build α} (rest : (next graph).Ends graph found value changed) :
    Build.Ends (get >>= next) graph found value changed :=
  ⟨rest.outcome, rest.left⟩

/-- A change after reading is a change of the graph that was read. -/
theorem of_change {left : Graph} (run : build.exec left = (.ok value, changed)) {expected : Graph}
    (same : changed.bare = expected.bare) : build.Ends left none value expected :=
  ⟨by rw [run]; rfl, by rw [run]; exact same⟩

end Build.Ends

/-! ## Declaring members -/

namespace Graph

/-- The reason why a field or a method cannot be added to a class. -/
def inheritableError? (graph : Graph) (type : TypeId) (member : MemberId) : Option Error :=
  let offered := graph.memberAt member
  let identifier := Text.canonical offered.identifier
  (((graph.typeAt type).declaredByName identifier offered.isStatic).findSome?
    (graph.overloadError? type member)).or
      (if graph.checksAncestors type then graph.ancestorError? type member identifier else none)

/-- The reason why a member cannot be listed next to the given ones. -/
def duplicateError? (graph : Graph) (type : TypeId) (existing : List MemberId)
    (member : MemberId) : Option Error :=
  if existing.any fun other => graph.keyOf other = graph.keyOf member then
    some (.duplicateMember type member)
  else none

/-- The reason why a member cannot be added to a class. -/
def classMemberError? (graph : Graph) (type : TypeId) (member : MemberId) : Option Error :=
  let part := (graph.typeAt type).classPart
  match (graph.memberAt member).kind, (graph.memberAt member).isStatic with
  | .field, _ | .method, _ => graph.inheritableError? type member
  | .constructor, false => graph.duplicateError? type part.constructors member
  | .initializer, false => graph.duplicateError? type part.initializers member
  | .staticConstructor, true =>
    if part.staticConstructor.isSome then some (.duplicateMember type member) else none
  | .constructor, true | .initializer, true | .staticConstructor, false | .unknown, _ =>
    some (.invalidMemberKind type member (graph.memberAt member).isStatic)

/-- The reason why a member cannot be added to an interface. -/
def interfaceMemberError? (graph : Graph) (type : TypeId) (member : MemberId) : Option Error :=
  let offered := graph.memberAt member
  if offered.kind.isInheritable = false then
    some (.invalidMemberKind type member offered.isStatic)
  else if offered.visibility ≠ .pub then some (.invalidInterfaceMemberVisibility type member)
  else
    ((graph.typeAt type).declaredByName (Text.canonical offered.identifier)
      offered.isStatic).findSome? (graph.overloadError? type member)

/-- The reason why a type cannot adopt a member. -/
def declareError? (graph : Graph) (type : TypeId) (member : MemberId) : Option Error :=
  if (graph.typeAt type).isClass then graph.classMemberError? type member
  else graph.interfaceMemberError? type member

/-- Lists an adopted member where members of its kind are listed. -/
def placed (graph : Graph) (member : MemberId) : NominalType → NominalType :=
  let offered := graph.memberAt member
  match offered.kind with
  | .constructor =>
    (·.mapClassPart fun part => { part with constructors := part.constructors ++ [member] })
  | .initializer =>
    (·.mapClassPart fun part => { part with initializers := part.initializers ++ [member] })
  | .staticConstructor => (·.mapClassPart ({ · with staticConstructor := some member }))
  | .field | .method | .unknown =>
    (·.withListed offered.isStatic (Text.canonical offered.identifier) member)

/-- The graph in which a type has adopted a member. -/
def withDeclared (graph : Graph) (type : TypeId) (member : MemberId) : Graph :=
  graph.withAdopted type member (Text.canonical (graph.memberAt member).identifier)
    (graph.placed member)

end Graph

section Declaring

variable {graph : Graph} {type : TypeId} {member : MemberId}

theorem bare_withAdopted {left : Graph} (same : left.bare = graph.bare) (type : TypeId)
    (member : MemberId) (identifier : String) (place : NominalType → NominalType) :
    (left.withAdopted type member identifier place).bare
      = (graph.withAdopted type member identifier place).bare :=
  congrArg (fun bare : Graph => bare.withAdopted type member identifier place) same

theorem placed_of_isInheritable (inheritable : (graph.memberAt member).kind.isInheritable = true) :
    graph.placed member = (·.withListed (graph.memberAt member).isStatic
      (Text.canonical (graph.memberAt member).identifier) member) := by
  unfold placed
  cases kind : (graph.memberAt member).kind with
  | field | method => simp only [kind]
  | unknown | constructor | initializer | staticConstructor =>
      rw [kind] at inheritable
      cases inheritable

theorem insertMember_ends {left : Graph} (same : left.bare = graph.bare)
    (inheritable : (graph.memberAt member).kind.isInheritable = true) :
    (insertMember type member (Text.canonical (graph.memberAt member).identifier)).Ends left none ()
      (graph.withDeclared type member) := by
  refine .of_change (insertMember_exec member _) ?_
  rw [memberAt_eq_of_bare same, withDeclared, placed_of_isInheritable inheritable]
  exact bare_withAdopted same type member _ _

theorem addInheritable_ends (sound : graph.Sound)
    (inheritable : (graph.memberAt member).kind.isInheritable = true) :
    (addInheritable type member (Text.canonical (graph.memberAt member).identifier)).Ends graph
      (graph.inheritableError? type member) () (graph.withDeclared type member) := by
  unfold addInheritable
  refine .get_bind (.check_bind (.of_verdict (exec_checkOverloads _ _) rfl) ?_)
  intro left unchanged same
  rw [exec_checkOverloads] at unchanged
  rw [unchanged]
  by_cases checks : graph.checksAncestors type = true
  · rw [if_pos checks, if_pos checks]
    obtain ⟨left, read, checked⟩ := exec_checkAgainstAncestors sound member
      (Text.canonical (graph.memberAt member).identifier)
    rw [← Option.or_none (o := graph.ancestorError? type member _)]
    refine .check_bind (.of_verdict checked read.bare) ?_
    intro left _ same
    exact insertMember_ends same inheritable
  · rw [if_neg checks, if_neg checks]
    exact insertMember_ends rfl inheritable

theorem listDistinct_ends (existing : List MemberId) {place : NominalType → NominalType}
    (placing : graph.placed member = place) :
    Build.Ends (do
        checkDistinctKey type existing member
        adopt type member (Text.canonical (graph.memberAt member).identifier)
        modify (·.modifyType type place))
      graph (graph.duplicateError? type existing member) () (graph.withDeclared type member) := by
  rw [← Option.or_none (o := graph.duplicateError? type existing member)]
  refine .check_bind (.of_verdict (exec_checkDistinctKey _ _) rfl) ?_
  intro left unchanged same
  rw [exec_checkDistinctKey] at unchanged
  rw [unchanged]
  refine .of_exec ?_
  rw [withDeclared, placing]
  rfl

theorem addClassInstanceMember_ends (sound : graph.Sound)
    (isInstance : (graph.memberAt member).isStatic = false) :
    (addClassInstanceMember type member (Text.canonical (graph.memberAt member).identifier)).Ends
      graph (graph.classMemberError? type member) () (graph.withDeclared type member) := by
  unfold addClassInstanceMember
  refine .get_bind ?_
  dsimp only
  unfold classMemberError?
  rw [isInstance]
  cases kind : (graph.memberAt member).kind with
  | field => exact addInheritable_ends sound (by rw [kind]; rfl)
  | method => exact addInheritable_ends sound (by rw [kind]; rfl)
  | constructor => exact listDistinct_ends _ (by simp only [placed, kind])
  | initializer => exact listDistinct_ends _ (by simp only [placed, kind])
  | unknown => exact .of_reject _ _
  | staticConstructor => exact .of_reject _ _

theorem addClassStaticMember_ends (sound : graph.Sound)
    (isStatic : (graph.memberAt member).isStatic = true) :
    (addClassStaticMember type member (Text.canonical (graph.memberAt member).identifier)).Ends
      graph (graph.classMemberError? type member) () (graph.withDeclared type member) := by
  unfold addClassStaticMember
  refine .get_bind ?_
  unfold classMemberError?
  rw [isStatic]
  cases kind : (graph.memberAt member).kind with
  | field => exact addInheritable_ends sound (by rw [kind]; rfl)
  | method => exact addInheritable_ends sound (by rw [kind]; rfl)
  | staticConstructor =>
      dsimp only
      by_cases taken : (graph.typeAt type).classPart.staticConstructor.isSome = true
      · rw [if_pos taken, if_pos taken]
        exact .of_reject _ _
      · rw [if_neg taken, if_neg taken]
        refine .of_exec ?_
        simp only [withDeclared, placed, kind]
        rfl
  | unknown => exact .of_reject _ _
  | constructor => exact .of_reject _ _
  | initializer => exact .of_reject _ _

theorem addInterfaceMember_ends :
    (addInterfaceMember type member (Text.canonical (graph.memberAt member).identifier)
        (graph.memberAt member).isStatic).Ends
      graph (graph.interfaceMemberError? type member) () (graph.withDeclared type member) := by
  unfold addInterfaceMember interfaceMemberError?
  refine .get_bind ?_
  dsimp only
  by_cases foreign : (graph.memberAt member).kind.isInheritable = false
  · rw [if_pos foreign, if_pos foreign]
    exact .of_reject _ _
  · rw [if_neg foreign, if_neg foreign]
    by_cases reserved : (graph.memberAt member).visibility ≠ .pub
    · rw [if_pos reserved, if_pos reserved]
      exact .of_reject _ _
    · rw [if_neg reserved, if_neg reserved, ← Option.or_none (o := List.findSome? _ _)]
      refine .check_bind (.of_verdict (exec_checkOverloads _ _) rfl) ?_
      intro left _ same
      exact insertMember_ends same (by simpa using foreign)

/-- A type that is not sealed adopts a member that no other type has adopted, unless something
speaks against it. -/
theorem declareMember_ends (sound : graph.Sound) (isOpen : graph.isSealed type = false)
    (adoptable : ∀ owner ∈ (graph.memberAt member).definingType, owner = type) :
    (declareMember type (some member) (graph.memberAt member).isStatic).Ends graph
      (graph.declareError? type member) () (graph.withDeclared type member) := by
  have unowned : (graph.memberAt member).definingType.filter (· ≠ type) = none := by
    simpa [Option.filter_eq_none_iff] using adoptable
  have offered : (requireAdoptable type (some member) (graph.memberAt member).isStatic).exec graph
      = (.ok (member, Text.canonical (graph.memberAt member).identifier), graph) := by
    unfold requireAdoptable
    simp only [Build.exec_get_bind, unowned, bne_self_eq_false, Bool.and_false, Bool.false_eq_true,
      if_false, Build.exec_pure]
  have opened : ∀ next : Unit → Build Unit, ∀ mutation,
      (requireUnsealed type mutation >>= next).exec graph = (next ()).exec graph := by
    intro next mutation
    rw [exec_requireUnsealed_bind, isOpen, if_neg Bool.false_ne_true]
  suffices ends : Build.Ends
      (if (graph.typeAt type).isClass then
        if (graph.memberAt member).isStatic then
          addClassStaticMember type member (Text.canonical (graph.memberAt member).identifier)
        else addClassInstanceMember type member (Text.canonical (graph.memberAt member).identifier)
      else addInterfaceMember type member (Text.canonical (graph.memberAt member).identifier)
        (graph.memberAt member).isStatic) graph
      (graph.declareError? type member) () (graph.withDeclared type member) by
    unfold declareMember
    refine ⟨?_, ?_⟩
    · rw [opened, Build.exec_bind_of_ok offered]
      exact ends.outcome
    · rw [opened, Build.exec_bind_of_ok offered]
      exact ends.left
  unfold declareError?
  by_cases isClass : (graph.typeAt type).isClass = true
  · rw [if_pos isClass, if_pos isClass]
    cases isStatic : (graph.memberAt member).isStatic with
    | true => exact addClassStaticMember_ends sound isStatic
    | false => exact addClassInstanceMember_ends sound isStatic
  · rw [if_neg isClass, if_neg isClass]
    exact addInterfaceMember_ends

end Declaring

/-! ## Linking -/

namespace Graph

/-- The reason why a class cannot have a parent. -/
def parentError? (graph : Graph) (type parent : TypeId) : Option Error :=
  if graph.reaches parent type then some (.cyclicInheritance type parent)
  else if (graph.typeAt parent).properties.has .final then some (.invalidParent type parent)
  else graph.typeVisibilityError? { referencing := some type } (.nominal parent)

/-- The reason why a type cannot have an interface. -/
def interfaceError? (graph : Graph) (type interface : TypeId) : Option Error :=
  if graph.reaches interface type then some (.cyclicInheritance type interface)
  else graph.typeVisibilityError? { referencing := some type } (.nominal interface)

/-- The graph in which a type has an interface, which is listed once. -/
def withInterface (graph : Graph) (type interface : TypeId) : Graph :=
  if interface ∈ (graph.typeAt type).interfaces then graph
  else graph.modifyType type fun old => { old with interfaces := old.interfaces ++ [interface] }

/-- The graph in which a type is sealed. -/
def withSealed (graph : Graph) (type : TypeId) : Graph :=
  (graph.modifyProgress type ({ · with isPreInitialized := true })).modifyType type
    ({ · with state := .frozen })

/-- The array type over an element type. -/
def arrayFor (graph : Graph) (arena : ArenaId) (element : TypeRef) (base : Option TypeId) : TypeRef :=
  ((graph.arenaAt arena).arrays.get? (element.qualifiedName graph)).getD (.array element base)

/-- The graph in which the array type over an element type has been asked for. -/
def withArray (graph : Graph) (arena : ArenaId) (element : TypeRef) (base : Option TypeId) : Graph :=
  match (graph.arenaAt arena).arrays.get? (element.qualifiedName graph) with
  | some _ => graph
  | none =>
    { graph with
      arenas := graph.arenas.modify arena fun old =>
        { old with arrays := old.arrays.set (element.qualifiedName graph) (.array element base) } }

end Graph

section Linking

variable {graph : Graph} {type : TypeId}

/-- A class without members gets a parent, unless something speaks against it. -/
theorem setParent_ends {parent : TypeId} (isOpen : graph.isSealed type = false)
    (sameArena : (graph.typeAt parent).arena = (graph.typeAt type).arena)
    (memberless : (graph.typeAt type).declaredForCheck = []) :
    (setParent type (some parent)).Ends graph (graph.parentError? type parent) ()
      (graph.setParentLink type (some parent)) := by
  have linked : (relink graph type parent).exec graph
      = (.ok (), graph.setParentLink type (some parent)) := by
    unfold relink
    rw [Build.exec_modify_bind, memberless]
    split
    · rw [Build.exec_tryCatch]
      rfl
    · rfl
  unfold parentError?
  by_cases cyclic : graph.reaches parent type = true
  · rw [if_pos cyclic]
    constructor <;> rw [exec_setParent parent isOpen sameArena, if_pos cyclic] <;> rfl
  · rw [if_neg cyclic]
    by_cases isFinal : (graph.typeAt parent).properties.has .final = true
    · rw [if_pos isFinal]
      constructor <;>
        rw [exec_setParent parent isOpen sameArena, if_neg cyclic, if_pos isFinal] <;> rfl
    · rw [if_neg isFinal]
      constructor <;>
        rw [exec_setParent parent isOpen sameArena, if_neg cyclic, if_neg isFinal, linked]
      all_goals
        cases graph.typeVisibilityError? { referencing := some type } (.nominal parent) <;> rfl

/-- A type gets an interface, unless something speaks against it. -/
theorem addInterface_ends {interface : TypeId} (isOpen : graph.isSealed type = false)
    (sameArena : (graph.typeAt interface).arena = (graph.typeAt type).arena) :
    (addInterface type (some interface)).Ends graph (graph.interfaceError? type interface) ()
      (graph.withInterface type interface) := by
  have linked : ∀ added : Graph,
      (if interface ∈ (graph.typeAt type).interfaces then
        ((.ok (), graph) : Except Failure Unit × Graph) else (.ok (), added))
      = (.ok (), if interface ∈ (graph.typeAt type).interfaces then graph else added) := by
    intro added
    split <;> rfl
  unfold interfaceError? withInterface
  by_cases cyclic : graph.reaches interface type = true
  · rw [if_pos cyclic]
    constructor <;> rw [exec_addInterface interface isOpen sameArena, if_pos cyclic] <;> rfl
  · rw [if_neg cyclic]
    constructor <;> rw [exec_addInterface interface isOpen sameArena, if_neg cyclic, linked]
    all_goals
      cases graph.typeVisibilityError? { referencing := some type } (.nominal interface) <;> rfl

theorem changeType_ends (isOpen : graph.isSealed type = false) (mutation : Mutation)
    (change : NominalType → NominalType) :
    (changeType type mutation change).Ends graph none () (graph.modifyType type change) := by
  refine .of_exec ?_
  rw [changeType, exec_requireUnsealed_bind, isOpen, if_neg Bool.false_ne_true]
  rfl

theorem addExtensionClass_ends {extension : TypeId} (isOpen : graph.isSealed type = false)
    (sameArena : (graph.typeAt extension).arena = (graph.typeAt type).arena) :
    (addExtensionClass type (some extension)).Ends graph none () (graph.modifyType type fun old =>
      { old with extensionClasses := old.extensionClasses ++ [extension] }) := by
  refine .of_exec ?_
  rw [addExtensionClass, exec_requireUnsealed_bind, isOpen, if_neg Bool.false_ne_true,
    exec_requireSameArena_bind, if_pos sameArena]
  rfl

theorem exec_arrayOf (graph : Graph) (arena : ArenaId) (element : TypeRef) (base : Option TypeId) :
    (arrayOf arena element base).exec graph
      = (graph.arrayFor arena element base, graph.withArray arena element base) := by
  unfold arrayOf arrayFor withArray
  rw [Query.exec_bind, Query.exec_get]
  change Query.exec (match (graph.arenaAt arena).arrays.get? (element.qualifiedName graph) with
    | some array => _
    | none => _) graph = _
  cases (graph.arenaAt arena).arrays.get? (element.qualifiedName graph) <;> rfl

end Linking

/-! ## Sealing -/

theorem bare_recordLog (graph : Graph) (type : TypeId) (record : LogRecord) :
    ((recordLog type record).exec graph).2.bare = graph.bare := by
  rw [recordLog, Query.exec_modify]
  dsimp only
  split <;> rfl

theorem bare_recordTrace (graph : Graph) (operation : TraceOperation) (type : TypeId) :
    ((recordTrace operation type).exec graph).2.bare = graph.bare := by
  rw [recordTrace, Query.exec_modify]
  dsimp only
  split <;> rfl

/-- Freezing a type changes its state only. -/
theorem freeze_ends (graph : Graph) (type : TypeId) :
    (freeze type).Ends graph none () (graph.modifyType type ({ · with state := .frozen })) := by
  refine ⟨rfl, ?_⟩
  unfold freeze
  rw [Build.exec_modify_bind, Build.exec_get_bind, Build.exec_lift_bind, Build.exec_lift]
  exact (bare_recordTrace _ _ _).trans (bare_recordLog _ _ _)

/-- A type whose build is not deferred is sealed at its first attempt, unless something speaks
against it. -/
theorem sealType_ends {graph : Graph} {type : TypeId} (isOpen : graph.isSealed type = false)
    (fresh : graph.progressAt type = {}) (plain : (graph.typeAt type).implementation = none) :
    (sealType type).Ends graph (graph.sealError? type) () (graph.withSealed type) := by
  unfold sealType sealWithin
  refine .get_bind ?_
  have run : ∀ next : Unit → Build Unit,
      (requireUnsealed type .sealType >>= next).exec graph = (next ()).exec graph := by
    intro next
    rw [exec_requireUnsealed_bind, isOpen, if_neg Bool.false_ne_true]
  cases found : graph.sealError? type with
  | some error =>
      constructor <;> rw [run, Build.exec_get_bind] <;> simp only [fresh, found] <;> rfl
  | none =>
      have frozen := freeze_ends
        (graph.modifyProgress type ({ · with isPreInitialized := true })) type
      constructor <;> rw [run, Build.exec_get_bind] <;>
        simp only [fresh, found, plain, Bool.false_eq_true, if_false, Build.exec_modify_bind]
      · exact frozen.outcome
      · exact frozen.left

end Nominal
