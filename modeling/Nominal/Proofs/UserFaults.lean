import Nominal.Proofs.Sessions

/-!
# Loads fail with user errors only

Whatever a module declares, its load never aborts and never reports an internal error or a circular
dependency.  The checks of the loader come before the operations that would abort, the built-in
types that it relies on are there, and the dependencies among declared types are links of a
hierarchy that has no cycles.
-/

namespace Nominal

open Nominal.Graph

/-! ## User errors -/

namespace Error

/-- Whether the error is a circular dependency. -/
def isCircularDependency : Error → Bool
  | circularDependency .. => true
  | _ => false

/-- Whether the error blames the user, and neither the library nor a circular dependency. -/
def isUserFault (error : Error) : Bool :=
  error.isUser && !error.isInternal && !error.chain.any isCircularDependency

theorem isUserFault_iff {error : Error} :
    error.isUserFault = true ↔ error.isUser = true ∧ error.isInternal = false ∧
      ∀ dependent dependency, circularDependency dependent dependency ∉ error.chain := by
  rw [isUserFault, Bool.and_eq_true, Bool.and_eq_true, Bool.not_eq_true', Bool.not_eq_true',
    List.any_eq_false, and_assoc]
  refine and_congr_right fun _ => and_congr_right fun _ => ⟨?_, ?_⟩
  · intro clear dependent dependency listed
    exact clear _ listed rfl
  · intro clear wrapped listed circular
    cases wrapped with
    | circularDependency dependent dependency => exact clear dependent dependency listed
    | _ => cases circular

@[simp]
theorem isUserFault_declaration (moduleName typeName : String) (cause : Error) :
    (declaration moduleName typeName cause).isUserFault = cause.isUserFault :=
  rfl

end Error

/-- Whether a failure is a rejection that blames the user. -/
def Failure.isUserFault : Failure → Bool
  | .rejected error => error.isUserFault
  | .aborted _ => false

/-- A failure that blames the user for a declaration of a module. -/
structure Failure.BlamesDeclaration (failure : Failure) (moduleName : String) : Prop where
  isUserFault : failure.isUserFault = true
  labelled : ∃ typeName cause, failure = .rejected (.declaration moduleName typeName cause)

section Found

variable {α : Type} {good : α → Bool} {first second : Option α}

theorem all_or (early : first.all good = true) (late : second.all good = true) :
    (first.or second).all good = true := by
  cases first with
  | none => exact late
  | some found => exact early

theorem all_findSome? {Item : Type} {find : Item → Option α}
    (each : ∀ item, (find item).all good = true) (items : List Item) :
    (items.findSome? find).all good = true := by
  induction items with
  | nil => rfl
  | cons item rest ih =>
      rw [findSome?_cons_eq_or]
      exact all_or (each item) ih

theorem all_rejected {found : Option Error} (blames : found.all Error.isUserFault = true) :
    (found.map Failure.rejected).all Failure.isUserFault = true := by
  cases found with
  | none => rfl
  | some error => exact blames

end Found

/-! ## What the checks find -/

section Checks

variable {graph : Graph} {type : TypeId}

theorem typeVisibilityError?_blames (site : AccessSite) (reference : TypeRef) :
    (graph.typeVisibilityError? site reference).all Error.isUserFault = true := by
  induction reference with
  | primitive => rfl
  | array _ _ ih => exact ih
  | nominal type =>
      rw [Graph.typeVisibilityError?]
      split <;> rfl

theorem parentError?_blames (parent : TypeId) :
    (graph.parentError? type parent).all Error.isUserFault = true := by
  unfold parentError?
  split
  · rfl
  · split
    · rfl
    · exact typeVisibilityError?_blames _ _

theorem interfaceError?_blames (interface : TypeId) :
    (graph.interfaceError? type interface).all Error.isUserFault = true := by
  unfold interfaceError?
  split
  · rfl
  · exact typeVisibilityError?_blames _ _

theorem overloadError?_blames (member existing : MemberId) :
    (graph.overloadError? type member existing).all Error.isUserFault = true := by
  simp only [overloadError?]
  split
  · rfl
  · split
    · rfl
    · split <;> rfl

theorem ancestorError?_blames (member : MemberId) (identifier : String) :
    (graph.ancestorError? type member identifier).all Error.isUserFault = true := by
  simp only [ancestorError?]
  split
  · rfl
  · apply all_findSome?
    intro ancestor
    simp only [inheritanceError?]
    split
    · rfl
    · split
      · rfl
      · split
        · rfl
        · split <;> rfl

theorem inheritableError?_blames (member : MemberId) :
    (graph.inheritableError? type member).all Error.isUserFault = true := by
  simp only [inheritableError?]
  apply all_or
  · exact all_findSome? (overloadError?_blames member) _
  · split
    · exact ancestorError?_blames member _
    · rfl

theorem duplicateError?_blames (existing : List MemberId) (member : MemberId) :
    (graph.duplicateError? type existing member).all Error.isUserFault = true := by
  unfold duplicateError?
  split <;> rfl

theorem declareError?_blames (member : MemberId) :
    (graph.declareError? type member).all Error.isUserFault = true := by
  unfold declareError?
  split
  · simp only [classMemberError?]
    split
    · exact inheritableError?_blames member
    · exact inheritableError?_blames member
    · exact duplicateError?_blames _ member
    · exact duplicateError?_blames _ member
    · split <;> rfl
    · rfl
    · rfl
    · rfl
    · rfl
  · simp only [interfaceMemberError?]
    split
    · rfl
    · split
      · rfl
      · exact all_findSome? (overloadError?_blames member) _

theorem sealError?_blames : (graph.sealError? type).all Error.isUserFault = true := by
  simp only [sealError?]
  apply all_or
  · split
    · rfl
    · split
      · split <;> rfl
      · split <;> rfl
  · cases (graph.typeAt type).interfaces.find? fun interface => !graph.isSealed interface <;> rfl

theorem TypeDeclaration.error?_blames (declaration : TypeDeclaration) (isKnown : Bool) :
    (declaration.error? isKnown).all Error.isUserFault = true := by
  unfold TypeDeclaration.error?
  repeat' split
  all_goals rfl

/-- Stubs are refused with user errors, or else there is no room for them. -/
theorem declarationsFailure?_blames {moduleName : String} {free : Nat} {known : List String}
    {declarations : List TypeDeclaration} {failure : Failure}
    (found : declarationsFailure? moduleName free known declarations = some failure) :
    failure.BlamesDeclaration moduleName ∨ ∃ error, failure = .aborted error := by
  induction declarations generalizing free known with
  | nil => cases found
  | cons declaration rest ih =>
      have blames := declaration.error?_blames (known.contains declaration.name)
      rw [declarationsFailure?] at found
      cases refused : declaration.error? (known.contains declaration.name) with
      | some error =>
          rw [refused] at found blames
          cases found
          exact .inl ⟨blames, _, _, rfl⟩
      | none =>
          rw [refused] at found
          dsimp only at found
          split at found
          · cases found
            exact .inr ⟨_, rfl⟩
          · exact ih found

end Checks

/-! ## Linking -/

section Linking

variable {resolver : Resolver} {graph : Graph} {self : TypeId}

theorem missingFailure?_of_isSome {name : String}
    (found : (resolver.farm.lookup? name).isSome = true) :
    resolver.missingFailure? name = none := by
  obtain ⟨type, known⟩ := Option.isSome_iff_exists.mp found
  rw [Resolver.missingFailure?, known]

theorem nameFailure?_blames (name : String) :
    (resolver.nameFailure? graph self name).all Failure.isUserFault = true := by
  unfold Resolver.nameFailure?
  split
  · rfl
  · exact all_rejected (typeVisibilityError?_blames _ _)

theorem kindFailure?_blames (isClass : Bool) (name : String) :
    (resolver.kindFailure? graph self isClass name).all Failure.isUserFault = true := by
  apply all_or (nameFailure?_blames name)
  split <;> rfl

theorem interfaceFailure?_blames (name : String) :
    (resolver.interfaceFailure? graph self name).all Failure.isUserFault = true :=
  all_or (kindFailure?_blames false name) (all_rejected (interfaceError?_blames _))

theorem supertypesFailure?_blames (equipped : resolver.farm.Equipped)
    (declaration : TypeDeclaration) :
    (resolver.supertypesFailure? graph self declaration).all Failure.isUserFault = true := by
  apply all_or
  · split
    · rfl
    · refine all_or (all_or ?_ ?_) (all_rejected (parentError?_blames _))
      · rw [missingFailure?_of_isSome equipped.root]
        rfl
      · split
        · rfl
        · exact kindFailure?_blames true _
  · exact all_findSome? interfaceFailure?_blames _

theorem annotationFailure?_blames (equipped : resolver.farm.Equipped)
    (declaration : AnnotationDeclaration) :
    (resolver.annotationFailure? graph self declaration).all Failure.isUserFault = true := by
  refine all_or (kindFailure?_blames true _) (all_or ?_ ?_)
  · rw [missingFailure?_of_isSome equipped.attributeBase]
    rfl
  · split <;> rfl

theorem linkFailure?_blames (equipped : resolver.farm.Equipped) (declaration : TypeDeclaration) :
    (resolver.linkFailure? graph self declaration).all Failure.isUserFault = true :=
  all_or (supertypesFailure?_blames equipped declaration)
    (all_or (all_findSome? (kindFailure?_blames true) _)
      (all_findSome? (annotationFailure?_blames equipped) _))

theorem labelFailure_blames {declaration : TypeDeclaration} {failure : Failure}
    (blames : failure.isUserFault = true) :
    (resolver.labelFailure declaration failure).BlamesDeclaration resolver.module.name := by
  cases failure with
  | rejected error => exact ⟨blames, declaration.name, error, rfl⟩
  | aborted => cases blames

theorem linksFailure?_blames (equipped : resolver.farm.Equipped) {entries : List PendingType}
    {failure : Failure} (found : resolver.linksFailure? graph entries = some failure) :
    failure.BlamesDeclaration resolver.module.name := by
  induction entries generalizing graph with
  | nil => cases found
  | cons entry rest ih =>
      have blames : (resolver.linkFailure? graph entry.type entry.declaration).all
          Failure.isUserFault = true := linkFailure?_blames equipped entry.declaration
      rw [Resolver.linksFailure?] at found
      cases refused : resolver.linkFailure? graph entry.type entry.declaration with
      | none =>
          rw [refused, Option.map_none, Option.none_or] at found
          exact ih found
      | some reason =>
          rw [refused] at found blames
          cases found
          exact labelFailure_blames blames

end Linking

/-! ## Completion -/

/-- If the computation fails, it blames the user. -/
def Build.BlamesUser {α : Type} (build : Build α) (graph : Graph) : Prop :=
  ∀ failure, (build.exec graph).1 = .error failure → failure.isUserFault = true

section Completion

variable {resolver : Resolver} {type : TypeId} {bound : Nat} {graph : Graph}

namespace Build.BlamesUser

variable {α β : Type} {build : Build α}

theorem of_ok {value : α} (succeeds : (build.exec graph).1 = .ok value) :
    build.BlamesUser graph := by
  intro failure failed
  rw [succeeds] at failed
  cases failed

theorem reject {error : Error} (blames : error.isUserFault = true) :
    (reject error : Build α).BlamesUser graph := by
  rintro _ ⟨⟩
  exact blames

theorem of_found {found : Option Failure} {value : α}
    (outcome : (build.exec graph).1 = found.elim (.ok value) .error)
    (blames : found.all Failure.isUserFault = true) : build.BlamesUser graph := by
  intro failure failed
  rw [outcome] at failed
  cases found with
  | none => cases failed
  | some reason =>
      cases failed
      exact blames

theorem of_ends {found : Option Error} {value : α} {changed : Graph}
    (ends : build.Ends graph found value changed)
    (blames : found.all Error.isUserFault = true) : build.BlamesUser graph := by
  refine @of_found graph α build (found.map .rejected) value (ends.outcome.trans ?_)
    (all_rejected blames)
  cases found <;> rfl

/-- What comes second is done on the graph that the first has left, on a type that is still being
worked on. -/
theorem bind (piece : Workpiece resolver type bound graph) {given : α → Graph → Prop}
    (works : build.Works resolver type bound graph given) (first : build.BlamesUser graph)
    {next : α → Build β}
    (rest : ∀ value left, Workpiece resolver type bound left →
      graph.Alters resolver.farm type bound left → given value left →
        (next value).BlamesUser left) :
    Build.BlamesUser (build >>= next) graph := by
  intro failure failed
  rcases run : build.exec graph with ⟨reason | value, left⟩
  · rw [Build.exec_bind_of_error run] at failed
    cases failed
    exact first failure (by rw [run])
  · rw [Build.exec_bind_of_ok run] at failed
    have alters := works.alters
    have result := works.result value (by rw [run])
    rw [run] at alters result
    exact rest value left (piece.of_alters alters) alters result failure failed

end Build.BlamesUser

theorem nominalType_blames (self : TypeId) (name : String) :
    (resolver.nominalType self name).BlamesUser graph :=
  .of_found (congrArg (·.1) (exec_nominalType resolver graph self name)) (nameFailure?_blames name)

theorem nestedArray_blames (depth : Nat) (element : TypeRef) :
    (resolver.nestedArray depth element).BlamesUser graph := by
  induction depth generalizing graph element with
  | zero => exact .of_ok rfl
  | succ depth ih => exact ih _

theorem plainType_blames (piece : Workpiece resolver type bound graph) (self : TypeId)
    (name : String) : (resolver.plainType self name).BlamesUser graph := by
  unfold Resolver.plainType
  split
  · exact .of_ok rfl
  · cases Primitive.ofName? name with
    | some kind => exact .of_ok rfl
    | none =>
        refine .bind piece (nominalType_works self name) (nominalType_blames self name) ?_
        exact fun _ _ _ _ _ => .of_ok rfl

theorem type_blames (equipped : resolver.farm.Equipped)
    (piece : Workpiece resolver type bound graph)
    (self : TypeId) (reference : String) : (resolver.type self reference).BlamesUser graph := by
  unfold Resolver.type
  split
  next characters depth _ =>
  refine .bind piece (plainType_works piece self _) (plainType_blames piece self _) ?_
  intro base left leftPiece _ within
  have nests : ∀ element : TypeRef, element.isWithin left.types.size = true →
      Build.BlamesUser (do
        let array ← resolver.nestedArray depth element
        pure (some array)) left := by
    intro element elementWithin
    refine .bind leftPiece (nestedArray_works leftPiece depth elementWithin)
      (nestedArray_blames depth element) ?_
    exact fun _ _ _ _ _ => .of_ok rfl
  split
  · exact .of_ok rfl
  · cases base with
    | some element => exact nests element (within element rfl)
    | none =>
        have required := exec_require resolver left "Dynamic"
        rw [missingFailure?_of_isSome equipped.dynamic] at required
        refine .bind leftPiece (require_works "Dynamic") (.of_ok (congrArg (·.1) required)) ?_
        rintro dynamic _ - - ⟨found, rfl⟩
        exact nests _ (decide_eq_true (lt_size_of_isClass (leftPiece.hosted.builtin found)))

theorem declaredParameters_blames (equipped : resolver.farm.Equipped)
    (piece : Workpiece resolver type bound graph) (self : TypeId)
    (declarations : List ParameterDeclaration) :
    (declaredParameters resolver self declarations).BlamesUser graph := by
  induction declarations generalizing graph with
  | nil => exact .of_ok rfl
  | cons declaration rest ih =>
      rw [declaredParameters]
      refine .bind piece (type_works piece self _) (type_blames equipped piece self _) ?_
      intro reference left leftPiece _ _
      refine .bind leftPiece (declaredParameters_works leftPiece self rest) (ih leftPiece) ?_
      exact fun _ _ _ _ _ => .of_ok rfl

theorem declaredArguments_blames (equipped : resolver.farm.Equipped)
    (piece : Workpiece resolver type bound graph) (self : TypeId) (arguments : List String) :
    (arguments.mapM (resolver.type self)).BlamesUser graph := by
  induction arguments generalizing graph with
  | nil => exact .of_ok rfl
  | cons argument rest ih =>
      rw [List.mapM_cons]
      refine .bind piece (type_works piece self _) (type_blames equipped piece self _) ?_
      intro reference left leftPiece _ _
      refine .bind leftPiece (declaredArguments_works leftPiece self rest) (ih leftPiece) ?_
      exact fun _ _ _ _ _ => .of_ok rfl

theorem declaredCalls_blames (equipped : resolver.farm.Equipped)
    (piece : Workpiece resolver type bound graph) (self : TypeId)
    (declaration : Option ForwardCallDeclaration) :
    (declaration.mapM (declaredForwardCall resolver self)).BlamesUser graph := by
  cases declaration with
  | none => exact .of_ok rfl
  | some call =>
      refine .bind piece (declaredForwardCall_works piece self call) ?_
        fun _ _ _ _ _ => .of_ok rfl
      unfold declaredForwardCall
      cases ForwardTarget.ofKeyword? call.target with
      | none => exact .reject rfl
      | some target =>
          refine .bind piece (declaredArguments_works piece self _)
            (declaredArguments_blames equipped piece self _) ?_
          exact fun _ _ _ _ _ => .of_ok rfl

theorem declaredVisibility_blames (keyword : String) :
    (declaredVisibility keyword).BlamesUser graph := by
  unfold declaredVisibility
  split
  · exact .of_ok rfl
  · split
    · exact .of_ok rfl
    · exact .reject rfl

theorem declaredMember_blames (equipped : resolver.farm.Equipped)
    (piece : Workpiece resolver type bound graph) (self : TypeId)
    (declaration : MemberDeclaration) :
    (declaredMember resolver self declaration).BlamesUser graph := by
  unfold declaredMember
  refine .bind piece (declaredVisibility_works _) (declaredVisibility_blames _) ?_
  rintro visibility _ - - rfl
  refine .bind piece (declaredParameters_works piece self _)
    (declaredParameters_blames equipped piece self _) ?_
  intro parameters left leftPiece _ _
  cases MemberKind.ofKeyword? declaration.kind with
  | none => exact .reject rfl
  | some kind =>
      cases kind with
      | unknown => exact .reject rfl
      | field =>
          refine .bind leftPiece (type_works leftPiece self _)
            (type_blames equipped leftPiece self _) ?_
          exact fun _ _ _ _ _ => .of_ok rfl
      | method =>
          refine .bind leftPiece (type_works leftPiece self _)
            (type_blames equipped leftPiece self _) ?_
          intro result last _ _ _
          split
          · split
            · exact .reject rfl
            · exact .of_ok rfl
          · exact .of_ok rfl
      | constructor =>
          refine .bind leftPiece (declaredCalls_works leftPiece self _)
            (declaredCalls_blames equipped leftPiece self _) ?_
          exact fun _ _ _ _ _ => .of_ok rfl
      | initializer => exact .of_ok rfl
      | staticConstructor => exact .of_ok rfl

theorem declareOne_blames (equipped : resolver.farm.Equipped)
    (piece : Workpiece resolver type bound graph) (isOpen : graph.isSealed type = false)
    (declaration : MemberDeclaration) :
    (declareOne resolver type declaration).BlamesUser graph := by
  unfold declareOne
  refine .bind piece (declaredMember_works piece type declaration)
    (declaredMember_blames equipped piece type declaration) ?_
  rintro member next nextPiece alters ⟨owned, within⟩
  refine .bind nextPiece (newMember_works nextPiece within) (.of_ok rfl) ?_
  rintro id last lastPiece created ⟨placed, rfl⟩
  have lastOpen : last.isSealed type = false :=
    created.state.trans (alters.state.trans isOpen)
  refine .of_ends (declareMember_ends lastPiece.sound lastOpen ?_) (declareError?_blames id)
  rw [owned]
  rintro _ ⟨⟩
  rfl

theorem declareMembers_blames {entry : PendingType} (equipped : resolver.farm.Equipped)
    (piece : Workpiece resolver entry.type bound graph)
    (isOpen : graph.isSealed entry.type = false) :
    (declareMembers resolver entry).BlamesUser graph := by
  unfold declareMembers
  refine .bind piece (declareAll_works piece _) ?_ ?_
  · generalize entry.declaration.members = declarations
    induction declarations generalizing graph with
    | nil => exact .of_ok rfl
    | cons declaration rest ih =>
        rw [List.forIn_cons, bind_assoc]
        refine .bind piece (declareOne_works piece declaration)
          (declareOne_blames equipped piece isOpen declaration) ?_
        intro _ left leftPiece alters _
        exact ih leftPiece (alters.state.trans isOpen)
  · intro _ left leftPiece alters _
    exact .of_ends (changeType_ends (alters.state.trans isOpen) .markParsed _) rfl

theorem completeType_blames {base : Graph} {entry : PendingType}
    (equipped : resolver.farm.Equipped) (unfinished : Unfinished resolver base entry graph) :
    (completeType resolver entry).BlamesUser graph := by
  rw [completeType_eq]
  refine .bind unfinished.piece (declareMembers_works unfinished.piece)
    (declareMembers_blames equipped unfinished.piece unfinished.isOpen) ?_
  intro _ left piece alters _
  exact .of_ends (sealType_ends (alters.state.trans unfinished.isOpen) piece.fresh
    piece.undeferred) sealError?_blames

theorem completeTypes_blames {base : Graph} (equipped : resolver.farm.Equipped)
    {pending : List PendingType} {order : List Nat} (apart : (pending.map (·.type)).Nodup)
    (distinct : order.Nodup) (unfinished : AllUnfinished resolver base pending order graph)
    {failure : Failure}
    (failed : ((completeTypes resolver pending order).exec graph).1 = .error failure) :
    failure.BlamesDeclaration resolver.module.name := by
  induction order generalizing graph with
  | nil => cases failed
  | cons place rest ih =>
      rw [completeTypes_cons] at failed
      have later := (List.nodup_cons.mp distinct).2
      cases found : pending[place]? with
      | none =>
          rw [found] at failed
          refine ih later ?_ failed
          exact fun other listed => unfinished other (List.mem_cons_of_mem place listed)
      | some entry =>
          rw [found] at failed
          have here := unfinished place List.mem_cons_self entry found
          have blames := completeType_blames equipped here
          obtain ⟨steps, frame, -⟩ := completeType_work here
          have labelled := exec_inDeclaration resolver.module.name entry.declaration.name
            (completeType resolver entry) graph
          dsimp only at failed
          rw [Build.exec_bind, labelled] at failed
          rcases run : (completeType resolver entry).exec graph with ⟨reason | value, next⟩
          · have fault := blames reason (by rw [run])
            rw [run] at failed
            cases reason with
            | aborted => cases fault
            | rejected error =>
                cases failed
                exact ⟨fault, _, _, rfl⟩
          · rw [run] at failed steps frame
            exact ih later (unfinished.next apart distinct found steps frame) failed

end Completion

/-! ## Dependencies -/

section Dependencies

variable {resolver : Resolver} {base graph linked : Graph} {pending : List PendingType}

/-- The type at a place of a list. -/
def typeAtPlace (pending : List PendingType) (place : Nat) : TypeId :=
  (pending[place]?.map (·.type)).getD 0

theorem typeAtPlace_of_pendingIndex? {type : TypeId} {place : Nat}
    (found : pendingIndex? graph pending type = some place) :
    typeAtPlace pending place = type := by
  unfold pendingIndex? at found
  obtain ⟨inRange, matched, -⟩ := List.findIdx?_eq_some_iff_getElem.mp found
  rw [Bool.and_eq_true, beq_iff_eq, beq_iff_eq] at matched
  rw [typeAtPlace, List.getElem?_eq_getElem inRange]
  exact matched.2

theorem extends_of_dependsOn (stubbed : Stubbed resolver base pending graph)
    (links : linked.bare = (resolver.withLinks graph pending).bare) {place dependency : Nat}
    (depends : ((DependencyGraph.isolated
        (pending.map (resolver.dependencies graph pending)).length).withLists 0
          (pending.map (resolver.dependencies graph pending))).DependsOn place dependency) :
    linked.Extends (typeAtPlace pending place) (typeAtPlace pending dependency) := by
  rw [DependencyGraph.dependsOn_lists, List.getElem?_map] at depends
  cases found : pending[place]? with
  | none =>
      rw [found] at depends
      cases depends
  | some entry =>
      rw [found] at depends
      have listed := List.mem_of_getElem? found
      have unfinished := stubbed.ready entry listed
      obtain ⟨supertype, declared, index⟩ := List.mem_filterMap.mp depends
      rw [typeAtPlace_of_pendingIndex? index, typeAtPlace, found, Option.map_some, Option.getD_some,
        Extends, supertypesOf, typeAt_eq_of_bare links,
        typeAt_withLinks stubbed.distinct listed unfinished.piece.present]
      exact mem_supertypes_linked unfinished.kind declared

/-- There is always an order in which the types of a module can be completed, because the hierarchy
has no cycles. -/
theorem exists_completionPlan (stubbed : Stubbed resolver base pending graph)
    (links : linked.bare = (resolver.withLinks graph pending).bare) (acyclic : linked.Acyclic) :
    ∃ order, completionPlan (pending.map (resolver.dependencies graph pending)) = .ok order := by
  refine DependencyGraph.exists_solve_of_not_meetsCycle ?_
  rintro ⟨_, _, place, _, cycle⟩
  refine acyclic (typeAtPlace pending place) (cycle.lift (typeAtPlace pending) ?_)
  exact fun _ _ depends => extends_of_dependsOn stubbed links depends

end Dependencies

/-! ## Loads -/

section Loads

variable {resolver : Resolver} {base graph : Graph}

theorem finishModule_blames {pending : List PendingType} (equipped : resolver.farm.Equipped)
    (stubbed : Stubbed resolver base pending graph) {failure : Failure}
    (failed : ((finishModule resolver pending).exec graph).1 = .error failure) :
    failure.BlamesDeclaration resolver.module.name := by
  obtain ⟨linked, grows, -, -, -, complete, ran⟩ := finishModule_exec stubbed
  rw [ran] at failed
  cases accepted : resolver.linksFailure? graph pending with
  | some reason =>
      rw [accepted] at failed
      cases failed
      exact linksFailure?_blames equipped accepted
  | none =>
      obtain ⟨links, unfinished⟩ := complete accepted
      obtain ⟨order, plan⟩ := exists_completionPlan stubbed links
        grows.houses.sound.wellFormed.hierarchical.acyclic
      rw [accepted, Option.elim_none, plan] at failed
      obtain ⟨ordered, -⟩ := DependencyGraph.ordered_of_solve plan
      apply completeTypes_blames equipped stubbed.distinct ordered.nodup
        (fun _ _ entry found => unfinished entry (List.mem_of_getElem? found))
      dsimp only at failed
      cases outcome : ((completeTypes resolver pending order).exec linked).1 with
      | error reason =>
          rw [outcome] at failed
          cases failed
          rfl
      | ok value =>
          rw [outcome] at failed
          cases failed

theorem loadModule_blames {farm : Farm} {serial : Nat} {imports : List Module}
    {declaration : ModuleDeclaration} (equipped : farm.Equipped) (houses : graph.Houses farm)
    (complete : ∀ imported ∈ imports, imported.Complete graph) (named : declaration.name ≠ "")
    {failure : Failure} {left : Graph}
    (failed : (loadModule farm serial imports declaration).exec graph = (.error failure, left))
    (room : (left.arenaAt farm.arena).types.length < arenaCapacity) :
    failure.BlamesDeclaration declaration.name := by
  obtain ⟨free, capacity⟩ := Nat.exists_eq_add_of_le houses.room
  obtain ⟨stubs, -, -, ready, ran, full, -⟩ :=
    @loadModule_exec graph farm serial free imports declaration houses complete named capacity.symm
  rw [ran] at failed
  cases accepted : declarationsFailure? declaration.name free [] declaration.types with
  | some reason =>
      rw [accepted] at failed
      cases failed
      rcases declarationsFailure?_blames accepted with blames | ⟨error, rfl⟩
      · exact blames
      · exact absurd (full error accepted) (Nat.ne_of_lt room)
  | none =>
      rw [accepted] at failed
      have blames := finishModule_blames equipped (ready accepted).2.2 (congrArg (·.1) failed)
      have same : (loadResolver farm serial imports declaration graph.types.size).module.name
          = declaration.name := (withTypes_parts _ _ _).2.1
      rwa [same] at blames

end Loads

namespace Workspace

variable {settings : ArenaSettings} {workspace : Workspace}

/-- The built-in types that the loader relies on are there in every state of a session. -/
theorem Session.equipped (session : Session settings workspace) : workspace.farm.Equipped := by
  induction session with
  | start started => exact (furnished_start started).1.equipped
  | @load workspace _ imports known declaration ih =>
      rcases ran : (loadModule workspace.farm workspace.loads imports declaration).exec
        workspace.graph with ⟨failure | module, left⟩
      · rw [loadDeclaration_of_error ran]
        exact ih
      · obtain ⟨journal, ended⟩ := loadDeclaration_of_ok ran
        rw [ended]
        exact ih
  | read _ _ ih => exact ih
  | intern _ _ ih => exact ih

/-- In every state of a session, whatever a module declares: if its load fails and does not fill the
arena, then it has not been aborted, and its error is a user error and not an internal one.  It is
the lack of a module name, or a declaration error of the module.  It never is, nor wraps, a circular
dependency. -/
theorem loadDeclaration_blames_user (session : Session settings workspace) {imports : List Module}
    (known : ∀ imported ∈ imports, imported ∈ workspace.modules) {declaration : ModuleDeclaration}
    {failure : Failure} {left : Workspace}
    (failed : workspace.loadDeclaration imports declaration = (.error failure, left))
    (room : (left.graph.arenaAt left.farm.arena).types.length < arenaCapacity) :
    ∃ error, failure = .rejected error ∧ error.isUser = true ∧ error.isInternal = false ∧
      ((declaration.name = "" ∧ error = .invalidDeclaration "missing module name") ∨
        ∃ typeName cause, error = .declaration declaration.name typeName cause) ∧
      ∀ dependent dependency, .circularDependency dependent dependency ∉ error.chain := by
  have ready := session.ready
  have complete : ∀ imported ∈ imports, imported.Complete workspace.graph :=
    fun imported listed => ready.complete imported (known imported listed)
  rcases ran : (loadModule workspace.farm workspace.loads imports declaration).exec
    workspace.graph with ⟨reason | module, last⟩
  · rw [loadDeclaration_of_error ran] at failed
    cases failed
    by_cases named : declaration.name = ""
    · rw [loadModule_exec_unnamed _ _ _ named] at ran
      cases ran
      exact ⟨_, rfl, rfl, rfl, .inl ⟨named, rfl⟩, by simp [Error.chain]⟩
    · obtain ⟨fault, typeName, cause, rfl⟩ :=
        loadModule_blames session.equipped ready.houses complete named ran room
      obtain ⟨isUser, notInternal, uncircular⟩ := Error.isUserFault_iff.mp fault
      exact ⟨_, rfl, isUser, notInternal, .inr ⟨typeName, cause, rfl⟩, uncircular⟩
  · obtain ⟨journal, ended⟩ := loadDeclaration_of_ok ran
    rw [ended] at failed
    cases failed

/-- A module with two classes that extend each other. -/
def mutualParents : ModuleDeclaration :=
  { name := "m"
    types := [{ className := "A", parent := "B" }, { className := "B", parent := "A" }] }

theorem loadDeclaration_blames_user_mutualParents :
    ∃ workspace failure left error, Session {} workspace ∧
      workspace.loadDeclaration [] mutualParents = (.error failure, left) ∧
      (left.graph.arenaAt left.farm.arena).types.length < arenaCapacity ∧
      failure = .rejected error ∧ error.isUser = true ∧ error.isInternal = false ∧
      ∀ dependent dependency, .circularDependency dependent dependency ∉ error.chain := by
  have evaluated : startsIn (fun started => started.rejects [] mutualParents fun left =>
      decide ((left.graph.arenaAt left.farm.arena).types.length < arenaCapacity)) = true := by
    decide +kernel
  obtain ⟨started, session, rejected⟩ := exists_of_startsIn evaluated
  obtain ⟨failure, left, ended, checked⟩ := exists_of_rejects rejected
  have room := of_decide_eq_true checked
  obtain ⟨error, rejected, isUser, notInternal, -, uncircular⟩ :=
    loadDeclaration_blames_user session (by simp) ended room
  exact ⟨started, failure, left, error, session, ended, room, rejected, isUser, notInternal,
    uncircular⟩

end Workspace

end Nominal
