import Nominal.Proofs.Workpieces

/-!
# The parts of the loader

Resolving names, linking a type and completing it are work on that type.  A reference that has been
resolved mentions types of the graph only.
-/

namespace Nominal

open Nominal.Graph

/-- A label is put in front of a rejection. -/
def labelled {α : Type} (moduleName typeName : String) : Except Failure α → Except Failure α
  | .error (.rejected error) => .error (.rejected (.declaration moduleName typeName error))
  | outcome => outcome

theorem exec_inDeclaration {α : Type} (moduleName typeName : String) (build : Build α)
    (graph : Graph) : (inDeclaration moduleName typeName build).exec graph
      = (labelled moduleName typeName (build.exec graph).1, (build.exec graph).2) := by
  unfold inDeclaration
  rw [Build.exec_tryCatch]
  rcases build.exec graph with ⟨failure | value, left⟩
  · cases failure <;> rfl
  · rfl

section Work

variable {resolver : Resolver} {type : TypeId} {bound : Nat} {graph left : Graph}

namespace Build.Works

variable {α : Type}

theorem of_still {build : Build α} {given : α → Graph → Prop} {found : Option Failure} {value : α}
    (run : build.exec graph = (found.elim (.ok value) .error, graph))
    (holds : found = none → given value graph) :
    build.Works resolver type bound graph given := by
  constructor
  · rw [run]
    exact .refl graph
  · intro result ended
    rw [run] at ended ⊢
    cases found with
    | some failure => cases ended
    | none =>
        cases ended
        exact holds rfl

theorem forEach {Item : Type} {body : Item → PUnit → Build (ForInStep PUnit)} {items : List Item}
    (piece : Workpiece resolver type bound graph)
    (each : ∀ item ∈ items, ∀ left, Workpiece resolver type bound left →
      (body item ⟨⟩).Works resolver type bound left fun step _ => step = .yield ⟨⟩) :
    Build.Works resolver type bound (forIn items PUnit.unit body) graph fun _ _ => True := by
  induction items generalizing graph with
  | nil => exact .pure trivial
  | cons item rest ih =>
      rw [List.forIn_cons]
      refine .bind piece (each item List.mem_cons_self graph piece) ?_
      rintro step left leftPiece - rfl
      exact ih leftPiece fun other listed => each other (List.mem_cons_of_mem item listed)

end Build.Works

/-! ## Names -/

/-- A name denotes a type. -/
def Resolver.Denotes (resolver : Resolver) (name : String) (type : TypeId) : Prop :=
  resolver.module.lookupType? resolver.farm name = some type

namespace Resolver

/-- The type that a name denotes; it does not matter if there is none. -/
def denoted (resolver : Resolver) (name : String) : TypeId :=
  (resolver.module.lookupType? resolver.farm name).getD 0

/-- The reason why a name cannot be mentioned in a type. -/
def nameFailure? (resolver : Resolver) (graph : Graph) (self : TypeId) (name : String) :
    Option Failure :=
  match resolver.module.lookupType? resolver.farm name with
  | none => some (.rejected (.unknownType name))
  | some type =>
    (graph.typeVisibilityError? { referencing := some self } (.nominal type)).map .rejected

/-- The reason why a name cannot stand for a class, or for an interface, in a type. -/
def kindFailure? (resolver : Resolver) (graph : Graph) (self : TypeId) (isClass : Bool)
    (name : String) : Option Failure :=
  (resolver.nameFailure? graph self name).or
    (if (graph.typeAt (resolver.denoted name)).isClass = isClass then none
    else some (.rejected (.unexpectedTypeKind name
      (if isClass then "a class" else "an interface"))))

/-- The reason why a built-in type cannot be had. -/
def missingFailure? (resolver : Resolver) (name : String) : Option Failure :=
  match resolver.farm.lookup? name with
  | some _ => none
  | none => some (.misuse ("unknown built-in type `" ++ name ++ "`"))

/-- A built-in type; it does not matter if there is none. -/
def builtin (resolver : Resolver) (name : String) : TypeId :=
  (resolver.farm.lookup? name).getD 0

end Resolver

theorem denotes_of_nameFailure? {self : TypeId} {name : String}
    (accepted : resolver.nameFailure? graph self name = none) :
    resolver.Denotes name (resolver.denoted name) := by
  unfold Resolver.nameFailure? at accepted
  unfold Resolver.Denotes Resolver.denoted
  cases found : resolver.module.lookupType? resolver.farm name with
  | none =>
      rw [found] at accepted
      cases accepted
  | some type => rfl

theorem denotes_of_kindFailure? {self : TypeId} {isClass : Bool} {name : String}
    (accepted : resolver.kindFailure? graph self isClass name = none) :
    resolver.Denotes name (resolver.denoted name) ∧
      (graph.typeAt (resolver.denoted name)).isClass = isClass := by
  rw [Resolver.kindFailure?, Option.or_eq_none_iff] at accepted
  refine ⟨denotes_of_nameFailure? accepted.1, ?_⟩
  by_contra different
  rw [if_neg different] at accepted
  cases accepted.2

theorem lookup?_of_missingFailure? {name : String}
    (accepted : resolver.missingFailure? name = none) :
    resolver.farm.lookup? name = some (resolver.builtin name) := by
  unfold Resolver.missingFailure? at accepted
  unfold Resolver.builtin
  cases found : resolver.farm.lookup? name with
  | none =>
      rw [found] at accepted
      cases accepted
  | some type => rfl

theorem exec_nominalType (resolver : Resolver) (graph : Graph) (self : TypeId) (name : String) :
    (resolver.nominalType self name).exec graph
      = ((resolver.nameFailure? graph self name).elim (.ok (resolver.denoted name)) .error,
          graph) := by
  unfold Resolver.nominalType Resolver.nameFailure? Resolver.denoted
  cases resolver.module.lookupType? resolver.farm name with
  | none => rfl
  | some type =>
      dsimp only
      rw [Build.exec_bind_of_verdict (exec_checkTypeVisibility _ _), Option.bind_some]
      cases graph.typeVisibilityError? { referencing := some self } (.nominal type) <;> rfl

theorem exec_kindType (resolver : Resolver) (graph : Graph) (self : TypeId) (isClass : Bool)
    (name : String) :
    (if isClass then resolver.classType self name else resolver.interfaceType self name).exec graph
      = ((resolver.kindFailure? graph self isClass name).elim (.ok (resolver.denoted name)) .error,
          graph) := by
  have named := exec_nominalType resolver graph self name
  unfold Resolver.classType Resolver.interfaceType Resolver.kindFailure?
  cases found : resolver.nameFailure? graph self name with
  | some failure =>
      rw [found] at named
      cases isClass <;> exact Build.exec_bind_of_error named
  | none =>
      rw [found] at named
      cases isClass <;> cases kind : (graph.typeAt (resolver.denoted name)).isClass <;>
        simp [Build.exec_bind_of_ok named, kind]

theorem exec_require (resolver : Resolver) (graph : Graph) (name : String) :
    (resolver.farm.require name).exec graph
      = ((resolver.missingFailure? name).elim (.ok (resolver.builtin name)) .error, graph) := by
  unfold Farm.require Resolver.missingFailure? Resolver.builtin
  cases resolver.farm.lookup? name <;> rfl

theorem nominalType_works (self : TypeId) (name : String) :
    (resolver.nominalType self name).Works resolver type bound graph fun given left =>
      resolver.Denotes name given ∧ graph = left := by
  refine .of_still (exec_nominalType resolver graph self name) ?_
  exact fun accepted => ⟨denotes_of_nameFailure? accepted, rfl⟩

theorem require_works (name : String) :
    (resolver.farm.require name).Works resolver type bound graph fun given left =>
      resolver.farm.lookup? name = some given ∧ graph = left := by
  refine .of_still (exec_require resolver graph name) ?_
  exact fun accepted => ⟨lookup?_of_missingFailure? accepted, rfl⟩

theorem arrayOf_works (piece : Workpiece resolver type bound graph) {element : TypeRef}
    (within : element.isWithin graph.types.size = true) :
    Build.Works resolver type bound (liftM (resolver.farm.arrayOf element) : Build TypeRef) graph
      fun given left => given.isWithin left.types.size = true := by
  have run : (resolver.farm.arrayOf element).exec graph = _ := exec_arrayOf _ _ _ _
  have frame : graph.Frame resolver.farm (· = type) bound
      (graph.withArray resolver.farm.arena element (resolver.farm.lookup? "Array")) :=
    .withArray within
  have step : Step (· = .describe) graph ((resolver.farm.arrayOf element).exec graph).2 :=
    arrayOf_step piece.sound _ _ _
  constructor
  · rw [Build.exec_lift]
    refine .of_step step trivial (congrArg (·.2.bare) run) frame ?_ ?_
    · unfold withArray
      split <;> rfl
    · unfold withArray
      split <;> rfl
  · rw [Build.exec_lift, run]
    rintro _ ⟨⟩
    have base : ((resolver.farm.lookup? "Array").all (· < graph.types.size)) = true := by
      cases found : resolver.farm.lookup? "Array" with
      | none => rfl
      | some array =>
          rw [Option.all_some, decide_eq_true_eq]
          exact lt_size_of_isClass (piece.hosted.builtin found)
    rw [frame.size]
    unfold arrayFor
    cases known : (graph.arenaAt resolver.farm.arena).arrays.get? (element.qualifiedName graph) with
    | none =>
        rw [Option.getD_none, TypeRef.isWithin, within, base]
        rfl
    | some array =>
        obtain ⟨kept, rfl, keptWithin, -⟩ := piece.hosted.interned _ _ known
        rw [Option.getD_some, TypeRef.isWithin, keptWithin, base]
        rfl

theorem nestedArray_works (piece : Workpiece resolver type bound graph) (depth : Nat)
    {element : TypeRef} (within : element.isWithin graph.types.size = true) :
    (resolver.nestedArray depth element).Works resolver type bound graph
      fun given left => given.isWithin left.types.size = true := by
  induction depth generalizing graph element with
  | zero => exact .pure within
  | succ depth ih =>
      rw [Resolver.nestedArray]
      refine .bind piece (arrayOf_works piece within) ?_
      intro array left leftPiece _ arrayWithin
      exact ih leftPiece arrayWithin

theorem plainType_works (piece : Workpiece resolver type bound graph) (self : TypeId)
    (name : String) :
    (resolver.plainType self name).Works resolver type bound graph
      fun given left => ∀ reference ∈ given, reference.isWithin left.types.size = true := by
  unfold Resolver.plainType
  split
  · exact .pure (by simp)
  · cases Primitive.ofName? name with
    | some kind => exact .pure (by simp [TypeRef.isWithin])
    | none =>
        refine .bind piece (nominalType_works self name) ?_
        rintro denoted left leftPiece - ⟨denotes, rfl⟩
        refine .pure ?_
        rintro _ ⟨⟩
        exact decide_eq_true (leftPiece.hosted.denoted denotes)

/-- A reference that is resolved mentions types of the graph. -/
theorem type_works (piece : Workpiece resolver type bound graph) (self : TypeId)
    (reference : String) :
    (resolver.type self reference).Works resolver type bound graph
      fun given left => ∀ reference ∈ given, reference.isWithin left.types.size = true := by
  unfold Resolver.type
  split
  next characters depth _ =>
  refine .bind piece (plainType_works piece self _) ?_
  intro base left leftPiece _ within
  split
  · exact .pure within
  · have nests : ∀ element left, Workpiece resolver type bound left →
        element.isWithin left.types.size = true → Build.Works resolver type bound (do
          let array ← resolver.nestedArray depth element
          Pure.pure (some array)) left
          fun given left => ∀ reference ∈ given, reference.isWithin left.types.size = true := by
      intro element left leftPiece elementWithin
      refine .bind leftPiece (nestedArray_works leftPiece depth elementWithin) ?_
      intro array last lastPiece _ arrayWithin
      refine .pure ?_
      rintro _ ⟨⟩
      exact arrayWithin
    cases base with
    | some element => exact nests element left leftPiece (within element rfl)
    | none =>
        refine .bind leftPiece (require_works "Dynamic") ?_
        rintro dynamic _ - - ⟨found, rfl⟩
        exact nests _ left leftPiece
          (decide_eq_true (lt_size_of_isClass (leftPiece.hosted.builtin found)))

/-! ## Completion -/

theorem changeType_works (piece : Workpiece resolver type bound graph) (mutation : Mutation)
    {change : NominalType → NominalType}
    (described : graph.Described (graph.typeAt type) (change (graph.typeAt type))) :
    (changeType type mutation change).Works resolver type bound graph fun _ _ => True := by
  have step := changeType_step piece.sound piece.present mutation (.describe change described)
  cases isFinal : graph.isSealed type with
  | true => exact .of_sealed isFinal _ _
  | false =>
      refine (Build.Works.of_ends (changeType_ends isFinal mutation change) step trivial
        (.modifyType rfl described.identity described.implementation) rfl
        (isSealed_modifyType ?_ _)).mono fun _ _ _ _ => trivial
      rw [isSealed, NominalType.isSealed] at isFinal
      rcases described.state with same | parsed
      · rw [NominalType.isSealed, same, NominalType.isSealed]
      · rw [NominalType.isSealed, parsed, NominalType.isSealed, isFinal]
        rfl

theorem declaredParameters_works (piece : Workpiece resolver type bound graph) (self : TypeId)
    (declarations : List ParameterDeclaration) :
    (declaredParameters resolver self declarations).Works resolver type bound graph
      fun given left => ∀ parameter ∈ given, ∀ reference ∈ parameter.type,
        reference.isWithin left.types.size = true := by
  induction declarations generalizing graph with
  | nil => exact .pure (by simp)
  | cons declaration rest ih =>
      rw [declaredParameters]
      refine .bind piece (type_works piece self _) ?_
      intro reference left leftPiece _ within
      refine .bind leftPiece (ih leftPiece) ?_
      intro others last _ alters othersWithin
      refine .pure ?_
      intro parameter listed mentioned isType
      rcases List.mem_cons.mp listed with rfl | listed
      · rw [alters.frame.size]
        exact within mentioned isType
      · exact othersWithin parameter listed mentioned isType

theorem declaredArguments_works (piece : Workpiece resolver type bound graph) (self : TypeId)
    (arguments : List String) :
    (arguments.mapM (resolver.type self)).Works resolver type bound graph
      fun given left => ∀ argument ∈ given, ∀ reference ∈ argument,
        reference.isWithin left.types.size = true := by
  induction arguments generalizing graph with
  | nil => exact .pure (by simp)
  | cons argument rest ih =>
      rw [List.mapM_cons]
      refine .bind piece (type_works piece self _) ?_
      intro reference left leftPiece _ within
      refine .bind leftPiece (ih leftPiece) ?_
      intro others last _ alters othersWithin
      refine .pure ?_
      intro mentioned listed target isType
      rcases List.mem_cons.mp listed with rfl | listed
      · rw [alters.frame.size]
        exact within target isType
      · exact othersWithin mentioned listed target isType

theorem declaredForwardCall_works (piece : Workpiece resolver type bound graph) (self : TypeId)
    (declaration : ForwardCallDeclaration) :
    (declaredForwardCall resolver self declaration).Works resolver type bound graph
      fun given left => ∀ argument ∈ given.arguments, ∀ reference ∈ argument,
        reference.isWithin left.types.size = true := by
  unfold declaredForwardCall
  cases ForwardTarget.ofKeyword? declaration.target with
  | none => exact .throw _
  | some target =>
      refine .bind piece (declaredArguments_works piece self _) ?_
      intro arguments left _ _ within
      exact .pure within

theorem declaredCalls_works (piece : Workpiece resolver type bound graph) (self : TypeId)
    (declaration : Option ForwardCallDeclaration) :
    (declaration.mapM (declaredForwardCall resolver self)).Works resolver type bound graph
      fun given left => ∀ call ∈ given, ∀ argument ∈ call.arguments, ∀ reference ∈ argument,
        reference.isWithin left.types.size = true := by
  cases declaration with
  | none => exact .pure (by simp)
  | some call =>
      refine .bind piece (declaredForwardCall_works piece self call) ?_
      intro forward last _ _ within
      refine .pure ?_
      rintro _ ⟨⟩
      exact within

theorem declaredVisibility_works (keyword : String) :
    (declaredVisibility keyword).Works resolver type bound graph fun _ left => graph = left := by
  unfold declaredVisibility
  split
  · exact .pure rfl
  · split
    · exact .pure rfl
    · exact .throw _

/-- What holds of the types of a member, of its parameters and of its arguments holds of all types
that it mentions. -/
theorem Member.forall_mentioned {member : Member} {holds : TypeRef → Prop}
    (declared : ∀ reference ∈ member.declaredType, holds reference)
    (parameters : ∀ parameter ∈ member.parameters, ∀ reference ∈ parameter.type, holds reference)
    (arguments : ∀ call ∈ member.forwardCall, ∀ argument ∈ call.arguments, ∀ reference ∈ argument,
      holds reference) : ∀ reference ∈ member.mentioned, holds reference := by
  intro reference mentioned
  simp only [Member.mentioned, List.mem_append, Option.mem_toList, List.mem_filterMap] at mentioned
  rcases mentioned with (isType | ⟨parameter, listed, isType⟩) | ⟨argument, listed, isType⟩
  · exact declared reference isType
  · exact parameters parameter listed reference isType
  · cases calls : member.forwardCall with
    | none =>
        rw [calls] at listed
        cases listed
    | some call =>
        rw [calls] at listed
        exact arguments call calls argument listed reference isType

theorem Member.isWithin_of_parts {member : Member} {size : Nat}
    (declared : ∀ reference ∈ member.declaredType, reference.isWithin size = true)
    (parameters : ∀ parameter ∈ member.parameters, ∀ reference ∈ parameter.type,
      reference.isWithin size = true)
    (arguments : ∀ call ∈ member.forwardCall, ∀ argument ∈ call.arguments, ∀ reference ∈ argument,
      reference.isWithin size = true) : member.isWithin size = true :=
  List.all_eq_true.mpr (Member.forall_mentioned declared parameters arguments)

/-- A declared member belongs to its type and mentions types of the graph. -/
theorem declaredMember_works (piece : Workpiece resolver type bound graph) (self : TypeId)
    (declaration : MemberDeclaration) :
    (declaredMember resolver self declaration).Works resolver type bound graph
      fun given left => given.definingType = some self ∧
        given.isWithin left.types.size = true := by
  unfold declaredMember
  refine .bind piece (declaredVisibility_works _) ?_
  rintro visibility _ - - rfl
  refine .bind piece (declaredParameters_works piece self _) ?_
  intro parameters left leftPiece _ within
  have none_within : ∀ reference ∈ (none : Option TypeRef),
      reference.isWithin left.types.size = true := by
    rintro reference ⟨⟩
  cases MemberKind.ofKeyword? declaration.kind with
  | none => exact .throw _
  | some kind =>
      cases kind with
      | unknown => exact .throw _
      | field =>
          refine .bind leftPiece (type_works leftPiece self _) ?_
          intro reference last _ alters typeWithin
          exact .pure ⟨rfl, Member.isWithin_of_parts typeWithin (by simp [Member.field])
            (by simp [Member.field])⟩
      | method =>
          refine .bind leftPiece (type_works leftPiece self _) ?_
          intro result last _ alters resultWithin
          have kept : ∀ parameter ∈ parameters, ∀ reference ∈ parameter.type,
              reference.isWithin last.types.size = true := by
            rw [alters.frame.size]
            exact within
          split
          · split
            · exact .throw _
            · exact .pure ⟨rfl, Member.isWithin_of_parts resultWithin kept
                (by simp [Member.abstractMethod, Member.method])⟩
          · exact .pure ⟨rfl, Member.isWithin_of_parts resultWithin kept
              (by simp [Member.method])⟩
      | constructor =>
          refine .bind leftPiece (declaredCalls_works leftPiece self _) ?_
          intro call last _ alters callWithin
          refine .pure ⟨rfl, Member.isWithin_of_parts (by simp [Member.constructor]) ?_ callWithin⟩
          rw [alters.frame.size]
          exact within
      | initializer =>
          exact .pure ⟨rfl, Member.isWithin_of_parts (by simp [Member.initializer]) within
            (by simp [Member.initializer])⟩
      | staticConstructor =>
          exact .pure ⟨rfl, Member.isWithin_of_parts (by simp [Member.staticConstructor])
            (by simp [Member.staticConstructor]) (by simp [Member.staticConstructor])⟩

theorem newMember_works (piece : Workpiece resolver type bound graph) {member : Member}
    (within : member.isWithin graph.types.size = true) :
    Build.Works resolver type bound (liftM (newMember member) : Build MemberId) graph
      fun given left => given = graph.members.size ∧ left.memberAt given = member := by
  refine ⟨.of_step (newMember_step piece.sound within) trivial rfl
    (.withMember piece.bounded member) rfl rfl, ?_⟩
  rintro _ ⟨⟩
  exact ⟨rfl, memberAt_withMember_self member⟩

theorem declareMember_works (piece : Workpiece resolver type bound graph) {member : MemberId}
    (young : bound ≤ member) (adoptable : (graph.memberAt member).definingType = some type) :
    (declareMember type (some member) (graph.memberAt member).isStatic).Works resolver type bound
      graph fun _ _ => True := by
  have step := declareMember_step piece.sound piece.present (some member)
    (graph.memberAt member).isStatic
  have owner : ∀ owner ∈ (graph.memberAt member).definingType, owner = type := by
    rw [adoptable]
    rintro _ ⟨⟩
    rfl
  cases isFinal : graph.isSealed type with
  | true => exact .of_sealed isFinal _ _
  | false =>
      have frame : graph.Frame resolver.farm (· = type) bound (graph.withDeclared type member) :=
        .withDeclared (by rfl) young
      refine (Build.Works.of_ends (declareMember_ends piece.sound isFinal owner) step rfl frame
        rfl ?_).mono fun _ _ _ _ => trivial
      have owned : (graph.withOwner type member
          (Text.canonical (graph.memberAt member).identifier)).isSealed type
        = graph.isSealed type :=
        rfl
      rw [withDeclared, withAdopted, ← owned]
      refine isSealed_modifyType ?_ _
      rw [NominalType.isSealed, Frame.placed_state, NominalType.isSealed]

/-- Adds a declared member to a type. -/
def declareOne (resolver : Resolver) (self : TypeId) (declaration : MemberDeclaration) :
    Build Unit := do
  let member ← declaredMember resolver self declaration
  let id ← newMember member
  declareMember self (some id) member.isStatic

/-- Adds the members of a declared type. -/
def declareMembers (resolver : Resolver) (entry : PendingType) : Build Unit := do
  for declaration in entry.declaration.members do
    declareOne resolver entry.type declaration
  markParsed entry.type

theorem completeType_eq (resolver : Resolver) (entry : PendingType) :
    completeType resolver entry =
      declareMembers resolver entry >>= fun _ => sealType entry.type := by
  unfold completeType declareMembers declareOne
  simp only [bind_assoc]

theorem declareOne_works (piece : Workpiece resolver type bound graph)
    (declaration : MemberDeclaration) :
    (declareOne resolver type declaration).Works resolver type bound graph fun _ _ => True := by
  unfold declareOne
  refine .bind piece (declaredMember_works piece type declaration) ?_
  rintro member next nextPiece - ⟨owned, within⟩
  refine .bind nextPiece (newMember_works nextPiece within) ?_
  rintro id last lastPiece - ⟨placed, rfl⟩
  exact declareMember_works lastPiece (placed ▸ nextPiece.bounded) owned

theorem declareAll_works (piece : Workpiece resolver type bound graph)
    (declarations : List MemberDeclaration) :
    Build.Works resolver type bound
      (forIn declarations PUnit.unit fun declaration _ => do
        declareOne resolver type declaration
        return .yield PUnit.unit)
      graph fun _ _ => True :=
  .forEach piece fun declaration _ _ leftPiece =>
    .bind leftPiece (declareOne_works leftPiece declaration) fun _ _ _ _ _ => .pure rfl

theorem markParsed_works (piece : Workpiece resolver type bound graph) :
    (markParsed type).Works resolver type bound graph fun _ _ => True := by
  refine changeType_works piece .markParsed ?_
  exact ⟨⟨rfl, rfl, rfl, rfl, rfl, rfl, rfl⟩, rfl, fun _ => rfl, rfl, .inr rfl, rfl,
    fun _ listed => .inl listed⟩

theorem declareMembers_works {entry : PendingType}
    (piece : Workpiece resolver entry.type bound graph) :
    (declareMembers resolver entry).Works resolver entry.type bound graph fun _ _ => True := by
  unfold declareMembers
  refine .bind piece (declareAll_works piece _) ?_
  intro _ left leftPiece _ _
  exact markParsed_works leftPiece

end Work

end Nominal
