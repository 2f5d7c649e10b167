import Nominal.Proofs.PlainNames

/-!
# Resolving the references of a declaration

Resolving references makes array types and changes nothing else.  However it ends, the arrays are
over elements that are plain or open, and every reference that it gives may be mentioned in the type
that it is resolved for.
-/

namespace Nominal

open Nominal.Graph

theorem Graph.isTame_of_types {graph left : Graph} (same : left.types = graph.types)
    {reference : TypeRef} (tame : graph.IsPlain reference ∨ graph.IsOpen reference) :
    left.IsPlain reference ∨ left.IsOpen reference := by
  have typeAt : ∀ type, left.typeAt type = graph.typeAt type := by
    intro type
    rw [Graph.typeAt, same, Graph.typeAt]
  simpa only [IsPlain, IsOpen, PlainlyNamed, nameOf, typeAt] using tame

/-- A type of a graph for which references are resolved. -/
structure Sheltered (resolver : Resolver) (type : TypeId) (bound : Nat) (base graph : Graph) :
    Prop where
  piece : Workpiece resolver type bound graph
  plain : resolver.Plain base
  distinct : base.DistinctNames
  types : graph.types = base.types
  members : graph.members = base.members
  arrays : graph.TameArrays resolver.farm

/-- However a computation ends, it has at most made array types over plain or open elements; what it
gives satisfies a condition. -/
structure Build.Resolves {α : Type} (resolver : Resolver) (type : TypeId) (bound : Nat)
    (base : Graph) (build : Build α) (graph : Graph) (given : α → Prop) : Prop where
  sheltered : Sheltered resolver type bound base (build.exec graph).2
  result : ∀ value, (build.exec graph).1 = .ok value → given value

section Resolve

variable {resolver : Resolver} {type : TypeId} {bound : Nat} {base graph left : Graph}

namespace Build.Resolves

variable {α β : Type} {build : Build α} {given : α → Prop}

theorem of_still (sheltered : Sheltered resolver type bound base graph) {found : Option Failure}
    {value : α} (run : build.exec graph = (found.elim (.ok value) .error, graph))
    (holds : found = none → given value) :
    build.Resolves resolver type bound base graph given := by
  constructor
  · rwa [run]
  · intro result ended
    rw [run] at ended
    cases found with
    | some failure => cases ended
    | none =>
        cases ended
        exact holds rfl

theorem pure (sheltered : Sheltered resolver type bound base graph) {value : α}
    (holds : given value) : Build.Resolves resolver type bound base (pure value) graph given := by
  constructor
  · exact sheltered
  · rintro _ ⟨⟩
    exact holds

theorem throw (sheltered : Sheltered resolver type bound base graph) (failure : Failure) :
    Build.Resolves resolver type bound base (throw failure : Build α) graph given := by
  constructor
  · exact sheltered
  · intro value impossible
    cases impossible

theorem bind (first : build.Resolves resolver type bound base graph given) {next : α → Build β}
    {last : β → Prop}
    (rest : ∀ value left, Sheltered resolver type bound base left → given value →
      (next value).Resolves resolver type bound base left last) :
    Build.Resolves resolver type bound base (build >>= next) graph last := by
  obtain ⟨sheltered, result⟩ := first
  rcases Build.exec_bind_cases build next graph with
    ⟨failure, left, run, ended⟩ | ⟨value, left, run, ended⟩
  · rw [run] at sheltered
    constructor
    · rwa [ended]
    · intro value impossible
      rw [ended] at impossible
      cases impossible
  · rw [run] at sheltered result
    have later := rest value left sheltered (result value rfl)
    constructor
    · rw [ended]
      exact later.sheltered
    · rw [ended]
      exact later.result

end Build.Resolves

/-! ## Array types -/

/-- A type that may mention an element may mention the array type that is kept under the name of the
element, whichever element it is over. -/
theorem mentionable_arrayFor (sheltered : Sheltered resolver type bound base graph)
    {element : TypeRef} (mentionable : base.Mentionable type element) :
    base.Mentionable type
      (graph.arrayFor resolver.farm.arena element (resolver.farm.lookup? "Array")) := by
  have keeps : graph.KeepsNames base := .of_types sheltered.types.symm
  have mentioned : graph.Mentionable type element :=
    KeepsNames.mentionable (.of_types sheltered.types) (sheltered.types ▸ sheltered.piece.present)
      mentionable
  obtain ⟨plain, plainWithin, isPlain, plainAllowed, plainNamed⟩ := mentioned.named
  apply keeps.mentionable sheltered.piece.present
  have base : ((resolver.farm.lookup? "Array").all (· < graph.types.size)) = true := by
    cases found : resolver.farm.lookup? "Array" with
    | none => rfl
    | some array =>
        simpa using lt_size_of_isClass (sheltered.piece.hosted.builtin found)
  -- the array type over the plain reference has the name of the one that is kept
  have named : ∀ kept : TypeRef, kept.qualifiedName graph = element.qualifiedName graph →
      ∃ array : TypeRef, array.isWithin graph.types.size = true ∧ graph.IsPlain array ∧
        graph.MayMention type array ∧ array.qualifiedName graph
          = (TypeRef.array kept (resolver.farm.lookup? "Array")).qualifiedName graph := by
    intro kept sameName
    refine ⟨.array plain (resolver.farm.lookup? "Array"), ?_, isPlain,
      mayMention_array.mpr plainAllowed, ?_⟩
    · simp [TypeRef.isWithin, plainWithin, base]
    · simp only [TypeRef.qualifiedName, plainNamed, sameName]
  cases known : (graph.arenaAt resolver.farm.arena).arrays.get? (element.qualifiedName graph) with
  | none =>
      simp only [arrayFor, known, Option.getD_none]
      constructor
      · simp [TypeRef.isWithin, mentioned.within, base]
      · exact mentioned.tame
      · exact mayMention_array.mpr mentioned.allowed
      · exact named element rfl
  | some array =>
      obtain ⟨kept, rfl, within, sameName⟩ := sheltered.piece.hosted.interned _ _ known
      have tame := sheltered.arrays _ _ _ known
      simp only [arrayFor, known, Option.getD_some]
      constructor
      · simp [TypeRef.isWithin, within, base]
      · exact tame
      · apply mayMention_array.mpr
        rcases tame with keptPlain | isOpen
        · exact mayMention_of_qualifiedName (keeps.distinctNames sheltered.distinct) isPlain
            keptPlain plainWithin within (plainNamed.trans sameName.symm) plainAllowed
        · exact mayMention_of_isOpen isOpen
      · exact named kept sameName

theorem arrayOf_resolves (sheltered : Sheltered resolver type bound base graph) {element : TypeRef}
    (mentionable : base.Mentionable type element) :
    Build.Resolves resolver type bound base (liftM (resolver.farm.arrayOf element) : Build TypeRef)
      graph (base.Mentionable type) := by
  have run : (resolver.farm.arrayOf element).exec graph = _ := exec_arrayOf _ _ _ _
  have made := mentionable_arrayFor sheltered mentionable
  have alters := (arrayOf_works sheltered.piece
    (by rw [sheltered.types]; exact mentionable.within)).alters
  have types : (graph.withArray resolver.farm.arena element
      (resolver.farm.lookup? "Array")).types = graph.types := by
    unfold withArray
    split <;> rfl
  have members : (graph.withArray resolver.farm.arena element
      (resolver.farm.lookup? "Array")).members = graph.members := by
    unfold withArray
    split <;> rfl
  have piece := sheltered.piece.of_alters alters
  rw [Build.exec_lift, run] at piece
  constructor
  · rw [Build.exec_lift, run]
    refine ⟨piece, sheltered.plain, sheltered.distinct, types.trans sheltered.types,
      members.trans sheltered.members, ?_⟩
    intro name kept baseClass found
    rw [get?_withArray sheltered.piece.hosted.arena] at found
    apply isTame_of_types types
    split at found
    next =>
      rw [Option.some.inj found] at made
      exact isTame_of_types sheltered.types made.tame
    next => exact sheltered.arrays _ _ _ found
  · rw [Build.exec_lift, run]
    rintro _ ⟨⟩
    exact made

theorem nestedArray_resolves (sheltered : Sheltered resolver type bound base graph) (depth : Nat)
    {element : TypeRef} (mentionable : base.Mentionable type element) :
    (resolver.nestedArray depth element).Resolves resolver type bound base graph
      (base.Mentionable type) := by
  induction depth generalizing graph element with
  | zero => exact .pure sheltered mentionable
  | succ depth ih =>
      rw [Resolver.nestedArray]
      apply Build.Resolves.bind (arrayOf_resolves sheltered mentionable)
      intro array left shelteredLeft arrayMentionable
      exact ih shelteredLeft arrayMentionable

/-! ## References -/

/-- A type may mention what a name denotes, if the name is accepted there. -/
theorem mayMention_of_nameFailure? {name : String}
    (accepted : resolver.nameFailure? graph type name = none) :
    graph.MayMention type (.nominal (resolver.denoted name)) := by
  have denotes := denotes_of_nameFailure? accepted
  unfold Resolver.nameFailure? at accepted
  unfold Resolver.Denotes at denotes
  rw [denotes] at accepted
  simpa [MayMention] using accepted

theorem nominalType_resolves (sheltered : Sheltered resolver type bound base graph) {name : String}
    (plainName : IsPlainName name) :
    (resolver.nominalType type name).Resolves resolver type bound base graph
      fun given => base.Mentionable type (.nominal given) := by
  apply Build.Resolves.of_still sheltered (exec_nominalType resolver graph type name)
  intro accepted
  have denotes := denotes_of_nameFailure? accepted
  have within : (TypeRef.nominal (resolver.denoted name)).isWithin graph.types.size = true :=
    decide_eq_true (sheltered.piece.hosted.denoted denotes)
  apply Mentionable.of_plain
  · rwa [← sheltered.types]
  · rintro _ ⟨⟩
    exact sheltered.plain.denoted denotes plainName
  · exact KeepsNames.mayMention (.of_types sheltered.types.symm) sheltered.piece.present within
      (mayMention_of_nameFailure? accepted)

theorem plainType_resolves (sheltered : Sheltered resolver type bound base graph) {name : String}
    (unsuffixed : arrayElement? name.toList = none) :
    (resolver.plainType type name).Resolves resolver type bound base graph
      fun given => ∀ reference ∈ given, base.Mentionable type reference := by
  unfold Resolver.plainType
  split
  · exact .pure sheltered (by simp)
  · cases nominal : Primitive.ofName? name with
    | some kind =>
        apply Build.Resolves.pure sheltered
        rintro _ ⟨⟩
        exact .of_plain rfl (fun _ impossible => nomatch impossible) (mayMention_primitive kind)
    | none =>
        apply Build.Resolves.bind (nominalType_resolves sheltered ⟨unsuffixed, nominal⟩)
        intro denoted left shelteredLeft mentionable
        apply Build.Resolves.pure shelteredLeft
        rintro _ ⟨⟩
        exact mentionable

/-- Every type may mention a built-in type. -/
theorem require_resolves (sheltered : Sheltered resolver type bound base graph) {name : String}
    (plainName : IsPlainName name) :
    (resolver.farm.require name).Resolves resolver type bound base graph
      fun given => base.Mentionable type (.nominal given) := by
  apply Build.Resolves.of_still sheltered (exec_require resolver graph name)
  intro accepted
  have found := lookup?_of_missingFailure? accepted
  apply Mentionable.of_plain
  · rw [← sheltered.types]
    exact decide_eq_true (lt_size_of_isClass (sheltered.piece.hosted.builtin found))
  · rintro _ ⟨⟩
    rwa [PlainlyNamed, sheltered.plain.offers.named found]
  · apply mayMention_of_isOpen
    rintro _ ⟨⟩
    exact sheltered.plain.offers.isPublic found

theorem plainName_dynamic : IsPlainName "Dynamic" := by
  constructor <;> decide

/-- A type may mention every reference that is resolved for it. -/
theorem type_resolves (sheltered : Sheltered resolver type bound base graph) (reference : String) :
    (resolver.type type reference).Resolves resolver type bound base graph
      fun given => ∀ reference ∈ given, base.Mentionable type reference := by
  have unsuffixed := peelArrays_unsuffixed reference.toList
  unfold Resolver.type
  split
  next characters depth peeled =>
  rw [peeled] at unsuffixed
  have innermost := @plainType_resolves _ _ _ _ _ sheltered (String.ofList characters)
    (by simpa using unsuffixed)
  apply Build.Resolves.bind innermost
  intro inner left shelteredLeft mentionable
  split
  · exact .pure shelteredLeft mentionable
  · have nests : ∀ element left, Sheltered resolver type bound base left →
        base.Mentionable type element → Build.Resolves resolver type bound base (do
          let array ← resolver.nestedArray depth element
          Pure.pure (some array)) left
          fun given => ∀ reference ∈ given, base.Mentionable type reference := by
      intro element left shelteredLeft elementMentionable
      apply Build.Resolves.bind (nestedArray_resolves shelteredLeft depth elementMentionable)
      intro array last shelteredLast arrayMentionable
      apply Build.Resolves.pure shelteredLast
      rintro _ ⟨⟩
      exact arrayMentionable
    cases inner with
    | some element => exact nests element left shelteredLeft (mentionable element rfl)
    | none =>
        apply Build.Resolves.bind (require_resolves shelteredLeft plainName_dynamic)
        intro dynamic last shelteredLast dynamicMentionable
        exact nests _ last shelteredLast dynamicMentionable

/-- The references of several texts are resolved one after the other. -/
theorem mapM_resolves {Item Value : Type} {resolve : Item → Build Value} {given : Value → Prop}
    (each : ∀ item left, Sheltered resolver type bound base left →
      (resolve item).Resolves resolver type bound base left given)
    (sheltered : Sheltered resolver type bound base graph) (items : List Item) :
    (items.mapM resolve).Resolves resolver type bound base graph
      fun values => ∀ value ∈ values, given value := by
  induction items generalizing graph with
  | nil => exact .pure sheltered (by simp)
  | cons item rest ih =>
      rw [List.mapM_cons]
      apply Build.Resolves.bind (each item graph sheltered)
      intro value left shelteredLeft holds
      apply Build.Resolves.bind (ih shelteredLeft)
      intro values last shelteredLast allHold
      exact .pure shelteredLast (List.forall_mem_cons.mpr ⟨holds, allHold⟩)

/-! ## Members -/

theorem declaredParameters_resolves (sheltered : Sheltered resolver type bound base graph)
    (declarations : List ParameterDeclaration) :
    (declaredParameters resolver type declarations).Resolves resolver type bound base graph
      fun given => ∀ parameter ∈ given, ∀ reference ∈ parameter.type,
        base.Mentionable type reference := by
  induction declarations generalizing graph with
  | nil => exact .pure sheltered (by simp)
  | cons declaration rest ih =>
      rw [declaredParameters]
      apply Build.Resolves.bind (type_resolves sheltered declaration.type)
      intro reference left shelteredLeft mentionable
      apply Build.Resolves.bind (ih shelteredLeft)
      intro others last shelteredLast othersMentionable
      exact .pure shelteredLast (List.forall_mem_cons.mpr ⟨mentionable, othersMentionable⟩)

theorem declaredForwardCall_resolves (sheltered : Sheltered resolver type bound base graph)
    (declaration : ForwardCallDeclaration) :
    (declaredForwardCall resolver type declaration).Resolves resolver type bound base graph
      fun given => ∀ argument ∈ given.arguments, ∀ reference ∈ argument,
        base.Mentionable type reference := by
  unfold declaredForwardCall
  cases ForwardTarget.ofKeyword? declaration.target with
  | none => exact .throw sheltered _
  | some target =>
      apply Build.Resolves.bind (mapM_resolves (fun argument left shelteredLeft =>
        type_resolves shelteredLeft argument) sheltered declaration.arguments)
      intro arguments left shelteredLeft mentionable
      exact .pure shelteredLeft mentionable

theorem declaredCalls_resolves (sheltered : Sheltered resolver type bound base graph)
    (declaration : Option ForwardCallDeclaration) :
    (declaration.mapM (declaredForwardCall resolver type)).Resolves resolver type bound base graph
      fun given => ∀ call ∈ given, ∀ argument ∈ call.arguments, ∀ reference ∈ argument,
        base.Mentionable type reference := by
  cases declaration with
  | none => exact .pure sheltered (by simp)
  | some call =>
      apply Build.Resolves.bind (declaredForwardCall_resolves sheltered call)
      intro forward left shelteredLeft mentionable
      apply Build.Resolves.pure shelteredLeft
      rintro _ ⟨⟩
      exact mentionable

theorem declaredVisibility_resolves (sheltered : Sheltered resolver type bound base graph)
    (keyword : String) :
    (declaredVisibility keyword).Resolves resolver type bound base graph fun _ => True := by
  unfold declaredVisibility
  split
  · exact .pure sheltered trivial
  · split
    · exact .pure sheltered trivial
    · exact .throw sheltered _

/-- A type may mention everything that a member declared in it mentions. -/
theorem declaredMember_resolves (sheltered : Sheltered resolver type bound base graph)
    (declaration : MemberDeclaration) :
    (declaredMember resolver type declaration).Resolves resolver type bound base graph
      fun given => ∀ reference ∈ given.mentioned, base.Mentionable type reference := by
  unfold declaredMember
  apply Build.Resolves.bind (declaredVisibility_resolves sheltered _)
  intro visibility next shelteredNext _
  apply Build.Resolves.bind (declaredParameters_resolves shelteredNext _)
  intro parameters left shelteredLeft mentionable
  cases MemberKind.ofKeyword? declaration.kind with
  | none => exact .throw shelteredLeft _
  | some kind =>
      cases kind with
      | unknown => exact .throw shelteredLeft _
      | field =>
          apply Build.Resolves.bind (type_resolves shelteredLeft _)
          intro fieldType last shelteredLast typeMentionable
          exact .pure shelteredLast (Member.forall_mentioned typeMentionable
            (by simp [Member.field]) (by simp [Member.field]))
      | method =>
          apply Build.Resolves.bind (type_resolves shelteredLeft _)
          intro result last shelteredLast resultMentionable
          split
          · split
            · exact .throw shelteredLast _
            · exact .pure shelteredLast (Member.forall_mentioned resultMentionable mentionable
                (by simp [Member.abstractMethod, Member.method]))
          · exact .pure shelteredLast (Member.forall_mentioned resultMentionable mentionable
              (by simp [Member.method]))
      | constructor =>
          apply Build.Resolves.bind (declaredCalls_resolves shelteredLeft _)
          intro call last shelteredLast callMentionable
          exact .pure shelteredLast (Member.forall_mentioned (by simp [Member.constructor])
            mentionable callMentionable)
      | initializer =>
          exact .pure shelteredLeft (Member.forall_mentioned (by simp [Member.initializer])
            mentionable (by simp [Member.initializer]))
      | staticConstructor =>
          exact .pure shelteredLeft (Member.forall_mentioned
            (by simp [Member.staticConstructor]) (by simp [Member.staticConstructor])
            (by simp [Member.staticConstructor]))

end Resolve

end Nominal
