import Nominal.Proofs.Loading

/-!
# Linking a type

A declared type is linked to its supertypes, extension classes and attributes one after the other.
Whether that succeeds, and what the type looks like afterwards, is a function of its declaration and
of the graph before.  Checks in the middle do not see what has been linked so far, except for the
question whether an annotation names an attribute class.
-/

namespace Nominal

open Nominal.Graph

theorem findSome?_cons_eq_or {Item Value : Type} (find : Item → Option Value) (item : Item)
    (rest : List Item) :
    (item :: rest).findSome? find = (find item).or (rest.findSome? find) := by
  rw [List.findSome?_cons]
  cases find item <;> rfl

namespace Graph

theorem bare_modifyType {graph left : Graph} (same : left.bare = graph.bare) {type : TypeId}
    {change : NominalType → NominalType} :
    (left.modifyType type change).bare = (graph.modifyType type change).bare :=
  congrArg (fun bare : Graph => bare.modifyType type change) same

end Graph

/-! ## Exact results of the work on a type -/

/-- A computation that works on a type ends with the failure that was found; if there is none, it
gives a value and leaves a changed graph.  The arenas stay as they are. -/
structure Build.Performs {α : Type} (resolver : Resolver) (type : TypeId) (bound : Nat)
    (build : Build α) (graph : Graph) (found : Option Failure) (value : α) (changed : Graph) :
    Prop where
  alters : graph.Alters resolver.farm type bound (build.exec graph).2
  outcome : (build.exec graph).1 = found.elim (.ok value) .error
  left : found = none → (build.exec graph).2.bare = changed.bare
  arenas : (build.exec graph).2.arenas = graph.arenas

section Work

variable {resolver : Resolver} {type : TypeId} {bound : Nat} {graph left changed : Graph}

namespace Build.Performs

variable {α β : Type} {build : Build α} {found : Option Failure} {value : α}

theorem pure (value : α) :
    Build.Performs resolver type bound (pure value) graph none value graph :=
  ⟨.refl graph, rfl, fun _ => rfl, rfl⟩

theorem throw (failure : Failure) (value : α) :
    Build.Performs resolver type bound (throw failure) graph (some failure) value changed :=
  ⟨.refl graph, rfl, (fun impossible => nomatch impossible), rfl⟩

theorem of_bare {expected : Graph} (performs : build.Performs resolver type bound graph found value
    changed) (same : found = none → changed.bare = expected.bare) :
    build.Performs resolver type bound graph found value expected :=
  ⟨performs.alters, performs.outcome, fun accepted =>
    (performs.left accepted).trans (same accepted), performs.arenas⟩

/-- What comes second is done on the graph that the first has left. -/
theorem bind {next : α → Build β} {foundLater : Option Failure} {result : β} {last : Graph}
    (piece : Workpiece resolver type bound graph)
    (first : build.Performs resolver type bound graph found value changed)
    (rest : found = none → ∀ left, Workpiece resolver type bound left →
      graph.Alters resolver.farm type bound left → left.bare = changed.bare →
        (next value).Performs resolver type bound left foundLater result last) :
    Build.Performs resolver type bound (build >>= next) graph (found.or foundLater) result
      last := by
  rcases run : build.exec graph with ⟨ended, left⟩
  obtain ⟨alters, outcome, same, arenas⟩ := first
  rw [run] at alters outcome same arenas
  cases found with
  | some failure =>
      have failed : build.exec graph = (.error failure, left) := by
        rw [run]
        exact congrArg (·, left) outcome
      refine ⟨?_, ?_, (fun impossible => nomatch impossible), ?_⟩
      · rw [Build.exec_bind_of_error failed]
        exact alters
      · rw [Build.exec_bind_of_error failed]
        rfl
      · rw [Build.exec_bind_of_error failed]
        exact arenas
  | none =>
      have passed : build.exec graph = (.ok value, left) := by
        rw [run]
        exact congrArg (·, left) outcome
      have later := rest rfl left (piece.of_alters alters) alters (same rfl)
      refine ⟨?_, ?_, ?_, ?_⟩
      · rw [Build.exec_bind_of_ok passed]
        exact alters.trans later.alters
      · rw [Build.exec_bind_of_ok passed]
        exact later.outcome
      · rw [Build.exec_bind_of_ok passed]
        exact later.left
      · rw [Build.exec_bind_of_ok passed]
        exact later.arenas.trans arenas

theorem still_bind {next : α → Build β} {foundLater : Option Failure} {result : β}
    (run : build.exec graph = (found.elim (.ok value) .error, graph))
    (rest : found = none →
      (next value).Performs resolver type bound graph foundLater result changed) :
    Build.Performs resolver type bound (build >>= next) graph (found.or foundLater) result
      changed := by
  cases found with
  | some failure =>
      refine ⟨?_, ?_, (fun impossible => nomatch impossible), ?_⟩
      · rw [Build.exec_bind_of_error run]
        exact .refl graph
      · rw [Build.exec_bind_of_error run]
        rfl
      · rw [Build.exec_bind_of_error run]
  | none =>
      have later := rest rfl
      refine ⟨?_, ?_, ?_, ?_⟩
      · rw [Build.exec_bind_of_ok run]
        exact later.alters
      · rw [Build.exec_bind_of_ok run]
        exact later.outcome
      · rw [Build.exec_bind_of_ok run]
        exact later.left
      · rw [Build.exec_bind_of_ok run]
        exact later.arenas

theorem of_ends {error : Option Error} {deed : Deed}
    (ends : build.Ends graph error value changed)
    (step : Step (· = deed) graph (build.exec graph).2) (concerns : deed.Concerns type)
    (frame : graph.Frame resolver.farm (· = type) bound changed)
    (progress : changed.progress = graph.progress)
    (state : changed.isSealed type = graph.isSealed type)
    (arenas : changed.arenas = graph.arenas) :
    build.Performs resolver type bound graph (error.map .rejected) value changed := by
  refine ⟨(Build.Works.of_ends ends step concerns frame progress state).alters, ?_, ?_, ?_⟩
  · rw [ends.outcome]
    cases error <;> rfl
  · intro accepted
    have none : error = none := by simpa using accepted
    rw [ends.left, none]
    rfl
  · rw [arenas_eq_of_bare ends.left]
    cases error with
    | none => exact arenas
    | some => rfl

theorem forEach {Item : Type} {body : Item → PUnit → Build (ForInStep PUnit)}
    (failure? : Item → Option Failure) (change : Item → NominalType → NominalType)
    (holds : Graph → Prop) {items : List Item} (piece : Workpiece resolver type bound graph)
    (start : holds graph)
    (each : ∀ item, ∀ left, Workpiece resolver type bound left → holds left →
      (body item ⟨⟩).Performs resolver type bound left (failure? item) (.yield ⟨⟩)
        (left.modifyType type (change item)))
    (keeps : ∀ item left last, holds left → left.Alters resolver.farm type bound last →
      last.bare = (left.modifyType type (change item)).bare → holds last) :
    Build.Performs resolver type bound (forIn items PUnit.unit body) graph
      (items.findSome? failure?) PUnit.unit
      (graph.modifyType type fun old => items.foldl (fun old item => change item old) old) := by
  induction items generalizing graph with
  | nil => exact (Build.Performs.pure _).of_bare fun _ => by rw [modifyType_eq_self fun _ => rfl]
  | cons item rest ih =>
      rw [List.forIn_cons, findSome?_cons_eq_or]
      refine .bind piece (each item graph piece start) ?_
      intro _ left leftPiece alters same
      refine (ih leftPiece (keeps item graph left start alters same)).of_bare fun _ => ?_
      rw [bare_modifyType same, modifyType_modifyType]
      rfl

end Build.Performs

/-! ## Checks that only see names and places -/

namespace Graph.Frame

variable {farm : Farm}

theorem typeVisibilityError? (frame : graph.Frame farm (· = type) bound left) (site : AccessSite)
    (other : TypeId) : left.typeVisibilityError? site (.nominal other)
      = graph.typeVisibilityError? site (.nominal other) := by
  have moduleOf : site.moduleOf left = site.moduleOf graph := by
    unfold AccessSite.moduleOf
    cases site.referencing with
    | none => rfl
    | some referencing => exact (frame.identityAt referencing).moduleName
  have admits : left.admitsType other site = graph.admitsType other site := by
    unfold admitsType
    rw [moduleOf, (frame.identityAt other).visibility, (frame.identityAt other).moduleName]
  rw [Graph.typeVisibilityError?, Graph.typeVisibilityError?, admits, moduleOf]

/-- What has been linked so far does not lead back to the type itself. -/
theorem reaches_self (frame : graph.Frame farm (· = type) bound left)
    (hierarchical : graph.Hierarchical)
    (later : left.Hierarchical) {other : TypeId} (present : other < graph.types.size) :
    left.reaches other type = graph.reaches other type := by
  have same : ∀ another, another ≠ type →
      left.supertypesOf another = graph.supertypesOf another := by
    intro another different
    rw [supertypesOf, frame.others another different, supertypesOf]
  rw [Bool.eq_iff_iff, hierarchical.reaches_iff present,
    later.reaches_iff (frame.size.symm ▸ present)]
  exact ⟨reaches_origin_of_relinked same,
    reaches_origin_of_relinked fun another different => (same another different).symm⟩

end Graph.Frame

theorem nameFailure?_of_frame (frame : graph.Frame resolver.farm (· = type) bound left)
    (self : TypeId)
    (name : String) :
    resolver.nameFailure? left self name = resolver.nameFailure? graph self name := by
  unfold Resolver.nameFailure?
  split
  · rfl
  · rw [frame.typeVisibilityError?]

theorem kindFailure?_of_frame (frame : graph.Frame resolver.farm (· = type) bound left)
    (self : TypeId)
    (isClass : Bool) (name : String) :
    resolver.kindFailure? left self isClass name
      = resolver.kindFailure? graph self isClass name := by
  unfold Resolver.kindFailure?
  rw [nameFailure?_of_frame frame, (frame.identityAt _).isClass]

/-! ## Supertypes -/

/-- The declared parent of a class; the root class if none is declared. -/
def declaredParent (resolver : Resolver) (self : TypeId) (declaration : TypeDeclaration) :
    Build TypeId := do
  let root ← resolver.farm.root
  if declaration.parent = "" then return root
  else resolver.classType self declaration.parent

/-- Links a declared type to its supertypes. -/
def linkSupertypes (resolver : Resolver) (self : TypeId) (declaration : TypeDeclaration) :
    Build (List TypeId) :=
  if declaration.isInterface then linkInterfaces resolver self declaration.extended
  else do
    let parent ← declaredParent resolver self declaration
    setParent self (some parent)
    let interfaces ← linkInterfaces resolver self declaration.implements
    return parent :: interfaces

/-- Attaches extension classes and annotations to a declared type. -/
def attachParts (resolver : Resolver) (self : TypeId) (declaration : TypeDeclaration) :
    Build Unit := do
  for name in declaration.extensions do
    let extension ← resolver.classType self name
    addExtensionClass self (some extension)
  for annotation in declaration.annotations do
    annotate self (← declaredAnnotation? resolver self annotation)

theorem linkType_eq (resolver : Resolver) (entry : PendingType) :
    linkType resolver entry = do
      let supertypes ← linkSupertypes resolver entry.type entry.declaration
      attachParts resolver entry.type entry.declaration
      return supertypes := by
  unfold linkType linkSupertypes attachParts declaredParent
  by_cases isInterface : entry.declaration.isInterface = true
  · simp only [isInterface, if_true, bind_assoc, pure_bind]
  · by_cases rooted : entry.declaration.parent = ""
    · simp only [isInterface, rooted, if_true, bind_assoc, pure_bind, Bool.false_eq_true, if_false]
    · simp only [isInterface, rooted, bind_assoc, pure_bind, Bool.false_eq_true, if_false]

/-- The interfaces of a type after further ones, each of which is listed once. -/
def listedOnce (interfaces added : List TypeId) : List TypeId :=
  added.foldl (fun listed interface =>
    if interface ∈ listed then listed else listed ++ [interface]) interfaces

namespace Resolver

/-- The reason why a name cannot stand for an interface of a type. -/
def interfaceFailure? (resolver : Resolver) (graph : Graph) (self : TypeId) (name : String) :
    Option Failure :=
  (resolver.kindFailure? graph self false name).or
    ((graph.interfaceError? self (resolver.denoted name)).map .rejected)

/-- The parent that a declaration asks for; the root class if it asks for none. -/
def declaredParent (resolver : Resolver) (declaration : TypeDeclaration) : TypeId :=
  if declaration.parent = "" then resolver.builtin "Object" else resolver.denoted declaration.parent

/-- The reason why a class cannot have the parent that it declares. -/
def parentFailure? (resolver : Resolver) (graph : Graph) (self : TypeId)
    (declaration : TypeDeclaration) : Option Failure :=
  ((resolver.missingFailure? "Object").or
    (if declaration.parent = "" then none
    else resolver.kindFailure? graph self true declaration.parent)).or
      ((graph.parentError? self (resolver.declaredParent declaration)).map .rejected)

/-- The names of the interfaces of a declared type. -/
def interfaceNames (declaration : TypeDeclaration) : List String :=
  if declaration.isInterface then declaration.extended else declaration.implements

/-- The reason why a type cannot have the supertypes that it declares. -/
def supertypesFailure? (resolver : Resolver) (graph : Graph) (self : TypeId)
    (declaration : TypeDeclaration) : Option Failure :=
  (if declaration.isInterface then none
  else resolver.parentFailure? graph self declaration).or
    ((interfaceNames declaration).findSome? (resolver.interfaceFailure? graph self))

/-- The supertypes that a declaration asks for. -/
def declaredSupertypes (resolver : Resolver) (declaration : TypeDeclaration) : List TypeId :=
  (if declaration.isInterface then [] else [resolver.declaredParent declaration])
    ++ (interfaceNames declaration).map resolver.denoted

/-- A type with the supertypes that its declaration asks for. -/
def withSupertypes (resolver : Resolver) (declaration : TypeDeclaration) (old : NominalType) :
    NominalType :=
  let linked := if declaration.isInterface then old
    else old.mapClassPart ({ · with parent := some (resolver.declaredParent declaration) })
  { linked with
    interfaces := listedOnce linked.interfaces ((interfaceNames declaration).map resolver.denoted) }

end Resolver

theorem withInterface_eq (graph : Graph) (type interface : TypeId) :
    graph.withInterface type interface
      = graph.modifyType type fun old =>
          { old with interfaces := listedOnce old.interfaces [interface] } := by
  unfold withInterface
  split
  next listed =>
    rw [modifyType_eq_self]
    intro _
    simp only [listedOnce, List.foldl_cons, List.foldl_nil, if_pos listed]
  next unlisted =>
    apply modifyType_congr
    simp only [listedOnce, List.foldl_cons, List.foldl_nil, if_neg unlisted]

theorem addInterface_performs (piece : Workpiece resolver type bound graph)
    (isOpen : graph.isSealed type = false) {interface : TypeId}
    (present : interface < graph.types.size)
    (isInterface : (graph.typeAt interface).isClass = false) :
    (addInterface type (some interface)).Performs resolver type bound graph
      ((graph.interfaceError? type interface).map .rejected) ()
      (graph.modifyType type fun old =>
        { old with interfaces := listedOnce old.interfaces [interface] }) := by
  have here : ∀ id ∈ some interface, id < graph.types.size := by
    rintro _ ⟨⟩
    exact present
  have interfaces : ∀ id ∈ some interface, (graph.typeAt id).isClass = false := by
    rintro _ ⟨⟩
    exact isInterface
  have sameArena : (graph.typeAt interface).arena = (graph.typeAt type).arena := by
    rw [piece.hosted.together present, piece.hosted.together piece.present]
  have ends := addInterface_ends isOpen sameArena
  rw [withInterface_eq] at ends
  exact .of_ends ends (addInterface_step piece.sound piece.present here interfaces) trivial
    (.modifyType rfl ⟨rfl, rfl, rfl, rfl, rfl, rfl, rfl⟩ rfl) rfl (isSealed_modifyType rfl _)
    rfl

theorem interfaceFailure?_of_frame (piece : Workpiece resolver type bound graph)
    (later : Workpiece resolver type bound left)
    (frame : graph.Frame resolver.farm (· = type) bound left) (name : String) :
    resolver.interfaceFailure? left type name = resolver.interfaceFailure? graph type name := by
  unfold Resolver.interfaceFailure?
  rw [kindFailure?_of_frame frame]
  cases found : resolver.kindFailure? graph type false name with
  | some failure => rfl
  | none =>
      have present := piece.hosted.denoted (denotes_of_kindFailure? found).1
      rw [interfaceError?, interfaceError?, frame.typeVisibilityError?,
        frame.reaches_self piece.sound.wellFormed.hierarchical
          later.sound.wellFormed.hierarchical present]

/-- The interfaces of a type are linked in order. -/
theorem linkInterfaces_performs (piece : Workpiece resolver type bound graph)
    (isOpen : graph.isSealed type = false) (names : List String) :
    (linkInterfaces resolver type names).Performs resolver type bound graph
      (names.findSome? (resolver.interfaceFailure? graph type)) (names.map resolver.denoted)
      (graph.modifyType type fun old =>
        { old with interfaces := listedOnce old.interfaces (names.map resolver.denoted) }) := by
  induction names generalizing graph with
  | nil =>
      refine (Build.Performs.pure _).of_bare fun _ => ?_
      rw [modifyType_eq_self fun _ => rfl]
  | cons name rest ih =>
      rw [linkInterfaces, findSome?_cons_eq_or, Resolver.interfaceFailure?, Option.or_assoc]
      refine .still_bind (exec_kindType resolver graph type false name) ?_
      intro accepted
      obtain ⟨denotes, isInterface⟩ := denotes_of_kindFailure? accepted
      have added := addInterface_performs piece isOpen (piece.hosted.denoted denotes) isInterface
      refine .bind piece added ?_
      intro _ left leftPiece alters same
      have rests := ih leftPiece (alters.state.trans isOpen)
      rw [show resolver.interfaceFailure? left type = resolver.interfaceFailure? graph type from
        funext (interfaceFailure?_of_frame piece leftPiece alters.frame)] at rests
      rw [← Option.or_none (o := rest.findSome? _)]
      refine .bind leftPiece rests ?_
      intro _ last _ _ lastSame
      refine (Build.Performs.pure _).of_bare fun _ => ?_
      rw [lastSame, bare_modifyType same, modifyType_modifyType]
      rfl

theorem exec_declaredParent (resolver : Resolver) (graph : Graph) (self : TypeId)
    (declaration : TypeDeclaration) :
    (declaredParent resolver self declaration).exec graph
      = (((resolver.missingFailure? "Object").or
          (if declaration.parent = "" then none
          else resolver.kindFailure? graph self true declaration.parent)).elim
            (.ok (resolver.declaredParent declaration)) .error, graph) := by
  have root := exec_require resolver graph "Object"
  unfold declaredParent Farm.root Resolver.declaredParent
  cases found : resolver.missingFailure? "Object" with
  | some failure =>
      rw [found] at root
      exact Build.exec_bind_of_error root
  | none =>
      rw [found] at root
      rw [Build.exec_bind_of_ok root]
      split
      · rfl
      · exact exec_kindType resolver graph self true declaration.parent

theorem isClass_declaredParent (piece : Workpiece resolver type bound graph)
    {declaration : TypeDeclaration}
    (accepted : (resolver.missingFailure? "Object").or
      (if declaration.parent = "" then none
      else resolver.kindFailure? graph type true declaration.parent) = none) :
    (graph.typeAt (resolver.declaredParent declaration)).isClass = true := by
  rw [Option.or_eq_none_iff] at accepted
  unfold Resolver.declaredParent
  split
  next => exact piece.hosted.builtin (lookup?_of_missingFailure? accepted.1)
  next named =>
    rw [if_neg named] at accepted
    exact (denotes_of_kindFailure? accepted.2).2

theorem setParent_performs (piece : Workpiece resolver type bound graph)
    (isOpen : graph.isSealed type = false) (isClass : (graph.typeAt type).isClass = true)
    (memberless : (graph.typeAt type).declaredForCheck = []) {parent : TypeId}
    (parentIsClass : (graph.typeAt parent).isClass = true) :
    (setParent type (some parent)).Performs resolver type bound graph
      ((graph.parentError? type parent).map .rejected) ()
      (graph.modifyType type (·.mapClassPart ({ · with parent := some parent }))) := by
  have classes : ∀ id ∈ some parent, (graph.typeAt id).isClass = true := by
    rintro _ ⟨⟩
    exact parentIsClass
  have sameArena : (graph.typeAt parent).arena = (graph.typeAt type).arena := by
    rw [piece.hosted.together (lt_size_of_isClass parentIsClass),
      piece.hosted.together piece.present]
  refine .of_ends (setParent_ends isOpen sameArena memberless)
    (setParent_step piece.sound isClass classes) rfl
    (.modifyType rfl (NominalType.mapClassPart_identity _ _)
      (NominalType.mapClassPart_implementation _ _)) rfl (isSealed_modifyType ?_ _) rfl
  rw [NominalType.isSealed, NominalType.mapClassPart_state, NominalType.isSealed]

theorem linkSupertypes_performs (piece : Workpiece resolver type bound graph)
    (isOpen : graph.isSealed type = false) {declaration : TypeDeclaration}
    (kind : (graph.typeAt type).isClass = !declaration.isInterface)
    (memberless : (graph.typeAt type).declaredForCheck = []) :
    (linkSupertypes resolver type declaration).Performs resolver type bound graph
      (resolver.supertypesFailure? graph type declaration) (resolver.declaredSupertypes declaration)
      (graph.modifyType type (resolver.withSupertypes declaration)) := by
  unfold linkSupertypes Resolver.supertypesFailure? Resolver.declaredSupertypes
    Resolver.withSupertypes Resolver.interfaceNames
  by_cases isInterface : declaration.isInterface = true
  · simp only [isInterface, if_true, List.nil_append, Option.none_or]
    exact linkInterfaces_performs piece isOpen declaration.extended
  · simp only [isInterface, if_false, Bool.false_eq_true]
    have isClass : (graph.typeAt type).isClass = true := by simpa [isInterface] using kind
    rw [Resolver.parentFailure?, Option.or_assoc]
    refine .still_bind (exec_declaredParent resolver graph type declaration) ?_
    intro accepted
    refine .bind piece (setParent_performs piece isOpen isClass memberless
      (isClass_declaredParent piece accepted)) ?_
    intro _ left leftPiece alters same
    have interfaces := linkInterfaces_performs leftPiece (alters.state.trans isOpen)
      declaration.implements
    rw [show resolver.interfaceFailure? left type = resolver.interfaceFailure? graph type from
      funext (interfaceFailure?_of_frame piece leftPiece alters.frame)] at interfaces
    rw [← Option.or_none (o := declaration.implements.findSome? _)]
    refine .bind leftPiece interfaces ?_
    intro _ last _ _ lastSame
    refine (Build.Performs.pure _).of_bare fun _ => ?_
    rw [lastSame, bare_modifyType same, modifyType_modifyType]

/-! ## Extension classes and annotations -/

namespace Resolver

/-- Whether a class derives from the built-in base of all attributes. -/
def isAttribute (resolver : Resolver) (graph : Graph) (type : TypeId) : Bool :=
  type != resolver.builtin "Attribute" && graph.reaches type (resolver.builtin "Attribute")

/-- The reason why a declared annotation cannot be attached to a type. -/
def annotationFailure? (resolver : Resolver) (graph : Graph) (self : TypeId)
    (declaration : AnnotationDeclaration) : Option Failure :=
  (resolver.kindFailure? graph self true declaration.type).or
    ((resolver.missingFailure? "Attribute").or
      (if resolver.isAttribute graph (resolver.denoted declaration.type) then none
      else some (.rejected (.invalidAnnotationType declaration.type))))

/-- The annotation that a declaration describes. -/
def declaredUse (resolver : Resolver) (declaration : AnnotationDeclaration) : AnnotationUse :=
  { type := some (resolver.denoted declaration.type)
    arguments := declaration.arguments.mergeSort fun first second => decide (first.1 ≤ second.1) }

/-- The reason why a type cannot have the extension classes and annotations that it declares. -/
def partsFailure? (resolver : Resolver) (graph : Graph) (self : TypeId)
    (declaration : TypeDeclaration) : Option Failure :=
  (declaration.extensions.findSome? (resolver.kindFailure? graph self true)).or
    (declaration.annotations.findSome? (resolver.annotationFailure? graph self))

/-- A type with the extension classes and annotations that its declaration asks for. -/
def withParts (resolver : Resolver) (declaration : TypeDeclaration) (old : NominalType) :
    NominalType :=
  { old with
    extensionClasses := old.extensionClasses ++ declaration.extensions.map resolver.denoted
    annotations := old.annotations ++ declaration.annotations.map resolver.declaredUse }

/-- The reason why a type cannot be linked as it is declared.  Whether an annotation names an
attribute class is decided after the type has its supertypes. -/
def linkFailure? (resolver : Resolver) (graph : Graph) (self : TypeId)
    (declaration : TypeDeclaration) : Option Failure :=
  (resolver.supertypesFailure? graph self declaration).or
    (resolver.partsFailure? (graph.modifyType self (resolver.withSupertypes declaration)) self
      declaration)

/-- A type with everything that it is linked to. -/
def linked (resolver : Resolver) (declaration : TypeDeclaration) (old : NominalType) :
    NominalType :=
  resolver.withParts declaration (resolver.withSupertypes declaration old)

end Resolver

theorem derivesStrictly_answers (type other : TypeId) :
    (nominalDerivesFrom type (some (.nominal other)) false).Answers fun graph =>
      type != other && (graph.ancestors type false).contains other := by
  unfold nominalDerivesFrom
  dsimp only
  rw [TypeRef.same]
  split
  next same =>
    intro graph sound
    refine ⟨?_, .refl sound⟩
    rw [eq_of_beq same]
    simp only [bne_self_eq_false, Bool.false_and]
    rfl
  next different =>
    apply (Query.Answers.ancestors type).bind
    intro graph sound left read
    exact ⟨by simp_all [View.value], .refl read.sound⟩

theorem derivesStrictly_exec (piece : Workpiece resolver type bound graph) {other : TypeId}
    (present : other < graph.types.size) :
    Build.Performs resolver type bound (liftM (nominalDerivesFrom other
        (some (.nominal (resolver.builtin "Attribute"))) false) : Build Bool) graph none
      (resolver.isAttribute graph other) graph := by
  obtain ⟨answered, read⟩ := derivesStrictly_answers other (resolver.builtin "Attribute") graph
    piece.sound
  have same : (other != resolver.builtin "Attribute" &&
      (graph.ancestors other false).contains (resolver.builtin "Attribute"))
      = resolver.isAttribute graph other := by
    unfold Resolver.isAttribute
    by_cases different : other = resolver.builtin "Attribute"
    · simp [different]
    · congr 1
      rw [Bool.eq_iff_iff, List.contains_iff_mem, mem_ancestors_iff different,
        piece.sound.wellFormed.hierarchical.reaches_iff present]
  refine ⟨.of_reads read, ?_, fun _ => read.bare, arenas_eq_of_bare read.bare⟩
  rw [Build.exec_lift]
  exact congrArg Except.ok (answered.trans same)

theorem declaredAnnotation_performs (piece : Workpiece resolver type bound graph)
    (declaration : AnnotationDeclaration) :
    (declaredAnnotation? resolver type declaration).Performs resolver type bound graph
      (resolver.annotationFailure? graph type declaration) (resolver.declaredUse declaration)
      graph := by
  unfold declaredAnnotation? Resolver.annotationFailure?
  refine .still_bind (exec_kindType resolver graph type true declaration.type) ?_
  intro accepted
  refine .still_bind (exec_require resolver graph "Attribute") ?_
  intro _
  have present := piece.hosted.denoted (denotes_of_kindFailure? accepted).1
  rw [← Option.none_or (o := ite _ none _)]
  refine .bind piece (derivesStrictly_exec piece present) ?_
  intro _ left _ _ same
  split
  · exact (Build.Performs.pure _).of_bare fun _ => same
  · exact .throw _ _

theorem annotationFailure?_congr (piece : Workpiece resolver type bound graph)
    (later : Workpiece resolver type bound left)
    (frame : graph.Frame resolver.farm (· = type) bound left)
    (links : left.supertypesOf = graph.supertypesOf) (declaration : AnnotationDeclaration) :
    resolver.annotationFailure? left type declaration
      = resolver.annotationFailure? graph type declaration := by
  unfold Resolver.annotationFailure?
  rw [kindFailure?_of_frame frame]
  cases found : resolver.kindFailure? graph type true declaration.type with
  | some failure => rfl
  | none =>
      have present := piece.hosted.denoted (denotes_of_kindFailure? found).1
      have reaches : left.Reaches = graph.Reaches := by
        unfold Reaches Extends
        rw [links]
      have same : left.reaches (resolver.denoted declaration.type) (resolver.builtin "Attribute")
          = graph.reaches (resolver.denoted declaration.type) (resolver.builtin "Attribute") := by
        rw [Bool.eq_iff_iff, piece.sound.wellFormed.hierarchical.reaches_iff present,
          later.sound.wellFormed.hierarchical.reaches_iff (frame.size.symm ▸ present), reaches]
      rw [Resolver.isAttribute, same, ← Resolver.isAttribute]

theorem addExtensionClass_performs (piece : Workpiece resolver type bound graph)
    (isOpen : graph.isSealed type = false) {extension : TypeId}
    (present : extension < graph.types.size) :
    (addExtensionClass type (some extension)).Performs resolver type bound graph none ()
      (graph.modifyType type fun old =>
        { old with extensionClasses := old.extensionClasses ++ [extension] }) := by
  have sameArena : (graph.typeAt extension).arena = (graph.typeAt type).arena := by
    rw [piece.hosted.together present, piece.hosted.together piece.present]
  exact .of_ends (addExtensionClass_ends isOpen sameArena)
    (addExtensionClass_step piece.sound piece.present (some extension)) trivial
    (.modifyType rfl ⟨rfl, rfl, rfl, rfl, rfl, rfl, rfl⟩ rfl) rfl (isSealed_modifyType rfl _)
    rfl

theorem annotate_performs (piece : Workpiece resolver type bound graph)
    (isOpen : graph.isSealed type = false) {use : AnnotationUse}
    (within : ∀ id ∈ use.type, id < graph.types.size) :
    (annotate type use).Performs resolver type bound graph none ()
      (graph.modifyType type fun old => { old with annotations := old.annotations ++ [use] }) := by
  have described : graph.Described (graph.typeAt type)
      { graph.typeAt type with annotations := (graph.typeAt type).annotations ++ [use] } := by
    refine ⟨⟨rfl, rfl, rfl, rfl, rfl, rfl, rfl⟩, rfl, fun _ => rfl, rfl, .inl rfl, rfl, ?_⟩
    intro attached listed
    rcases List.mem_append.mp listed with old | new
    · exact .inl old
    · rw [List.mem_singleton.mp new]
      exact .inr within
  exact .of_ends (changeType_ends isOpen .annotate _)
    (changeType_step piece.sound piece.present .annotate (.describe _ described)) trivial
    (.modifyType rfl described.identity described.implementation) rfl
    (isSealed_modifyType rfl _) rfl

theorem foldl_extensionClasses (resolver : Resolver) (old : NominalType) (names : List String) :
    names.foldl (fun old name =>
        { old with extensionClasses := old.extensionClasses ++ [resolver.denoted name] }) old
      = { old with extensionClasses := old.extensionClasses ++ names.map resolver.denoted } := by
  induction names generalizing old with
  | nil => simp
  | cons name rest ih =>
      rw [List.foldl_cons, ih]
      simp

theorem foldl_annotations (resolver : Resolver) (old : NominalType)
    (declarations : List AnnotationDeclaration) :
    declarations.foldl (fun old declaration =>
        { old with annotations := old.annotations ++ [resolver.declaredUse declaration] }) old
      = { old with
          annotations := old.annotations ++ declarations.map resolver.declaredUse } := by
  induction declarations generalizing old with
  | nil => simp
  | cons declaration rest ih =>
      rw [List.foldl_cons, ih]
      simp

theorem supertypesOf_modifyType {change : NominalType → NominalType}
    (kept : (change (graph.typeAt type)).supertypes = (graph.typeAt type).supertypes) :
    (graph.modifyType type change).supertypesOf = graph.supertypesOf := by
  funext other
  exact typeAt_modifyType_kept NominalType.supertypes kept other

theorem supertypesOf_eq_of_bare (same : left.bare = graph.bare) :
    left.supertypesOf = graph.supertypesOf := by
  funext other
  rw [supertypesOf, typeAt_eq_of_bare same, supertypesOf]

/-- Work that leaves a type open and does not link it to further supertypes. -/
structure Unlinked (resolver : Resolver) (type : TypeId) (bound : Nat) (graph left : Graph) :
    Prop where
  alters : graph.Alters resolver.farm type bound left
  isOpen : left.isSealed type = false
  links : left.supertypesOf = graph.supertypesOf

theorem Unlinked.step {last : Graph} (unlinked : Unlinked resolver type bound graph left)
    {change : NominalType → NominalType} (kept : ∀ old, (change old).supertypes = old.supertypes)
    (alters : left.Alters resolver.farm type bound last)
    (same : last.bare = (left.modifyType type change).bare) :
    Unlinked resolver type bound graph last := by
  refine ⟨unlinked.alters.trans alters, alters.state.trans unlinked.isOpen, ?_⟩
  rw [supertypesOf_eq_of_bare same, supertypesOf_modifyType (kept _), unlinked.links]

theorem attachExtensions_performs (piece : Workpiece resolver type bound graph)
    (isOpen : graph.isSealed type = false) (names : List String) :
    Build.Performs resolver type bound
      (forIn names PUnit.unit fun name _ => do
        let extension ← resolver.classType type name
        addExtensionClass type (some extension)
        return .yield PUnit.unit)
      graph (names.findSome? (resolver.kindFailure? graph type true)) PUnit.unit
      (graph.modifyType type fun old =>
        { old with extensionClasses := old.extensionClasses ++ names.map resolver.denoted }) := by
  refine (Build.Performs.forEach (resolver.kindFailure? graph type true)
    (fun name old => { old with
      extensionClasses := old.extensionClasses ++ [resolver.denoted name] })
    (Unlinked resolver type bound graph) piece ⟨.refl graph, isOpen, rfl⟩ ?_ ?_).of_bare ?_
  · intro name left leftPiece unlinked
    rw [← kindFailure?_of_frame unlinked.alters.frame,
      ← Option.or_none (o := resolver.kindFailure? _ _ _ _)]
    refine .still_bind (exec_kindType resolver left type true name) ?_
    intro accepted
    have present := leftPiece.hosted.denoted (denotes_of_kindFailure? accepted).1
    rw [← Option.none_or (o := none)]
    refine .bind leftPiece (addExtensionClass_performs leftPiece unlinked.isOpen present) ?_
    intro _ last _ _ same
    exact (Build.Performs.pure _).of_bare fun _ => same
  · intro name left last unlinked alters same
    refine unlinked.step ?_ alters same
    intro old
    rfl
  · intro _
    exact congrArg (fun change => (graph.modifyType type change).bare)
      (funext fun old => foldl_extensionClasses resolver old names)

theorem attachAnnotations_performs (piece : Workpiece resolver type bound graph)
    (isOpen : graph.isSealed type = false) (annotations : List AnnotationDeclaration) :
    Build.Performs resolver type bound
      (forIn annotations PUnit.unit fun annotation _ => do
        annotate type (← declaredAnnotation? resolver type annotation)
        return .yield PUnit.unit)
      graph (annotations.findSome? (resolver.annotationFailure? graph type)) PUnit.unit
      (graph.modifyType type fun old =>
        { old with annotations := old.annotations ++ annotations.map resolver.declaredUse }) := by
  refine (Build.Performs.forEach (resolver.annotationFailure? graph type)
    (fun annotation old => { old with
      annotations := old.annotations ++ [resolver.declaredUse annotation] })
    (Unlinked resolver type bound graph) piece ⟨.refl graph, isOpen, rfl⟩ ?_ ?_).of_bare ?_
  · intro annotation left leftPiece unlinked
    rw [← annotationFailure?_congr piece leftPiece unlinked.alters.frame unlinked.links,
      ← Option.or_none (o := resolver.annotationFailure? _ _ _)]
    refine .bind leftPiece (declaredAnnotation_performs leftPiece annotation) ?_
    intro accepted next nextPiece nextAlters nextSame
    have within : ∀ id ∈ (resolver.declaredUse annotation).type, id < next.types.size := by
      rintro _ ⟨⟩
      rw [Resolver.annotationFailure?, Option.or_eq_none_iff] at accepted
      exact nextPiece.hosted.denoted (denotes_of_kindFailure? accepted.1).1
    rw [← Option.none_or (o := none)]
    refine .bind nextPiece
      (annotate_performs nextPiece (nextAlters.state.trans unlinked.isOpen) within) ?_
    intro _ last _ _ same
    exact (Build.Performs.pure _).of_bare fun _ => same.trans (bare_modifyType nextSame)
  · intro annotation left last unlinked alters same
    refine unlinked.step ?_ alters same
    intro old
    rfl
  · intro _
    exact congrArg (fun change => (graph.modifyType type change).bare)
      (funext fun old => foldl_annotations resolver old annotations)

/-- A type that is not sealed gets its extension classes and annotations. -/
theorem attachParts_performs (piece : Workpiece resolver type bound graph)
    (isOpen : graph.isSealed type = false) (declaration : TypeDeclaration) :
    (attachParts resolver type declaration).Performs resolver type bound graph
      (resolver.partsFailure? graph type declaration) ()
      (graph.modifyType type (resolver.withParts declaration)) := by
  unfold attachParts Resolver.partsFailure?
  refine .bind piece (attachExtensions_performs piece isOpen declaration.extensions) ?_
  intro _ left leftPiece alters same
  have attached := attachAnnotations_performs leftPiece (alters.state.trans isOpen)
    declaration.annotations
  have links : left.supertypesOf = graph.supertypesOf := by
    rw [supertypesOf_eq_of_bare same, supertypesOf_modifyType rfl]
  rw [show resolver.annotationFailure? left type = resolver.annotationFailure? graph type from
    funext (annotationFailure?_congr piece leftPiece alters.frame links)] at attached
  rw [← Option.or_none (o := declaration.annotations.findSome? _)]
  refine .bind leftPiece attached ?_
  intro _ last _ _ lastSame
  refine (Build.Performs.pure _).of_bare fun _ => ?_
  rw [lastSame, bare_modifyType same, modifyType_modifyType]
  rfl

theorem reaches_bare (graph : Graph) (source target : TypeId) :
    graph.bare.reaches source target = graph.reaches source target := by
  have sameSearch : ∀ steps visited pending,
      graph.bare.reachesFrom target steps visited pending
        = graph.reachesFrom target steps visited pending := by
    intro steps
    induction steps with
    | zero => exact fun _ _ => rfl
    | succ steps ih =>
        intro visited pending
        cases pending with
        | nil => rfl
        | cons current rest =>
            rw [reachesFrom, reachesFrom, ih, ih]
            rfl
  exact sameSearch _ _ _

theorem partsFailure?_bare (resolver : Resolver) (graph : Graph) (self : TypeId)
    (declaration : TypeDeclaration) :
    resolver.partsFailure? graph.bare self declaration
      = resolver.partsFailure? graph self declaration := by
  have annotations : resolver.annotationFailure? graph.bare self
      = resolver.annotationFailure? graph self := by
    funext annotation
    unfold Resolver.annotationFailure? Resolver.isAttribute
    rw [reaches_bare]
    rfl
  rw [Resolver.partsFailure?, annotations]
  rfl

theorem linkFailure?_bare (resolver : Resolver) (graph : Graph) (self : TypeId)
    (declaration : TypeDeclaration) :
    resolver.linkFailure? graph.bare self declaration
      = resolver.linkFailure? graph self declaration := by
  have interfaces : resolver.interfaceFailure? graph.bare self
      = resolver.interfaceFailure? graph self := by
    funext name
    unfold Resolver.interfaceFailure? interfaceError?
    rw [reaches_bare]
    rfl
  have parent : resolver.parentFailure? graph.bare self declaration
      = resolver.parentFailure? graph self declaration := by
    unfold Resolver.parentFailure? parentError?
    rw [reaches_bare]
    rfl
  have parts := partsFailure?_bare resolver
    (graph.modifyType self (resolver.withSupertypes declaration)) self declaration
  rw [Resolver.linkFailure?, Resolver.supertypesFailure?, interfaces, parent,
    Resolver.linkFailure?, Resolver.supertypesFailure?, ← parts]
  rfl

/-- A type without members is linked as it is declared, unless something speaks against it. -/
theorem linkType_performs {entry : PendingType} (piece : Workpiece resolver entry.type bound graph)
    (isOpen : graph.isSealed entry.type = false)
    (kind : (graph.typeAt entry.type).isClass = !entry.declaration.isInterface)
    (memberless : (graph.typeAt entry.type).declaredForCheck = []) :
    (linkType resolver entry).Performs resolver entry.type bound graph
      (resolver.linkFailure? graph entry.type entry.declaration)
      (resolver.declaredSupertypes entry.declaration)
      (graph.modifyType entry.type (resolver.linked entry.declaration)) := by
  rw [linkType_eq]
  unfold Resolver.linkFailure?
  refine .bind piece (linkSupertypes_performs piece isOpen kind memberless) ?_
  intro _ left leftPiece alters same
  have attached := attachParts_performs leftPiece (alters.state.trans isOpen) entry.declaration
  rw [eq_of_bare_eq (resolver.partsFailure? · entry.type entry.declaration) same
    (partsFailure?_bare resolver · entry.type entry.declaration)] at attached
  rw [← Option.or_none (o := resolver.partsFailure? _ _ _)]
  refine .bind leftPiece attached ?_
  intro _ last _ _ lastSame
  refine (Build.Performs.pure _).of_bare fun _ => ?_
  rw [lastSame, bare_modifyType same, modifyType_modifyType]
  rfl

end Work

end Nominal
