import Nominal.Proofs.MirroredTypes
import Nominal.Proofs.ModuleLoads

/-!
# Linking types in two graphs

A declared type is linked to what its names denote.  In graphs that correspond to each other the
same links are refused for corresponding reasons, and the linked types correspond to each other.
-/

namespace Nominal

open Nominal.Graph

theorem rel_or_of_none {Value Shown : Type} {shows : Value → Shown → Prop}
    {first second : Option Value} {firstShown secondShown : Option Shown}
    (early : Option.Rel shows first firstShown)
    (late : first = none → firstShown = none → Option.Rel shows second secondShown) :
    Option.Rel shows (first.or second) (firstShown.or secondShown) := by
  cases early with
  | none => exact late rfl rfl
  | some found => exact .some found

theorem listedOnce_map {rename : TypeId → TypeId} {listed added : List TypeId}
    (injective : ∀ first ∈ listed ++ added, ∀ second ∈ listed ++ added,
      rename first = rename second → first = second) :
    listedOnce (listed.map rename) (added.map rename) = (listedOnce listed added).map rename := by
  induction added generalizing listed with
  | nil => rfl
  | cons next rest ih =>
      have known : rename next ∈ listed.map rename ↔ next ∈ listed := by
        constructor
        · intro mapped
          obtain ⟨first, inside, same⟩ := List.mem_map.mp mapped
          rw [← injective first (by simp [inside]) next (by simp) same]
          exact inside
        · exact List.mem_map_of_mem
      have step : listedOnce listed (next :: rest)
          = listedOnce (if next ∈ listed then listed else listed ++ [next]) rest := rfl
      have mappedStep : listedOnce (listed.map rename) ((next :: rest).map rename)
          = listedOnce (if rename next ∈ listed.map rename then listed.map rename
              else listed.map rename ++ [rename next]) (rest.map rename) := rfl
      rw [step, mappedStep]
      simp only [known]
      split
      · apply ih
        intro first inFirst second inSecond
        have later : ∀ type ∈ listed ++ rest, type ∈ listed ++ next :: rest := fun type inside =>
          List.mem_append.mpr ((List.mem_append.mp inside).imp_right (List.mem_cons_of_mem next))
        exact injective first (later first inFirst) second (later second inSecond)
      · rw [← List.map_singleton, ← List.map_append]
        apply ih
        rwa [List.append_assoc, List.singleton_append]

/-! ## What a declaration links to -/

namespace Resolver

/-- The supertypes that a declaration names are there. -/
structure FindsSupertypes (resolver : Resolver) (declaration : TypeDeclaration) : Prop where
  root : declaration.isInterface = false → declaration.parent = "" →
    resolver.farm.lookup? "Object" = some (resolver.builtin "Object")
  parent : declaration.isInterface = false → declaration.parent ≠ "" →
    resolver.Denotes declaration.parent (resolver.denoted declaration.parent)
  interfaces : ∀ name ∈ interfaceNames declaration, resolver.Denotes name (resolver.denoted name)

/-- The extension classes and annotations that a declaration names are there. -/
structure FindsParts (resolver : Resolver) (declaration : TypeDeclaration) : Prop where
  extensions : ∀ name ∈ declaration.extensions, resolver.Denotes name (resolver.denoted name)
  annotations : ∀ mark ∈ declaration.annotations,
    resolver.Denotes mark.type (resolver.denoted mark.type)

variable {resolver : Resolver} {graph : Graph} {self : TypeId} {declaration : TypeDeclaration}

theorem findsSupertypes (accepted : resolver.supertypesFailure? graph self declaration = none) :
    resolver.FindsSupertypes declaration := by
  rw [supertypesFailure?, Option.or_eq_none_iff] at accepted
  obtain ⟨parentAccepted, interfacesAccepted⟩ := accepted
  refine ⟨?_, ?_, ?_⟩
  · intro isClass
    simp only [isClass, Bool.false_eq_true, if_false, parentFailure?,
      Option.or_eq_none_iff] at parentAccepted
    exact fun _ => lookup?_of_missingFailure? parentAccepted.1.1
  · intro isClass declared
    simp only [isClass, Bool.false_eq_true, if_false, parentFailure?, Option.or_eq_none_iff,
      declared] at parentAccepted
    exact (denotes_of_kindFailure? parentAccepted.1.2).1
  · intro name listed
    have here := List.findSome?_eq_none_iff.mp interfacesAccepted name listed
    rw [interfaceFailure?, Option.or_eq_none_iff] at here
    exact (denotes_of_kindFailure? here.1).1

theorem findsParts (accepted : resolver.partsFailure? graph self declaration = none) :
    resolver.FindsParts declaration := by
  rw [partsFailure?, Option.or_eq_none_iff] at accepted
  obtain ⟨extensionsAccepted, annotationsAccepted⟩ := accepted
  refine ⟨?_, ?_⟩
  · intro name listed
    exact (denotes_of_kindFailure?
      (List.findSome?_eq_none_iff.mp extensionsAccepted name listed)).1
  · intro mark listed
    have here := List.findSome?_eq_none_iff.mp annotationsAccepted mark listed
    rw [annotationFailure?, Option.or_eq_none_iff] at here
    exact (denotes_of_kindFailure? here.1).1

section WithSupertypes

variable (resolver) (declaration) (old : NominalType)

theorem withSupertypes_interfaces :
    (resolver.withSupertypes declaration old).interfaces
      = listedOnce old.interfaces ((interfaceNames declaration).map resolver.denoted) := by
  unfold withSupertypes
  split
  · rfl
  · exact congrArg (listedOnce · _) (old.mapClassPart_interfaces _)

theorem withSupertypes_state : (resolver.withSupertypes declaration old).state = old.state := by
  unfold withSupertypes
  split
  · rfl
  · exact old.mapClassPart_state _

theorem withSupertypes_declared (isStatic : Bool) :
    (resolver.withSupertypes declaration old).declared isStatic = old.declared isStatic := by
  unfold withSupertypes
  split
  · rfl
  · exact old.mapClassPart_declared _ isStatic

theorem withSupertypes_identity : old.SameIdentity (resolver.withSupertypes declaration old) := by
  unfold withSupertypes
  split
  · exact ⟨rfl, rfl, rfl, rfl, rfl, rfl, rfl⟩
  · obtain ⟨identifier, moduleName, visibility, properties, arena, index, isClass⟩ :=
      old.mapClassPart_identity
        ({ · with parent := some (resolver.declaredParent declaration) })
    exact ⟨identifier, moduleName, visibility, properties, arena, index, isClass⟩

theorem withSupertypes_body :
    (resolver.withSupertypes declaration old).extensionClasses = old.extensionClasses ∧
      (resolver.withSupertypes declaration old).annotations = old.annotations ∧
      (resolver.withSupertypes declaration old).docString = old.docString := by
  unfold withSupertypes
  split
  · exact ⟨rfl, rfl, rfl⟩
  · exact ⟨old.mapClassPart_extensionClasses _, old.mapClassPart_annotations _,
      old.mapClassPart_docString _⟩

variable {old}

theorem withSupertypes_classPart (kind : old.isClass = !declaration.isInterface) :
    (resolver.withSupertypes declaration old).classPart =
      if declaration.isInterface then old.classPart
      else { old.classPart with parent := some (resolver.declaredParent declaration) } := by
  unfold withSupertypes
  cases isInterface : declaration.isInterface with
  | true => rfl
  | false =>
      rw [isInterface] at kind
      exact NominalType.mapClassPart_classPart kind _

end WithSupertypes

theorem linked_identity (resolver : Resolver) (declaration : TypeDeclaration)
    (old : NominalType) : old.SameIdentity (resolver.linked declaration old) := by
  obtain ⟨identifier, moduleName, visibility, properties, arena, index, isClass⟩ :=
    resolver.withSupertypes_identity declaration old
  exact ⟨identifier, moduleName, visibility, properties, arena, index, isClass⟩

end Resolver

namespace Mirror

variable {mirror : Mirror} {farm : Farm} {population : TypeId → Prop} {resolver image : Resolver}
  {graph other : Graph}

/-! ## What stands above a type -/

section Paths

variable (shows : mirror.Shows farm population graph other)

include shows

theorem Shows.supertypesOf {type : TypeId} (inside : population type) :
    other.supertypesOf (mirror.rename type) = (graph.supertypesOf type).map mirror.rename := by
  unfold Graph.supertypesOf NominalType.supertypes
  rw [(shows.types inside).parent, (shows.types inside).interfaces, List.map_append]
  cases (graph.typeAt type).parent? <;> rfl

theorem Shows.reaches_rename {type ancestor : TypeId} (inside : population type)
    (path : graph.Reaches type ancestor) :
    population ancestor ∧ other.Reaches (mirror.rename type) (mirror.rename ancestor) := by
  induction path with
  | refl => exact ⟨inside, .refl⟩
  | tail _ link ih =>
      obtain ⟨above, path⟩ := ih
      refine ⟨shows.closed above link, path.tail ?_⟩
      rw [Extends, shows.supertypesOf above]
      exact List.mem_map_of_mem link

theorem Shows.exists_of_reaches {type ancestor : TypeId} (inside : population type)
    (path : other.Reaches (mirror.rename type) ancestor) :
    ∃ source, mirror.rename source = ancestor ∧ population source ∧ graph.Reaches type source := by
  induction path with
  | refl => exact ⟨type, rfl, inside, .refl⟩
  | tail _ link ih =>
      obtain ⟨source, rfl, above, path⟩ := ih
      rw [Extends, shows.supertypesOf above] at link
      obtain ⟨supertype, listed, rfl⟩ := List.mem_map.mp link
      exact ⟨supertype, rfl, shows.closed above listed, path.tail listed⟩

/-- Whether one type stands above another does not depend on the graph. -/
theorem Shows.reaches {type ancestor : TypeId} (inside : population type)
    (present : ancestor < mirror.source.types.size) (hierarchical : graph.Hierarchical)
    (otherwise : other.Hierarchical) :
    other.reaches (mirror.rename type) (mirror.rename ancestor) = graph.reaches type ancestor := by
  have here := shows.within inside
  rw [Bool.eq_iff_iff, hierarchical.reaches_iff (shows.source.size.symm ▸ here),
    otherwise.reaches_iff (shows.target.size.symm ▸ mirror.present here)]
  constructor
  · intro path
    obtain ⟨source, same, above, found⟩ := shows.exists_of_reaches inside path
    rwa [← mirror.injective (shows.within above) present same]
  · exact fun path => (shows.reaches_rename inside path).2

end Paths

/-! ## Names -/

section Names

variable (names : mirror.ShowsResolver resolver image)

include names

theorem ShowsResolver.builtinType {name : String}
    (found : resolver.farm.lookup? name = some (resolver.builtin name)) :
    resolver.builtin name < mirror.source.types.size ∧
      image.builtin name = mirror.rename (resolver.builtin name) := by
  obtain ⟨common, present⟩ := names.builtin found
  refine ⟨present, ?_⟩
  rw [mirror.fixed common, Resolver.builtin, names.farm, Resolver.builtin]

theorem ShowsResolver.denotedType {name : String}
    (denotes : resolver.Denotes name (resolver.denoted name)) :
    resolver.denoted name < mirror.source.types.size ∧
      image.denoted name = mirror.rename (resolver.denoted name) :=
  ⟨names.present denotes, (names.denoted denotes).2⟩

theorem ShowsResolver.missingFailure? (name : String) (left last : Graph) :
    Option.Rel (mirror.ShowsFailure left last) (resolver.missingFailure? name)
      (image.missingFailure? name) := by
  unfold Resolver.missingFailure?
  rw [names.farm]
  cases resolver.farm.lookup? name with
  | none => exact .some (.aborted (.of_plain (fun _ _ => ⟨rfl, rfl⟩) left last))
  | some builtin => exact .none

variable {declaration : TypeDeclaration} (finds : resolver.FindsSupertypes declaration)

include finds

theorem ShowsResolver.declaredParent (isClass : declaration.isInterface = false) :
    resolver.declaredParent declaration < mirror.source.types.size ∧
      image.declaredParent declaration = mirror.rename (resolver.declaredParent declaration) := by
  unfold Resolver.declaredParent
  by_cases rooted : declaration.parent = ""
  · rw [if_pos rooted, if_pos rooted]
    exact names.builtinType (finds.root isClass rooted)
  · rw [if_neg rooted, if_neg rooted]
    exact names.denotedType (finds.parent isClass rooted)

theorem ShowsResolver.declaredInterfaces :
    (∀ interface ∈ (Resolver.interfaceNames declaration).map resolver.denoted,
        interface < mirror.source.types.size) ∧
      (Resolver.interfaceNames declaration).map image.denoted
        = ((Resolver.interfaceNames declaration).map resolver.denoted).map mirror.rename := by
  have each := fun name listed => names.denotedType (finds.interfaces name listed)
  refine ⟨?_, ?_⟩
  · intro interface listed
    obtain ⟨name, declared, rfl⟩ := List.mem_map.mp listed
    exact (each name declared).1
  · rw [List.map_map]
    exact List.map_congr_left fun name listed => (each name listed).2

theorem ShowsResolver.declaredSupertypes :
    (∀ supertype ∈ resolver.declaredSupertypes declaration,
        supertype < mirror.source.types.size) ∧
      image.declaredSupertypes declaration
        = (resolver.declaredSupertypes declaration).map mirror.rename := by
  obtain ⟨present, same⟩ := names.declaredInterfaces finds
  unfold Resolver.declaredSupertypes
  rw [List.map_append, same]
  cases isInterface : declaration.isInterface with
  | true =>
      simp only [if_true, List.nil_append, List.map_nil, and_true]
      exact present
  | false =>
      obtain ⟨parentPresent, parentSame⟩ := names.declaredParent finds isInterface
      simp only [Bool.false_eq_true, if_false, List.map_singleton, parentSame, and_true]
      intro supertype listed
      rcases List.mem_append.mp listed with asParent | asInterface
      · rw [List.mem_singleton.mp asParent]
        exact parentPresent
      · exact present supertype asInterface

end Names

/-! ## Linked types -/

section Linked

variable (names : mirror.ShowsResolver resolver image) {declaration : TypeDeclaration}
  (finds : resolver.FindsSupertypes declaration) {old imageOld : NominalType}
  (kind : old.isClass = !declaration.isInterface) (face : old.SameFace imageOld)
  (shows : mirror.ShowsType graph other old imageOld)

include names finds kind face shows

theorem shows_withSupertypes
    (present : ∀ interface ∈ old.interfaces, interface < mirror.source.types.size) :
    mirror.ShowsType graph other (resolver.withSupertypes declaration old)
      (image.withSupertypes declaration imageOld) := by
  obtain ⟨added, addedSame⟩ := names.declaredInterfaces finds
  have listed : listedOnce imageOld.interfaces
    ((Resolver.interfaceNames declaration).map image.denoted)
      = (listedOnce old.interfaces
          ((Resolver.interfaceNames declaration).map resolver.denoted)).map mirror.rename := by
    rw [shows.interfaces, addedSame]
    apply listedOnce_map
    intro first inFirst second inSecond
    have within : ∀ interface ∈ old.interfaces ++
        (Resolver.interfaceNames declaration).map resolver.denoted,
        interface < mirror.source.types.size := by
      intro interface inside
      rcases List.mem_append.mp inside with inOld | inAdded
      · exact present interface inOld
      · exact added interface inAdded
    exact mirror.injective (within first inFirst) (within second inSecond)
  refine ⟨?_, ?_, ?_, fun isStatic => ?_⟩
  · rw [Resolver.withSupertypes_state, Resolver.withSupertypes_state]
    exact shows.state
  · have imageKind : imageOld.isClass = !declaration.isInterface := face.isClass.trans kind
    rw [NominalType.parent?, NominalType.parent?, Resolver.withSupertypes_classPart _ _ kind,
      Resolver.withSupertypes_classPart _ _ imageKind]
    cases isInterface : declaration.isInterface with
    | true => exact shows.parent
    | false => exact congrArg some (names.declaredParent finds isInterface).2
  · rw [Resolver.withSupertypes_interfaces, Resolver.withSupertypes_interfaces]
    exact listed
  · rw [Resolver.withSupertypes_declared, Resolver.withSupertypes_declared]
    exact shows.declared isStatic

omit names finds face shows in
theorem shows_withSupertypes_body (imageKind : imageOld.isClass = !declaration.isInterface)
    (body : mirror.ShowsBody graph other old imageOld) :
    mirror.ShowsBody graph other (resolver.withSupertypes declaration old)
      (image.withSupertypes declaration imageOld) := by
  obtain ⟨extensionClasses, annotations, docString⟩ := resolver.withSupertypes_body declaration old
  obtain ⟨imageExtensionClasses, imageAnnotations, imageDocString⟩ :=
    image.withSupertypes_body declaration imageOld
  refine ⟨?_, ?_, ?_, ?_⟩
  · rw [extensionClasses, imageExtensionClasses, body.extensionClasses]
  · rw [annotations, imageAnnotations, body.annotations]
  · rw [docString, imageDocString, body.docString]
  · rw [Resolver.withSupertypes_classPart _ _ kind, Resolver.withSupertypes_classPart _ _ imageKind]
    split <;> exact ⟨body.part.constructors, body.part.initializers, body.part.staticConstructor⟩

/-- Corresponding types are linked as one declaration says. -/
theorem shows_linked (parts : resolver.FindsParts declaration)
    (present : ∀ interface ∈ old.interfaces, interface < mirror.source.types.size)
    (body : mirror.ShowsBody graph other old imageOld) :
    mirror.ShowsType graph other (resolver.linked declaration old)
        (image.linked declaration imageOld) ∧
      mirror.ShowsBody graph other (resolver.linked declaration old)
        (image.linked declaration imageOld) := by
  have linked := shows_withSupertypes names finds kind face shows present
  have linkedBody := @shows_withSupertypes_body mirror resolver image graph other declaration old
    imageOld kind (face.isClass.trans kind) body
  refine ⟨⟨linked.state, linked.parent, linked.interfaces, linked.declared⟩,
    ⟨?_, ?_, linkedBody.docString, linkedBody.part⟩⟩
  · unfold Resolver.linked Resolver.withParts
    rw [List.map_append, linkedBody.extensionClasses, List.map_map]
    refine congrArg (_ ++ ·) (List.map_congr_left ?_)
    exact fun name listed => (names.denotedType (parts.extensions name listed)).2
  · unfold Resolver.linked Resolver.withParts
    rw [List.map_append, linkedBody.annotations, List.map_map]
    refine congrArg (_ ++ ·) (List.map_congr_left ?_)
    intro mark listed
    simp only [Function.comp_apply, Resolver.declaredUse, Option.map_some,
      (names.denotedType (parts.annotations mark listed)).2]

end Linked

/-! ## Refused links -/

section Failures

variable (names : mirror.ShowsResolver resolver image)
  (shows : mirror.Shows resolver.farm population graph other)
  (everything : ∀ {type}, type < mirror.source.types.size → population type)
  (hierarchical : graph.Hierarchical) (otherwise : other.Hierarchical) {left last : Graph}
  (later : mirror.Frames left last) {self : TypeId} (here : self < mirror.source.types.size)
  {declaration : TypeDeclaration}

include later here

theorem ShowsResolver.kindFailure? (names : mirror.ShowsResolver resolver image)
    (frames : mirror.Frames graph other) (isClass : Bool) (name : String) :
    Option.Rel (mirror.ShowsFailure left last) (resolver.kindFailure? graph self isClass name)
      (image.kindFailure? other (mirror.rename self) isClass name) := by
  refine rel_or_of_none (names.nameFailure? frames later here name) fun accepted _ => ?_
  obtain ⟨present, shown⟩ := names.denotedType (denotes_of_nameFailure? accepted)
  rw [shown, (frames.face present).isClass]
  split
  · exact .none
  · exact .some (.rejected (.of_plain (fun _ _ => ⟨rfl, rfl⟩) left last))

include names shows

include everything hierarchical otherwise

omit names in
theorem Shows.interfaceError? {interface : TypeId}
    (present : interface < mirror.source.types.size) :
    mirror.Finds left last (graph.interfaceError? self interface)
      (other.interfaceError? (mirror.rename self) (mirror.rename interface)) := by
  unfold Graph.interfaceError?
  rw [shows.reaches (everything present) here hierarchical otherwise]
  split
  · refine .some ⟨rfl, fun exact => ⟨?_, rfl⟩⟩
    simp only [Error.message?, later.nameOf present, later.nameOf here]
  · exact shows.toFrames.typeVisibilityError? later here present

omit names in
theorem Shows.parentError? {parent : TypeId} (present : parent < mirror.source.types.size) :
    mirror.Finds left last (graph.parentError? self parent)
      (other.parentError? (mirror.rename self) (mirror.rename parent)) := by
  unfold Graph.parentError?
  rw [shows.reaches (everything present) here hierarchical otherwise,
    (shows.face present).properties]
  split
  · refine .some ⟨rfl, fun exact => ⟨?_, rfl⟩⟩
    simp only [Error.message?, later.nameOf present, later.nameOf here]
  · split
    · refine .some ⟨rfl, fun exact => ⟨?_, ?_⟩⟩
      · simp only [Error.message?, later.nameOf present, later.nameOf here]
      · simp only [Error.hint?, Error.invalidParentHint, (later.face present).properties,
          (later.face present).isClass]
    · exact shows.toFrames.typeVisibilityError? later here present

theorem ShowsResolver.interfaceFailure? (name : String) :
    Option.Rel (mirror.ShowsFailure left last) (resolver.interfaceFailure? graph self name)
      (image.interfaceFailure? other (mirror.rename self) name) := by
  refine rel_or_of_none (ShowsResolver.kindFailure? later here names shows.toFrames false name)
    fun accepted _ => ?_
  obtain ⟨present, shown⟩ := names.denotedType (denotes_of_kindFailure? accepted).1
  rw [shown]
  exact rel_map (shows.interfaceError? everything hierarchical otherwise later here present)
    fun found => .rejected found

theorem ShowsResolver.parentFailure? :
    Option.Rel (mirror.ShowsFailure left last) (resolver.parentFailure? graph self declaration)
      (image.parentFailure? other (mirror.rename self) declaration) := by
  refine rel_or_of_none (rel_or (names.missingFailure? "Object" left last) ?_) fun accepted _ => ?_
  · split
    · exact .none
    · exact ShowsResolver.kindFailure? later here names shows.toFrames true declaration.parent
  · have parent : resolver.declaredParent declaration < mirror.source.types.size ∧
        image.declaredParent declaration
          = mirror.rename (resolver.declaredParent declaration) := by
      rw [Option.or_eq_none_iff] at accepted
      unfold Resolver.declaredParent
      by_cases rooted : declaration.parent = ""
      · rw [if_pos rooted, if_pos rooted]
        exact names.builtinType (lookup?_of_missingFailure? accepted.1)
      · rw [if_neg rooted] at accepted
        rw [if_neg rooted, if_neg rooted]
        exact names.denotedType (denotes_of_kindFailure? accepted.2).1
    rw [parent.2]
    exact rel_map (shows.parentError? everything hierarchical otherwise later here parent.1)
      fun found => .rejected found

theorem ShowsResolver.supertypesFailure? :
    Option.Rel (mirror.ShowsFailure left last)
      (resolver.supertypesFailure? graph self declaration)
      (image.supertypesFailure? other (mirror.rename self) declaration) := by
  refine rel_or ?_ (rel_findSome? (List.forall₂_same.mpr fun _ _ => rfl) ?_)
  · cases isInterface : declaration.isInterface with
    | true => exact .none
    | false => exact names.parentFailure? shows everything hierarchical otherwise later here
  · rintro name _ rfl
    exact names.interfaceFailure? shows everything hierarchical otherwise later here name

theorem ShowsResolver.annotationFailure? (mark : AnnotationDeclaration) :
    Option.Rel (mirror.ShowsFailure left last)
      (resolver.annotationFailure? graph self mark)
      (image.annotationFailure? other (mirror.rename self) mark) := by
  refine rel_or_of_none
    (ShowsResolver.kindFailure? later here names shows.toFrames true mark.type) fun accepted _ =>
      rel_or_of_none (names.missingFailure? "Attribute" left last) fun found _ => ?_
  obtain ⟨present, shown⟩ := names.denotedType (denotes_of_kindFailure? accepted).1
  obtain ⟨basePresent, baseShown⟩ := names.builtinType (lookup?_of_missingFailure? found)
  have same : (mirror.rename (resolver.denoted mark.type)
      == mirror.rename (resolver.builtin "Attribute"))
      = (resolver.denoted mark.type == resolver.builtin "Attribute") := by
    rw [Bool.eq_iff_iff, beq_iff_eq, beq_iff_eq]
    exact ⟨mirror.injective present basePresent, congrArg mirror.rename⟩
  have derives : image.isAttribute other (image.denoted mark.type)
      = resolver.isAttribute graph (resolver.denoted mark.type) := by
    unfold Resolver.isAttribute bne
    rw [shown, baseShown, same,
      shows.reaches (everything present) basePresent hierarchical otherwise]
  rw [derives]
  split
  · exact .none
  · exact .some (.rejected (.of_plain (fun _ _ => ⟨rfl, rfl⟩) left last))

theorem ShowsResolver.partsFailure? :
    Option.Rel (mirror.ShowsFailure left last)
      (resolver.partsFailure? graph self declaration)
      (image.partsFailure? other (mirror.rename self) declaration) := by
  refine rel_or (rel_findSome? (List.forall₂_same.mpr fun _ _ => rfl) ?_)
    (rel_findSome? (List.forall₂_same.mpr fun _ _ => rfl) ?_)
  · rintro name _ rfl
    exact ShowsResolver.kindFailure? later here names shows.toFrames true name
  · rintro mark _ rfl
    exact names.annotationFailure? shows everything hierarchical otherwise later here mark

end Failures

/-! ## Links -/

section Links

variable (names : mirror.ShowsResolver resolver image)
  (everything : ∀ {type}, type < mirror.source.types.size → population type)
  {base imageBase : Graph}

/-- A pending type in the other graph. -/
def showsEntry (mirror : Mirror) (entry : PendingType) : PendingType :=
  ⟨entry.declaration, mirror.rename entry.type⟩

/-- A type between its stub and its completion in both graphs. -/
structure BothUnfinished (mirror : Mirror) (resolver image : Resolver) (base imageBase : Graph)
    (entry : PendingType) (graph other : Graph) : Prop where
  here : Unfinished resolver base entry graph
  there : Unfinished image imageBase (mirror.showsEntry entry) other

include everything

theorem Shows.relink (shows : mirror.Shows farm population graph other) {type : TypeId}
    (present : type < mirror.source.types.size) {change imageChange : NominalType → NominalType}
    (identity : ∀ old : NominalType, old.SameIdentity (change old))
    (imageIdentity : ∀ old : NominalType, old.SameIdentity (imageChange old))
    (hierarchical : (graph.modifyType type change).Hierarchical)
    (changed : mirror.ShowsType graph other (change (graph.typeAt type))
      (imageChange (other.typeAt (mirror.rename type))))
    (changedBody : mirror.ShowsBody graph other (change (graph.typeAt type))
      (imageChange (other.typeAt (mirror.rename type)))) :
    mirror.Shows farm population (graph.modifyType type change)
      (other.modifyType (mirror.rename type) imageChange) := by
  have retains : ∀ (graph : Graph) (type : TypeId) (change : NominalType → NominalType),
      graph.RetainsMembers (graph.modifyType type change) := fun _ _ _ => .of_eq rfl
  refine shows.changeType (everything present) (retains _ _ _) (retains _ _ _) rfl rfl rfl rfl
    identity imageIdentity ?_ (changed.later (retains _ _ _) (retains _ _ _))
    fun _ => changedBody.later (retains _ _ _) (retains _ _ _)
  intro lower supertype _ link
  apply everything
  rw [← shows.source.size, ← size_modifyType change]
  exact (hierarchical.linked link).1

include names

variable {entry : PendingType} (shows : mirror.Shows resolver.farm population graph other)
  (unfinished : mirror.BothUnfinished resolver image base imageBase entry graph other)
  (young : mirror.common ≤ entry.type)

include shows unfinished young

omit names young in
theorem Shows.interfaces_present : ∀ interface ∈ (graph.typeAt entry.type).interfaces,
    interface < mirror.source.types.size := by
  intro interface listed
  have inside := everything (shows.source.size ▸ unfinished.here.piece.present)
  exact shows.within (shows.closed inside (InterfaceMemberMap.extends_of_mem_interfaces listed))

/-- One declaration is refused in both graphs, or in none. -/
theorem linkFailure?_agree {left last : Graph} (later : mirror.Frames left last) :
    Option.Rel (mirror.ShowsFailure left last)
      (resolver.linkFailure? graph entry.type entry.declaration)
      (image.linkFailure? other (mirror.rename entry.type) entry.declaration) := by
  obtain ⟨here, there⟩ := unfinished
  have present : entry.type < mirror.source.types.size := shows.source.size ▸ here.piece.present
  refine rel_or_of_none (names.supertypesFailure? shows everything
    here.piece.sound.wellFormed.hierarchical there.piece.sound.wellFormed.hierarchical later
    present) fun accepted imageAccepted => ?_
  have performs := linkSupertypes_performs here.piece here.isOpen here.kind here.memberless
  have imagePerforms := linkSupertypes_performs there.piece there.isOpen there.kind there.memberless
  have wellFormed := (performs.alters.steps.sound here.piece.sound).wellFormed.of_bare
    (performs.left accepted).symm
  have imageWellFormed := (imagePerforms.alters.steps.sound there.piece.sound).wellFormed.of_bare
    (imagePerforms.left imageAccepted).symm
  have inside := everything present
  have finds := Resolver.findsSupertypes accepted
  have linked := shows.relink everything present
    (resolver.withSupertypes_identity entry.declaration)
    (image.withSupertypes_identity entry.declaration) wellFormed.hierarchical
    (shows_withSupertypes names finds here.kind (shows.face present) (shows.types inside)
      (shows.interfaces_present everything ⟨here, there⟩))
    (shows_withSupertypes_body here.kind there.kind (shows.bodies inside young))
  exact names.partsFailure? linked everything wellFormed.hierarchical imageWellFormed.hierarchical
    later present

/-- A declaration that is not refused leaves graphs that correspond to each other. -/
theorem Shows.linkType
    (accepted : resolver.linkFailure? graph entry.type entry.declaration = none) :
    mirror.Shows resolver.farm population
      (graph.modifyType entry.type (resolver.linked entry.declaration))
      (other.modifyType (mirror.rename entry.type) (image.linked entry.declaration)) := by
  obtain ⟨here, there⟩ := unfinished
  have present : entry.type < mirror.source.types.size := shows.source.size ▸ here.piece.present
  have inside := everything present
  have performs := linkType_performs here.piece here.isOpen here.kind here.memberless
  have wellFormed := (performs.alters.steps.sound here.piece.sound).wellFormed.of_bare
    (performs.left accepted).symm
  rw [Resolver.linkFailure?, Option.or_eq_none_iff] at accepted
  obtain ⟨linked, body⟩ := shows_linked names (Resolver.findsSupertypes accepted.1) here.kind
    (shows.face present) (shows.types inside) (Resolver.findsParts accepted.2)
    (shows.interfaces_present everything ⟨here, there⟩) (shows.bodies inside young)
  exact shows.relink everything present (resolver.linked_identity entry.declaration)
    (image.linked_identity entry.declaration) wellFormed.hierarchical linked body

end Links

end Mirror

end Nominal
