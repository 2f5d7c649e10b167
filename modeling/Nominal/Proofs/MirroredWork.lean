import Nominal.Proofs.Loading
import Nominal.Proofs.MirroredChecks

/-!
# Work in two graphs

A declared type is completed in two graphs that correspond to each other.  Both runs take the same
steps, so they end alike: with graphs that still correspond to each other, or with failures that do.
-/

namespace Nominal

open Nominal.Graph

/-! ## Wording -/

theorem Error.message?_of_bare {graph left : Graph} (same : left.bare = graph.bare)
    (error : Error) : error.message? left = error.message? graph := by
  have types := SameTypes.of_bare same
  have typeAt := typeAt_eq_of_bare same
  have memberAt := memberAt_eq_of_bare same
  have references : left.qualifiedNameOf = graph.qualifiedNameOf := funext types.qualifiedNameOf
  have site : ∀ referencing moduleName, Error.typeReferenceSite left referencing moduleName
      = Error.typeReferenceSite graph referencing moduleName := by
    rintro (_ | type) moduleName
    · rfl
    · simp only [Error.typeReferenceSite, types.nameOf]
  have memberSite : ∀ referencing, Error.memberReferenceSite left referencing
      = Error.memberReferenceSite graph referencing := by
    rintro (_ | type)
    · rfl
    · simp only [Error.memberReferenceSite, types.nameOf]
  induction error with
  | context label cause ih => simp only [Error.message?, ih]
  | joined first second ih => simp only [Error.message?, ih]
  | unexpected cause ih => simp only [Error.message?, ih]
  | user cause ih => simp only [Error.message?, ih]
  | preInitialization type cause ih => simp only [Error.message?, ih, types.nameOf]
  | declaration moduleName typeName cause ih => simp only [Error.message?, ih]
  | _ => simp only [Error.message?, types.nameOf, types.describe, types.memberName,
      types.qualifiedName, memberAt, typeAt, site, memberSite, Graph.qualifiedNameList, references]

theorem Error.hint?_of_bare {graph left : Graph} (same : left.bare = graph.bare)
    (error : Error) : error.hint? left = error.hint? graph := by
  have types := SameTypes.of_bare same
  have typeAt := typeAt_eq_of_bare same
  have memberAt := memberAt_eq_of_bare same
  induction error with
  | declaration moduleName typeName cause ih => simp only [Error.hint?, ih]
  | _ => simp only [Error.hint?, memberAt, typeAt, types.qualifiedNameOf]

namespace Mirror

variable {mirror : Mirror}

theorem ShowsError.of_bare {graph other left last : Graph} {error image : Error}
    (shows : mirror.ShowsError graph other error image) (same : left.bare = graph.bare)
    (sameOther : last.bare = other.bare) : mirror.ShowsError left last error image := by
  refine ⟨shows.kinds, fun exact => ?_⟩
  rw [Error.message?_of_bare same, Error.message?_of_bare sameOther, Error.hint?_of_bare same,
    Error.hint?_of_bare sameOther]
  exact shows.wording exact

/-- An error that mentions no type and no member says the same everywhere. -/
theorem ShowsError.of_plain {error : Error}
    (plain : ∀ graph other : Graph, error.message? other = error.message? graph ∧
      error.hint? other = error.hint? graph) (graph other : Graph) :
    mirror.ShowsError graph other error error :=
  ⟨rfl, fun _ => plain graph other⟩

theorem ShowsError.declaration {graph other : Graph} {error image : Error}
    (shows : mirror.ShowsError graph other error image) (moduleName typeName : String) :
    mirror.ShowsError graph other (.declaration moduleName typeName error)
      (.declaration moduleName typeName image) := by
  refine ⟨?_, fun exact => ?_⟩
  · simp only [Error.chain, List.map_cons, shows.kinds]
    rfl
  · simp only [Error.message?, Error.hint?, (shows.wording exact).1, (shows.wording exact).2,
      and_self]

/-! ## Two runs -/

/-- Two runs that end alike. -/
inductive Agree (mirror : Mirror) (farm : Farm) (population : TypeId → Prop) {α β : Type}
    (given : α → β → Prop) : Except Failure α × Graph → Except Failure β × Graph → Prop
  | ok {value : α} {shown : β} {left last : Graph} (related : given value shown)
      (shows : mirror.Shows farm population left last) :
      Agree mirror farm population given (.ok value, left) (.ok shown, last)
  | error {failure image : Failure} {left last : Graph}
      (shows : mirror.ShowsFailure left last failure image) :
      Agree mirror farm population given (.error failure, left) (.error image, last)

/-- Two resolvers whose names denote corresponding types. -/
structure ShowsResolver (mirror : Mirror) (resolver image : Resolver) : Prop where
  farm : image.farm = resolver.farm
  moduleName : image.module.name = resolver.module.name
  denotes : ∀ name, image.module.lookupType? image.farm name
    = (resolver.module.lookupType? resolver.farm name).map mirror.rename
  present : ∀ {name type}, resolver.module.lookupType? resolver.farm name = some type →
    type < mirror.source.types.size
  builtin : ∀ {name type}, resolver.farm.lookup? name = some type →
    type < mirror.common ∧ type < mirror.source.types.size

/-- A type and its image under construction in graphs that correspond to each other. -/
structure Paired (mirror : Mirror) (resolver image : Resolver) (population : TypeId → Prop)
    (type : TypeId) (graph other : Graph) : Prop where
  piece : Workpiece resolver type 0 graph
  isOpen : graph.isSealed type = false
  imagePiece : Workpiece image (mirror.rename type) 0 other
  imageIsOpen : other.isSealed (mirror.rename type) = false
  shows : mirror.Shows resolver.farm population graph other

variable {farm : Farm} {population : TypeId → Prop} {resolver image : Resolver} {type : TypeId}
  {graph other : Graph}

namespace Agree

variable {α β γ δ : Type} {given : α → β → Prop} {build : Build α} {imageBuild : Build β}

theorem pure (shows : mirror.Shows farm population graph other) {value : α} {shown : β}
    (related : given value shown) :
    mirror.Agree farm population given (Build.exec (Pure.pure value) graph)
      (Build.exec (Pure.pure shown) other) :=
  .ok related shows

theorem mono {run : Except Failure α × Graph} {imageRun : Except Failure β × Graph}
    (agree : mirror.Agree farm population given run imageRun) {weaker : α → β → Prop}
    (implies : ∀ {value shown}, given value shown → weaker value shown) :
    mirror.Agree farm population weaker run imageRun := by
  cases agree with
  | ok related shows => exact .ok (implies related) shows
  | error shows => exact .error shows

theorem of_bare {run : Except Failure α × Graph} {imageRun : Except Failure β × Graph}
    (agree : mirror.Agree farm population given run imageRun) {left last : Graph}
    (same : left.bare = run.2.bare) (imageSame : last.bare = imageRun.2.bare) :
    mirror.Agree farm population given (run.1, left) (imageRun.1, last) := by
  cases agree with
  | ok related shows => exact .ok related (shows.of_bare same imageSame)
  | error shows =>
      cases shows with
      | rejected found => exact .error (.rejected (found.of_bare same imageSame))
      | aborted found => exact .error (.aborted (found.of_bare same imageSame))

theorem bind (paired : mirror.Paired resolver image population type graph other)
    (first : mirror.Agree resolver.farm population given (build.exec graph) (imageBuild.exec other))
    {holds : α → Graph → Prop} (works : build.Works resolver type 0 graph holds)
    {imageHolds : β → Graph → Prop}
    (imageWorks : imageBuild.Works image (mirror.rename type) 0 other imageHolds)
    {next : α → Build γ} {imageNext : β → Build δ} {result : γ → δ → Prop}
    (rest : ∀ {value shown left last}, mirror.Paired resolver image population type left last →
      given value shown → holds value left → imageHolds shown last →
        mirror.Agree resolver.farm population result ((next value).exec left)
          ((imageNext shown).exec last)) :
    mirror.Agree resolver.farm population result ((build >>= next).exec graph)
      ((imageBuild >>= imageNext).exec other) := by
  obtain ⟨alters, holdsAfter⟩ := works
  obtain ⟨imageAlters, imageHoldsAfter⟩ := imageWorks
  rw [Build.exec_bind, Build.exec_bind]
  generalize build.exec graph = run at first alters holdsAfter
  generalize imageBuild.exec other = imageRun at first imageAlters imageHoldsAfter
  cases first with
  | ok related shows =>
      exact rest ⟨paired.piece.of_alters alters, alters.state.trans paired.isOpen,
        paired.imagePiece.of_alters imageAlters, imageAlters.state.trans paired.imageIsOpen, shows⟩
        related (holdsAfter _ rfl) (imageHoldsAfter _ rfl)
  | error shows => exact .error shows

theorem of_still (shows : mirror.Shows farm population graph other)
    {found foundImage : Option Failure}
    {value : α} {shown : β} (run : build.exec graph = (found.elim (.ok value) .error, graph))
    (imageRun : imageBuild.exec other = (foundImage.elim (.ok shown) .error, other))
    (finds : Option.Rel (mirror.ShowsFailure graph other) found foundImage)
    (related : found = none → foundImage = none → given value shown) :
    mirror.Agree farm population given (build.exec graph) (imageBuild.exec other) := by
  rw [run, imageRun]
  cases finds with
  | none => exact .ok (related rfl rfl) shows
  | some failure => exact .error failure

theorem of_ends {found foundImage : Option Error} {value : α} {shown : β}
    {changed imageChanged : Graph}
    (ends : build.Ends graph found value changed)
    (imageEnds : imageBuild.Ends other foundImage shown imageChanged)
    (finds : mirror.Finds graph other found foundImage) (related : given value shown)
    (shows : found = none → foundImage = none →
      mirror.Shows farm population changed imageChanged) :
    mirror.Agree farm population given (build.exec graph) (imageBuild.exec other) := by
  obtain ⟨outcome, left⟩ := ends
  obtain ⟨imageOutcome, imageLeft⟩ := imageEnds
  rcases run : build.exec graph with ⟨result, after⟩
  rcases imageRun : imageBuild.exec other with ⟨imageResult, imageAfter⟩
  rw [run] at outcome left
  rw [imageRun] at imageOutcome imageLeft
  subst outcome imageOutcome
  cases finds with
  | none => exact .ok related ((shows rfl rfl).of_bare left imageLeft)
  | some found => exact .error (.rejected (found.of_bare left imageLeft))

end Agree

/-! ## Names -/

section Names

variable {left last : Graph} (frames : mirror.Frames graph other) (later : mirror.Frames left last)
  {self : TypeId} (here : self < mirror.source.types.size)

include frames later here

theorem Frames.typeVisibilityError? {mentioned : TypeId}
    (present : mentioned < mirror.source.types.size) :
    mirror.Finds left last
      (graph.typeVisibilityError? { referencing := some self } (.nominal mentioned))
      (other.typeVisibilityError? { referencing := some (mirror.rename self) }
        (.nominal (mirror.rename mentioned))) := by
  have face := frames.face present
  have same : (mirror.rename self == mirror.rename mentioned) = (self == mentioned) := by
    rw [Bool.eq_iff_iff, beq_iff_eq, beq_iff_eq]
    exact ⟨mirror.injective here present, congrArg mirror.rename⟩
  have admits : other.admitsType (mirror.rename mentioned)
      { referencing := some (mirror.rename self) }
      = graph.admitsType mentioned { referencing := some self } := by
    unfold Graph.admitsType AccessSite.moduleOf
    dsimp only
    rw [face.visibility, face.moduleName, (frames.face here).moduleName]
    split <;> try rfl
    exact same
  unfold Graph.typeVisibilityError?
  rw [admits]
  split
  · exact .none
  · refine .some ⟨rfl, fun exact => ⟨?_, rfl⟩⟩
    simp only [Error.message?, Error.typeReferenceSite, (later.face present).visibility,
      later.nameOf present, later.nameOf here]

variable (names : mirror.ShowsResolver resolver image)

include names

theorem ShowsResolver.nameFailure? (name : String) :
    Option.Rel (mirror.ShowsFailure left last) (resolver.nameFailure? graph self name)
      (image.nameFailure? other (mirror.rename self) name) := by
  unfold Resolver.nameFailure?
  rw [names.denotes]
  cases found : resolver.module.lookupType? resolver.farm name with
  | none => exact .some (.rejected (.of_plain (fun _ _ => ⟨rfl, rfl⟩) left last))
  | some mentioned =>
      exact rel_map (frames.typeVisibilityError? later here (names.present found))
        fun shows => .rejected shows

omit frames later here in
theorem ShowsResolver.denoted {name : String} {mentioned : TypeId}
    (denotes : resolver.Denotes name mentioned) :
    resolver.denoted name = mentioned ∧ image.denoted name = mirror.rename mentioned := by
  unfold Resolver.denoted
  rw [names.denotes, denotes]
  exact ⟨rfl, rfl⟩

end Names

/-! ## Array types -/

section Arrays

variable (shows : mirror.Shows farm population graph other) (interned : graph.Interned farm)
  (imageInterned : other.Interned farm) {element shown : TypeRef}
  (related : mirror.ShowsRef element shown) (within : element.isWithin graph.types.size = true)
  (imageWithin : shown.isWithin other.types.size = true)

include shows interned imageInterned related within imageWithin

theorem Shows.arrayFor :
    mirror.ShowsRef (graph.arrayFor farm.arena element (farm.lookup? "Array"))
      (other.arrayFor farm.arena shown (farm.lookup? "Array")) := by
  have names : shown.qualifiedName other = element.qualifiedName graph :=
    shows.qualifiedName related
  obtain ⟨found, made, named, known⟩ := arrayFor_cases interned element
  obtain ⟨foundImage, imageMade, imageNamed, imageKnown⟩ := arrayFor_cases imageInterned shown
  rw [made, imageMade]
  refine .array ?_ fun exact => ?_
  · rw [← shows.target.qualifiedName, imageNamed, names, ← named, shows.source.qualifiedName]
  · have arrays := shows.arrays exact
    have atSource : element.isWithin mirror.source.types.size = true :=
      shows.source.size ▸ within
    have atTarget : shown.isWithin mirror.target.types.size = true :=
      shows.target.size ▸ imageWithin
    have sourceNames : element.qualifiedName mirror.source = found.qualifiedName mirror.source := by
      rw [← shows.source.qualifiedName, ← named, shows.source.qualifiedName]
    have targetNames :
        shown.qualifiedName mirror.target = foundImage.qualifiedName mirror.target := by
      rw [← shows.target.qualifiedName, ← imageNamed, shows.target.qualifiedName]
    rw [names] at imageKnown
    rcases known with known | ⟨absent, rfl⟩ <;>
      rcases imageKnown with imageKnown | ⟨imageAbsent, rfl⟩
    · cases arrays.both known imageKnown with
      | array _ elements => exact elements exact
    · exact related.congr (arrays.onlySource known imageAbsent element atSource sourceNames)
        (TypeRef.same_refl _)
    · exact related.congr (TypeRef.same_refl _)
        (arrays.onlyTarget imageKnown absent shown atTarget targetNames)
    · exact related

theorem Shows.withArray (hosts : farm.arena < graph.arenas.size)
    (imageHosts : farm.arena < other.arenas.size) :
    mirror.Shows farm population (graph.withArray farm.arena element (farm.lookup? "Array"))
      (other.withArray farm.arena shown (farm.lookup? "Array")) := by
  have frame : graph.Frame farm (fun _ => False) 0
      (graph.withArray farm.arena element (farm.lookup? "Array")) := .withArray within
  have imageFrame : other.Frame farm (fun _ => False) 0
      (other.withArray farm.arena shown (farm.lookup? "Array")) := .withArray imageWithin
  have made := shows.arrayFor interned imageInterned related within imageWithin
  have names : shown.qualifiedName other = element.qualifiedName graph :=
    shows.qualifiedName related
  have found := get?_withArray hosts element (farm.lookup? "Array")
  have imageFound := get?_withArray imageHosts shown (farm.lookup? "Array")
  rw [names] at imageFound
  have types : ∀ (graph : Graph) (element : TypeRef),
      (graph.withArray farm.arena element (farm.lookup? "Array")).types = graph.types ∧
        (graph.withArray farm.arena element (farm.lookup? "Array")).members = graph.members := by
    intro graph element
    unfold Graph.withArray
    split <;> exact ⟨rfl, rfl⟩
  refine shows.of_typeAt (.of_eq (types graph element).2) (.of_eq (types other shown).2)
    (types graph element).1 (types other shown).1 (fun exact => ?_) ?_
  · have arrays := shows.arrays exact
    constructor
    · intro name array image here there
      rw [found] at here
      rw [imageFound] at there
      split at here
      next same =>
        rw [if_pos same] at there
        cases here
        cases there
        exact made
      next different =>
        rw [if_neg different] at there
        exact arrays.both here there
    · intro name made base here there
      rw [found] at here
      rw [imageFound] at there
      split at there
      next => cases there
      next different =>
        rw [if_neg different] at here
        exact arrays.onlySource here there
    · intro name made base here there
      rw [found] at there
      rw [imageFound] at here
      split at there
      next => cases there
      next different =>
        rw [if_neg different] at here
        exact arrays.onlyTarget here there
  · rw [frame.settings, imageFrame.settings, shows.settings]

end Arrays

/-! ## Declared members -/

section Declarations

variable (names : mirror.ShowsResolver resolver image)
  (paired : mirror.Paired resolver image population type graph other)

theorem Agree.reject {α β : Type} {given : α → β → Prop} {error : Error}
    (plain : ∀ graph other : Graph, error.message? other = error.message? graph ∧
      error.hint? other = error.hint? graph) :
    mirror.Agree farm population given (Build.exec (reject error) graph)
      (Build.exec (reject error) other) :=
  .error (.rejected (.of_plain plain graph other))

include paired

theorem Paired.present : type < mirror.source.types.size :=
  paired.shows.source.size ▸ paired.piece.present

include names

theorem nominalType_agree (name : String) :
    mirror.Agree resolver.farm population
      (fun denoted shown => denoted < mirror.source.types.size ∧ shown = mirror.rename denoted)
      ((resolver.nominalType type name).exec graph)
      ((image.nominalType (mirror.rename type) name).exec other) := by
  refine .of_still paired.shows (exec_nominalType resolver graph type name)
    (exec_nominalType image other (mirror.rename type) name)
    (names.nameFailure? paired.shows.toFrames paired.shows.toFrames paired.present name) ?_
  intro accepted _
  have denotes := denotes_of_nameFailure? accepted
  exact ⟨names.present denotes, (names.denoted denotes).2⟩

theorem require_agree (name : String) :
    mirror.Agree resolver.farm population
      (fun found shown => found < mirror.source.types.size ∧ shown = mirror.rename found)
      ((resolver.farm.require name).exec graph) ((image.farm.require name).exec other) := by
  rw [names.farm]
  unfold Farm.require
  cases found : resolver.farm.lookup? name with
  | none => exact .error (.aborted (.of_plain (fun _ _ => ⟨rfl, rfl⟩) graph other))
  | some builtin =>
      obtain ⟨common, present⟩ := names.builtin found
      exact .pure paired.shows ⟨present, (mirror.fixed common).symm⟩

theorem arrayOf_agree {element shown : TypeRef} (related : mirror.ShowsRef element shown)
    (within : element.isWithin graph.types.size = true)
    (imageWithin : shown.isWithin other.types.size = true) :
    mirror.Agree resolver.farm population mirror.ShowsRef
      (Build.exec (liftM (resolver.farm.arrayOf element) : Build TypeRef) graph)
      (Build.exec (liftM (image.farm.arrayOf shown) : Build TypeRef) other) := by
  have hosted := paired.piece.hosted
  have imageHosted := paired.imagePiece.hosted
  have interned := imageHosted.interned
  have hosts := imageHosted.arena
  rw [names.farm] at interned hosts ⊢
  have run : (resolver.farm.arrayOf element).exec graph = _ := exec_arrayOf _ _ _ _
  have imageRun : (resolver.farm.arrayOf shown).exec other = _ := exec_arrayOf _ _ _ _
  rw [Build.exec_lift, Build.exec_lift, run, imageRun]
  exact .ok (paired.shows.arrayFor hosted.interned interned related within imageWithin)
    (paired.shows.withArray hosted.interned interned related within imageWithin hosted.arena hosts)

theorem nestedArray_agree (depth : Nat) {element shown : TypeRef}
    (related : mirror.ShowsRef element shown)
    (within : element.isWithin graph.types.size = true)
    (imageWithin : shown.isWithin other.types.size = true) :
    mirror.Agree resolver.farm population mirror.ShowsRef
      ((resolver.nestedArray depth element).exec graph)
      ((image.nestedArray depth shown).exec other) := by
  induction depth generalizing graph other element shown with
  | zero => exact .pure paired.shows related
  | succ depth ih =>
      rw [Resolver.nestedArray, Resolver.nestedArray]
      exact .bind paired (arrayOf_agree names paired related within imageWithin)
        (arrayOf_works paired.piece within) (arrayOf_works paired.imagePiece imageWithin)
        fun later made madeWithin madeImageWithin => ih later made madeWithin madeImageWithin

theorem plainType_agree (name : String) :
    mirror.Agree resolver.farm population mirror.ShowsType?
      ((resolver.plainType type name).exec graph)
      ((image.plainType (mirror.rename type) name).exec other) := by
  unfold Resolver.plainType
  split
  · exact .pure paired.shows .none
  · cases Primitive.ofName? name with
    | some kind => exact .pure paired.shows (.some (.primitive kind))
    | none =>
        refine .bind paired (nominalType_agree names paired name) (nominalType_works _ name)
          (nominalType_works _ name) ?_
        rintro denoted _ left last later ⟨present, rfl⟩ - -
        exact .pure later.shows (.some (.nominal present))

theorem type_agree (reference : String) :
    mirror.Agree resolver.farm population mirror.ShowsType?
      ((resolver.type type reference).exec graph)
      ((image.type (mirror.rename type) reference).exec other) := by
  unfold Resolver.type
  split
  next characters depth _ =>
  refine .bind paired (plainType_agree names paired _) (plainType_works paired.piece _ _)
    (plainType_works paired.imagePiece _ _) ?_
  intro base shown left last later related within imageWithin
  split
  · exact .pure later.shows related
  · have nests : ∀ {element shown left last},
        mirror.Paired resolver image population type left last → mirror.ShowsRef element shown →
        element.isWithin left.types.size = true → shown.isWithin last.types.size = true →
        mirror.Agree resolver.farm population mirror.ShowsType?
          (Build.exec (do
            let array ← resolver.nestedArray depth element
            Pure.pure (some array)) left)
          (Build.exec (do
            let array ← image.nestedArray depth shown
            Pure.pure (some array)) last) := by
      intro element shown left last later related within imageWithin
      exact .bind later (nestedArray_agree names later depth related within imageWithin)
        (nestedArray_works later.piece depth within)
        (nestedArray_works later.imagePiece depth imageWithin)
        fun latest array _ _ => .pure latest.shows (.some array)
    cases related with
    | some related => exact nests later related (within _ rfl) (imageWithin _ rfl)
    | none =>
        refine .bind later (require_agree names later "Dynamic") (require_works "Dynamic")
          (require_works "Dynamic") ?_
        rintro dynamic _ left last latest ⟨present, rfl⟩ - -
        exact nests latest (.nominal present)
          (decide_eq_true (latest.shows.source.size.symm ▸ present))
          (decide_eq_true (latest.shows.target.size.symm ▸ mirror.present present))

theorem declaredParameters_agree (declarations : List ParameterDeclaration) :
    mirror.Agree resolver.farm population (List.Forall₂ mirror.ShowsParameter)
      ((declaredParameters resolver type declarations).exec graph)
      ((declaredParameters image (mirror.rename type) declarations).exec other) := by
  induction declarations generalizing graph other with
  | nil => exact .pure paired.shows .nil
  | cons declaration rest ih =>
      rw [declaredParameters, declaredParameters]
      refine .bind paired (type_agree names paired _) (type_works paired.piece _ _)
        (type_works paired.imagePiece _ _) fun later first _ _ => ?_
      exact .bind later (ih later) (declaredParameters_works later.piece _ _)
        (declaredParameters_works later.imagePiece _ _)
        fun latest others _ _ => .pure latest.shows (.cons ⟨rfl, rfl, first⟩ others)

theorem declaredArguments_agree (arguments : List String) :
    mirror.Agree resolver.farm population (List.Forall₂ mirror.ShowsType?)
      (Build.exec (arguments.mapM (resolver.type type)) graph)
      (Build.exec (arguments.mapM (image.type (mirror.rename type))) other) := by
  induction arguments generalizing graph other with
  | nil => exact .pure paired.shows .nil
  | cons argument rest ih =>
      rw [List.mapM_cons, List.mapM_cons]
      refine .bind paired (type_agree names paired _) (type_works paired.piece _ _)
        (type_works paired.imagePiece _ _) fun later first _ _ => ?_
      exact .bind later (ih later) (declaredArguments_works later.piece _ _)
        (declaredArguments_works later.imagePiece _ _)
        fun latest others _ _ => .pure latest.shows (.cons first others)

theorem declaredForwardCall_agree (declaration : ForwardCallDeclaration) :
    mirror.Agree resolver.farm population mirror.ShowsCall
      ((declaredForwardCall resolver type declaration).exec graph)
      ((declaredForwardCall image (mirror.rename type) declaration).exec other) := by
  unfold declaredForwardCall
  cases ForwardTarget.ofKeyword? declaration.target with
  | none => exact .reject fun _ _ => ⟨rfl, rfl⟩
  | some target =>
      exact .bind paired (declaredArguments_agree names paired _)
        (declaredArguments_works paired.piece _ _)
        (declaredArguments_works paired.imagePiece _ _)
        fun later arguments _ _ => .pure later.shows ⟨rfl, arguments⟩

theorem declaredCalls_agree (declaration : Option ForwardCallDeclaration) :
    mirror.Agree resolver.farm population (Option.Rel mirror.ShowsCall)
      (Build.exec (declaration.mapM (declaredForwardCall resolver type)) graph)
      (Build.exec (declaration.mapM (declaredForwardCall image (mirror.rename type))) other) := by
  cases declaration with
  | none => exact .pure paired.shows .none
  | some call =>
      exact .bind paired (declaredForwardCall_agree names paired call)
        (declaredForwardCall_works paired.piece _ call)
        (declaredForwardCall_works paired.imagePiece _ call)
        fun later related _ _ => .pure later.shows (.some related)

omit names in
theorem declaredVisibility_agree (keyword : String) :
    mirror.Agree resolver.farm population (fun visibility shown => shown = visibility)
      ((declaredVisibility keyword).exec graph) ((declaredVisibility keyword).exec other) := by
  unfold declaredVisibility
  split
  · exact .pure paired.shows rfl
  · split
    · exact .pure paired.shows rfl
    · exact .reject fun _ _ => ⟨rfl, rfl⟩

/-- A declaration describes corresponding members. -/
theorem declaredMember_agree (declaration : MemberDeclaration) :
    mirror.Agree resolver.farm population mirror.ShowsMember
      ((declaredMember resolver type declaration).exec graph)
      ((declaredMember image (mirror.rename type) declaration).exec other) := by
  have owner : ∀ owner ∈ some type, owner < mirror.source.types.size := by
    rintro _ ⟨⟩
    exact paired.present
  unfold declaredMember
  refine .bind paired (declaredVisibility_agree paired _) (declaredVisibility_works _)
    (declaredVisibility_works _) ?_
  rintro visibility _ left last later rfl - -
  refine .bind later (declaredParameters_agree names later _)
    (declaredParameters_works later.piece _ _) (declaredParameters_works later.imagePiece _ _) ?_
  intro parameters shownParameters left last later parameters _ _
  cases MemberKind.ofKeyword? declaration.kind with
  | none => exact .reject fun _ _ => ⟨rfl, rfl⟩
  | some kind =>
      cases kind with
      | unknown => exact .reject fun _ _ => ⟨rfl, rfl⟩
      | field =>
          exact .bind later (type_agree names later _) (type_works later.piece _ _)
            (type_works later.imagePiece _ _) fun latest related _ _ => .pure latest.shows
              ⟨rfl, rfl, rfl, rfl, rfl, rfl, rfl, related, rfl, owner, .nil, .none⟩
      | method =>
          refine .bind later (type_agree names later _) (type_works later.piece _ _)
            (type_works later.imagePiece _ _) fun latest related _ _ => ?_
          split
          · split
            · exact .reject fun _ _ => ⟨rfl, rfl⟩
            · exact .pure latest.shows
                ⟨rfl, rfl, rfl, rfl, rfl, rfl, rfl, related, rfl, owner, parameters, .none⟩
          · exact .pure latest.shows
              ⟨rfl, rfl, rfl, rfl, rfl, rfl, rfl, related, rfl, owner, parameters, .none⟩
      | constructor =>
          exact .bind later (declaredCalls_agree names later _)
            (declaredCalls_works later.piece _ _)
            (declaredCalls_works later.imagePiece _ _) fun latest related _ _ =>
              .pure latest.shows
                ⟨rfl, rfl, rfl, rfl, rfl, rfl, rfl, .none, rfl, owner, parameters, related⟩
      | initializer =>
          exact .pure later.shows
            ⟨rfl, rfl, rfl, rfl, rfl, rfl, rfl, .none, rfl, owner, parameters, .none⟩
      | staticConstructor =>
          exact .pure later.shows
            ⟨rfl, rfl, rfl, rfl, rfl, rfl, rfl, .none, rfl, owner, .nil, .none⟩

end Declarations

end Mirror

end Nominal
