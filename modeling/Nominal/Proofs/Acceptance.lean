import Nominal.Proofs.ConstructorCalls
import Nominal.Proofs.DerivationOrder

/-!
# Accepted arguments

`Graph.Takes` says when a parameter accepts an argument: the argument derives from its type, widens
to it, or is a value of any type for a dynamic class and a reference for a root class.  The matching
of calls decides this relation.  Whether values of a type may be used where a declared type is
expected is decided on its own; the two decisions differ for primitive values of a dynamic class
only.

A call with narrower arguments is accepted by every candidate that accepts the call itself, so the
first candidate that accepts it does not come later.
-/

namespace Nominal

namespace Graph

/-! ## Acceptance as a relation -/

/-- A parameter accepts an argument.  An absent argument is the absent value. -/
inductive Takes (graph : Graph) : Option TypeRef → Option TypeRef → Prop
  | untyped (argument : Option TypeRef) : Takes graph none argument
  | absent {expected : TypeRef} (reference : expected.isReference = true) :
      Takes graph (some expected) none
  | derived {expected given : TypeRef} (derives : graph.Derives given expected) :
      Takes graph (some expected) (some given)
  | widened {source target : Primitive} (widens : source.widensTo target = true) :
      Takes graph (some (.primitive target)) (some (.primitive source))
  | dynamic {expected : TypeRef} (isDynamic : expected.isDynamic graph = true) (given : TypeRef) :
      Takes graph (some expected) (some given)
  | root {expected given : TypeRef} (reference : given.isReference = true)
      (isRoot : expected.isRoot graph = true) : Takes graph (some expected) (some given)

/-- An argument is narrower than another one: it derives from the other one, or it is the absent
value where the other one is a reference or absent as well. -/
inductive Narrows (graph : Graph) : Option TypeRef → Option TypeRef → Prop
  | derived {given wide : TypeRef} (derives : graph.derives given wide true = true) :
      Narrows graph (some given) (some wide)
  | absent {wide : TypeRef} (reference : wide.isReference = true) : Narrows graph none (some wide)
  | both : Narrows graph none none

variable {graph left : Graph}

/-- What derives from a reference is a reference, and conversely. -/
theorem Derives.isReference_eq {given expected : TypeRef} (derives : graph.Derives given expected) :
    given.isReference = expected.isReference := by
  cases derives <;> rfl

theorem isReference_of_isDynamic {expected : TypeRef}
    (isDynamic : expected.isDynamic graph = true) :
    expected.isReference = true := by
  cases expected with
  | nominal id => rfl
  | primitive | array => cases isDynamic

theorem isReference_of_isRoot {expected : TypeRef} (isRoot : expected.isRoot graph = true) :
    expected.isReference = true := by
  cases expected with
  | nominal id => rfl
  | primitive | array => cases isRoot

/-- Every parameter that accepts an argument accepts the narrower ones, among types whose arrays
have one base class. -/
theorem Takes.of_narrows (sound : graph.Sound) {base : Option TypeId}
    {parameter wide narrow : Option TypeRef} (shares : parameter.all (·.sharesBase base) = true)
    (wideShares : wide.all (·.sharesBase base) = true)
    (narrowShares : narrow.all (·.sharesBase base) = true)
    (narrows : graph.Narrows narrow wide) (takes : graph.Takes parameter wide) :
    graph.Takes parameter narrow := by
  cases takes with
  | untyped => exact .untyped narrow
  | absent reference =>
      cases narrows
      exact .absent reference
  | derived derives =>
      cases narrows with
      | derived narrower =>
          have below := (derives_inclusive_iff sound _ _).mp narrower
          exact .derived (below.trans narrowShares wideShares shares derives)
      | absent reference => exact .absent (derives.isReference_eq.symm.trans reference)
  | widened widens =>
      cases narrows with
      | derived narrower =>
          cases (derives_inclusive_iff sound _ _).mp narrower
          exact .widened widens
      | absent reference => cases reference
  | dynamic isDynamic =>
      cases narrows with
      | derived => exact .dynamic isDynamic _
      | absent => exact .absent (isReference_of_isDynamic isDynamic)
  | root reference isRoot =>
      cases narrows with
      | derived narrower =>
          have below := (derives_inclusive_iff sound _ _).mp narrower
          exact .root (below.isReference_eq.trans reference) isRoot
      | absent => exact .absent (isReference_of_isRoot isRoot)

/-! ## Acceptance as it is decided -/

/-- Whether a parameter accepts an argument, as a graph answers. -/
def takes (graph : Graph) (parameter argument : Option TypeRef) : Bool :=
  ((parameterAccepts parameter argument).exec graph).1

/-- Whether values of a type may be used where a declared type is expected, as a graph answers. -/
def admitsValues (graph : Graph) (type : TypeId) (other : Option TypeRef) : Bool :=
  ((canDerive type other).exec graph).1

theorem takes_some_some (graph : Graph) (expected given : TypeRef) :
    graph.takes (some expected) (some given)
      = (expected.same given || graph.derives given expected false
          || graph.isSafeConversion (some given) (some expected)) := by
  unfold takes parameterAccepts derives
  rw [Query.exec_bind, Query.exec_get]
  dsimp only
  cases expected.same given with
  | true => rfl
  | false =>
      rw [if_neg Bool.false_ne_true, Query.exec_bind]
      cases ((given.derivesFrom (some expected) false).exec graph).1 <;> rfl

/-- A conversion without loss is to a dynamic type, between types that mean the same, to a wider
primitive type, or from a reference to a root class. -/
theorem isSafeConversion_iff (given expected : TypeRef) :
    graph.isSafeConversion (some given) (some expected) = true ↔
      expected.isDynamic graph = true ∨ given.same expected = true ∨
        (∃ source target, given = .primitive source ∧ expected = .primitive target ∧
          source.widensTo target = true) ∨
        given.isReference = true ∧ expected.isRoot graph = true := by
  unfold isSafeConversion
  dsimp only
  by_cases isDynamic : expected.isDynamic graph = true
  · simp [isDynamic]
  by_cases same : given.same expected = true
  · simp [same]
  rw [if_neg isDynamic, if_neg same]
  cases given <;> cases expected <;> simp_all [TypeRef.isReference, TypeRef.isRoot]

/-- The matching of calls decides acceptance. -/
theorem takes_iff (sound : graph.Sound) (parameter argument : Option TypeRef) :
    graph.takes parameter argument = true ↔ graph.Takes parameter argument := by
  cases parameter with
  | none => exact ⟨fun _ => .untyped argument, fun _ => rfl⟩
  | some expected =>
      cases argument with
      | none =>
          have answered : graph.takes (some expected) none
              = (expected.isReference || expected.isDynamic graph) := rfl
          rw [answered, Bool.or_eq_true]
          constructor
          · rintro (reference | isDynamic)
            · exact .absent reference
            · exact .absent (isReference_of_isDynamic isDynamic)
          · rintro ⟨⟩
            next reference => exact .inl reference
      | some given =>
          rw [takes_some_some, Bool.or_eq_true, Bool.or_eq_true, derives_iff sound,
            isSafeConversion_iff]
          constructor
          · rintro ((same | ⟨derives, -⟩) | isDynamic | same | ⟨source, target, rfl, rfl, widens⟩ |
              ⟨reference, isRoot⟩)
            · exact .derived (.of_same ((TypeRef.same_comm _ _).trans same))
            · exact .derived derives
            · exact .dynamic isDynamic given
            · exact .derived (.of_same same)
            · exact .widened widens
            · exact .root reference isRoot
          · rintro (_ | _ | derives | widens | ⟨isDynamic, _⟩ | ⟨reference, isRoot⟩)
            · rw [TypeRef.same_comm]
              cases same : given.same expected with
              | true => exact .inl (.inl rfl)
              | false => exact .inl (.inr ⟨derives, .inr rfl⟩)
            · exact .inr (.inr (.inr (.inl ⟨_, _, rfl, rfl, widens⟩)))
            · exact .inr (.inl isDynamic)
            · exact .inr (.inr (.inr (.inr ⟨reference, isRoot⟩)))

/-- A value of a type may be used where a declared type is expected if the type is a reference and
the declared type is dynamic or a root, or if the type derives from it. -/
theorem admitsValues_some_iff (sound : graph.Sound) (type : TypeId) (given : TypeRef) :
    graph.admitsValues type (some given) = true ↔
      if (TypeRef.nominal type).isDynamic graph || (TypeRef.nominal type).isRoot graph then
        given.isReference = true
      else graph.Derives given (.nominal type) := by
  have answered : graph.admitsValues type (some given)
      = if (TypeRef.nominal type).isDynamic graph || (TypeRef.nominal type).isRoot graph then
          given.isReference || given.isDynamic graph
        else graph.derives given (.nominal type) true := by
    unfold admitsValues canDerive derives
    rw [Query.exec_bind, Query.exec_get]
    dsimp only
    split <;> rfl
  rw [answered]
  split
  · rw [Bool.or_eq_true]
    exact ⟨Or.rec id isReference_of_isDynamic, .inl⟩
  · exact derives_inclusive_iff sound given (.nominal type)

theorem canDerive_steady (type : TypeId) (other : Option TypeRef) :
    (canDerive type other).Steady := by
  unfold canDerive
  cases other with
  | none => exact .pure true
  | some given =>
      refine .get_bind ?_ ?_
      · intro graph left read
        simp only [isDynamic_eq_of_reads read, isRoot_eq_of_reads read]
      · intro graph
        dsimp only
        split
        · exact .pure _
        · exact derivesFrom_steady given _ true

/-- A parameter of a type that is not dynamic accepts what may be used where the type is
expected. -/
theorem takes_nominal_eq (sound : graph.Sound) {type : TypeId}
    (notDynamic : (TypeRef.nominal type).isDynamic graph = false) (other : Option TypeRef) :
    graph.takes (some (.nominal type)) other = graph.admitsValues type other := by
  cases other with
  | none => rfl
  | some given =>
      rw [Bool.eq_iff_iff, takes_iff sound, admitsValues_some_iff sound, notDynamic, Bool.false_or]
      split
      next isRoot =>
        constructor
        · rintro (_ | _ | derives | _ | ⟨isDynamic, _⟩ | ⟨reference, -⟩)
          · exact derives.isReference_eq
          · rw [notDynamic] at isDynamic
            cases isDynamic
          · exact reference
        · exact fun reference => .root reference isRoot
      next notRoot =>
        constructor
        · rintro (_ | _ | derives | _ | ⟨isDynamic, _⟩ | ⟨-, isRoot⟩)
          · exact derives
          · rw [notDynamic] at isDynamic
            cases isDynamic
          · exact absurd isRoot notRoot
        · exact .derived

/-- A root class with two classes below it, and constructors for arrays and for what may stand in
their place. -/
def rootedPair : List Operation :=
  let upper := TypeRef.nominal 2
  let lower := TypeRef.nominal 3
  let parameter (type : TypeRef) : Parameter := { name := "x", type := some type }
  [.openArena {}, .newClass 0 "Object" "" .pub (.ofList [.root]), .newClass 0 "Array" "" .pub {},
    .newClass 0 "Upper" "m" .pub {}, .newClass 0 "Lower" "m" .pub {}, .setParent 1 (some 0),
    .setParent 2 (some 0), .setParent 3 (some 2),
    .newMember (.constructor none .pub
      [.self (some upper), parameter (.array lower (some 1)), parameter lower]),
    .newMember (.constructor none .pub [parameter (.nominal 1), parameter upper])]

/-- Whether values of a type may be used where a declared type is expected and whether a parameter
of the declared type accepts an argument of the type are decided alike, whatever has been asked
before, except for primitive values and a dynamic class: a parameter accepts them, but they may not
be used. -/
theorem admitsValues_eq_takes_iff (attained : graph.Attained) (read : graph.Reads left)
    {last : Graph} (readAlso : graph.Reads last) (type : TypeId) (other : Option TypeRef) :
    (left.admitsValues type other = last.takes (some (.nominal type)) other ↔
        ¬ ((TypeRef.nominal type).isDynamic graph = true ∧
          ∃ kind, other = some (.primitive kind))) ∧
      ((TypeRef.nominal type).isDynamic graph = true → ∀ kind,
        left.admitsValues type (some (.primitive kind)) = false ∧
          last.takes (some (.nominal type)) (some (.primitive kind)) = true) := by
  have sound := attained.sound
  have sameUse : ∀ given, left.admitsValues type given = graph.admitsValues type given :=
    fun given => (canDerive_steady type given graph left sound read).1
  have sameTaking : ∀ given, last.takes (some (.nominal type)) given
      = graph.takes (some (.nominal type)) given :=
    fun given => (parameterAccepts_steady _ given graph last sound readAlso).1
  simp only [sameUse, sameTaking]
  by_cases isDynamic : (TypeRef.nominal type).isDynamic graph = true
  · have taken : ∀ given, graph.takes (some (.nominal type)) (some given) = true :=
      fun given => (takes_iff sound _ _).mpr (.dynamic isDynamic given)
    have used : ∀ given, graph.admitsValues type (some given) = given.isReference := by
      intro given
      rw [Bool.eq_iff_iff, admitsValues_some_iff sound, isDynamic, Bool.true_or, if_pos rfl]
    refine ⟨?_, fun _ kind => ⟨used (.primitive kind), taken (.primitive kind)⟩⟩
    cases other with
    | none => exact ⟨fun _ => by simp, fun _ => rfl⟩
    | some given => cases given <;> simp [taken, used, isDynamic, TypeRef.isReference]
  · have agree := takes_nominal_eq sound (Bool.eq_false_iff.mpr isDynamic) other
    simp [agree, isDynamic]

/-- An array of integers may be used where a root class is expected, and is accepted there. -/
theorem admitsValues_eq_takes_iff_rootedArray :
    let graph := ({} : Graph).after rootedPair
    let left := ((View.ancestors.ask 1).exec graph).2
    graph.Attained ∧ graph.Reads left ∧
      left.admitsValues 0 (some (.array (.primitive .int) (some 1)))
        = graph.takes (some (.nominal 0)) (some (.array (.primitive .int) (some 1))) ∧
      left.admitsValues 0 (some (.array (.primitive .int) (some 1))) = true := by
  intro graph left
  have attained : graph.Attained := .run (by decide +kernel)
  have read : graph.Reads left := (Query.Answers.ask .ancestors 1).reads attained.sound
  refine ⟨attained, read, ?_, by decide +kernel⟩
  exact (admitsValues_eq_takes_iff attained read (.refl attained.sound) 0 _).1.mpr (by simp)

/-- Integers are accepted where the built-in dynamic class is expected, but may not be used
there. -/
theorem not_admitsValues_builtinDynamic :
    ∃ workspace, Workspace.Session {} workspace ∧ ∃ type,
      workspace.farm.lookup? "Dynamic" = some type ∧
        workspace.graph.admitsValues type (some (.primitive .int)) = false ∧
        workspace.graph.takes (some (.nominal type)) (some (.primitive .int)) = true := by
  have evaluated : Workspace.startsIn (fun started =>
      (started.farm.lookup? "Dynamic").any fun type =>
        !started.graph.admitsValues type (some (.primitive .int)) &&
          started.graph.takes (some (.nominal type)) (some (.primitive .int))) = true := by
    decide +kernel
  obtain ⟨workspace, session, found⟩ := Workspace.exists_of_startsIn evaluated
  obtain ⟨type, isDynamic, differ⟩ := (Option.any_eq_true _ _).mp found
  rw [Bool.and_eq_true, Bool.not_eq_true'] at differ
  exact ⟨workspace, session, type, isDynamic, differ⟩

/-! ## Calls with narrower arguments -/

/-- Whether a candidate accepts the arguments of a call, as a graph answers. -/
def takesCall (graph : Graph) (arguments : List (Option TypeRef)) (matchSelf : Bool)
    (candidate : MemberId) : Bool :=
  ((parametersAccept ((graph.memberAt candidate).callTypes matchSelf) arguments).exec graph).1

theorem parametersAccept_iff (sound : graph.Sound) (parameters arguments : List (Option TypeRef)) :
    ((parametersAccept parameters arguments).exec graph).1 = true ↔
      List.Forall₂ graph.Takes parameters arguments := by
  induction parameters generalizing arguments with
  | nil => cases arguments <;> simp [parametersAccept, Query.exec_pure]
  | cons parameter parameters ih =>
      cases arguments with
      | nil => simp [parametersAccept, Query.exec_pure]
      | cons argument arguments =>
          have steady := parameterAccepts_steady parameter argument
          have later := (parametersAccept_steady parameters arguments graph _ sound
            (steady.reads sound)).1
          rw [parametersAccept, Query.exec_bind, List.forall₂_cons, ← takes_iff sound,
            ← ih arguments]
          unfold takes
          cases ((parameterAccepts parameter argument).exec graph).1 with
          | true => simpa using later
          | false => simp [Query.exec_pure]

theorem takesCall_iff (sound : graph.Sound) (arguments : List (Option TypeRef)) (matchSelf : Bool)
    (candidate : MemberId) :
    graph.takesCall arguments matchSelf candidate = true ↔
      List.Forall₂ graph.Takes ((graph.memberAt candidate).callTypes matchSelf) arguments :=
  parametersAccept_iff sound _ _

/-- The candidate that is found is the first one that accepts the arguments. -/
theorem firstAccepting?_eq_find? (sound : graph.Sound) (arguments : List (Option TypeRef))
    (matchSelf : Bool) (candidates : List MemberId) :
    ((firstAccepting? arguments matchSelf candidates).exec graph).1
      = candidates.find? (graph.takesCall arguments matchSelf) := by
  induction candidates with
  | nil => rfl
  | cons candidate rest ih =>
      rw [firstAccepting?, Query.exec_bind, Query.exec_get, List.find?_cons]
      dsimp only
      split
      next =>
        have steady := parametersAccept_steady ((graph.memberAt candidate).callTypes matchSelf)
          arguments
        have later := (firstAccepting?_steady arguments matchSelf rest graph _ sound
          (steady.reads sound)).1
        rw [Query.exec_bind, takesCall]
        cases ((parametersAccept ((graph.memberAt candidate).callTypes matchSelf) arguments).exec
          graph).1 with
        | true => rfl
        | false => exact later.trans ih
      next different =>
        cases taken : graph.takesCall arguments matchSelf candidate with
        | true => exact absurd ((takesCall_iff sound ..).mp taken).length_eq different
        | false => exact ih

/-- Parameters that accept arguments accept narrower ones. -/
theorem forall₂_takes_of_narrows (sound : graph.Sound) {base : Option TypeId}
    {parameters wide narrow : List (Option TypeRef)}
    (shares : ∀ parameter ∈ parameters, parameter.all (·.sharesBase base) = true)
    (wideShares : ∀ argument ∈ wide, argument.all (·.sharesBase base) = true)
    (narrowShares : ∀ argument ∈ narrow, argument.all (·.sharesBase base) = true)
    (narrows : List.Forall₂ graph.Narrows narrow wide)
    (takes : List.Forall₂ graph.Takes parameters wide) :
    List.Forall₂ graph.Takes parameters narrow := by
  induction takes generalizing narrow with
  | nil =>
      cases narrows
      exact .nil
  | cons taken _ ih =>
      cases narrows with
      | cons narrower others =>
          rw [List.forall_mem_cons] at shares wideShares narrowShares
          exact .cons
            (taken.of_narrows sound shares.1 wideShares.1 narrowShares.1 narrower)
            (ih shares.2 wideShares.2 narrowShares.2 others)

/-- A weaker test is passed by an element that does not come later. -/
theorem exists_find?_of_imp {Item : Type} [DecidableEq Item] {items : List Item}
    {strict weak : Item → Bool} (weaker : ∀ item ∈ items, strict item = true → weak item = true)
    {found : Item} (first : items.find? strict = some found) :
    ∃ earlier, items.find? weak = some earlier ∧ items.idxOf earlier ≤ items.idxOf found := by
  induction items with
  | nil => cases first
  | cons item rest ih =>
      rw [List.forall_mem_cons] at weaker
      by_cases passes : weak item = true
      · exact ⟨item, List.find?_cons_of_pos passes, by simp⟩
      · have fails : ¬ strict item = true := fun strictly => passes (weaker.1 strictly)
        rw [List.find?_cons_of_neg fails] at first
        obtain ⟨earlier, weakly, order⟩ := ih weaker.2 first
        have apart : ∀ {other}, (weak other = true ∨ strict other = true) → item ≠ other := by
          rintro other passed rfl
          exact passed.elim passes fails
        refine ⟨earlier, by rwa [List.find?_cons_of_neg passes], ?_⟩
        rw [List.idxOf_cons_ne _ (apart (.inl (List.find?_some weakly))),
          List.idxOf_cons_ne _ (apart (.inr (List.find?_some first)))]
        exact Nat.succ_le_succ order

/-- If a call is accepted by one of some candidates, a call with narrower arguments is accepted by
one that does not come later, whatever has been asked before.  Arrays have one base class. -/
theorem findConstructor_of_narrows (attained : graph.Attained) {base : Option TypeId}
    {candidates : List MemberId} {matchSelf : Bool} {wide narrow : List (Option TypeRef)}
    (shares : ∀ candidate ∈ candidates, ∀ parameter ∈ (graph.memberAt candidate).callTypes matchSelf,
      parameter.all (·.sharesBase base) = true)
    (wideShares : ∀ argument ∈ wide, argument.all (·.sharesBase base) = true)
    (narrowShares : ∀ argument ∈ narrow, argument.all (·.sharesBase base) = true)
    (narrows : List.Forall₂ graph.Narrows narrow wide) {found : MemberId}
    (accepted : ((findConstructor candidates wide matchSelf).exec graph).1 = .ok (some found))
    (read : graph.Reads left) :
    ∃ earlier, ((findConstructor candidates narrow matchSelf).exec left).1 = .ok (some earlier) ∧
      candidates.idxOf earlier ≤ candidates.idxOf found := by
  have sound := attained.sound
  rw [findConstructor_eq_some_iff, firstAccepting?_eq_find? sound] at accepted
  have weaker : ∀ candidate ∈ candidates, graph.takesCall wide matchSelf candidate = true →
      graph.takesCall narrow matchSelf candidate = true := by
    intro candidate listed taken
    rw [takesCall_iff sound] at taken ⊢
    exact forall₂_takes_of_narrows sound (shares candidate listed) wideShares narrowShares narrows
      taken
  obtain ⟨earlier, first, order⟩ := exists_find?_of_imp weaker accepted
  refine ⟨earlier, ?_, order⟩
  rw [findConstructor_eq_some_iff, (firstAccepting?_steady _ _ _ graph left sound read).1,
    firstAccepting?_eq_find? sound]
  exact first

/-- The first constructor is found for the lower class and an absent value, the second one for the
upper class. -/
theorem findConstructor_of_narrows_rootedPair :
    let graph := ({} : Graph).after rootedPair
    let arrayOf (type : TypeId) : TypeRef := .array (.nominal type) (some 1)
    graph.Attained ∧
      ((findConstructor [0, 1] [some (arrayOf 2), some (.nominal 2)] false).exec graph).1
        = .ok (some 1) ∧
      ∃ earlier, ((findConstructor [0, 1] [some (arrayOf 3), none] false).exec graph).1
          = .ok (some earlier) ∧ [0, 1].idxOf earlier ≤ [0, 1].idxOf 1 := by
  intro graph arrayOf
  have attained : graph.Attained := .run (by decide +kernel)
  have accepted : ((findConstructor [0, 1] [some (arrayOf 2), some (.nominal 2)] false).exec
      graph).1 = .ok (some 1) := by
    decide +kernel
  refine ⟨attained, accepted, ?_⟩
  have shares : ∀ candidate ∈ [0, 1], ∀ parameter ∈ (graph.memberAt candidate).callTypes false,
      parameter.all (·.sharesBase (some 1)) = true := by
    decide +kernel
  refine findConstructor_of_narrows attained shares ?_ ?_ ?_ accepted (.refl attained.sound)
  · decide
  · decide
  · exact .cons (.derived (by decide +kernel)) (.cons (.absent rfl) .nil)

end Graph

end Nominal
