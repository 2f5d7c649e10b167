import Nominal.Proofs.DeclarationOrder

/-!
# What holds after every run

Kept views are exact and those of sealed types do not change any more, the hierarchy is free of
cycles and cycles are reported exactly, what stands above a sealed type is sealed, and access to a
member is granted by the rule of its visibility, apart from one leak.  None of these depends on the
order of operations.

The rules of inheritance do: a member that is added to a class after something was declared below
it is not checked against what stands below.
-/

namespace Nominal

open Nominal.Graph

/-! ## Views -/

/-- Every view is answered with its value, and the answers for a sealed type do not change any
more. -/
theorem ask_exact_and_stable {run later : List Operation}
    (admitted : ({} : Graph).admits (run ++ later) = true) (view : View) (type : TypeId) :
    ((view.ask type).exec (({} : Graph).after run)).1
        = view.value (({} : Graph).after run) type ∧
      ((({} : Graph).after run).isSealed type = true →
        ((view.ask type).exec (({} : Graph).after (run ++ later))).1
          = ((view.ask type).exec (({} : Graph).after run)).1) := by
  rw [admits_append, Bool.and_eq_true] at admitted
  have sound := sound_after admitted.1
  obtain ⟨lastSound, keeps⟩ := after_sound sound admitted.2
  have now := (Query.Answers.ask view type _ sound).1
  refine ⟨now, ?_⟩
  intro isFinal
  have last := (Query.Answers.ask view type _ lastSound).1
  rw [after_append, last, now]
  exact (sound.wellFormed.agreeOn_sealed keeps).value isFinal view

/-- A class with a field below a root class, both sealed, with views that have been asked for. -/
def sealedPair : List Operation :=
  [.openArena {}, .newClass 0 "Root" "m" .pub (.ofList [.root]), .newClass 0 "Leaf" "m" .pub {},
    .newInterface 0 "Mark" "m" .pub {}, .setParent 1 (some 0), .addInterface 0 (some 2),
    .newMember (.field none .pub false false "x" none), .declareMember 0 (some 0) false,
    .ask .instanceMembers 1, .sealType 2, .sealType 0, .sealType 1, .ask .instanceMembers 1]

/-- Further operations, some of which fail because the pair is sealed. -/
def sealedPairLater : List Operation :=
  [.newMember (.method none .pub false "f" [] none), .declareMember 1 (some 1) false,
    .newClass 0 "Late" "m" .pub {}, .setParent 3 (some 1), .setParent 1 (some 3),
    .declareMember 3 (some 1) false, .sealType 3]

theorem ask_exact_and_stable_sealedPair :
    ({} : Graph).admits (sealedPair ++ sealedPairLater) = true ∧
      (({} : Graph).after sealedPair).isSealed 1 = true ∧
      ((View.ask 1 .instanceMembers).exec (({} : Graph).after (sealedPair ++ sealedPairLater))).1
        = ((View.ask 1 .instanceMembers).exec (({} : Graph).after sealedPair)).1 := by
  have admitted : ({} : Graph).admits (sealedPair ++ sealedPairLater) = true := by
    decide +kernel
  have isFinal : (({} : Graph).after sealedPair).isSealed 1 = true := by
    decide +kernel
  exact ⟨admitted, isFinal, (ask_exact_and_stable admitted .instanceMembers 1).2 isFinal⟩

/-! ## Cycles -/

/-- After every run the hierarchy is free of cycles, and a new supertype in the arena of an unsealed
type is refused as a cycle exactly if the type is reached from it. -/
theorem acyclic_and_reportsCycle_iff {run : List Operation}
    (admitted : ({} : Graph).admits run = true) :
    (({} : Graph).after run).Acyclic ∧
      (∀ type parent,
        (Operation.setParent type (some parent)).isAdmissible (({} : Graph).after run) = true →
        (({} : Graph).after run).isSealed type = false →
        ((({} : Graph).after run).typeAt parent).arena
          = ((({} : Graph).after run).typeAt type).arena →
        (ReportsCycle ((setParent type (some parent)).exec (({} : Graph).after run)).1 ↔
          (({} : Graph).after run).Reaches parent type)) ∧
      ∀ type interface,
        (Operation.addInterface type (some interface)).isAdmissible (({} : Graph).after run)
          = true →
        (({} : Graph).after run).isSealed type = false →
        ((({} : Graph).after run).typeAt interface).arena
          = ((({} : Graph).after run).typeAt type).arena →
        (ReportsCycle ((addInterface type (some interface)).exec (({} : Graph).after run)).1 ↔
          (({} : Graph).after run).Reaches interface type) := by
  have sound := sound_after admitted
  refine ⟨sound.wellFormed.hierarchical.acyclic, ?_, ?_⟩
  · intro type parent admissible isOpen sameArena
    simp only [Operation.isAdmissible, Option.all_some, Bool.and_eq_true] at admissible
    exact setParent_reportsCycle_iff sound isOpen admissible.1 admissible.2 sameArena
  · intro type interface admissible isOpen sameArena
    simp only [Operation.isAdmissible, Option.all_some, Bool.and_eq_true, decide_eq_true_eq]
      at admissible
    exact addInterface_reportsCycle_iff sound isOpen admissible.2.1 sameArena

/-- A class below another one, which implements an interface. -/
def openChain : List Operation :=
  [.openArena {}, .newClass 0 "Upper" "m" .pub {}, .newClass 0 "Lower" "m" .pub {},
    .newInterface 0 "Mark" "m" .pub {}, .setParent 1 (some 0), .addInterface 0 (some 2)]

theorem acyclic_and_reportsCycle_iff_openChain :
    ({} : Graph).admits openChain = true ∧ (({} : Graph).after openChain).Acyclic ∧
      (ReportsCycle ((setParent 0 (some 1)).exec (({} : Graph).after openChain)).1 ↔
        (({} : Graph).after openChain).Reaches 1 0) ∧
      (ReportsCycle ((addInterface 1 (some 2)).exec (({} : Graph).after openChain)).1 ↔
        (({} : Graph).after openChain).Reaches 2 1) := by
  have admitted : ({} : Graph).admits openChain = true := by
    decide +kernel
  obtain ⟨acyclic, parents, interfaces⟩ := acyclic_and_reportsCycle_iff admitted
  refine ⟨admitted, acyclic, parents 0 1 ?_ ?_ ?_, interfaces 1 2 ?_ ?_ ?_⟩
  all_goals decide +kernel

/-! ## Sealed hierarchies -/

/-- After every run, everything above a sealed type is sealed, and the superclasses of a sealed
class end at a sealed root class. -/
theorem sealed_above_and_rooted {run : List Operation}
    (admitted : ({} : Graph).admits run = true) {type : TypeId}
    (isFinal : (({} : Graph).after run).isSealed type = true) :
    (∀ ancestor, (({} : Graph).after run).Reaches type ancestor →
        (({} : Graph).after run).isSealed ancestor = true) ∧
      (((({} : Graph).after run).typeAt type).isClass = true →
        (({} : Graph).after run).Lineage type ((({} : Graph).after run).parentChain type) ∧
        ∃ root, ((({} : Graph).after run).parentChain type).getLast? = some root ∧
          (({} : Graph).after run).isSealed root = true ∧
          ((({} : Graph).after run).typeAt root).isClass = true ∧
          ((({} : Graph).after run).typeAt root).parent? = none ∧
          ((({} : Graph).after run).typeAt root).properties.has .root = true) := by
  have hierarchical := (sound_after admitted).wellFormed.hierarchical
  refine ⟨fun ancestor path => hierarchical.isSealed_of_reaches isFinal path, ?_⟩
  intro isClass
  have lineage := hierarchical.lineage (lt_size_of_isSealed isFinal)
  have closed : ∀ {type parent},
      ((({} : Graph).after run).isSealed type = true ∧
        ((({} : Graph).after run).typeAt type).isClass = true) →
      ((({} : Graph).after run).typeAt type).parent? = some parent →
        (({} : Graph).after run).isSealed parent = true ∧
          ((({} : Graph).after run).typeAt parent).isClass = true :=
    fun inside link => ⟨hierarchical.sealedAbove inside.1 (extends_of_parent? link),
      hierarchical.parents link⟩
  obtain ⟨root, ends, ⟨rootFinal, rootIsClass⟩, parentless⟩ :=
    lineage.last closed ⟨isFinal, isClass⟩
  exact ⟨lineage, root, ends, rootFinal, rootIsClass, parentless,
    hierarchical.rooted rootFinal rootIsClass parentless⟩

theorem sealed_above_and_rooted_sealedPair :
    ({} : Graph).admits sealedPair = true ∧
      (({} : Graph).after sealedPair).isSealed 1 = true ∧
      ((({} : Graph).after sealedPair).typeAt 1).isClass = true ∧
      (∀ ancestor, (({} : Graph).after sealedPair).Reaches 1 ancestor →
        (({} : Graph).after sealedPair).isSealed ancestor = true) ∧
      ∃ root, ((({} : Graph).after sealedPair).parentChain 1).getLast? = some root ∧
        (({} : Graph).after sealedPair).isSealed root = true ∧
        ((({} : Graph).after sealedPair).typeAt root).properties.has .root = true := by
  have admitted : ({} : Graph).admits sealedPair = true := by
    decide +kernel
  have isFinal : (({} : Graph).after sealedPair).isSealed 1 = true := by
    decide +kernel
  have isClass : ((({} : Graph).after sealedPair).typeAt 1).isClass = true := by
    decide +kernel
  obtain ⟨above, rooted⟩ := sealed_above_and_rooted admitted isFinal
  obtain ⟨-, root, ends, rootFinal, -, -, hasRoot⟩ := rooted isClass
  exact ⟨admitted, isFinal, isClass, above, root, ends, rootFinal, hasRoot⟩

/-! ## Inheritance -/

/-- The members of a name that a class gives, closest first. -/
def Graph.lookUp (graph : Graph) (type : TypeId) (isStatic : Bool) (name : String) :
    List LoadedMember :=
  ((classMemberMapView type isStatic).exec graph).1.loadedByName graph name false

/-- A look-up in a sealed class is orderly exactly if the members that it gives would pass the check
against those that it gives from farther classes.  They do if all classes above would still pass the
check of their own members, and so they do after a timely run in an arena with checks. -/
theorem lookUp_orderly_iff {run : List Operation} (admitted : ({} : Graph).admits run = true)
    {type : TypeId} (isFinal : (({} : Graph).after run).isSealed type = true)
    (checksOn : ((({} : Graph).after run).settingsOf type).skipSanityChecks = false)
    {name : String} (stable : Text.IsStable name) (isStatic : Bool) :
    ((({} : Graph).after run).Orderly ((({} : Graph).after run).lookUp type isStatic name) ↔
      ∀ closer ∈ (({} : Graph).after run).lookUp type isStatic name,
        ∀ farther ∈ (({} : Graph).after run).lookUp type isStatic name,
          closer.rank < farther.rank →
            (({} : Graph).after run).inheritanceError? type closer.member farther.member = none) ∧
      ((∀ superclass ∈ (({} : Graph).after run).parentChain type,
          (({} : Graph).after run).Conforms superclass) →
        (({} : Graph).after run).Orderly ((({} : Graph).after run).lookUp type isStatic name)) ∧
      (({} : Graph).isTimely run = true →
        (({} : Graph).after run).Orderly ((({} : Graph).after run).lookUp type isStatic name)) := by
  have sound := sound_after admitted
  have present := lt_size_of_isSealed isFinal
  have answer := (Query.Answers.classMemberMap type isStatic _ sound).1
  unfold Graph.lookUp
  rw [answer]
  refine ⟨orderly_iff_inheritanceError? sound.wellFormed.membered type isStatic stable, ?_, ?_⟩
  · exact fun conforms => orderly_of_conforms sound.wellFormed present conforms isStatic stable
  · intro timely
    exact orderly_of_conforms sound.wellFormed present
      (fun superclass => conforms_after admitted timely checksOn) isStatic stable

/-- A method next to a less visible one of the parent with other parameters; both classes are
sealed. -/
def inheritedOverload : List Operation :=
  [.openArena {}, .newClass 0 "A" "m" .pub (.ofList [.root]), .newClass 0 "B" "m" .pub {},
    .setParent 1 (some 0),
    .newMember (.method none .prot false "f"
      [{ name := "n", type := some (.primitive .int) }] none),
    .declareMember 0 (some 0) false, .newMember (.method none .pub false "f" [] none),
    .declareMember 1 (some 1) false, .sealType 0, .sealType 1]

theorem lookUp_orderly_iff_inheritedOverload :
    ({} : Graph).admits inheritedOverload = true ∧
      ({} : Graph).isTimely inheritedOverload = true ∧
      (({} : Graph).after inheritedOverload).isSealed 1 = true ∧
      ((({} : Graph).after inheritedOverload).settingsOf 1).skipSanityChecks = false ∧
      Text.IsStable "f" ∧
      (({} : Graph).after inheritedOverload).Orderly
        ((({} : Graph).after inheritedOverload).lookUp 1 false "f") := by
  have admitted : ({} : Graph).admits inheritedOverload = true := by
    decide +kernel
  have timely : ({} : Graph).isTimely inheritedOverload = true := by
    decide +kernel
  have isFinal : (({} : Graph).after inheritedOverload).isSealed 1 = true := by
    decide +kernel
  have checksOn : ((({} : Graph).after inheritedOverload).settingsOf 1).skipSanityChecks
      = false := by
    decide +kernel
  have stable : Text.IsStable "f" := by
    decide +kernel
  exact ⟨admitted, timely, isFinal, checksOn, stable,
    (lookUp_orderly_iff admitted isFinal checksOn stable false).2.2 timely⟩

/-- A class takes a method after its subclass has declared a field of the same name; both are
sealed. -/
def lateMethod : List Operation :=
  [.openArena {}, .newClass 0 "A" "m" .pub (.ofList [.root]), .newClass 0 "B" "m" .pub {},
    .setParent 1 (some 0), .newMember (.field none .pub false false "x" none),
    .declareMember 1 (some 0) false, .newMember (.method none .pub false "x" [] none),
    .declareMember 0 (some 1) false, .sealType 0, .sealType 1]

/-- Without trust and with checks, a sealed class gives a field of its own and a method of its
parent. -/
theorem not_orderly_lateMethod :
    ({} : Graph).admits lateMethod = true ∧
      (∀ type, Operation.setTrusted type true ∉ lateMethod) ∧
      (({} : Graph).after lateMethod).isSealed 1 = true ∧
      ((({} : Graph).after lateMethod).settingsOf 1).skipSanityChecks = false ∧
      ¬ (({} : Graph).after lateMethod).Orderly
        ((({} : Graph).after lateMethod).lookUp 1 false "x") := by
  refine ⟨by decide +kernel, by simp [lateMethod], by decide +kernel, by decide +kernel, ?_⟩
  have given : ∀ loaded ∈ [LoadedMember.mk 0 0, LoadedMember.mk 1 1],
      loaded ∈ (({} : Graph).after lateMethod).lookUp 1 false "x" := by
    intro loaded listed
    refine ClassMemberMap.mem_loadedAtRank.mpr
      ⟨(({} : Graph).after lateMethod).keyOf loaded.member, ?_⟩
    revert loaded
    decide +kernel
  have isField : ((({} : Graph).after lateMethod).memberAt 0).kind = .field := by
    decide +kernel
  intro orderly
  rcases orderly.kinds with ⟨only, alone, -⟩ | methods
  · rw [alone] at given
    have field := List.mem_singleton.mp (given ⟨0, 0⟩ List.mem_cons_self)
    have method := List.mem_singleton.mp
      (given ⟨1, 1⟩ (List.mem_cons_of_mem _ List.mem_cons_self))
    cases field.trans method.symm
  · have isMethod := methods ⟨0, 0⟩ (given ⟨0, 0⟩ List.mem_cons_self)
    rw [isField] at isMethod
    cases isMethod

/-! ## Access -/

/-- A look-up that gives a declaring type has found a member of that type above the type that it was
asked for.  The visibility of the member admits the reference, unless the member is leaked. -/
theorem checkMemberAccess_admits_iff_not_leaks {run : List Operation}
    (admitted : ({} : Graph).admits run = true) {reference : TypeRef} {name : String}
    {site : AccessSite} {isStatic : Bool} {declaring : TypeId}
    (given : ((checkMemberAccess reference name site isStatic).exec (({} : Graph).after run)).1
      = .ok declaring) :
    ∃ owner, reference.memberOwner? = some owner ∧
      (({} : Graph).after run).Reaches owner declaring ∧
      ∃ member ∈ ((({} : Graph).after run).typeAt declaring).declaredByName
          (Text.canonical name) isStatic,
        ((({} : Graph).after run).memberAt member).visibility ≠ .hidden ∧
        ((({} : Graph).after run).AdmitsMember declaring member site ↔
          ¬ (({} : Graph).after run).LeaksMember owner (Text.canonical name) site isStatic
            declaring member) := by
  obtain ⟨owner, owned, above, member, declared, visible, access⟩ :=
    (checkMemberAccess_inspects (sound_after admitted) reference).given declaring given
  refine ⟨owner, owned, above, member, declared, visible, ?_, access.resolve_right⟩
  intro admits leaks
  rw [AdmitsMember, leaks.reserved] at admits
  exact leaks.foreign admits

/-- A trusted class with a private field below a class of its module, whose parent in another module
reserves a field of the same name to that module. -/
def reservedField : List Operation :=
  [.openArena {}, .newClass 0 "A" "a" .pub (.ofList [.root]), .newClass 0 "R" "b" .pub {},
    .newClass 0 "T" "b" .pub {}, .setTrusted 2 true, .setParent 1 (some 0), .setParent 2 (some 1),
    .newMember (.field none .moduleOnly false false "x" none), .declareMember 0 (some 0) false,
    .newMember (.field none .priv false false "x" none), .declareMember 2 (some 1) false,
    .sealType 0, .sealType 1, .sealType 2]

theorem checkMemberAccess_admits_iff_not_leaks_reservedField :
    ({} : Graph).admits reservedField = true ∧
      ((checkMemberAccess (.nominal 2) "x" { referencing := some 2 } false).exec
        (({} : Graph).after reservedField)).1 = .ok 2 ∧
      ∃ owner, (TypeRef.nominal 2).memberOwner? = some owner ∧
        (({} : Graph).after reservedField).Reaches owner 2 ∧
        ∃ member ∈ ((({} : Graph).after reservedField).typeAt 2).declaredByName
            (Text.canonical "x") false,
          ((({} : Graph).after reservedField).memberAt member).visibility ≠ .hidden ∧
          ((({} : Graph).after reservedField).AdmitsMember 2 member { referencing := some 2 } ↔
            ¬ (({} : Graph).after reservedField).LeaksMember owner (Text.canonical "x")
              { referencing := some 2 } false 2 member) := by
  have admitted : ({} : Graph).admits reservedField = true := by
    decide +kernel
  have given : ((checkMemberAccess (.nominal 2) "x" { referencing := some 2 } false).exec
      (({} : Graph).after reservedField)).1 = .ok 2 := by
    decide +kernel
  exact ⟨admitted, given, checkMemberAccess_admits_iff_not_leaks admitted given⟩

/-- Class `R` is given the field of `A` through `T`, although it is reserved to another module. -/
theorem checkMemberAccess_leaks_reservedField :
    ({} : Graph).admits reservedField = true ∧
      ((checkMemberAccess (.nominal 2) "x" { referencing := some 1 } false).exec
        (({} : Graph).after reservedField)).1 = .ok 0 ∧
      ∀ member ∈ ((({} : Graph).after reservedField).typeAt 0).declaredByName
          (Text.canonical "x") false,
        ¬ (({} : Graph).after reservedField).AdmitsMember 0 member { referencing := some 1 } := by
  refine ⟨by decide +kernel, by decide +kernel, ?_⟩
  intro member declared
  have only : ((({} : Graph).after reservedField).typeAt 0).declaredByName
      (Text.canonical "x") false = [0] := by
    decide +kernel
  have reserved : ((({} : Graph).after reservedField).memberAt 0).visibility = .moduleOnly := by
    decide +kernel
  rw [only, List.mem_singleton] at declared
  subst declared
  rw [AdmitsMember, reserved]
  decide +kernel

end Nominal
