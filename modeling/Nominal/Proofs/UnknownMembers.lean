import Nominal.Proofs.HiddenMembers
import Nominal.Proofs.MergedMembers
import Nominal.Proofs.VisibleMembers

/-!
# Unknown members

A reference to a member is refused as unknown exactly if its composed name is not among the names of
the members of the type, which are the names that the refusal suggests.  The look-up decides this
from the members that it loads, and the names are listed from what the types declare; for a class,
for the instance members and for the static members of an interface, both come to the same.

A reference to a known name is granted, or refused because of the visibility of a member of a class.
No look-up aborts.
-/

namespace Nominal

open Nominal.Graph

/-! ## How a look-up ends -/

/-- The outcome of a computation that starts with a graph satisfies a condition. -/
def Build.Concludes {α : Type} (build : Build α) (graph : Graph)
    (condition : Except Failure α → Prop) : Prop :=
  condition (build.exec graph).1

namespace Build.Concludes

variable {α β : Type} {graph : Graph} {condition : Except Failure β → Prop}

theorem of_exec {build : Build β} {outcome : Except Failure β} {left : Graph}
    (run : build.exec graph = (outcome, left)) (holds : condition outcome) :
    build.Concludes graph condition := by
  rw [Concludes, run]
  exact holds

theorem bind_of_ok {build : Build α} {value : α} {left : Graph} {next : α → Build β}
    (run : build.exec graph = (.ok value, left))
    (concludes : (next value).Concludes left condition) :
    Build.Concludes (build >>= next) graph condition := by
  rw [Concludes, Build.exec_bind_of_ok run]
  exact concludes

theorem get_bind {next : Graph → Build β} (concludes : (next graph).Concludes graph condition) :
    Build.Concludes (get >>= next) graph condition :=
  concludes

theorem lift_bind {query : Query α} {value : Graph → α} (answers : query.Answers value)
    (sound : graph.Sound) {next : α → Build β}
    (concludes : ∀ left, graph.Reads left → (next (value graph)).Concludes left condition) :
    Build.Concludes (liftM query >>= next) graph condition := by
  obtain ⟨answered, read⟩ := answers graph sound
  have rest := concludes _ read
  rw [← answered] at rest
  exact rest

end Build.Concludes

/-- How a look-up of a name can end on a type with some names of members. -/
inductive Verdict (names : List String) (reference : TypeRef) (name : String)
    (isStatic isClass : Bool) : Except Failure TypeId → Prop where
  | granted {declaring : TypeId} (known : name ∈ names) :
      Verdict names reference name isStatic isClass (.ok declaring)
  | refused {type : TypeId} {member : MemberId} {referencing : Option TypeId}
      (known : name ∈ names) (ofClass : isClass = true) :
      Verdict names reference name isStatic isClass
        (.error (.rejected (.illegalMemberAccess type member referencing)))
  | unknown (absent : name ∉ names) :
      Verdict names reference name isStatic isClass
        (.error (.rejected (.unknownMember reference name isStatic names)))

variable {graph : Graph} {type : TypeId} {name : String} {site : AccessSite} {isStatic : Bool}

/-! ## Names -/

namespace Graph

theorem identifiersOf_eq_eraseDups (members : List MemberId) :
    graph.identifiersOf members
      = (members.map fun member => (graph.memberAt member).identifier).eraseDups := by
  rw [← foldl_keepFirst_nil, List.foldl_map]
  rfl

theorem mem_identifiersOf {members : List MemberId} :
    name ∈ graph.identifiersOf members ↔
      ∃ member ∈ members, (graph.memberAt member).identifier = name := by
  rw [identifiersOf_eq_eraseDups, List.mem_eraseDups, List.mem_map]

theorem namesOf_eq_of_reads {left : Graph} (sound : graph.Sound) (read : graph.Reads left)
    (type : TypeId) (isStatic : Bool) :
    left.namesOf type isStatic = graph.namesOf type isStatic := by
  have merged : InterfaceMemberMap.ofInterface left type
      = InterfaceMemberMap.ofInterface graph type :=
    value_eq_of_bare read.bare sound.wellFormed .interfaceMemberMap type
  have agree := sound.wellFormed.agreeOn_of_eq (types_eq_of_bare read.bare)
    (members_eq_of_bare read.bare)
  have same : (ClassMemberMap.ofClass graph type isStatic).names left
      = (ClassMemberMap.ofClass graph type isStatic).names graph :=
    ClassMemberMap.names_congr (agree.sameMembers trivial isStatic)
  have identifiers : left.identifiersOf = graph.identifiersOf := by
    funext members
    simp only [identifiersOf, memberAt_eq_of_bare read.bare]
  simp only [namesOf, typeAt_eq_of_bare read.bare, ofClass_eq_of_reads sound read, same, merged,
    identifiers]

/-- The names of a class are those of the members that the classes of its chain declare and do not
hide. -/
theorem mem_namesOf_class (membered : graph.Membered) (isClass : (graph.typeAt type).isClass = true)
    (composed : Text.canonical name = name) :
    name ∈ graph.namesOf type isStatic ↔ ∃ declaring ∈ graph.parentChain type,
      ∃ member ∈ (graph.typeAt declaring).declaredByName name isStatic,
        (graph.memberAt member).visibility ≠ .hidden := by
  rw [namesOf, if_pos isClass, ClassMemberMap.mem_names]
  constructor
  · rintro ⟨level, ranked, bucket, inTable, member, inBucket, visible⟩
    obtain ⟨declaring, above, rfl⟩ := List.mem_map.mp ranked
    have found := Table.get?_eq_some_of_mem (membered.distinct declaring isStatic) inTable
    refine ⟨declaring, above, member, ?_, visible⟩
    rw [NominalType.declaredByName, composed, found]
    exact inBucket
  · rintro ⟨declaring, above, member, declared, visible⟩
    rw [NominalType.declaredByName, composed] at declared
    cases found : ((graph.typeAt declaring).declared isStatic).get? name with
    | none => simp [found] at declared
    | some bucket =>
        rw [found, Option.getD_some] at declared
        exact ⟨_, List.mem_map.mpr ⟨declaring, above, rfl⟩, bucket,
          Table.mem_of_get?_eq_some found, member, declared, visible⟩

/-- A look-up loads nothing exactly if the name is not among those of the class. -/
theorem closestByName?_eq_none_iff (membered : graph.Membered)
    (isClass : (graph.typeAt type).isClass = true) (composed : Text.canonical name = name) :
    (ClassMemberMap.ofClass graph type isStatic).closestByName? graph name true = none ↔
      name ∉ graph.namesOf type isStatic := by
  have stable : Text.IsStable name := Text.isStable_of_canonical_eq composed
  rw [mem_namesOf_class membered isClass composed, ← not_iff_not, not_not]
  constructor
  · intro loads
    obtain ⟨loaded, first⟩ := Option.ne_none_iff_exists'.mp loads
    obtain ⟨place, declaring, above, declared, takes, -⟩ :=
      declared_of_mem_loadedAtRank membered 0 (List.mem_of_head? first)
    exact ⟨declaring, List.mem_of_getElem? above, loaded.member, declared,
      visible_of_takesPart takes⟩
  · rintro ⟨declaring, above, member, declared, visible⟩ nothing
    obtain ⟨rank, inside, rfl⟩ := List.mem_iff_getElem.mp above
    have found : (ClassMemberMap.ofClass graph type isStatic).typeAtRank? rank
        = some (graph.parentChain type)[rank] := by
      rw [ClassMemberMap.typeAtRank?_ofClass, List.getElem?_eq_getElem inside]
    have offers : ClassMemberMap.Offers graph (ClassMemberMap.ofClass graph type isStatic) 0 name
        true rank member :=
      ⟨Nat.zero_le rank, ⟨_, found, declared⟩, visible, .inr (.inl rfl)⟩
    obtain ⟨loaded, listed, -⟩ := exists_loaded_of_offers membered stable offers
    have empty : (ClassMemberMap.ofClass graph type isStatic).loadedByName graph name true = [] :=
      List.head?_eq_none_iff.mp nothing
    rw [ClassMemberMap.loadedByName] at empty
    simp [empty] at listed

/-- Whatever class a class reaches is one of its superclasses. -/
theorem mem_parentChain_of_reaches (sound : graph.Sound)
    (isClass : (graph.typeAt type).isClass = true) {superclass : TypeId}
    (above : graph.Reaches type superclass)
    (ofClass : (graph.typeAt superclass).isClass = true) :
    superclass ∈ graph.parentChain type := by
  have hierarchical := sound.wellFormed.hierarchical
  induction above using Relation.ReflTransGen.head_induction_on with
  | refl => exact self_mem_parentChain (lt_size_of_isClass isClass)
  | @head type next link above induction =>
      rcases List.mem_append.mp link with parent | interface
      · have isParent : (graph.typeAt type).parent? = some next := by
          simpa using parent
        have listed := induction (hierarchical.parents isParent)
        exact sound.wellFormed.mem_parentChain_of_parent (lt_size_of_isClass isClass) isParent
          listed
      · have isInterface := isInterface_of_reaches sound (hierarchical.interfaces interface) above
        rw [isInterface] at ofClass
        cases ofClass

/-- A look-up on an interface finds nothing exactly if the name is not among its names. -/
theorem interfaceMember?_eq_none_iff (sound : graph.Sound) (inPlace : graph.MembersInPlace)
    (isInterface : (graph.typeAt type).isClass = false) (composed : Text.canonical name = name) :
    graph.interfaceMember? type name isStatic = none ↔ name ∉ graph.namesOf type isStatic := by
  have notClass : ¬ (graph.typeAt type).isClass = true := by
    simp [isInterface]
  rw [namesOf, if_neg notClass, interfaceMember?]
  cases isStatic with
  | true =>
      simp only [if_true]
      rw [List.head?_eq_none_iff, NominalType.declaredByName, composed, ← Table.get?_eq_none_iff]
      cases found : ((graph.typeAt type).declared true).get? name with
      | none => simp
      | some bucket =>
          have filled := (inPlace.buckets type true _ (Table.mem_of_get?_eq_some found)).filled
          simpa using filled
  | false =>
      obtain ⟨order, preOrder⟩ := graph.exists_preOrder [] [type]
      have merges := inPlace.merges_ofInterface sound isInterface preOrder
      simp only [Bool.false_eq_true, if_false]
      rw [List.head?_eq_none_iff, InterfaceMemberMap.membersByName, merges.names, composed,
        List.filter_eq_nil_iff, mem_identifiersOf]
      simp

end Graph

/-! ## Look-ups -/

theorem rejectUnknownMember_concludes {left : Graph} (sound : graph.Sound)
    (read : graph.Reads left) {isClass : Bool} (absent : name ∉ graph.namesOf type isStatic) :
    (rejectUnknownMember (.nominal type) name isStatic : Build TypeId).Concludes left
      (Verdict (graph.namesOf type isStatic) (.nominal type) name isStatic isClass) := by
  have names : ((nominalMemberNames type isStatic).exec left).1 = graph.namesOf type isStatic :=
    (nominalMemberNames_answers type isStatic left read.sound).1.trans
      (namesOf_eq_of_reads sound read type isStatic)
  have run : ((rejectUnknownMember (.nominal type) name isStatic : Build TypeId).exec left).1
      = .error (.rejected (.unknownMember (.nominal type) name isStatic
          ((nominalMemberNames type isStatic).exec left).1)) := rfl
  rw [Build.Concludes, run, names]
  exact .unknown absent

/-- A class that loads a member of a name grants the reference or refuses it. -/
theorem checkLoadedMember_concludes (sound : graph.Sound)
    (isClass : (graph.typeAt type).isClass = true) (composed : Text.canonical name = name) :
    (checkLoadedMember type name site isStatic).Concludes graph
      (Verdict (graph.namesOf type isStatic) (.nominal type) name isStatic true) := by
  have membered := sound.wellFormed.membered
  have loads : (ClassMemberMap.ofClass graph type isStatic).closestByName? graph name true = none ↔
      name ∉ graph.namesOf type isStatic :=
    closestByName?_eq_none_iff membered isClass composed
  unfold checkLoadedMember
  refine .lift_bind (Query.Answers.classMemberMap type isStatic) sound ?_
  intro left read
  refine .get_bind ?_
  have same : (ClassMemberMap.ofClass graph type isStatic).closestByName? left name true
      = (ClassMemberMap.ofClass graph type isStatic).closestByName? graph name true :=
    congrArg List.head? (loadedByName_eq_of_reads sound read type isStatic name true)
  rw [same]
  cases first : (ClassMemberMap.ofClass graph type isStatic).closestByName? graph name true with
  | none => exact rejectUnknownMember_concludes sound read (loads.mp first)
  | some closest =>
      have known : name ∈ graph.namesOf type isStatic := by
        by_contra absent
        rw [loads.mpr absent] at first
        cases first
      obtain ⟨place, declaring, placed, declared, takes, owner⟩ :=
        declared_of_mem_loadedAtRank membered 0 (List.mem_of_head? first)
      have visible := visible_of_takesPart takes
      rw [← memberAt_eq_of_bare read.bare] at owner visible
      dsimp only
      refine .bind_of_ok (exec_definingTypeOf owner) ?_
      cases visibility : (left.memberAt closest.member).visibility with
      | pub => exact .granted known
      | prot =>
          dsimp only
          cases site.referencing with
          | none => exact .refused known rfl
          | some referencing =>
              refine .lift_bind (nominalDerivesFrom_answers referencing declaring) read.sound ?_
              intro last readLast
              split
              · exact .granted known
              · exact .refused known rfl
      | moduleOnly =>
          dsimp only
          split
          · exact .granted known
          · exact .refused known rfl
      | priv =>
          dsimp only
          split
          · exact .granted known
          · cases found : (site.referencingClass? left).bind (superclassMember? left
                (ClassMemberMap.ofClass graph type isStatic) · name) with
            | none => exact .refused known rfl
            | some member =>
                obtain ⟨referencing, -, seen⟩ := Option.bind_eq_some_iff.mp found
                rw [← ofClass_eq_of_reads sound read] at seen
                obtain ⟨-, owning, -, -, -, ownerOfSeen, -⟩ :=
                  declared_of_superclassMember? read.sound.wellFormed.membered seen
                exact .of_exec (exec_definingTypeOf ownerOfSeen) (.granted known)
      | hidden => exact absurd visibility visible

/-- A class whose own private member takes precedence declares a member of the name. -/
theorem checkClassMember_concludes (sound : graph.Sound)
    (isClass : (graph.typeAt type).isClass = true) (composed : Text.canonical name = name) :
    (checkClassMember type name site isStatic).Concludes graph
      (Verdict (graph.namesOf type isStatic) (.nominal type) name isStatic true) := by
  have loaded : ∀ {left : Graph}, graph.Reads left →
      (checkLoadedMember type name site isStatic).Concludes left
        (Verdict (graph.namesOf type isStatic) (.nominal type) name isStatic true) := by
    intro left read
    have stays : (left.typeAt type).isClass = true := by
      rw [typeAt_eq_of_bare read.bare]
      exact isClass
    rw [← namesOf_eq_of_reads sound read]
    exact checkLoadedMember_concludes read.sound stays composed
  unfold checkClassMember
  refine .get_bind ?_
  split
  next referencing inBody =>
    have ofClass : (graph.typeAt referencing).isClass = true := by
      split at inBody
      · exact (Option.filter_eq_some_iff.mp inBody).2
      · cases inBody
    refine .lift_bind (nominalDerivesFrom_answers type referencing) sound ?_
    intro left read
    split
    next derives =>
      split
      next own rest declared =>
        split
        next secret =>
          have above : referencing ∈ graph.parentChain type :=
            mem_parentChain_of_reaches sound isClass (reaches_of_derives derives) ofClass
          refine .of_exec rfl (.granted ?_)
          refine (mem_namesOf_class sound.wellFormed.membered isClass composed).mpr
            ⟨referencing, above, own, ?_, ?_⟩
          · rw [declared]
            exact List.mem_cons_self
          · rw [secret]
            exact nofun
        next => exact loaded read
      next => exact loaded read
    next => exact loaded read
  next => exact loaded (.refl sound)

theorem checkNominalMember_concludes (sound : graph.Sound) (inPlace : graph.MembersInPlace)
    (composed : Text.canonical name = name) :
    (checkNominalMember type name site isStatic).Concludes graph
      (Verdict (graph.namesOf type isStatic) (.nominal type) name isStatic
        (graph.typeAt type).isClass) := by
  unfold checkNominalMember
  refine .get_bind ?_
  split
  next isClass =>
    rw [isClass]
    exact checkClassMember_concludes sound isClass composed
  next notClass =>
    have isInterface : (graph.typeAt type).isClass = false := by
      simpa using notClass
    have finds : graph.interfaceMember? type name isStatic = none ↔
        name ∉ graph.namesOf type isStatic :=
      interfaceMember?_eq_none_iff sound inPlace isInterface composed
    refine .lift_bind (interfaceMemberByName?_answers type name isStatic) sound ?_
    intro left read
    split
    next member found =>
      obtain ⟨declaring, owner, -⟩ : ∃ declaring,
          (graph.memberAt member).definingType = some declaring ∧
            graph.Grants type name site isStatic declaring :=
        interfaceMember?_grants sound isInterface found
      rw [← memberAt_eq_of_bare read.bare] at owner
      refine .of_exec (exec_definingTypeOf owner) (.granted ?_)
      by_contra absent
      rw [finds.mpr absent] at found
      cases found
    next nothing =>
      exact rejectUnknownMember_concludes sound read (finds.mp nothing)

/-- A look-up on any type is one on the declared type whose members it offers, if there is one. -/
theorem checkMemberAccess_concludes (sound : graph.Sound) (inPlace : graph.MembersInPlace)
    (reference : TypeRef) (stable : Text.IsStable name) :
    (checkMemberAccess reference name site isStatic).Concludes graph
      (Verdict ((memberNames reference isStatic).exec graph).1
        (reference.memberOwner?.elim reference .nominal) (Text.canonical name) isStatic
        (reference.memberOwner?.elim false fun owner => (graph.typeAt owner).isClass)) := by
  have nominal : ∀ type, (checkNominalMember type (Text.canonical name) site isStatic).Concludes
      graph (Verdict ((nominalMemberNames type isStatic).exec graph).1 (.nominal type)
        (Text.canonical name) isStatic (graph.typeAt type).isClass) := by
    intro type
    rw [(nominalMemberNames_answers type isStatic graph sound).1]
    exact checkNominalMember_concludes sound inPlace stable
  cases reference with
  | primitive kind => exact .unknown List.not_mem_nil
  | nominal type => exact nominal type
  | array element base =>
      cases base with
      | none => exact .unknown List.not_mem_nil
      | some base => exact nominal base

/-- After every run, a look-up of a member on any type does not abort.  It reports an unknown member
exactly if the composed name is not among the names of the members of the type, and then lists these
names; on an interface it reports nothing else. -/
theorem checkMemberAccess_unknown_iff {run : List Operation}
    (admitted : ({} : Graph).admits run = true)
    (stable : ∀ member, Operation.newMember member ∈ run → Text.IsStable member.identifier)
    (reference : TypeRef) {name : String} (stableName : Text.IsStable name) (site : AccessSite)
    (isStatic : Bool) :
    let graph := ({} : Graph).after run
    let names := ((memberNames reference isStatic).exec graph).1
    let outcome := ((checkMemberAccess reference name site isStatic).exec graph).1
    (∀ failure, outcome = .error failure → ∃ error, failure = .rejected error) ∧
      ((∃ source asked askedStatic listed,
          outcome = .error (.rejected (.unknownMember source asked askedStatic listed))) ↔
        Text.canonical name ∉ names) ∧
      (∀ source asked askedStatic listed,
        outcome = .error (.rejected (.unknownMember source asked askedStatic listed)) →
          asked = Text.canonical name ∧ askedStatic = isStatic ∧ listed = names) ∧
      ∀ owner, reference.memberOwner? = some owner → (graph.typeAt owner).isClass = false →
        ∀ error, outcome = .error (.rejected error) →
          ∃ source asked askedStatic listed,
            error = .unknownMember source asked askedStatic listed := by
  intro graph names outcome
  have verdict : Verdict names _ _ _ _ outcome :=
    checkMemberAccess_concludes (sound_after admitted) (membersInPlace_after admitted stable)
      reference stableName
  clear_value outcome
  cases verdict with
  | granted known =>
      refine ⟨nofun, ⟨nofun, fun absent => absurd known absent⟩, nofun, nofun⟩
  | refused known ofClass =>
      refine ⟨fun failure ended => ⟨_, (Except.error.inj ended).symm⟩,
        ⟨nofun, fun absent => absurd known absent⟩, nofun, ?_⟩
      intro owner owned isInterface
      rw [owned] at ofClass
      rw [Option.elim_some, isInterface] at ofClass
      cases ofClass
  | unknown absent =>
      refine ⟨fun failure ended => ⟨_, (Except.error.inj ended).symm⟩,
        ⟨fun _ => absent, fun _ => ⟨_, _, _, _, rfl⟩⟩, ?_, ?_⟩
      · intro source asked askedStatic listed ended
        cases ended
        exact ⟨rfl, rfl, rfl⟩
      · intro owner _ _ error ended
        cases ended
        exact ⟨_, _, _, _, rfl⟩

/-- A class whose field is hidden, and an interface with a static method. -/
def hiddenField : List Operation :=
  hiddenOverride ++
    [.newInterface 0 "Mark" "m" .pub {}, .newMember (.method none .pub true "make" [] none),
      .declareMember 2 (some 3) true]

/-- The hidden field is unknown, and so is the static method among the instance members. -/
theorem checkMemberAccess_unknown_iff_hiddenField :
    ({} : Graph).admits hiddenField = true ∧
      (∀ member, Operation.newMember member ∈ hiddenField → Text.IsStable member.identifier) ∧
      Text.IsStable "x" ∧ Text.IsStable "make" ∧
      (∃ source asked askedStatic listed,
        ((checkMemberAccess (.nominal 1) "x" {} false).exec (({} : Graph).after hiddenField)).1
          = .error (.rejected (.unknownMember source asked askedStatic listed))) ∧
      ((∃ source asked askedStatic listed,
        ((checkMemberAccess (.nominal 2) "make" {} false).exec (({} : Graph).after hiddenField)).1
          = .error (.rejected (.unknownMember source asked askedStatic listed))) ∧
      ¬ ∃ source asked askedStatic listed,
        ((checkMemberAccess (.nominal 2) "make" {} true).exec (({} : Graph).after hiddenField)).1
          = .error (.rejected (.unknownMember source asked askedStatic listed))) := by
  have admitted : ({} : Graph).admits hiddenField = true := by
    decide +kernel
  have stable : ∀ member, Operation.newMember member ∈ hiddenField →
      Text.IsStable member.identifier := by
    intro member created
    simp only [hiddenField, hiddenOverride, List.cons_append, List.nil_append, List.mem_cons,
      List.not_mem_nil, or_false, reduceCtorEq, false_or, Operation.newMember.injEq] at created
    rcases created with rfl | rfl | rfl | rfl
    all_goals decide +kernel
  have field : Text.IsStable "x" := by
    decide +kernel
  have method : Text.IsStable "make" := by
    decide +kernel
  have onClass := checkMemberAccess_unknown_iff admitted stable (.nominal 1) field {} false
  have onInstance := checkMemberAccess_unknown_iff admitted stable (.nominal 2) method {} false
  have onStatic := checkMemberAccess_unknown_iff admitted stable (.nominal 2) method {} true
  refine ⟨admitted, stable, field, method, onClass.2.1.mpr ?_, onInstance.2.1.mpr ?_, ?_⟩
  · decide +kernel
  · decide +kernel
  · intro unknown
    exact onStatic.2.1.mp unknown (by decide +kernel)

end Nominal
