import Nominal.Proofs.MemberKeys
import Nominal.Proofs.UnknownMembers

/-!
# Methods with exact parameter types

A method is found by its name and the exact types of its parameters.  What is searched are the
members of the name that are visible on the type, and these have different keys.  Parameter lists
that mean the same are written alike, so two visible methods that match one list have one key: there
is at most one, and it does not matter in which order the visible members are searched.

In a class a method takes the place of those farther away that have its key.  So an override that is
visible is found, and what it overrides is not visible.
-/

namespace Nominal

open Nominal.Graph

namespace Graph

open ClassMemberMap

variable {graph : Graph}

/-- The members of a name visible on a type: what a class sees, what an interface declares itself or
has merged, and what the base class of an array sees. -/
def visibleOn (graph : Graph) (reference : TypeRef) (name : String) (isStatic : Bool) :
    List MemberId :=
  match reference.memberOwner? with
  | none => []
  | some owner =>
    if (graph.typeAt owner).isClass then ((classMembersByName owner name isStatic).exec graph).1
    else if isStatic then (graph.typeAt owner).declaredByName name true
    else ((interfaceMembersByName owner name).exec graph).1

/-- On a class, and on an array whose base is a class, the members that the class sees are
visible. -/
theorem visibleOn_of_isClass (sound : graph.Sound) {reference : TypeRef} {owner : TypeId}
    (owned : reference.memberOwner? = some owner) (isClass : (graph.typeAt owner).isClass = true)
    {name : String} {isStatic : Bool} :
    graph.visibleOn reference name isStatic
      = ((ClassMemberMap.ofClass graph owner isStatic).loadedByName graph name false).map
          (·.member) := by
  unfold visibleOn
  rw [owned]
  dsimp only
  rw [if_pos isClass, (classMembersByName_answers owner name isStatic graph sound).1]

/-- A member is a method whose parameters, apart from a leading receiver, have exactly the given
types; a parameter whose type is left open corresponds to an absent type. -/
structure MatchesExactly (graph : Graph) (types : List (Option TypeRef)) (member : MemberId) :
    Prop where
  method : (graph.memberAt member).kind = .method
  types : List.Forall₂ (Option.Rel fun type other => type.same other = true)
    (graph.memberAt member).explicitTypes types

/-! ## The test of a candidate -/

theorem matchesStrictly_iff (parameters types : List (Option TypeRef)) :
    matchesStrictly parameters types = true ↔
      List.Forall₂ (Option.Rel fun type other => type.same other = true) parameters types := by
  induction parameters generalizing types with
  | nil =>
      cases types with
      | nil => exact iff_of_true rfl .nil
      | cons type types => exact iff_of_false Bool.false_ne_true nofun
  | cons parameter parameters ih =>
      cases types with
      | nil => exact iff_of_false Bool.false_ne_true nofun
      | cons type types =>
          rw [List.forall₂_cons, ← ih types]
          cases parameter <;> cases type <;> simp [matchesStrictly]

/-- What the search tests of a candidate is that it matches. -/
theorem matchesExactly_iff {types : List (Option TypeRef)} {member : MemberId} :
    ((graph.memberAt member).kind == .method
        && matchesStrictly ((graph.memberAt member).callTypes false) types) = true ↔
      graph.MatchesExactly types member := by
  rw [Bool.and_eq_true, beq_iff_eq, matchesStrictly_iff]
  exact ⟨fun ⟨method, types⟩ => ⟨method, types⟩, fun ⟨method, types⟩ => ⟨method, types⟩⟩

instance (graph : Graph) (types : List (Option TypeRef)) (member : MemberId) :
    Decidable (graph.MatchesExactly types member) :=
  decidable_of_iff _ matchesExactly_iff

/-- Methods of one name that match the same types have the same key. -/
theorem MatchesExactly.keyOf_eq {types : List (Option TypeRef)} {first second : MemberId}
    (matched : graph.MatchesExactly types first) (otherMatched : graph.MatchesExactly types second)
    (named : (graph.memberAt first).identifier = (graph.memberAt second).identifier) :
    graph.keyOf first = graph.keyOf second := by
  have written : ∀ {member : MemberId}, graph.MatchesExactly types member →
      types.map graph.qualifiedNameOf
        = (graph.memberAt member).explicitTypes.map graph.qualifiedNameOf := by
    intro member matched
    refine Mirror.map_eq_of_forall₂ matched.types ?_
    rintro _ _ (same | _)
    · exact (qualifiedName_eq_of_same graph same).symm
    · rfl
  have kinds := matched.method.trans otherMatched.method.symm
  refine (Member.key_eq_iff graph kinds ?_).mpr ⟨congrArg Text.canonical named, ?_⟩
  · rw [matched.method]
    rfl
  · rw [Member.signature_eq, Member.signature_eq, ← written matched, ← written otherMatched]

/-! ## The visible members of a name -/

/-- Members have one name and different keys. -/
structure OneName (graph : Graph) (name : String) (members : List MemberId) : Prop where
  named : ∀ member ∈ members, (graph.memberAt member).identifier = name
  keys : (members.map graph.keyOf).Nodup

/-- What is declared under a name has this name and different keys. -/
theorem MembersInPlace.oneName_declaredByName (inPlace : graph.MembersInPlace) (type : TypeId)
    (name : String) (isStatic : Bool) :
    graph.OneName (Text.canonical name) ((graph.typeAt type).declaredByName name isStatic) := by
  unfold NominalType.declaredByName
  cases found : ((graph.typeAt type).declared isStatic).get? (Text.canonical name) with
  | none => exact ⟨nofun, List.nodup_nil⟩
  | some bucket =>
      have place := inPlace.buckets type isStatic _ (Table.mem_of_get?_eq_some found)
      exact ⟨place.named, List.pairwise_map.mpr place.keys⟩

theorem mem_loadedByName_offered {type : TypeId} {isStatic : Bool} {name : String}
    {member : MemberId}
    (listed : member ∈ ((ClassMemberMap.ofClass graph type isStatic).loadedByName graph name
      false).map (·.member)) :
    ∃ rank, (ClassMemberMap.ofClass graph type isStatic).Offers graph 0 name false rank member ∧
      ∀ closer, closer < rank → ∀ other,
        (ClassMemberMap.ofClass graph type isStatic).Offers graph 0 name false closer other →
          graph.keyOf other ≠ graph.keyOf member := by
  obtain ⟨loaded, inView, rfl⟩ := List.mem_map.mp listed
  obtain ⟨key, held⟩ := ClassMemberMap.mem_loadedAtRank.mp inView
  obtain ⟨named, place, -, takes, closest⟩ := ClassMemberMap.takesPartAt_of_mem_mergeLevels held
  dsimp only at named takes closest
  have offers := ClassMemberMap.takesPartAt_buckets_iff.mp takes
  rw [Nat.zero_add] at offers
  refine ⟨place, offers, fun closer before other offered => ?_⟩
  rw [← named]
  refine closest closer before other (ClassMemberMap.takesPartAt_buckets_iff.mpr ?_)
  rwa [Nat.zero_add]

/-- What a class sees under a name has this name and different keys. -/
theorem MembersInPlace.oneName_loadedByName (inPlace : graph.MembersInPlace) (type : TypeId)
    (name : String) (isStatic : Bool) :
    graph.OneName (Text.canonical name)
      (((ClassMemberMap.ofClass graph type isStatic).loadedByName graph name false).map
        (·.member)) := by
  constructor
  · intro member listed
    obtain ⟨rank, offers, -⟩ := mem_loadedByName_offered listed
    obtain ⟨declaring, -, declared⟩ := offers.declared
    exact (inPlace.oneName_declaredByName declaring name isStatic).named member declared
  · rw [List.map_map]
    exact nodup_keys_loadedAtRank graph _ 0 name false

/-- What an interface has merged under a name has this name and different keys. -/
theorem MembersInPlace.oneName_membersByName (inPlace : graph.MembersInPlace) (sound : graph.Sound)
    {type : TypeId} (isInterface : (graph.typeAt type).isClass = false) (name : String) :
    graph.OneName (Text.canonical name)
      ((InterfaceMemberMap.ofInterface graph type).membersByName name) := by
  obtain ⟨order, preOrder⟩ := graph.exists_preOrder [] [type]
  have merges := inPlace.merges_ofInterface sound isInterface preOrder
  rw [InterfaceMemberMap.membersByName, merges.names]
  constructor
  · intro member listed
    simpa using (List.mem_filter.mp listed).2
  · refine List.Nodup.sublist (List.filter_sublist.map _) ?_
    have keyed : (InterfaceMemberMap.ofInterface graph type).allMembers.map graph.keyOf
        = (InterfaceMemberMap.ofInterface graph type).members.keys := by
      rw [InterfaceMemberMap.allMembers, Table.values, Table.keys, List.map_map, List.map_map]
      apply List.map_congr_left
      intro entry held
      obtain ⟨-, -, -, named⟩ :=
        merges.exists_first inPlace (Table.get?_eq_some_of_mem merges.distinct held)
      exact named
    rw [keyed]
    exact merges.distinct

/-- The members of a name visible on a type have this name and different keys. -/
theorem MembersInPlace.oneName_visibleOn (inPlace : graph.MembersInPlace) (sound : graph.Sound)
    (reference : TypeRef) (name : String) (isStatic : Bool) :
    graph.OneName (Text.canonical name) (graph.visibleOn reference name isStatic) := by
  cases owned : reference.memberOwner? with
  | none =>
      unfold visibleOn
      rw [owned]
      exact ⟨nofun, List.nodup_nil⟩
  | some owner =>
      by_cases isClass : (graph.typeAt owner).isClass = true
      · rw [visibleOn_of_isClass sound owned isClass]
        exact inPlace.oneName_loadedByName owner name isStatic
      · unfold visibleOn
        rw [owned]
        dsimp only
        rw [if_neg isClass]
        cases isStatic with
        | true => exact inPlace.oneName_declaredByName owner name true
        | false =>
            change graph.OneName _ ((interfaceMembersByName owner name).exec graph).1
            rw [(interfaceMembersByName_answers owner name graph sound).1]
            exact inPlace.oneName_membersByName sound (by simpa using isClass) name

/-- Of members of one name, one at most matches. -/
theorem OneName.eq_of_matchesExactly {name : String} {members : List MemberId}
    (oneName : graph.OneName name members) {types : List (Option TypeRef)}
    {first second : MemberId} (listed : first ∈ members) (otherListed : second ∈ members)
    (matched : graph.MatchesExactly types first)
    (otherMatched : graph.MatchesExactly types second) : first = second := by
  have named := (oneName.named first listed).trans (oneName.named second otherListed).symm
  exact List.inj_on_of_nodup_map oneName.keys listed otherListed
    (matched.keyOf_eq otherMatched named)

/-! ## The search -/

/-- If one item at most has a property, a search for the property finds the item that has it. -/
theorem find?_eq_some_iff_of_unique {Item : Type} {property : Item → Prop} [DecidablePred property]
    {items : List Item} (unique : ∀ first ∈ items, ∀ second ∈ items, property first →
      property second → first = second) (item : Item) :
    (items.find? fun item => decide (property item)) = some item ↔
      item ∈ items ∧ property item := by
  constructor
  · intro first
    exact ⟨List.mem_of_find?_eq_some first, by simpa using List.find?_some first⟩
  · rintro ⟨listed, holds⟩
    cases first : items.find? fun item => decide (property item) with
    | none =>
        rw [List.find?_eq_none] at first
        exact absurd (decide_eq_true holds) (first item listed)
    | some other =>
        have otherHolds : property other := by simpa using List.find?_some first
        rw [unique other (List.mem_of_find?_eq_some first) item listed otherHolds holds]

theorem find?_methodsOf (sound : graph.Sound) {owner : TypeId} (name : String)
    (isStatic : Bool) (types : List (Option TypeRef)) :
    (graph.methodsOf owner name isStatic).find? (fun member =>
        decide (graph.MatchesExactly types member))
      = (graph.visibleOn (.nominal owner) name isStatic).find? fun member =>
          decide (graph.MatchesExactly types member) := by
  unfold methodsOf visibleOn TypeRef.memberOwner?
  dsimp only
  rw [(classMembersByName_answers owner name isStatic graph sound).1,
    (interfaceMembersByName_answers owner name graph sound).1]
  by_cases isClass : (graph.typeAt owner).isClass = true
  · rw [if_pos isClass, if_pos isClass]
    cases isStatic with
    | false => rfl
    | true =>
        rw [if_pos rfl, ofKind, List.find?_filter]
        congr 1
        funext member
        rw [Bool.eq_iff_iff]
        simp only [beq_iff_eq, decide_eq_true_eq]
        exact ⟨fun both => both.2, fun matched => ⟨matched.method, matched⟩⟩
  · rw [if_neg isClass, if_neg isClass]

/-- The method that is found is the first of the visible members that matches. -/
theorem findMethod?_eq (sound : graph.Sound) (reference : TypeRef) (name : String)
    (types : List (Option TypeRef)) (isStatic : Bool) :
    ((findMethod? (some reference) name types isStatic).exec graph).1
      = (graph.visibleOn reference name isStatic).find? fun member =>
          decide (graph.MatchesExactly types member) := by
  have ofOwner : ∀ owner, ((do
        let candidates ← methodCandidates owner name isStatic
        let graph ← MonadState.get
        return candidates.find? fun candidate =>
          let member := graph.memberAt candidate
          member.kind == .method && matchesStrictly (member.callTypes false) types :
        Query (Option MemberId)).exec graph).1
      = (graph.visibleOn (.nominal owner) name isStatic).find? fun member =>
          decide (graph.MatchesExactly types member) := by
    intro owner
    obtain ⟨answered, read⟩ := methodCandidates_answers owner name isStatic graph sound
    rw [← find?_methodsOf sound, Query.exec_bind, Query.exec_bind, Query.exec_get,
      Query.exec_pure, answered]
    dsimp only
    congr 1
    funext member
    rw [Bool.eq_iff_iff, decide_eq_true_iff, ← matchesExactly_iff, memberAt_eq_of_bare read.bare]
  cases reference with
  | primitive kind => rfl
  | nominal owner => exact ofOwner owner
  | array element base =>
      cases base with
      | none => rfl
      | some owner => exact ofOwner owner

/-! ## Overridden methods -/

section Overriding

variable {owner : TypeId} {isStatic : Bool} {name : String} {types : List (Option TypeRef)}

theorem rank_unique_of_offers (sound : graph.Sound) {first second : Nat} {member : MemberId}
    (offers : (ofClass graph owner isStatic).Offers graph 0 name false first member)
    (again : (ofClass graph owner isStatic).Offers graph 0 name false second member) :
    first = second := by
  have membered := sound.wellFormed.membered
  have placed := (definingType_of_offers membered offers).trans
    (definingType_of_offers membered again).symm
  rw [typeAtRank?_ofClass, typeAtRank?_ofClass] at placed
  have inside : first < (graph.parentChain owner).length := by
    obtain ⟨declaring, found, -⟩ := offers.declared
    rw [typeAtRank?_ofClass] at found
    exact (List.getElem?_eq_some_iff.mp found).1
  exact (List.getElem?_inj inside
    (nodup_parentChainFrom sound.wellFormed.hierarchical.acyclic _ owner)).mp placed

/-- A method that a closer class overrides is not visible. -/
theorem MembersInPlace.overridden_not_mem (inPlace : graph.MembersInPlace) (sound : graph.Sound)
    {closer farther : Nat} (before : closer < farther) {override overridden : MemberId}
    (offers : (ofClass graph owner isStatic).Offers graph 0 name false closer override)
    (offersFarther : (ofClass graph owner isStatic).Offers graph 0 name false farther overridden)
    (matched : graph.MatchesExactly types override)
    (otherMatched : graph.MatchesExactly types overridden) :
    overridden ∉ ((ofClass graph owner isStatic).loadedByName graph name false).map
      (·.member) := by
  intro listed
  obtain ⟨rank, offered, closest⟩ := mem_loadedByName_offered listed
  obtain rfl := rank_unique_of_offers sound offered offersFarther
  obtain ⟨declaring, -, declared⟩ := offers.declared
  obtain ⟨declaringFarther, -, declaredFarther⟩ := offersFarther.declared
  refine closest closer before override offers (matched.keyOf_eq otherMatched ?_)
  rw [(inPlace.oneName_declaredByName declaring name isStatic).named override declared,
    (inPlace.oneName_declaredByName declaringFarther name isStatic).named overridden
      declaredFarther]

end Overriding

end Graph

/-- After every run, at most one method among the members of a name that are visible on a type
matches a list of parameter types, and the search finds it if it exists and nothing otherwise, in
whatever order the members are searched.  A method of a superclass that a closer class overrides is
not visible, and the override is found if it is visible. -/
theorem findMethod_after {run : List Operation} (admitted : ({} : Graph).admits run = true)
    (stable : ∀ member, Operation.newMember member ∈ run → Text.IsStable member.identifier)
    (reference : TypeRef) (name : String) (types : List (Option TypeRef)) (isStatic : Bool) :
    let graph := ({} : Graph).after run
    let visible := graph.visibleOn reference name isStatic
    let found := ((findMethod? (some reference) name types isStatic).exec graph).1
    visible.Nodup ∧
      (∀ first ∈ visible, ∀ second ∈ visible, graph.MatchesExactly types first →
        graph.MatchesExactly types second → first = second) ∧
      (∀ member, found = some member ↔
        member ∈ visible ∧ graph.MatchesExactly types member) ∧
      (found = none ↔ ∀ member ∈ visible, ¬ graph.MatchesExactly types member) ∧
      (∀ candidates : List MemberId, candidates.Perm visible →
        (candidates.find? fun member => decide (graph.MatchesExactly types member)) = found) ∧
      ∀ owner, reference.memberOwner? = some owner → (graph.typeAt owner).isClass = true →
        ∀ closer farther, closer < farther → ∀ override overridden,
          let map := ((classMemberMapView owner isStatic).exec graph).1
          map.Offers graph 0 name false closer override →
          map.Offers graph 0 name false farther overridden →
          graph.MatchesExactly types override → graph.MatchesExactly types overridden →
            overridden ∉ visible ∧ (override ∈ visible → found = some override) := by
  intro graph visible found
  have sound : graph.Sound := sound_after admitted
  have inPlace : graph.MembersInPlace := membersInPlace_after admitted stable
  have oneName : graph.OneName (Text.canonical name) visible :=
    inPlace.oneName_visibleOn sound reference name isStatic
  have unique : ∀ first ∈ visible, ∀ second ∈ visible, graph.MatchesExactly types first →
      graph.MatchesExactly types second → first = second :=
    fun _ listed _ otherListed => oneName.eq_of_matchesExactly listed otherListed
  have searched : found = visible.find? fun member => decide (graph.MatchesExactly types member) :=
    findMethod?_eq sound reference name types isStatic
  have found_iff : ∀ candidates : List MemberId, candidates.Perm visible → ∀ member,
      (candidates.find? fun member => decide (graph.MatchesExactly types member)) = some member ↔
        member ∈ visible ∧ graph.MatchesExactly types member := by
    intro candidates shuffled member
    rw [find?_eq_some_iff_of_unique, shuffled.mem_iff]
    intro first listed second otherListed
    exact unique first (shuffled.mem_iff.mp listed) second (shuffled.mem_iff.mp otherListed)
  have founds : ∀ member, found = some member ↔
      member ∈ visible ∧ graph.MatchesExactly types member := by
    rw [searched]
    exact found_iff visible (.refl visible)
  refine ⟨List.Nodup.of_map _ oneName.keys, unique, founds, ?_, ?_, ?_⟩
  · rw [searched, List.find?_eq_none]
    simp only [decide_eq_true_eq]
  · intro candidates shuffled
    exact Option.ext fun member => (found_iff candidates shuffled member).trans (founds member).symm
  · intro owner owned isClass closer farther before override overridden map offers offersFarther
      matched otherMatched
    have viewed : map = ClassMemberMap.ofClass graph owner isStatic :=
      (Query.Answers.classMemberMap owner isStatic graph sound).1
    rw [viewed] at offers offersFarther
    refine ⟨?_, fun listed => (founds override).mpr ⟨listed, matched⟩⟩
    rw [show visible = _ from visibleOn_of_isClass sound owned isClass]
    exact inPlace.overridden_not_mem sound before offers offersFarther matched otherMatched

/-- The base class of arrays overrides a method of its parent and declares another overload. -/
def arrayOverride : List Operation :=
  let parameter (type : Option TypeRef) : Parameter := { name := "x", type }
  [.openArena {}, .newClass 0 "Object" "" .pub (.ofList [.root]), .newClass 0 "Array" "" .pub {},
    .setParent 1 (some 0),
    .newMember (.method none .pub false "add" [parameter (some (.primitive .int))] none),
    .newMember (.method none .pub false "add" [parameter none] none),
    .newMember (.method none .pub false "add" [parameter (some (.primitive .int))] none),
    .declareMember 0 (some 0) false, .declareMember 1 (some 1) false,
    .declareMember 1 (some 2) false]

/-- On an array the override is found, and so is the other overload. -/
theorem findMethod_after_arrayOverride :
    let graph := ({} : Graph).after arrayOverride
    let reference := TypeRef.array (.primitive .int) (some 1)
    ({} : Graph).admits arrayOverride = true ∧
      (∀ member, Operation.newMember member ∈ arrayOverride → Text.IsStable member.identifier) ∧
      0 ∉ graph.visibleOn reference "add" false ∧
      ((findMethod? (some reference) "add" [some (.primitive .int)] false).exec graph).1
        = some 2 ∧
      ((findMethod? (some reference) "add" [none] false).exec graph).1 = some 1 := by
  intro graph reference
  have admitted : ({} : Graph).admits arrayOverride = true := by
    decide +kernel
  have stable : ∀ member, Operation.newMember member ∈ arrayOverride →
      Text.IsStable member.identifier := by
    intro member created
    simp only [arrayOverride, List.mem_cons, List.not_mem_nil, or_false, reduceCtorEq, false_or,
      Operation.newMember.injEq] at created
    rcases created with rfl | rfl | rfl
    all_goals decide +kernel
  have isClass : (graph.typeAt 1).isClass = true := by
    decide +kernel
  have viewed : ((classMemberMapView 1 false).exec graph).1
      = ClassMemberMap.ofClass graph 1 false :=
    (Query.Answers.classMemberMap 1 false graph (sound_after admitted)).1
  have visible : ∀ loaded ∈ (ClassMemberMap.ofClass graph 1 false).loadedByName graph "add" false,
      loaded.member ∈ graph.visibleOn reference "add" false := by
    intro loaded listed
    have owned : reference.memberOwner? = some 1 := rfl
    rw [visibleOn_of_isClass (sound_after admitted) owned isClass]
    exact List.mem_map_of_mem listed
  have override : 2 ∈ graph.visibleOn reference "add" false :=
    visible ⟨2, 0⟩ (ClassMemberMap.mem_loadedAtRank.mpr ⟨graph.keyOf 2, by decide +kernel⟩)
  have overload : 1 ∈ graph.visibleOn reference "add" false :=
    visible ⟨1, 0⟩ (ClassMemberMap.mem_loadedAtRank.mpr ⟨graph.keyOf 1, by decide +kernel⟩)
  obtain ⟨-, -, -, -, -, hides⟩ := findMethod_after admitted stable reference "add"
    [some (.primitive .int)] false
  obtain ⟨-, -, finds, -⟩ := findMethod_after admitted stable reference "add" [none] false
  obtain ⟨masked, found⟩ := hides 1 rfl isClass 0 1 (by decide) 2 0
    (viewed ▸ ⟨by decide, ⟨1, by decide +kernel⟩, by decide +kernel, .inl rfl⟩)
    (viewed ▸ ⟨by decide, ⟨0, by decide +kernel⟩, by decide +kernel, by decide +kernel⟩)
    (by decide +kernel) (by decide +kernel)
  exact ⟨admitted, stable, masked, found override, (finds 1).mpr ⟨overload, by decide +kernel⟩⟩

end Nominal
