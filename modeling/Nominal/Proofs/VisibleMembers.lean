import Nominal.Proofs.FirstOccurrences
import Nominal.Proofs.RankedMembers

/-!
# All members seen from a class

The list of all members goes through the names of the chain, and looks up each name.  The names
leave out hidden members, and the look-ups leave out what subclasses do not see; a name may so stand
for nothing.  Every bucket holds members of its own name, so nothing is given under two names, and
what a class shows and nothing closer masks is given.
-/

namespace Nominal

namespace ClassMemberMap

variable {graph : Graph} {map : ClassMemberMap}

/-! ## Names -/

/-- Adds a name that is not known, unless it stands for hidden members only. -/
def addName (graph : Graph) (found : List String) (entry : String × List MemberId) : List String :=
  if entry.1 ∈ found ∨ allHidden graph entry.2 then found else found ++ [entry.1]

theorem names_eq_foldl (graph : Graph) (map : ClassMemberMap) :
    map.names graph = (map.ranks.flatMap fun level => level.2.entries).foldl (addName graph) [] :=
  rfl

/-- The names are those of the buckets that do not stand for hidden members only. -/
theorem names_eq_eraseDups (graph : Graph) (map : ClassMemberMap) :
    map.names graph = (((map.ranks.flatMap fun level => level.2.entries).filter
      fun entry => !allHidden graph entry.2).map (·.1)).eraseDups := by
  rw [names_eq_foldl, ← foldl_keepFirst_nil, List.foldl_map, List.foldl_filter]
  apply List.foldl_ext
  intro found entry _
  unfold addName
  cases allHidden graph entry.2 <;> simp

/-- A name is listed if some class of the chain declares a member of the name that is not
hidden. -/
theorem mem_names {name : String} :
    name ∈ map.names graph ↔ ∃ level ∈ map.ranks, ∃ bucket,
      (name, bucket) ∈ level.2.entries ∧ ∃ member ∈ bucket,
        (graph.memberAt member).visibility ≠ .hidden := by
  have shown : ∀ bucket, allHidden graph bucket = false ↔
      ∃ member ∈ bucket, (graph.memberAt member).visibility ≠ .hidden := by
    intro bucket
    simp [allHidden]
  rw [names_eq_eraseDups, List.mem_eraseDups]
  simp only [List.mem_map, List.mem_filter, List.mem_flatMap, Bool.not_eq_true', shown]
  constructor
  · rintro ⟨⟨_, bucket⟩, ⟨⟨level, ranked, inTable⟩, member⟩, rfl⟩
    exact ⟨level, ranked, bucket, inTable, member⟩
  · rintro ⟨level, ranked, bucket, inTable, member⟩
    exact ⟨(name, bucket), ⟨⟨level, ranked, inTable⟩, member⟩, rfl⟩

theorem nodup_names (graph : Graph) (map : ClassMemberMap) : (map.names graph).Nodup := by
  rw [names_eq_eraseDups]
  exact nodup_eraseDups _

theorem mem_visibleMembers {member : MemberId} :
    member ∈ map.visibleMembers graph ↔
      ∃ name ∈ map.names graph, ∃ loaded ∈ map.loadedAtRank graph 0 name false,
        loaded.member = member := by
  simp only [visibleMembers, loadedByName, List.mem_flatMap, List.mem_map]

/-! ## What a class shows -/

/-- The class at a rank declares a member. -/
def DeclaresAt (graph : Graph) (map : ClassMemberMap) (rank : Nat) (member : MemberId) : Prop :=
  ∃ declaring, map.typeAtRank? rank = some declaring ∧
    member ∈ ((graph.typeAt declaring).declared map.isStatic).values.flatten

/-- The class at a rank shows a member that it declares to the class of the map. -/
structure ShowsAt (graph : Graph) (map : ClassMemberMap) (rank : Nat) (member : MemberId) :
    Prop where
  declared : map.DeclaresAt graph rank member
  visible : (graph.memberAt member).visibility ≠ .hidden
  reaches : rank = 0 ∨ (graph.memberAt member).visibility.isSubclassVisible = true

end ClassMemberMap

namespace Graph

open ClassMemberMap

variable {graph : Graph} {type : TypeId} {isStatic : Bool} {rank : Nat} {member : MemberId}

/-- A declared member has a composed name. -/
theorem MembersInPlace.composed (inPlace : graph.MembersInPlace) {declaring : TypeId}
    (declared : member ∈ ((graph.typeAt declaring).declared isStatic).values.flatten) :
    Text.canonical (graph.memberAt member).identifier = (graph.memberAt member).identifier := by
  obtain ⟨bucket, inValues, inBucket⟩ := List.mem_flatten.mp declared
  obtain ⟨entry, inTable, rfl⟩ := List.mem_map.mp inValues
  have place := inPlace.buckets declaring isStatic entry inTable
  rw [place.named member inBucket]
  exact place.composed

/-- What is declared under a composed name is what is declared and has the name. -/
theorem MembersInPlace.mem_declaredByName_iff (inPlace : graph.MembersInPlace)
    {declaring : TypeId} {name : String} (composed : Text.canonical name = name) :
    member ∈ (graph.typeAt declaring).declaredByName name isStatic ↔
      member ∈ ((graph.typeAt declaring).declared isStatic).values.flatten ∧
        (graph.memberAt member).identifier = name := by
  unfold NominalType.declaredByName
  rw [composed]
  constructor
  · intro declared
    cases found : ((graph.typeAt declaring).declared isStatic).get? name with
    | none =>
        rw [found] at declared
        cases declared
    | some bucket =>
        rw [found, Option.getD_some] at declared
        have inTable := Table.mem_of_get?_eq_some found
        exact ⟨List.mem_flatten.mpr ⟨bucket, List.mem_map.mpr ⟨_, inTable, rfl⟩, declared⟩,
          (inPlace.buckets declaring isStatic _ inTable).named member declared⟩
  · rintro ⟨declared, named⟩
    obtain ⟨bucket, inValues, inBucket⟩ := List.mem_flatten.mp declared
    obtain ⟨⟨key, members⟩, inTable, rfl⟩ := List.mem_map.mp inValues
    obtain rfl : key = name :=
      ((inPlace.buckets declaring isStatic _ inTable).named member inBucket).symm.trans named
    rw [Table.get?_eq_some_of_mem (inPlace.names declaring isStatic) inTable, Option.getD_some]
    exact inBucket

/-- What a class offers to look-ups by a composed name is what it shows and has the name. -/
theorem MembersInPlace.offers_iff (inPlace : graph.MembersInPlace) {name : String}
    (composed : Text.canonical name = name) :
    (ofClass graph type isStatic).Offers graph 0 name false rank member ↔
      (ofClass graph type isStatic).ShowsAt graph rank member ∧
        (graph.memberAt member).identifier = name := by
  constructor
  · rintro ⟨-, ⟨declaring, found, inBucket⟩, visible, reaches⟩
    obtain ⟨declared, named⟩ := (inPlace.mem_declaredByName_iff composed).mp inBucket
    refine ⟨⟨⟨declaring, found, declared⟩, visible, ?_⟩, named⟩
    exact reaches.imp_right fun shown => shown.resolve_left Bool.false_ne_true
  · rintro ⟨⟨⟨declaring, found, declared⟩, visible, reaches⟩, named⟩
    exact ⟨Nat.zero_le rank,
      ⟨declaring, found, (inPlace.mem_declaredByName_iff composed).mpr ⟨declared, named⟩⟩,
      visible, reaches.imp_right .inr⟩

/-- A member is declared at one rank only. -/
theorem MembersInPlace.rank_unique (inPlace : graph.MembersInPlace) (acyclic : graph.Acyclic)
    {other : Nat} (declared : (ofClass graph type isStatic).DeclaresAt graph rank member)
    (again : (ofClass graph type isStatic).DeclaresAt graph other member) : other = rank := by
  have owned : ∀ {place}, (ofClass graph type isStatic).DeclaresAt graph place member →
      (graph.parentChain type)[place]? = (graph.memberAt member).definingType := by
    rintro place ⟨declaring, found, listed⟩
    rw [typeAtRank?_ofClass] at found
    obtain ⟨bucket, inValues, inBucket⟩ := List.mem_flatten.mp listed
    obtain ⟨entry, inTable, rfl⟩ := List.mem_map.mp inValues
    rw [found, ((inPlace.buckets declaring isStatic entry inTable).owned member inBucket).owner]
  have inside : other < (graph.parentChain type).length := by
    obtain ⟨declaring, found, -⟩ := again
    rw [typeAtRank?_ofClass] at found
    exact (List.getElem?_eq_some_iff.mp found).1
  exact (List.getElem?_inj inside (nodup_parentChainFrom acyclic _ type)).mp
    ((owned again).trans (owned declared).symm)

theorem identifier_eq_of_keyOf_eq {first second : MemberId}
    (composedFirst :
      Text.canonical (graph.memberAt first).identifier = (graph.memberAt first).identifier)
    (composedSecond :
      Text.canonical (graph.memberAt second).identifier = (graph.memberAt second).identifier)
    (same : graph.keyOf first = graph.keyOf second) :
    (graph.memberAt first).identifier = (graph.memberAt second).identifier := by
  rw [← composedFirst, ← composedSecond]
  exact congrArg MemberKey.identifier same

/-- The names of a chain are composed. -/
theorem MembersInPlace.composed_of_mem_names (inPlace : graph.MembersInPlace) {name : String}
    (listed : name ∈ (ofClass graph type isStatic).names graph) : Text.canonical name = name := by
  obtain ⟨level, ranked, bucket, inTable, -⟩ := mem_names.mp listed
  obtain ⟨superclass, -, rfl⟩ := List.mem_map.mp ranked
  exact (inPlace.buckets superclass isStatic _ inTable).composed

/-- A declared member is among all members seen from a class exactly if its class shows it and no
closer class shows a member with its key. -/
theorem MembersInPlace.mem_visibleMembers_iff (inPlace : graph.MembersInPlace)
    (wellFormed : graph.WellFormed)
    (declared : (ofClass graph type isStatic).DeclaresAt graph rank member) :
    member ∈ (ofClass graph type isStatic).visibleMembers graph ↔
      (ofClass graph type isStatic).ShowsAt graph rank member ∧
        ∀ closer, closer < rank → ∀ other,
          (ofClass graph type isStatic).ShowsAt graph closer other →
            graph.keyOf other ≠ graph.keyOf member := by
  have composedAt : ∀ {place known},
      (ofClass graph type isStatic).DeclaresAt graph place known →
      Text.canonical (graph.memberAt known).identifier = (graph.memberAt known).identifier :=
    fun ⟨_, _, listed⟩ => inPlace.composed listed
  rw [ClassMemberMap.mem_visibleMembers]
  constructor
  · rintro ⟨name, inNames, loaded, listed, rfl⟩
    have composed := inPlace.composed_of_mem_names inNames
    have gives := givesClosest_loadedAtRank wellFormed.membered type isStatic 0
      (Text.isStable_of_canonical_eq composed) false
    have offered := gives.offered loaded listed
    rw [Nat.zero_add] at offered
    obtain ⟨shows, named⟩ := (inPlace.offers_iff composed).mp offered
    obtain rfl := inPlace.rank_unique wellFormed.hierarchical.acyclic declared shows.declared
    refine ⟨shows, ?_⟩
    intro closer before other masks same
    have otherNamed := (identifier_eq_of_keyOf_eq (composedAt masks.declared)
      (composedAt declared) same).trans named
    have farther := (gives.closest loaded listed closer other
      ((inPlace.offers_iff composed).mpr ⟨masks, otherNamed⟩) same).1
    omega
  · rintro ⟨shows, unmasked⟩
    have composed := composedAt declared
    have offers := (inPlace.offers_iff composed).mpr ⟨shows, rfl⟩
    refine ⟨(graph.memberAt member).identifier, ?_, _, mem_loadedAtRank_of_offers
      wellFormed.membered (Text.isStable_of_canonical_eq composed) offers ?_, rfl⟩
    · obtain ⟨declaring, found, listed⟩ := declared
      rw [typeAtRank?_ofClass] at found
      obtain ⟨bucket, inValues, inBucket⟩ := List.mem_flatten.mp listed
      obtain ⟨⟨name, members⟩, inTable, rfl⟩ := List.mem_map.mp inValues
      obtain rfl := (inPlace.buckets declaring isStatic _ inTable).named member inBucket
      exact mem_names.mpr ⟨_, List.mem_map.mpr ⟨declaring, List.mem_of_getElem? found, rfl⟩,
        members, inTable, member, inBucket, shows.visible⟩
    · intro closer before other offered
      exact unmasked closer before other ((inPlace.offers_iff composed).mp offered).1

/-- All members seen from a class have different keys. -/
theorem MembersInPlace.nodup_keys_visibleMembers (inPlace : graph.MembersInPlace)
    (wellFormed : graph.WellFormed) (type : TypeId) (isStatic : Bool) :
    (((ofClass graph type isStatic).visibleMembers graph).map graph.keyOf).Nodup := by
  have named : ∀ name ∈ (ofClass graph type isStatic).names graph,
      ∀ loaded ∈ (ofClass graph type isStatic).loadedAtRank graph 0 name false,
        (graph.keyOf loaded.member).identifier = name := by
    intro name inNames loaded listed
    have composed := inPlace.composed_of_mem_names inNames
    have offered := (givesClosest_loadedAtRank wellFormed.membered type isStatic 0
      (Text.isStable_of_canonical_eq composed) false).offered loaded listed
    have identifier := ((inPlace.offers_iff composed).mp offered).2
    exact (congrArg Text.canonical identifier).trans composed
  unfold visibleMembers
  rw [List.map_flatMap]
  refine List.pairwise_flatMap.mpr ⟨?_, ?_⟩
  · intro name _
    rw [List.map_map]
    exact nodup_keys_loadedAtRank graph (ofClass graph type isStatic) 0 name false
  · apply (nodup_names graph (ofClass graph type isStatic)).imp_of_mem
    intro first second inFirst inSecond different key underFirst other underSecond same
    rw [List.map_map] at underFirst underSecond
    obtain ⟨loaded, listed, rfl⟩ := List.mem_map.mp underFirst
    obtain ⟨loadedOther, listedOther, rfl⟩ := List.mem_map.mp underSecond
    apply different
    rw [← named first inFirst loaded listed, ← named second inSecond loadedOther listedOther]
    exact congrArg MemberKey.identifier same

/-- Whatever is seen from a class is shown by a class of its chain. -/
theorem MembersInPlace.exists_showsAt (inPlace : graph.MembersInPlace)
    (wellFormed : graph.WellFormed)
    (listed : member ∈ (ofClass graph type isStatic).visibleMembers graph) :
    ∃ rank, (ofClass graph type isStatic).ShowsAt graph rank member := by
  obtain ⟨name, inNames, loaded, given, rfl⟩ := ClassMemberMap.mem_visibleMembers.mp listed
  have composed := inPlace.composed_of_mem_names inNames
  have offered := (givesClosest_loadedAtRank wellFormed.membered type isStatic 0
    (Text.isStable_of_canonical_eq composed) false).offered loaded given
  exact ⟨_, ((inPlace.offers_iff composed).mp offered).1⟩

/-- Whatever is seen from a class is a field or a method. -/
theorem MembersInPlace.field_or_method (inPlace : graph.MembersInPlace)
    (wellFormed : graph.WellFormed)
    (listed : member ∈ (ofClass graph type isStatic).visibleMembers graph) :
    (graph.memberAt member).kind = .field ∨ (graph.memberAt member).kind = .method := by
  obtain ⟨rank, shows⟩ := inPlace.exists_showsAt wellFormed listed
  obtain ⟨declaring, -, declared⟩ := shows.declared
  obtain ⟨bucket, inValues, inBucket⟩ := List.mem_flatten.mp declared
  obtain ⟨entry, inTable, rfl⟩ := List.mem_map.mp inValues
  rcases (inPlace.buckets declaring isStatic entry inTable).kinds with
    ⟨field, alone, isField⟩ | methods
  · rw [alone, List.mem_singleton] at inBucket
    exact .inl (inBucket ▸ isField)
  · exact .inr (methods member inBucket)

/-- The fields and the methods are the two parts of a list of fields and methods. -/
theorem partition_eq_ofKind {members : List MemberId}
    (kinds : ∀ member ∈ members,
      (graph.memberAt member).kind = .field ∨ (graph.memberAt member).kind = .method) :
    members.partition (fun member => (graph.memberAt member).kind == .field)
      = (graph.ofKind .field members, graph.ofKind .method members) := by
  rw [List.partition_eq_filter_filter]
  refine congrArg (Prod.mk _) (List.filter_congr ?_)
  intro member listed
  rcases kinds member listed with isField | isMethod
  · simp [isField]
  · simp [isMethod]

end Graph

open Nominal.Graph

/-- After every run, all members seen from a class have different keys; a member that is declared in
its chain is among them exactly if it is not hidden, is declared by the class itself or seen by
subclasses, and has the key of no member that a closer class shows; and the fields and the methods
are the two parts of the instance members. -/
theorem visibleMembers_after {run : List Operation} (admitted : ({} : Graph).admits run = true)
    (stable : ∀ member, Operation.newMember member ∈ run → Text.IsStable member.identifier)
    (type : TypeId) (isStatic : Bool) :
    let graph := ({} : Graph).after run
    let map := ((classMemberMapView type isStatic).exec graph).1
    let instanceMembers := ((classInstanceMembersView type).exec graph).1
    ((map.visibleMembers graph).map graph.keyOf).Nodup ∧
      (∀ rank member, map.DeclaresAt graph rank member →
        (member ∈ map.visibleMembers graph ↔
          (graph.memberAt member).visibility ≠ .hidden ∧
            (rank = 0 ∨ (graph.memberAt member).visibility.isSubclassVisible = true) ∧
            ∀ closer, closer < rank → ∀ other, map.ShowsAt graph closer other →
              graph.keyOf other ≠ graph.keyOf member)) ∧
      (∀ member ∈ map.visibleMembers graph, ∃ rank, map.DeclaresAt graph rank member) ∧
      instanceMembers = ((classMemberMapView type false).exec graph).1.visibleMembers graph ∧
      instanceMembers.partition (fun member => (graph.memberAt member).kind == .field)
        = (((fieldsView type).exec graph).1, ((methodsView type).exec graph).1) ∧
      ∀ member ∈ ((methodsView type).exec graph).1,
        (graph.memberAt member).kind = .method := by
  have sound := sound_after admitted
  have inPlace := membersInPlace_after admitted stable
  have viewed : ∀ isStatic, ((classMemberMapView type isStatic).exec (({} : Graph).after run)).1
      = ClassMemberMap.ofClass (({} : Graph).after run) type isStatic :=
    fun isStatic => (Query.Answers.classMemberMap type isStatic _ sound).1
  have instances := (Query.Answers.classInstanceMembers type _ sound).1
  have fields := (Query.Answers.fields type _ sound).1
  have methods := (Query.Answers.methods type _ sound).1
  dsimp only
  rw [viewed, viewed, instances, fields, methods]
  refine ⟨inPlace.nodup_keys_visibleMembers sound.wellFormed type isStatic, ?_, ?_, rfl, ?_, ?_⟩
  · intro rank member declared
    rw [inPlace.mem_visibleMembers_iff sound.wellFormed declared]
    exact ⟨fun shown => ⟨shown.1.visible, shown.1.reaches, shown.2⟩,
      fun ⟨visible, reaches, unmasked⟩ => ⟨⟨declared, visible, reaches⟩, unmasked⟩⟩
  · intro member listed
    obtain ⟨rank, shows⟩ := inPlace.exists_showsAt sound.wellFormed listed
    exact ⟨rank, shows.declared⟩
  · exact partition_eq_ofKind fun member => inPlace.field_or_method sound.wellFormed
  · intro member listed
    exact beq_iff_eq.mp (List.mem_filter.mp listed).2

theorem visibleMembers_after_privateOverride :
    ({} : Graph).admits privateOverride = true ∧
      (∀ member, Operation.newMember member ∈ privateOverride → Text.IsStable member.identifier) ∧
      0 ∈ ((classInstanceMembersView 2).exec (({} : Graph).after privateOverride)).1 ∧
      2 ∉ ((classInstanceMembersView 2).exec (({} : Graph).after privateOverride)).1 := by
  have admitted : ({} : Graph).admits privateOverride = true := by
    decide +kernel
  have stable : ∀ member, Operation.newMember member ∈ privateOverride →
      Text.IsStable member.identifier := by
    intro member created
    simp only [privateOverride, List.mem_cons, List.not_mem_nil, or_false, reduceCtorEq, false_or,
      Operation.newMember.injEq] at created
    rcases created with rfl | rfl | rfl
    all_goals decide +kernel
  obtain ⟨-, exact, -, same, -⟩ := visibleMembers_after admitted stable 2 false
  rw [same]
  have leaf : ((classMemberMapView 2 false).exec (({} : Graph).after privateOverride)).1.typeAtRank?
      0 = some 2 := by
    decide +kernel
  have middle : ((classMemberMapView 2 false).exec
      (({} : Graph).after privateOverride)).1.typeAtRank? 1 = some 1 := by
    decide +kernel
  have leafMembers : (((({} : Graph).after privateOverride).typeAt 2).declared
      false).values.flatten = [] := by
    decide +kernel
  have middleMembers : (((({} : Graph).after privateOverride).typeAt 1).declared
      false).values.flatten = [2] := by
    decide +kernel
  have isPrivate : ((({} : Graph).after privateOverride).memberAt 2).visibility = .priv := by
    decide +kernel
  have isStatic : ((classMemberMapView 2 false).exec
      (({} : Graph).after privateOverride)).1.isStatic = false := by
    decide +kernel
  refine ⟨admitted, stable, (exact 2 0 ⟨0, by decide +kernel⟩).mpr ⟨?_, ?_, ?_⟩, ?_⟩
  · decide +kernel
  · decide +kernel
  · rintro closer before other ⟨⟨declaring, found, declared⟩, -, reaches⟩
    rw [isStatic] at declared
    rcases Nat.le_one_iff_eq_zero_or_eq_one.mp (Nat.le_of_lt_succ before) with rfl | rfl
    · obtain rfl := Option.some.inj (leaf.symm.trans found)
      rw [leafMembers] at declared
      cases declared
    · obtain rfl := Option.some.inj (middle.symm.trans found)
      rw [middleMembers] at declared
      obtain rfl := List.mem_singleton.mp declared
      rw [isPrivate] at reaches
      exact absurd reaches (by decide)
  · intro listed
    obtain ⟨-, reaches, -⟩ := (exact 1 2 ⟨1, by decide +kernel⟩).mp listed
    rw [isPrivate] at reaches
    exact absurd reaches (by decide)

end Nominal
