import Nominal.Proofs.Guarantees
import Nominal.Proofs.Rosters

/-!
# Members seen from a rank

A look-up at a rank of a member map gives, for every key, the member that the closest class offers,
whatever farther classes or closer ones that offer nothing declare.  What it gives is ordered by
rank, and within a rank as it was declared: members are put behind farther ones when they replace
them, and the order at the end is stable.

The superclasses of a class have the rest of its chain, so a look-up at the rank of a superclass is
the look-up of the superclass.
-/

namespace Nominal

namespace ClassMemberMap

variable {graph : Graph} {includeNonVisible : Bool}

/-! ## The order of merged members -/

/-- What is put into a merged table comes behind what is left of it, in the order of the members. -/
theorem exists_foldl_override (graph : Graph) (distance : Nat) (members : List MemberId)
    (loaded : Table MemberKey LoadedMember) :
    ∃ kept added : List (MemberKey × LoadedMember),
      (members.foldl (override graph distance) loaded).entries = kept ++ added ∧
        kept.Sublist loaded.entries ∧
        (added.map (·.2.member)).Sublist members ∧ ∀ entry ∈ added, entry.2.rank = distance := by
  induction members generalizing loaded with
  | nil => exact ⟨loaded.entries, [], (List.append_nil _).symm, .refl _, .refl _, nofun⟩
  | cons first rest induction =>
      obtain ⟨kept, added, entries, older, newer, ranked⟩ :=
        induction (override graph distance loaded first)
      rw [override, Table.entries_erase_set] at older
      obtain ⟨far, near, rfl, inFar, inNear⟩ := List.sublist_append_iff.mp older
      refine ⟨far, near ++ added, ?_, inFar.trans List.filter_sublist, ?_, ?_⟩
      · rw [List.foldl_cons, entries, List.append_assoc]
      · rw [List.map_append, ← List.singleton_append]
        exact (inNear.map (·.2.member)).append newer
      · intro entry listed
        rcases List.mem_append.mp listed with atFirst | later
        · rw [List.mem_singleton.mp (inNear.subset atFirst)]
        · exact ranked entry later

/-- The merged members of one rank stand in the order of their bucket. -/
theorem sublist_of_rank (graph : Graph) (includeNonVisible : Bool) (distance place : Nat)
    (levels : List (List MemberId)) :
    (((mergeLevels graph includeNonVisible distance levels).values.filter
      fun loaded => loaded.rank = distance + place).map (·.member)).Sublist
        (levels[place]?.getD []) := by
  induction levels generalizing distance place with
  | nil => exact .refl []
  | cons bucket farther induction =>
      obtain ⟨kept, added, entries, older, newer, ranked⟩ := exists_foldl_override graph distance
        (bucket.filter (takesPart graph includeNonVisible distance))
        (mergeLevels graph includeNonVisible (distance + 1) farther)
      have above : ∀ entry ∈ kept, distance < entry.2.rank := by
        intro entry listed
        obtain ⟨-, far, reached, -⟩ := takesPartAt_of_mem_mergeLevels (older.subset listed)
        omega
      rw [mergeLevels, mergeRank_eq_foldl, Table.values, entries, List.map_append,
        List.filter_append, List.map_append]
      cases place with
      | zero =>
          have none : (kept.map (·.2)).filter (fun loaded => loaded.rank = distance + 0) = [] := by
            rw [List.filter_eq_nil_iff]
            intro loaded listed
            obtain ⟨entry, inKept, rfl⟩ := List.mem_map.mp listed
            have far := above entry inKept
            simpa using Nat.ne_of_gt far
          rw [none, List.map_nil, List.nil_append, List.getElem?_cons_zero, Option.getD_some]
          refine ((List.filter_sublist.map _).trans ?_).trans (newer.trans List.filter_sublist)
          rw [List.map_map]
          exact .refl _
      | succ place =>
          have none : (added.map (·.2)).filter
              (fun loaded => loaded.rank = distance + (place + 1)) = [] := by
            rw [List.filter_eq_nil_iff]
            intro loaded listed
            obtain ⟨entry, inAdded, rfl⟩ := List.mem_map.mp listed
            have here := ranked entry inAdded
            simp [here]
          have moved : distance + (place + 1) = distance + 1 + place := by omega
          rw [none, List.map_nil, List.append_nil, List.getElem?_cons_succ, moved]
          exact (((older.map _).filter _).map _).trans (induction (distance + 1) place)

/-- Sorting by rank keeps the members of one rank in order. -/
theorem filter_mergeSort_rank (listed : List LoadedMember) (rank : Nat) :
    (listed.mergeSort fun first second => decide (first.rank ≤ second.rank)).filter
        (fun loaded => loaded.rank = rank)
      = listed.filter (fun loaded => loaded.rank = rank) := by
  have level : (listed.filter fun loaded => loaded.rank = rank).Pairwise
      fun first second => decide (first.rank ≤ second.rank) = true := by
    apply List.pairwise_of_forall_mem_list
    intro first inFirst second inSecond
    have firstRank := (List.mem_filter.mp inFirst).2
    have secondRank := (List.mem_filter.mp inSecond).2
    simp only [decide_eq_true_eq] at firstRank secondRank ⊢
    omega
  have sublist := (List.sublist_mergeSort
    (fun first second third => by simpa using Nat.le_trans)
    (fun first second => by simpa using Nat.le_total first.rank second.rank)
    level List.filter_sublist).filter (fun loaded => loaded.rank = rank)
  simp only [List.filter_filter, Bool.and_self] at sublist
  refine (sublist.eq_of_length ?_).symm
  exact ((List.mergeSort_perm _ _).filter _).length_eq.symm

theorem pairwise_rank_loadedAtRank (graph : Graph) (map : ClassMemberMap) (rank : Nat)
    (name : String) (includeNonVisible : Bool) :
    (map.loadedAtRank graph rank name includeNonVisible).Pairwise
      fun closer farther => closer.rank ≤ farther.rank := by
  rw [loadedAtRank_eq]
  generalize (mergeLevels graph includeNonVisible 0 (map.buckets rank name)).values = level
  have sorted : (level.mergeSort fun first second =>
      decide (first.rank ≤ second.rank)).Pairwise fun first second =>
        decide (first.rank ≤ second.rank) = true :=
    List.pairwise_mergeSort
      (fun first second third => by simpa using Nat.le_trans)
      (fun first second => by simpa using Nat.le_total first.rank second.rank) level
  exact sorted.imp of_decide_eq_true

/-- Two members of one rank are given in the order in which they were declared. -/
theorem pair_sublist_bucket {map : ClassMemberMap} {rank : Nat} {name : String}
    {first second : LoadedMember}
    (listed : [first, second].Sublist (map.loadedAtRank graph rank name includeNonVisible))
    (same : first.rank = second.rank) :
    [first.member, second.member].Sublist ((map.buckets rank name)[first.rank]?.getD []) := by
  have level := listed.filter fun loaded => loaded.rank = first.rank
  rw [loadedAtRank_eq, filter_mergeSort_rank,
    List.filter_eq_self.mpr (by simp [same])] at level
  have merged := sublist_of_rank graph includeNonVisible 0 first.rank (map.buckets rank name)
  rw [Nat.zero_add] at merged
  exact (level.map (·.member)).trans merged

/-! ## What a class offers -/

/-- The class at a rank declares a member under a name, and a look-up that starts at another rank
lets the member take part. -/
structure Offers (graph : Graph) (map : ClassMemberMap) (start : Nat) (name : String)
    (includeNonVisible : Bool) (rank : Nat) (member : MemberId) : Prop where
  above : start ≤ rank
  declared : ∃ declaring, map.typeAtRank? rank = some declaring ∧
    member ∈ (graph.typeAt declaring).declaredByName name map.isStatic
  visible : (graph.memberAt member).visibility ≠ .hidden
  reaches : rank = start ∨ includeNonVisible = true ∨
    (graph.memberAt member).visibility.isSubclassVisible = true

theorem takesPart_iff {distance : Nat} {member : MemberId} :
    takesPart graph includeNonVisible distance member = true ↔
      (graph.memberAt member).visibility ≠ .hidden ∧
        (distance = 0 ∨ includeNonVisible = true ∨
          (graph.memberAt member).visibility.isSubclassVisible = true) := by
  simp only [takesPart, Bool.and_eq_true, decide_eq_true_eq, Bool.or_eq_true, beq_iff_eq, or_assoc]

section OfClass

variable {type : TypeId} {isStatic : Bool}

theorem typeAtRank?_ofClass (graph : Graph) (type : TypeId) (isStatic : Bool) (rank : Nat) :
    (ofClass graph type isStatic).typeAtRank? rank = (graph.parentChain type)[rank]? := by
  have notNegative : ¬ ((rank : Int) < 0) := by omega
  simp only [typeAtRank?, if_neg notNegative, Int.toNat_natCast, ofClass, List.getElem?_map,
    Option.map_map, Function.comp_def, Option.map_id']

/-- The bucket at a place is what the class there declares under the name. -/
theorem getElem?_buckets (graph : Graph) (type : TypeId) (isStatic : Bool) (start : Nat)
    (name : String) (place : Nat) :
    ((ofClass graph type isStatic).buckets start name)[place]?
      = ((ofClass graph type isStatic).typeAtRank? ↑(start + place)).map
          fun declaring => (graph.typeAt declaring).declaredByName name isStatic := by
  rw [typeAtRank?_ofClass, buckets, List.getElem?_map, List.getElem?_drop, ofClass,
    List.getElem?_map, Option.map_map]
  rfl

theorem takesPartAt_buckets_iff {start place : Nat} {name : String} {member : MemberId} :
    TakesPartAt graph includeNonVisible 0 ((ofClass graph type isStatic).buckets start name) place
        member ↔
      Offers graph (ofClass graph type isStatic) start name includeNonVisible (start + place)
        member := by
  have bucket := getElem?_buckets graph type isStatic start name place
  have here : start + place = start ↔ 0 + place = 0 := by omega
  constructor
  · rintro ⟨declared, admitted⟩
    obtain ⟨visible, reaches⟩ := takesPart_iff.mp admitted
    rw [bucket] at declared
    cases found : (ofClass graph type isStatic).typeAtRank? ↑(start + place) with
    | none =>
        rw [found] at declared
        cases declared
    | some declaring =>
        rw [found, Option.map_some, Option.getD_some] at declared
        exact ⟨Nat.le_add_right start place, ⟨declaring, found, declared⟩, visible,
          reaches.imp_left here.mpr⟩
  · rintro ⟨-, ⟨declaring, found, declared⟩, visible, reaches⟩
    refine ⟨?_, takesPart_iff.mpr ⟨visible, reaches.imp_left here.mp⟩⟩
    rw [bucket, found, Option.map_some, Option.getD_some]
    exact declared

end OfClass

/-! ## Look-ups -/

/-- A look-up gives, for every key, the member that the closest class offers, and orders what it
gives by rank and then as it was declared. -/
structure GivesClosest (graph : Graph) (map : ClassMemberMap) (start : Nat) (name : String)
    (includeNonVisible : Bool) (listed : List LoadedMember) : Prop where
  single : (listed.map fun loaded => graph.keyOf loaded.member).Nodup
  complete : ∀ rank member, Offers graph map start name includeNonVisible rank member →
    ∃ loaded ∈ listed, graph.keyOf loaded.member = graph.keyOf member
  offered : ∀ loaded ∈ listed,
    Offers graph map start name includeNonVisible (start + loaded.rank) loaded.member
  closest : ∀ loaded ∈ listed, ∀ rank member,
    Offers graph map start name includeNonVisible rank member →
      graph.keyOf member = graph.keyOf loaded.member →
        start + loaded.rank ≤ rank ∧ (rank = start + loaded.rank → member = loaded.member)
  declaring : ∀ loaded ∈ listed,
    map.typeAtRank? ↑(start + loaded.rank) = (graph.memberAt loaded.member).definingType
  ordered : listed.Pairwise fun closer farther =>
    closer.rank < farther.rank ∨ closer.rank = farther.rank ∧
      ∃ declaring, map.typeAtRank? ↑(start + closer.rank) = some declaring ∧
        [closer.member, farther.member].Sublist
          ((graph.typeAt declaring).declaredByName name map.isStatic)

end ClassMemberMap

namespace Graph

open ClassMemberMap

variable {graph : Graph} {type : TypeId}

theorem nodup_keys_loadedAtRank (graph : Graph) (map : ClassMemberMap) (rank : Nat) (name : String)
    (includeNonVisible : Bool) :
    ((map.loadedAtRank graph rank name includeNonVisible).map
      fun loaded => graph.keyOf loaded.member).Nodup := by
  have distinct := nodup_keys_mergeLevels graph includeNonVisible 0 (map.buckets rank name)
  rw [loadedAtRank_eq, List.Perm.nodup_iff ((List.mergeSort_perm _ _).map _), Table.values,
    List.map_map]
  have named : (mergeLevels graph includeNonVisible 0 (map.buckets rank name)).entries.map
      ((fun loaded => graph.keyOf loaded.member) ∘ (·.2))
        = (mergeLevels graph includeNonVisible 0 (map.buckets rank name)).keys :=
    List.map_congr_left fun entry held => (takesPartAt_of_mem_mergeLevels held).1.symm
  rwa [named]

/-- The members of a name that a class declares have different keys. -/
theorem pairwise_keys_buckets (membered : graph.Membered) (type : TypeId) (isStatic : Bool)
    (start : Nat) {name : String} (stable : Text.IsStable name) (place : Nat) :
    (((ofClass graph type isStatic).buckets start name)[place]?.getD []).Pairwise
      fun first second => graph.keyOf first ≠ graph.keyOf second := by
  have overloads := (overloaded_buckets membered type isStatic stable).distinct (start + place)
  rw [getElem?_buckets, Nat.zero_add, ← getElem?_buckets] at overloads
  exact overloads.imp Overloads.keys

section Offered

variable {isStatic includeNonVisible : Bool} {start rank : Nat} {name : String} {member : MemberId}

theorem definingType_of_offers (membered : graph.Membered)
    (offers : Offers graph (ofClass graph type isStatic) start name includeNonVisible rank member) :
    (ofClass graph type isStatic).typeAtRank? rank = (graph.memberAt member).definingType := by
  obtain ⟨declaring, found, declared⟩ := offers.declared
  rw [found, (membered.owns_of_mem_bucket declared).owner]

/-- What is offered is given, if nothing closer with its key is offered. -/
theorem mem_loadedAtRank_of_offers (membered : graph.Membered) (stable : Text.IsStable name)
    (offers : Offers graph (ofClass graph type isStatic) start name includeNonVisible rank member)
    (closest : ∀ closer, closer < rank → ∀ other,
      Offers graph (ofClass graph type isStatic) start name includeNonVisible closer other →
        graph.keyOf other ≠ graph.keyOf member) :
    { member, rank := rank - start }
      ∈ (ofClass graph type isStatic).loadedAtRank graph start name includeNonVisible := by
  obtain ⟨place, rfl⟩ := Nat.exists_eq_add_of_le offers.above
  rw [Nat.add_sub_cancel_left]
  have held := mem_mergeLevels (takesPartAt_buckets_iff.mpr offers)
    (pairwise_keys_buckets membered type isStatic start stable place)
    (fun closer before other takes =>
      closest (start + closer) (by omega) other (takesPartAt_buckets_iff.mp takes))
  rw [Nat.zero_add] at held
  exact mem_loadedAtRank.mpr ⟨_, held⟩

/-- For every key that is offered, something is given: the induction looks for the least rank at
which a member of the key is offered. -/
theorem exists_loaded_of_offers (membered : graph.Membered) (stable : Text.IsStable name)
    (offers : Offers graph (ofClass graph type isStatic) start name includeNonVisible rank member) :
    ∃ loaded ∈ (ofClass graph type isStatic).loadedAtRank graph start name includeNonVisible,
      graph.keyOf loaded.member = graph.keyOf member := by
  induction rank using Nat.strong_induction_on generalizing member with
  | _ rank induction =>
      by_cases masked : ∃ closer, closer < rank ∧ ∃ other,
          Offers graph (ofClass graph type isStatic) start name includeNonVisible closer other ∧
            graph.keyOf other = graph.keyOf member
      · obtain ⟨closer, before, other, offered, same⟩ := masked
        obtain ⟨loaded, listed, found⟩ := induction closer before offered
        exact ⟨loaded, listed, found.trans same⟩
      · refine ⟨_, mem_loadedAtRank_of_offers membered stable offers ?_, rfl⟩
        intro closer before other offered same
        exact masked ⟨closer, before, other, offered, same⟩

end Offered

/-- A look-up by a stable name gives the closest members. -/
theorem givesClosest_loadedAtRank (membered : graph.Membered) (type : TypeId) (isStatic : Bool)
    (start : Nat) {name : String} (stable : Text.IsStable name) (includeNonVisible : Bool) :
    GivesClosest graph (ofClass graph type isStatic) start name includeNonVisible
      ((ofClass graph type isStatic).loadedAtRank graph start name includeNonVisible) := by
  have offered : ∀ loaded ∈ (ofClass graph type isStatic).loadedAtRank graph start name
      includeNonVisible,
      TakesPartAt graph includeNonVisible 0 ((ofClass graph type isStatic).buckets start name)
          loaded.rank loaded.member ∧
        ∀ closer, closer < loaded.rank → ∀ member,
          TakesPartAt graph includeNonVisible 0 ((ofClass graph type isStatic).buckets start name)
            closer member → graph.keyOf member ≠ graph.keyOf loaded.member := by
    intro loaded listed
    obtain ⟨key, held⟩ := mem_loadedAtRank.mp listed
    obtain ⟨named, place, ranked, takes, closest⟩ := takesPartAt_of_mem_mergeLevels held
    dsimp only at named ranked takes closest
    rw [Nat.zero_add] at ranked
    rw [named] at closest
    exact ⟨ranked ▸ takes, ranked ▸ closest⟩
  constructor
  case single => exact nodup_keys_loadedAtRank ..
  case complete => exact fun rank member offers => exists_loaded_of_offers membered stable offers
  case offered => exact fun loaded listed => takesPartAt_buckets_iff.mp (offered loaded listed).1
  case closest =>
    intro loaded listed rank member offers same
    obtain ⟨takes, closest⟩ := offered loaded listed
    obtain ⟨place, rfl⟩ := Nat.exists_eq_add_of_le offers.above
    have takesOther := takesPartAt_buckets_iff.mpr offers
    constructor
    · apply Nat.add_le_add_left
      apply Nat.le_of_not_lt
      exact fun before => closest place before member takesOther same
    · intro sameRank
      obtain rfl : place = loaded.rank := Nat.add_left_cancel sameRank
      have distinct := pairwise_keys_buckets membered type isStatic start stable loaded.rank
      exact List.inj_on_of_nodup_map (List.pairwise_map.mpr distinct) takesOther.declared
        takes.declared same
  case declaring =>
    intro loaded listed
    exact definingType_of_offers membered (takesPartAt_buckets_iff.mp (offered loaded listed).1)
  case ordered =>
    rw [List.pairwise_iff_forall_sublist]
    intro closer farther pair
    have sorted := List.pairwise_iff_forall_sublist.mp
      (pairwise_rank_loadedAtRank graph (ofClass graph type isStatic) start name includeNonVisible)
      pair
    rcases Nat.lt_or_eq_of_le sorted with before | same
    · exact .inl before
    · have declared := pair_sublist_bucket pair same
      have listed := pair.subset List.mem_cons_self
      obtain ⟨declaring, found, -⟩ :=
        (takesPartAt_buckets_iff.mp (offered closer listed).1).declared
      rw [getElem?_buckets, found, Option.map_some, Option.getD_some] at declared
      exact .inr ⟨same, declaring, found, declared⟩

/-! ## Look-ups of superclasses -/

/-- In a graph without cycles, the chain from a superclass on is its own chain. -/
theorem drop_parentChain (wellFormed : graph.WellFormed) (present : type < graph.types.size)
    {place : Nat} {superclass : TypeId}
    (found : (graph.parentChain type)[place]? = some superclass) :
    (graph.parentChain type).drop place = graph.parentChain superclass := by
  have longer := parentChainFrom_eq_parentChain wellFormed.hierarchical.acyclic
    (fun _ _ link => (wellFormed.hierarchical.linked link).1) present
    (show graph.types.size ≤ graph.types.size + place by omega)
  rw [← longer] at found ⊢
  rw [drop_parentChainFrom found, Nat.add_sub_cancel]
  rfl

/-- A look-up at the rank of a superclass is the look-up of the superclass. -/
theorem loadedAtRank_superclass (wellFormed : graph.WellFormed) (present : type < graph.types.size)
    {isStatic : Bool} {rank : Nat} {superclass : TypeId}
    (found : (ofClass graph type isStatic).typeAtRank? rank = some superclass) (name : String)
    (includeNonVisible : Bool) :
    (ofClass graph superclass isStatic).loadedAtRank graph 0 name includeNonVisible
      = (ofClass graph type isStatic).loadedAtRank graph rank name includeNonVisible := by
  rw [typeAtRank?_ofClass] at found
  have chain := drop_parentChain wellFormed present found
  have same : (ofClass graph superclass isStatic).buckets 0 name
      = (ofClass graph type isStatic).buckets rank name := by
    simp only [buckets, ofClass, List.drop_zero, ← List.map_drop, chain]
  rw [loadedAtRank_eq graph (ofClass graph type isStatic), ← same]
  exact loadedAtRank_eq graph (ofClass graph superclass isStatic) 0 name includeNonVisible

end Graph

open Nominal.Graph

/-- After every run, a look-up at any rank of the member map of a class gives for every key the
member that the closest class from there on offers, by rank and in the order of declaration, and it
is the look-up of the class at that rank. -/
theorem loadedAtRank_givesClosest {run : List Operation}
    (admitted : ({} : Graph).admits run = true) {type : TypeId}
    (isClass : ((({} : Graph).after run).typeAt type).isClass = true) (isStatic : Bool)
    (rank : Nat) {name : String} (stable : Text.IsStable name) (includeNonVisible : Bool) :
    let graph := ({} : Graph).after run
    let map := ((classMemberMapView type isStatic).exec graph).1
    let listed := map.loadedAtRank graph rank name includeNonVisible
    map.GivesClosest graph rank name includeNonVisible listed ∧
      ∀ superclass, map.typeAtRank? rank = some superclass →
        ((classMemberMapView superclass isStatic).exec graph).1.loadedAtRank graph 0 name
          includeNonVisible = listed := by
  have sound := sound_after admitted
  have viewed : ∀ asked, ((classMemberMapView asked isStatic).exec (({} : Graph).after run)).1
      = ClassMemberMap.ofClass (({} : Graph).after run) asked isStatic :=
    fun asked => (Query.Answers.classMemberMap asked isStatic _ sound).1
  intro graph map listed
  rw [show listed = map.loadedAtRank graph rank name includeNonVisible from rfl,
    show map = ClassMemberMap.ofClass graph type isStatic from viewed type]
  refine ⟨givesClosest_loadedAtRank sound.wellFormed.membered type isStatic rank stable _, ?_⟩
  intro superclass found
  rw [show ((classMemberMapView superclass isStatic).exec graph).1
    = ClassMemberMap.ofClass graph superclass isStatic from viewed superclass]
  exact loadedAtRank_superclass sound.wellFormed (lt_size_of_isClass isClass) found name _

/-- A chain of three classes with overloads at its root, one of which is overridden by a private
method. -/
def privateOverride : List Operation :=
  [.openArena {}, .newClass 0 "Root" "m" .pub (.ofList [.root]), .newClass 0 "Middle" "m" .pub {},
    .newClass 0 "Leaf" "m" .pub {}, .setParent 1 (some 0), .setParent 2 (some 1),
    .setTrusted 1 true, .newMember (.method none .pub false "f" [] none),
    .newMember (.method none .pub false "f" [{ name := "x", type := none }] none),
    .newMember (.method none .priv false "f" [] none), .declareMember 0 (some 0) false,
    .declareMember 0 (some 1) false, .declareMember 1 (some 2) false]

theorem loadedAtRank_givesClosest_privateOverride :
    ({} : Graph).admits privateOverride = true ∧
      ((({} : Graph).after privateOverride).typeAt 2).isClass = true ∧ Text.IsStable "f" ∧
      ⟨0, 2⟩ ∈ (({} : Graph).after privateOverride).lookUp 2 false "f" ∧
      ⟨2, 0⟩ ∈ (({} : Graph).after privateOverride).lookUp 1 false "f" ∧
      ((classMemberMapView 2 false).exec (({} : Graph).after privateOverride)).1.loadedAtRank
          (({} : Graph).after privateOverride) 1 "f" false
        = (({} : Graph).after privateOverride).lookUp 1 false "f" := by
  have admitted : ({} : Graph).admits privateOverride = true := by
    decide +kernel
  have isClass : ((({} : Graph).after privateOverride).typeAt 2).isClass = true := by
    decide +kernel
  have stable : Text.IsStable "f" := by
    decide +kernel
  have superclass := (loadedAtRank_givesClosest admitted isClass false 1 stable false).2 1
  refine ⟨admitted, isClass, stable, ?_, ?_, (superclass (by decide +kernel)).symm⟩
  · exact ClassMemberMap.mem_loadedAtRank.mpr
      ⟨(({} : Graph).after privateOverride).keyOf 0, by decide +kernel⟩
  · exact ClassMemberMap.mem_loadedAtRank.mpr
      ⟨(({} : Graph).after privateOverride).keyOf 2, by decide +kernel⟩

end Nominal
