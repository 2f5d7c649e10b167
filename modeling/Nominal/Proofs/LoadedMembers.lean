import Mathlib.Data.List.Nodup
import Nominal.Graph.ClassMembers

/-!
# Members seen from a class

A look-up by name merges one bucket of members for each class of a chain, from the root down.  The
merged table holds, for every key, the closest member that takes part in the look-up: whatever it
holds is declared at its rank, takes part there and is not masked by a closer member, and every such
member is held.
-/

namespace Nominal

namespace Table

variable {Key Value : Type} [DecidableEq Key]

theorem entries_erase_set (table : Table Key Value) (key : Key) (value : Value) :
    ((table.erase key).set key value).entries
      = table.entries.filter (·.1 ≠ key) ++ [(key, value)] := by
  have appended : ∀ entries : List (Key × Value), (∀ entry ∈ entries, entry.1 ≠ key) →
      setEntry key value entries = entries ++ [(key, value)] := by
    intro entries absent
    induction entries with
    | nil => rfl
    | cons entry rest induction =>
        have here : entry.1 ≠ key := absent entry List.mem_cons_self
        have later := induction fun other member => absent other (List.mem_cons_of_mem _ member)
        simp only [setEntry, if_neg here, later, List.cons_append]
  apply appended
  intro entry member
  simpa using (List.mem_filter.mp member).2

theorem mem_of_get?_eq_some {table : Table Key Value} {key : Key} {value : Value}
    (found : table.get? key = some value) : (key, value) ∈ table.entries := by
  obtain ⟨entry, first, rfl⟩ := Option.map_eq_some_iff.mp found
  have named : entry.1 = key := by simpa using List.find?_some first
  rw [← named]
  exact List.mem_of_find?_eq_some first

end Table

namespace ClassMemberMap

variable {graph : Graph} {includeNonVisible : Bool}

/-! ## One bucket -/

/-- Puts a member into a merged table. -/
def override (graph : Graph) (distance : Nat) (loaded : Table MemberKey LoadedMember)
    (member : MemberId) : Table MemberKey LoadedMember :=
  (loaded.erase (graph.keyOf member)).set (graph.keyOf member) { member, rank := distance }

theorem mem_override {distance : Nat} {loaded : Table MemberKey LoadedMember}
    {member : MemberId} {entry : MemberKey × LoadedMember} :
    entry ∈ (override graph distance loaded member).entries ↔
      entry ∈ loaded.entries ∧ entry.1 ≠ graph.keyOf member ∨
        entry = (graph.keyOf member, { member, rank := distance }) := by
  rw [override, Table.entries_erase_set, List.mem_append, List.mem_filter, List.mem_singleton]
  simp only [ne_eq, decide_not, Bool.not_eq_eq_eq_not, Bool.not_true, decide_eq_false_iff_not]

theorem mergeRank_eq_foldl (graph : Graph) (includeNonVisible : Bool) (distance : Nat)
    (members : List MemberId) (loaded : Table MemberKey LoadedMember) :
    mergeRank graph includeNonVisible distance members loaded
      = (members.filter (takesPart graph includeNonVisible distance)).foldl
          (override graph distance) loaded :=
  rfl

/-- Of several members with one key the last one is held. -/
theorem mem_foldl_override {distance : Nat} {members : List MemberId}
    {loaded : Table MemberKey LoadedMember} {entry : MemberKey × LoadedMember} :
    entry ∈ (members.foldl (override graph distance) loaded).entries ↔
      entry ∈ loaded.entries ∧ (∀ member ∈ members, graph.keyOf member ≠ entry.1) ∨
        ∃ before member after, members = before ++ member :: after ∧
          entry = (graph.keyOf member, { member, rank := distance }) ∧
          ∀ later ∈ after, graph.keyOf later ≠ graph.keyOf member := by
  induction members generalizing loaded with
  | nil => simp
  | cons first rest induction =>
      rw [List.foldl_cons, induction, mem_override]
      constructor
      · rintro (⟨old | rfl, unmasked⟩ | ⟨before, member, after, rfl, same, last⟩)
        · refine .inl ⟨old.1, ?_⟩
          intro member listed
          rcases List.mem_cons.mp listed with rfl | later
          · exact fun equal => old.2 equal.symm
          · exact unmasked member later
        · exact .inr ⟨[], first, rest, rfl, rfl, unmasked⟩
        · exact .inr ⟨first :: before, member, after, rfl, same, last⟩
      · rintro (⟨old, unmasked⟩ | ⟨before, member, after, split, same, last⟩)
        · have here := unmasked first List.mem_cons_self
          refine .inl ⟨.inl ⟨old, fun equal => here equal.symm⟩, ?_⟩
          exact fun member listed => unmasked member (List.mem_cons_of_mem first listed)
        · cases before with
          | nil =>
              obtain ⟨rfl, rfl⟩ := List.cons.inj split
              refine .inl ⟨.inr same, ?_⟩
              intro later listed
              rw [same]
              exact last later listed
          | cons head before =>
              obtain ⟨rfl, rfl⟩ := List.cons.inj split
              exact .inr ⟨before, member, after, rfl, same, last⟩

/-! ## All buckets -/

/-- Merges the buckets of some classes, the closest of which stands at a distance. -/
def mergeLevels (graph : Graph) (includeNonVisible : Bool) :
    Nat → List (List MemberId) → Table MemberKey LoadedMember
  | _, [] => .empty
  | distance, bucket :: farther =>
    mergeRank graph includeNonVisible distance bucket
      (mergeLevels graph includeNonVisible (distance + 1) farther)

/-- The buckets of a name, from a rank on. -/
def buckets (map : ClassMemberMap) (rank : Nat) (name : String) : List (List MemberId) :=
  (map.ranks.drop rank).map fun level => (level.2.get? (Text.canonical name)).getD []

theorem foldr_zipIdx_mergeRank (graph : Graph) (includeNonVisible : Bool) (identifier : String)
    (distance : Nat) (levels : List (TypeId × MemberTable)) :
    (levels.zipIdx distance).foldr
      (fun entry loaded => mergeRank graph includeNonVisible entry.2
        ((entry.1.2.get? identifier).getD []) loaded) .empty
      = mergeLevels graph includeNonVisible distance
          (levels.map fun level => (level.2.get? identifier).getD []) := by
  induction levels generalizing distance with
  | nil => rfl
  | cons level farther induction =>
      rw [List.zipIdx_cons, List.foldr_cons, induction]
      rfl

/-- A look-up lists what the merged buckets hold, closest first. -/
theorem loadedAtRank_eq (graph : Graph) (map : ClassMemberMap) (rank : Nat) (name : String)
    (includeNonVisible : Bool) :
    map.loadedAtRank graph rank name includeNonVisible
      = (mergeLevels graph includeNonVisible 0 (map.buckets rank name)).values.mergeSort
          fun first second => decide (first.rank ≤ second.rank) := by
  have notNegative : ¬ ((rank : Int) < 0) := by omega
  simp only [loadedAtRank, if_neg notNegative, Int.toNat_natCast]
  rw [foldr_zipIdx_mergeRank]
  rfl

/-- A member takes part at a place of a list of buckets. -/
structure TakesPartAt (graph : Graph) (includeNonVisible : Bool) (distance : Nat)
    (levels : List (List MemberId)) (place : Nat) (member : MemberId) : Prop where
  declared : member ∈ levels[place]?.getD []
  admitted : takesPart graph includeNonVisible (distance + place) member = true

theorem takesPartAt_zero {distance : Nat} {bucket : List MemberId}
    {farther : List (List MemberId)} {member : MemberId} :
    TakesPartAt graph includeNonVisible distance (bucket :: farther) 0 member ↔
      member ∈ bucket.filter (takesPart graph includeNonVisible distance) := by
  rw [List.mem_filter]
  exact ⟨fun takes => ⟨takes.declared, takes.admitted⟩, fun takes => ⟨takes.1, takes.2⟩⟩

theorem takesPartAt_succ {distance place : Nat} {bucket : List MemberId}
    {farther : List (List MemberId)} {member : MemberId} :
    TakesPartAt graph includeNonVisible distance (bucket :: farther) (place + 1) member ↔
      TakesPartAt graph includeNonVisible (distance + 1) farther place member := by
  have moved : distance + (place + 1) = distance + 1 + place := by omega
  constructor
  · intro takes
    exact ⟨by simpa using takes.declared, moved ▸ takes.admitted⟩
  · intro takes
    exact ⟨by simpa using takes.declared, moved ▸ takes.admitted⟩

/-- Whatever the merged buckets hold takes part at its rank, under its key, and is not masked by
anything closer. -/
theorem takesPartAt_of_mem_mergeLevels {distance : Nat} {levels : List (List MemberId)}
    {entry : MemberKey × LoadedMember}
    (held : entry ∈ (mergeLevels graph includeNonVisible distance levels).entries) :
    entry.1 = graph.keyOf entry.2.member ∧
      ∃ place, entry.2.rank = distance + place ∧
        TakesPartAt graph includeNonVisible distance levels place entry.2.member ∧
        ∀ closer, closer < place → ∀ member,
          TakesPartAt graph includeNonVisible distance levels closer member →
            graph.keyOf member ≠ entry.1 := by
  induction levels generalizing distance with
  | nil => cases held
  | cons bucket farther induction =>
      rw [mergeLevels, mergeRank_eq_foldl, mem_foldl_override] at held
      rcases held with ⟨far, unmasked⟩ | ⟨before, member, after, split, rfl, _⟩
      · obtain ⟨named, place, ranked, takes, closest⟩ := induction far
        refine ⟨named, place + 1, by omega, takesPartAt_succ.mpr takes, ?_⟩
        intro closer before member other
        cases closer with
        | zero => exact unmasked member (takesPartAt_zero.mp other)
        | succ closer =>
            exact closest closer (by omega) member (takesPartAt_succ.mp other)
      · refine ⟨rfl, 0, rfl, takesPartAt_zero.mpr ?_, ?_⟩
        · rw [split]
          exact List.mem_append_right before List.mem_cons_self
        · exact fun closer impossible => absurd impossible (Nat.not_lt_zero closer)

/-- A member that takes part is held, if nothing closer and nothing later in its own bucket has its
key. -/
theorem mem_mergeLevels {distance place : Nat} {levels : List (List MemberId)}
    {member : MemberId}
    (takes : TakesPartAt graph includeNonVisible distance levels place member)
    (distinct : (levels[place]?.getD []).Pairwise fun first second =>
      graph.keyOf first ≠ graph.keyOf second)
    (closest : ∀ closer, closer < place → ∀ other,
      TakesPartAt graph includeNonVisible distance levels closer other →
        graph.keyOf other ≠ graph.keyOf member) :
    (graph.keyOf member, { member, rank := distance + place })
      ∈ (mergeLevels graph includeNonVisible distance levels).entries := by
  induction levels generalizing distance place with
  | nil => exact absurd takes.declared (by simp)
  | cons bucket farther induction =>
      rw [mergeLevels, mergeRank_eq_foldl, mem_foldl_override]
      cases place with
      | zero =>
          right
          obtain ⟨before, after, split⟩ := List.append_of_mem (takesPartAt_zero.mp takes)
          refine ⟨before, member, after, split, rfl, ?_⟩
          have filtered : (before ++ member :: after).Pairwise fun first second =>
              graph.keyOf first ≠ graph.keyOf second := by
            rw [← split]
            exact distinct.filter _
          intro later listed equal
          have rest := (List.pairwise_append.mp filtered).2.1
          exact (List.pairwise_cons.mp rest).1 later listed equal.symm
      | succ place =>
          left
          have held := induction (takesPartAt_succ.mp takes) (by simpa using distinct)
            (fun closer before other participates =>
              closest (closer + 1) (by omega) other (takesPartAt_succ.mpr participates))
          have moved : distance + 1 + place = distance + (place + 1) := by omega
          refine ⟨moved ▸ held, ?_⟩
          intro other listed
          exact closest 0 (Nat.zero_lt_succ place) other (takesPartAt_zero.mpr listed)

/-- The merged buckets hold one member for each key. -/
theorem nodup_keys_mergeLevels (graph : Graph) (includeNonVisible : Bool) (distance : Nat)
    (levels : List (List MemberId)) :
    (mergeLevels graph includeNonVisible distance levels).keys.Nodup := by
  induction levels generalizing distance with
  | nil => exact List.nodup_nil
  | cons bucket farther induction =>
      rw [mergeLevels, mergeRank_eq_foldl]
      have kept : ∀ (members : List MemberId) (loaded : Table MemberKey LoadedMember),
          loaded.keys.Nodup → (members.foldl (override graph distance) loaded).keys.Nodup := by
        intro members
        induction members with
        | nil => exact fun _ distinct => distinct
        | cons member rest induction =>
            intro loaded distinct
            apply induction
            unfold Table.keys override
            rw [Table.entries_erase_set, List.map_append, List.nodup_append]
            refine ⟨List.Nodup.sublist ((List.filter_sublist).map _) distinct,
              List.nodup_singleton _, ?_⟩
            intro first old second new equal
            obtain ⟨entry, listed, rfl⟩ := List.mem_map.mp old
            have different := (List.mem_filter.mp listed).2
            simp only [List.map_cons, List.map_nil, List.mem_singleton] at new
            simp [equal, new] at different
      exact kept _ _ (induction (distance + 1))

/-! ## Look-ups -/

theorem mem_loadedAtRank {map : ClassMemberMap} {rank : Nat} {name : String}
    {loaded : LoadedMember} :
    loaded ∈ map.loadedAtRank graph rank name includeNonVisible ↔
      ∃ key, (key, loaded) ∈
        (mergeLevels graph includeNonVisible 0 (map.buckets rank name)).entries := by
  rw [loadedAtRank_eq, List.mem_mergeSort]
  simp [Table.values]

/-- A look-up gives every member once. -/
theorem nodup_loadedAtRank (graph : Graph) (map : ClassMemberMap) (rank : Nat) (name : String)
    (includeNonVisible : Bool) : (map.loadedAtRank graph rank name includeNonVisible).Nodup := by
  rw [loadedAtRank_eq, List.Perm.nodup_iff (List.mergeSort_perm _ _)]
  have distinct := nodup_keys_mergeLevels graph includeNonVisible 0 (map.buckets rank name)
  have named : ∀ entry ∈
      (mergeLevels graph includeNonVisible 0 (map.buckets rank name)).entries,
      entry.1 = graph.keyOf entry.2.member := fun entry held =>
    (takesPartAt_of_mem_mergeLevels held).1
  have keyed : (mergeLevels graph includeNonVisible 0 (map.buckets rank name)).keys
      = (mergeLevels graph includeNonVisible 0 (map.buckets rank name)).values.map
          fun loaded => graph.keyOf loaded.member := by
    unfold Table.keys Table.values
    rw [List.map_map]
    exact List.map_congr_left named
  rw [keyed] at distinct
  exact List.Nodup.of_map _ distinct

end ClassMemberMap

end Nominal
