import Mathlib.Algebra.Order.BigOperators.Group.Finset
import Nominal.Proofs.AncestorOrder
import Nominal.Proofs.Rosters

/-!
# The member map of an interface

The interfaces above an interface are merged in depth-first pre-order: an interface first, then
those that it extends, in declaration order, and nothing twice.  `Graph.PreOrder` is that order,
stated apart from the merging.

The map has one entry for each key of an instance member that one of these interfaces declares.  The
entry holds the member of the first of them, and the contributors are all of them, in that order.
The names stay in step with the keys: the members of a name are those among all members that have
it.  Static members are not merged.
-/

namespace Nominal

/-! ## Depth-first pre-order -/

namespace Graph

/-- The pending interfaces and all that they extend, in depth-first pre-order, without those that
were met before. -/
inductive PreOrder (graph : Graph) : List TypeId → List TypeId → List TypeId → Prop where
  | nil {met : List TypeId} : PreOrder graph met [] []
  | known {met pending order : List TypeId} {interface : TypeId} (old : interface ∈ met)
      (later : PreOrder graph met pending order) : PreOrder graph met (interface :: pending) order
  | fresh {met pending above order : List TypeId} {interface : TypeId} (new : interface ∉ met)
      (first : PreOrder graph (interface :: met) (graph.typeAt interface).interfaces above)
      (later : PreOrder graph (above.reverse ++ interface :: met) pending order) :
      PreOrder graph met (interface :: pending) (interface :: above ++ order)

namespace PreOrder

variable {graph : Graph} {met pending order : List TypeId}

/-- There is one pre-order only. -/
theorem unique (preOrder : graph.PreOrder met pending order) {other : List TypeId}
    (again : graph.PreOrder met pending other) : other = order := by
  induction preOrder generalizing other with
  | nil =>
      cases again with
      | nil => rfl
  | known old later induction =>
      cases again with
      | known _ later => exact induction later
      | fresh new _ _ => exact absurd old new
  | fresh new first later inductionFirst inductionLater =>
      cases again with
      | known old _ => exact absurd old new
      | fresh _ firstAgain laterAgain =>
          obtain rfl := inductionFirst firstAgain
          obtain rfl := inductionLater laterAgain
          rfl

/-- Nothing is listed twice, or listed again. -/
theorem nodup (preOrder : graph.PreOrder met pending order) :
    order.Nodup ∧ order.Disjoint met := by
  induction preOrder with
  | nil => exact ⟨.nil, List.disjoint_nil_left _⟩
  | known old later induction => exact induction
  | @fresh met pending above order interface new first later inductionFirst inductionLater =>
      obtain ⟨distinctAbove, newAbove⟩ := inductionFirst
      obtain ⟨distinct, newOrder⟩ := inductionLater
      rw [List.disjoint_append_right, List.disjoint_cons_right] at newOrder
      rw [List.disjoint_cons_right] at newAbove
      obtain ⟨apart, notAgain, newOrder⟩ := newOrder
      have reversed : above.Disjoint order := fun _ inAbove inOrder =>
        apart inOrder (List.mem_reverse.mpr inAbove)
      rw [List.cons_append, List.nodup_cons, List.disjoint_cons_left, List.mem_append]
      exact ⟨⟨not_or.mpr ⟨newAbove.1, notAgain⟩, distinctAbove.append distinct reversed⟩, new,
        List.disjoint_append_left.mpr ⟨newAbove.2, newOrder⟩⟩

/-- Whatever is listed is above something pending. -/
theorem reached (preOrder : graph.PreOrder met pending order) :
    ∀ interface ∈ order, ∃ start ∈ pending, graph.Reaches start interface := by
  induction preOrder with
  | nil => exact nofun
  | known old later induction =>
      intro interface listed
      obtain ⟨start, waiting, path⟩ := induction interface listed
      exact ⟨start, List.mem_cons_of_mem _ waiting, path⟩
  | @fresh met pending above order origin new first later inductionFirst inductionLater =>
      intro interface listed
      rcases List.mem_cons.mp listed with rfl | listed
      · exact ⟨interface, List.mem_cons_self, .refl⟩
      · rcases List.mem_append.mp listed with under | after
        · obtain ⟨extended, declared, path⟩ := inductionFirst interface under
          exact ⟨origin, List.mem_cons_self,
            .head (InterfaceMemberMap.extends_of_mem_interfaces declared) path⟩
        · obtain ⟨start, waiting, path⟩ := inductionLater interface after
          exact ⟨start, List.mem_cons_of_mem _ waiting, path⟩

/-- Whatever is pending is listed, unless it was met before. -/
theorem covers (preOrder : graph.PreOrder met pending order) :
    ∀ interface ∈ pending, interface ∈ met ∨ interface ∈ order := by
  induction preOrder with
  | nil => exact nofun
  | known old later induction =>
      intro interface waiting
      rcases List.mem_cons.mp waiting with rfl | waiting
      · exact .inl old
      · exact induction interface waiting
  | fresh new first later inductionFirst inductionLater =>
      intro interface waiting
      rcases List.mem_cons.mp waiting with rfl | waiting
      · exact .inr List.mem_cons_self
      · have known := inductionLater interface waiting
        simp only [List.mem_append, List.mem_reverse, List.mem_cons] at known ⊢
        tauto

/-- Whatever a listed interface extends is listed, unless it was met before. -/
theorem closed (preOrder : graph.PreOrder met pending order) :
    ∀ interface ∈ order, ∀ extended ∈ (graph.typeAt interface).interfaces,
      extended ∈ met ∨ extended ∈ order := by
  induction preOrder with
  | nil => exact nofun
  | known old later induction => exact induction
  | fresh new first later inductionFirst inductionLater =>
      intro interface listed extended declared
      simp only [List.cons_append, List.mem_cons, List.mem_append] at listed ⊢
      rcases listed with rfl | under | after
      · have known := first.covers extended declared
        simp only [List.mem_cons] at known
        tauto
      · have known := inductionFirst interface under extended declared
        simp only [List.mem_cons] at known
        tauto
      · have known := inductionLater interface after extended declared
        simp only [List.mem_append, List.mem_reverse, List.mem_cons] at known
        tauto

end PreOrder

variable {graph : Graph}

theorem openLinks_append_le (graph : Graph) (more seen : List TypeId) :
    graph.openLinks (more ++ seen) ≤ graph.openLinks seen := by
  apply Finset.sum_le_sum_of_subset
  intro type outside
  simp only [Finset.mem_filter, List.mem_append, not_or] at outside ⊢
  exact ⟨outside.1, outside.2.2⟩

/-- There is a pre-order of all pending interfaces. -/
theorem exists_preOrder (graph : Graph) (met pending : List TypeId) :
    ∃ order, graph.PreOrder met pending order := by
  -- The induction is on the links that are still to be followed.
  induction steps : pending.length + graph.openLinks met using Nat.strong_induction_on
    generalizing met pending with
  | _ steps induction =>
      cases pending with
      | nil => exact ⟨[], .nil⟩
      | cons interface rest =>
          rw [List.length_cons] at steps
          by_cases known : interface ∈ met
          · obtain ⟨order, later⟩ := induction _ (by omega) met rest rfl
            exact ⟨order, .known known later⟩
          · have counted := openLinks_cons graph known
            have few := InterfaceMemberMap.length_interfaces_le graph interface
            obtain ⟨above, first⟩ := induction _ (by omega) (interface :: met)
              (graph.typeAt interface).interfaces rfl
            have fewer := graph.openLinks_append_le above.reverse (interface :: met)
            obtain ⟨order, later⟩ := induction _ (by omega)
              (above.reverse ++ interface :: met) rest rfl
            exact ⟨interface :: above ++ order, .fresh known first later⟩

theorem mem_interfaces_of_extends {type supertype : TypeId}
    (isInterface : (graph.typeAt type).isClass = false) (link : graph.Extends type supertype) :
    supertype ∈ (graph.typeAt type).interfaces := by
  cases shape : (graph.typeAt type).shape with
  | classShape part => simp [NominalType.isClass, shape] at isInterface
  | interfaceShape =>
      simpa [Extends, supertypesOf, NominalType.supertypes, NominalType.parent?,
        NominalType.classPart, shape] using link

/-- The pre-order of an interface is made of the interface and everything above it. -/
theorem PreOrder.mem_iff (sound : graph.Sound) {type : TypeId} {order : List TypeId}
    (isInterface : (graph.typeAt type).isClass = false)
    (preOrder : graph.PreOrder [] [type] order) {interface : TypeId} :
    interface ∈ order ↔ graph.Reaches type interface := by
  constructor
  · intro listed
    obtain ⟨start, waiting, path⟩ := preOrder.reached interface listed
    rwa [List.mem_singleton.mp waiting] at path
  · intro path
    induction path with
    | refl => simpa using preOrder.covers type List.mem_cons_self
    | @tail middle interface below link listed =>
        have extended : interface ∈ (graph.typeAt middle).interfaces :=
          mem_interfaces_of_extends (isInterface_of_reaches sound isInterface below) link
        simpa using preOrder.closed middle listed interface extended

end Graph

namespace InterfaceMemberMap

variable {graph : Graph}

/-- Merging takes the interfaces in depth-first pre-order. -/
theorem mergeFrom_of_preOrder {met pending order : List TypeId}
    (preOrder : graph.PreOrder met pending order) (waiting : List TypeId)
    (map : InterfaceMemberMap) {steps : Nat}
    (enough : (pending ++ waiting).length + graph.openLinks met < steps) :
    ∃ fewer, waiting.length + graph.openLinks (order.reverse ++ met) < fewer ∧
      mergeFrom graph steps met (pending ++ waiting) map
        = mergeFrom graph fewer (order.reverse ++ met) waiting
            (order.foldl (addInterface graph) map) := by
  induction preOrder generalizing waiting map steps with
  | nil => exact ⟨steps, enough, rfl⟩
  | @known met pending order interface old later induction =>
      obtain ⟨steps, rfl⟩ : ∃ rest, steps = rest + 1 := ⟨steps - 1, by omega⟩
      rw [List.cons_append, List.length_cons] at enough
      rw [List.cons_append, mergeFrom, if_pos old]
      exact induction waiting map (by omega)
  | @fresh met pending above order interface new first later inductionFirst inductionLater =>
      obtain ⟨steps, rfl⟩ : ∃ rest, steps = rest + 1 := ⟨steps - 1, by omega⟩
      have counted := Graph.openLinks_cons graph new
      have few := length_interfaces_le graph interface
      rw [List.cons_append, List.length_cons] at enough
      obtain ⟨between, enoughLeft, mergedAbove⟩ := @inductionFirst (pending ++ waiting)
        (addInterface graph map interface) steps (by rw [List.length_append]; omega)
      obtain ⟨fewer, left, mergedLater⟩ := inductionLater waiting
        (above.foldl (addInterface graph) (addInterface graph map interface)) enoughLeft
      refine ⟨fewer, ?_, ?_⟩
      · simpa using left
      · rw [List.cons_append, mergeFrom, if_neg new, mergedAbove, mergedLater]
        simp

theorem ofInterface_eq_foldl {type : TypeId} {order : List TypeId}
    (preOrder : graph.PreOrder [] [type] order) :
    ofInterface graph type = order.foldl (addInterface graph) { owner := type } := by
  have enough : ([type] ++ []).length + graph.openLinks [] < graph.linkCount + 2 := by
    rw [Graph.openLinks_nil, List.append_nil, List.length_singleton]
    omega
  obtain ⟨fewer, -, merged⟩ := mergeFrom_of_preOrder preOrder [] { owner := type } enough
  rw [List.append_nil] at merged
  rw [ofInterface, merged]
  cases fewer <;> rfl

/-! ## Entries -/

/-- The map of some instance members, each with the interface that declares it. -/
structure Merges (graph : Graph) (declared : List (TypeId × MemberId)) (map : InterfaceMemberMap) :
    Prop where
  distinct : map.members.keys.Nodup
  entries : ∀ key, map.members.get? key =
    (declared.find? (graph.keyOf ·.2 = key)).map fun first =>
      { member := first.2, contributors := (declared.filter (graph.keyOf ·.2 = key)).map (·.1) }
  names : ∀ name, (map.byName.get? name).getD []
    = map.allMembers.filter fun member => (graph.memberAt member).identifier = name

section Merging

variable {declared : List (TypeId × MemberId)} {map : InterfaceMemberMap} {interface : TypeId}

theorem Merges.start (graph : Graph) (owner : TypeId) : Merges graph [] { owner } :=
  ⟨List.nodup_nil, fun _ => rfl, fun _ => rfl⟩

/-- A member with a known key makes its interface a contributor. -/
theorem Merges.contribute (merges : Merges graph declared map) {member : MemberId}
    {entry : InterfaceEntry} (known : map.members.get? (graph.keyOf member) = some entry) :
    Merges graph (declared ++ [(interface, member)]) { map with
      members := map.members.set (graph.keyOf member)
        { entry with contributors := entry.contributors ++ [interface] } } := by
  have first := merges.entries (graph.keyOf member)
  rw [known] at first
  obtain ⟨winner, isFirst, rfl⟩ := Option.map_eq_some_iff.mp first.symm
  refine ⟨Table.nodup_keys_set merges.distinct, ?_, ?_⟩
  · intro key
    rw [Table.get?_set]
    by_cases here : key = graph.keyOf member
    · subst here
      simp [isFirst]
    · rw [if_neg here, merges.entries]
      simp [Ne.symm here]
  · intro name
    rw [merges.names]
    apply congrArg
    symm
    exact Table.map_values_set _ known rfl

/-- A member with a new key gets an entry, under its key and under its name. -/
theorem Merges.insert (merges : Merges graph declared map) {member : MemberId}
    (new : map.members.get? (graph.keyOf member) = none) :
    Merges graph (declared ++ [(interface, member)]) { map with
      members := map.members.set (graph.keyOf member) { member, contributors := [interface] }
      byName := map.byName.set (graph.memberAt member).identifier
        ((map.byName.get? (graph.memberAt member).identifier).getD [] ++ [member]) } := by
  have fresh : graph.keyOf member ∉ map.members.keys := Table.get?_eq_none_iff.mp new
  have unknown := merges.entries (graph.keyOf member)
  rw [new] at unknown
  have notBefore := Option.map_eq_none_iff.mp unknown.symm
  have noneBefore : declared.filter (graph.keyOf ·.2 = graph.keyOf member) = [] :=
    List.filter_eq_nil_iff.mpr (List.find?_eq_none.mp notBefore)
  refine ⟨Table.nodup_keys_set merges.distinct, ?_, ?_⟩
  · intro key
    rw [Table.get?_set]
    by_cases here : key = graph.keyOf member
    · subst here
      simp [notBefore, noneBefore]
    · rw [if_neg here, merges.entries]
      simp [Ne.symm here]
  · intro name
    have longer : (map.members.set (graph.keyOf member)
        { member, contributors := [interface] }).values.map (·.member)
          = map.allMembers ++ [member] := by
      simp [allMembers, Table.values, Table.entries_set _ fresh]
    unfold allMembers
    rw [Table.get?_set, longer, merges.names]
    by_cases here : name = (graph.memberAt member).identifier
    · simp [here]
    · simp [here, Ne.symm here, merges.names]

theorem Merges.addMember (merges : Merges graph declared map) {name : String} {member : MemberId}
    (visible : (graph.memberAt member).visibility ≠ .hidden)
    (named : (graph.memberAt member).identifier = name) :
    Merges graph (declared ++ [(interface, member)])
      (addMember graph interface name map member) := by
  subst named
  unfold InterfaceMemberMap.addMember
  rw [if_neg visible]
  dsimp only
  split
  next entry known => exact merges.contribute known
  next new => exact merges.insert new

theorem Merges.addBucket (merges : Merges graph declared map) {name : String}
    {members : List MemberId} (visible : ∀ member ∈ members,
      (graph.memberAt member).visibility ≠ .hidden)
    (named : ∀ member ∈ members, (graph.memberAt member).identifier = name) :
    Merges graph (declared ++ members.map (interface, ·))
      (members.foldl (InterfaceMemberMap.addMember graph interface name) map) := by
  induction members generalizing declared map with
  | nil => simpa using merges
  | cons member rest induction =>
      rw [List.forall_mem_cons] at visible named
      have added : Merges graph (declared ++ [(interface, member)]) _ :=
        merges.addMember visible.1 named.1
      simpa using induction added visible.2 named.2

/-- The instance members of an interface, each with the interface. -/
def declaredPairs (graph : Graph) (interface : TypeId) : List (TypeId × MemberId) :=
  (graph.typeAt interface).instanceMembers.values.flatten.map (interface, ·)

theorem Merges.addInterface (merges : Merges graph declared map)
    (isInterface : (graph.typeAt interface).isClass = false)
    (buckets : ∀ entry ∈ (graph.typeAt interface).instanceMembers.entries,
      graph.Bucket interface false entry.1 entry.2) :
    Merges graph (declared ++ declaredPairs graph interface)
      (addInterface graph map interface) := by
  unfold declaredPairs Table.values InterfaceMemberMap.addInterface
  generalize (graph.typeAt interface).instanceMembers.entries = entries at buckets ⊢
  induction entries generalizing declared map with
  | nil => simpa using merges
  | cons entry rest induction =>
      rw [List.forall_mem_cons] at buckets
      have visible : ∀ member ∈ entry.2, (graph.memberAt member).visibility ≠ .hidden := by
        intro member inBucket
        rw [(buckets.1.owned member inBucket).publicly isInterface]
        exact nofun
      have added : Merges graph (declared ++ entry.2.map (interface, ·)) _ :=
        merges.addBucket visible buckets.1.named
      simpa using induction added buckets.2

theorem Merges.addInterfaces (merges : Merges graph declared map) {order : List TypeId}
    (areInterfaces : ∀ interface ∈ order, (graph.typeAt interface).isClass = false)
    (inPlace : graph.MembersInPlace) :
    Merges graph (declared ++ order.flatMap (declaredPairs graph))
      (order.foldl (InterfaceMemberMap.addInterface graph) map) := by
  induction order generalizing declared map with
  | nil => simpa using merges
  | cons interface rest induction =>
      rw [List.forall_mem_cons] at areInterfaces
      have added := merges.addInterface areInterfaces.1 (inPlace.buckets interface false)
      simpa using induction added areInterfaces.2

end Merging

end InterfaceMemberMap

namespace Graph

/-- Whether an instance member that a type declares has a key. -/
def declaresKey (graph : Graph) (key : MemberKey) (type : TypeId) : Bool :=
  (graph.typeAt type).instanceMembers.values.flatten.any (graph.keyOf · = key)

variable {graph : Graph} {type : TypeId} {key : MemberKey}

theorem declaresKey_iff : graph.declaresKey key type = true ↔
    ∃ member ∈ (graph.typeAt type).instanceMembers.values.flatten, graph.keyOf member = key := by
  simp only [declaresKey, List.any_eq_true, decide_eq_true_eq]

/-- The instance members of a type have different keys. -/
theorem MembersInPlace.nodup_keys_instanceMembers (inPlace : graph.MembersInPlace)
    (type : TypeId) :
    ((graph.typeAt type).instanceMembers.values.flatten.map graph.keyOf).Nodup := by
  have buckets := inPlace.buckets type false
  rw [List.map_flatten, List.nodup_flatten]
  constructor
  · intro keys listed
    obtain ⟨bucket, inValues, rfl⟩ := List.mem_map.mp listed
    obtain ⟨entry, inTable, rfl⟩ := List.mem_map.mp inValues
    exact List.pairwise_map.mpr (buckets entry inTable).keys
  · have distinct := inPlace.names type false
    rw [Table.keys, List.Nodup, List.pairwise_map] at distinct
    rw [Table.values, List.pairwise_map, List.pairwise_map]
    apply distinct.imp_of_mem
    intro first second inFirst inSecond different key underFirst underSecond
    obtain ⟨member, inBucket, rfl⟩ := List.mem_map.mp underFirst
    obtain ⟨other, inOther, same⟩ := List.mem_map.mp underSecond
    apply different
    have names : ∀ {entry member},
        entry ∈ ((graph.typeAt type).declared false).entries → member ∈ entry.2 →
          (graph.keyOf member).identifier = entry.1 := by
      intro entry member inTable inside
      have bucket := buckets entry inTable
      exact (congrArg Text.canonical (bucket.named member inside)).trans bucket.composed
    rw [← names inFirst inBucket, ← names inSecond inOther, same]

/-- A type that declares a key declares it once. -/
theorem MembersInPlace.filter_declaredPairs (inPlace : graph.MembersInPlace) (key : MemberKey)
    (type : TypeId) :
    ((InterfaceMemberMap.declaredPairs graph type).filter (graph.keyOf ·.2 = key)).map (·.1)
      = if graph.declaresKey key type then [type] else [] := by
  have once : ((graph.typeAt type).instanceMembers.values.flatten.filter
      (graph.keyOf · = key)).length = if graph.declaresKey key type then 1 else 0 := by
    have counted := (inPlace.nodup_keys_instanceMembers type).count (a := key)
    rw [List.count, List.countP_map, List.countP_eq_length_filter] at counted
    simp only [declaresKey_iff, ← List.mem_map]
    exact counted
  have constant : ∀ members : List MemberId,
      ((members.map (type, ·)).filter (graph.keyOf ·.2 = key)).map (·.1)
        = List.replicate (members.filter (graph.keyOf · = key)).length type := by
    intro members
    rw [← List.map_const', List.filter_map, List.map_map]
    rfl
  rw [InterfaceMemberMap.declaredPairs, constant, once]
  split <;> rfl

theorem MembersInPlace.filter_flatMap_declaredPairs (inPlace : graph.MembersInPlace)
    (key : MemberKey) (order : List TypeId) :
    ((order.flatMap (InterfaceMemberMap.declaredPairs graph)).filter
      (graph.keyOf ·.2 = key)).map (·.1) = order.filter (graph.declaresKey key) := by
  induction order with
  | nil => rfl
  | cons type rest induction =>
      rw [List.flatMap_cons, List.filter_append, List.map_append, induction,
        inPlace.filter_declaredPairs, List.filter_cons]
      split <;> rfl

/-- The first member of a key stands in the first interface that declares the key. -/
theorem MembersInPlace.find?_declaresKey (inPlace : graph.MembersInPlace) (key : MemberKey)
    (order : List TypeId) :
    order.find? (graph.declaresKey key)
      = ((order.flatMap (InterfaceMemberMap.declaredPairs graph)).find?
          (graph.keyOf ·.2 = key)).map (·.1) := by
  rw [← List.head?_filter, ← List.head?_filter, ← inPlace.filter_flatMap_declaredPairs,
    List.head?_map]

/-- The member map of an interface has what the interfaces of its pre-order declare. -/
theorem MembersInPlace.merges_ofInterface (inPlace : graph.MembersInPlace) (sound : graph.Sound)
    (isInterface : (graph.typeAt type).isClass = false) {order : List TypeId}
    (preOrder : graph.PreOrder [] [type] order) :
    InterfaceMemberMap.Merges graph (order.flatMap (InterfaceMemberMap.declaredPairs graph))
      (InterfaceMemberMap.ofInterface graph type) := by
  have areInterfaces : ∀ interface ∈ order, (graph.typeAt interface).isClass = false :=
    fun _ listed =>
      isInterface_of_reaches sound isInterface ((preOrder.mem_iff sound isInterface).mp listed)
  rw [InterfaceMemberMap.ofInterface_eq_foldl preOrder]
  exact (InterfaceMemberMap.Merges.start graph type).addInterfaces areInterfaces inPlace

end Graph

open Nominal.Graph

/-! ## What the map says -/

namespace InterfaceMemberMap.Merges

variable {graph : Graph} {map : InterfaceMemberMap} {order : List TypeId}

/-- The keys are those that one of the interfaces declares. -/
theorem mem_keys_iff (merges : Merges graph (order.flatMap (declaredPairs graph)) map)
    (inPlace : graph.MembersInPlace) (key : MemberKey) :
    key ∈ map.members.keys ↔ ∃ interface ∈ order, graph.declaresKey key interface := by
  have unlisted : key ∉ map.members.keys ↔ order.find? (graph.declaresKey key) = none := by
    rw [← Table.get?_eq_none_iff, merges.entries, inPlace.find?_declaresKey,
      Option.map_eq_none_iff, Option.map_eq_none_iff]
  rw [← not_iff_not, unlisted, List.find?_eq_none]
  simp

/-- The member of an entry is one of the first interface that declares its key. -/
theorem exists_first (merges : Merges graph (order.flatMap (declaredPairs graph)) map)
    (inPlace : graph.MembersInPlace) {key : MemberKey} {entry : InterfaceEntry}
    (found : map.members.get? key = some entry) :
    ∃ first, order.find? (graph.declaresKey key) = some first ∧
      entry.member ∈ (graph.typeAt first).instanceMembers.values.flatten ∧
      graph.keyOf entry.member = key := by
  rw [merges.entries] at found
  obtain ⟨pair, isFirst, rfl⟩ := Option.map_eq_some_iff.mp found
  obtain ⟨interface, -, inPairs⟩ := List.mem_flatMap.mp (List.mem_of_find?_eq_some isFirst)
  obtain ⟨member, declared, rfl⟩ := List.mem_map.mp inPairs
  refine ⟨interface, ?_, declared, by simpa using List.find?_some isFirst⟩
  rw [inPlace.find?_declaresKey, isFirst]
  rfl

/-- The contributors are the interfaces that declare a key. -/
theorem contributors_eq (merges : Merges graph (order.flatMap (declaredPairs graph)) map)
    (inPlace : graph.MembersInPlace) (key : MemberKey) :
    map.contributors key = order.filter (graph.declaresKey key) := by
  rw [contributors, merges.entries, ← inPlace.filter_flatMap_declaredPairs]
  cases isFirst : (order.flatMap (declaredPairs graph)).find? (graph.keyOf ·.2 = key) with
  | none =>
      have nothing : (order.flatMap (declaredPairs graph)).filter (graph.keyOf ·.2 = key) = [] :=
        List.filter_eq_nil_iff.mpr (List.find?_eq_none.mp isFirst)
      simp [nothing]
  | some pair => rfl

end InterfaceMemberMap.Merges

/-- After every run, the member map of an interface is taken from the interface and its ancestors in
depth-first pre-order.  It has one entry for each key of an instance member that one of them
declares; the entry holds the member of the first of them, the contributors are all of them in that
order, and the members of a name are those among all members that have the composed name. -/
theorem interfaceMemberMap_after {run : List Operation} (admitted : ({} : Graph).admits run = true)
    (stable : ∀ member, Operation.newMember member ∈ run → Text.IsStable member.identifier)
    {type : TypeId} (isInterface : ((({} : Graph).after run).typeAt type).isClass = false) :
    let graph := ({} : Graph).after run
    let map := ((interfaceMemberMapView type).exec graph).1
    let ancestors := ((ancestorsView type).exec graph).1
    ∃ order, graph.PreOrder [] [type] order ∧ order.Nodup ∧
      (∀ interface, interface ∈ order ↔ interface = type ∨ interface ∈ ancestors) ∧
      map.members.keys.Nodup ∧
      (∀ key, key ∈ map.members.keys ↔ ∃ interface ∈ order, graph.declaresKey key interface) ∧
      (∀ key entry, map.members.get? key = some entry →
        ∃ first, order.find? (graph.declaresKey key) = some first ∧
          entry.member ∈ (graph.typeAt first).instanceMembers.values.flatten ∧
          graph.keyOf entry.member = key) ∧
      (∀ key, map.contributors key = order.filter (graph.declaresKey key)) ∧
      ∀ name, map.membersByName name = map.allMembers.filter fun member =>
        (graph.memberAt member).identifier = Text.canonical name := by
  intro graph map ancestors
  have sound : graph.Sound := sound_after admitted
  have inPlace : graph.MembersInPlace := membersInPlace_after admitted stable
  obtain ⟨order, preOrder⟩ := graph.exists_preOrder [] [type]
  have reached : ∀ interface, interface ∈ order ↔ graph.Reaches type interface := fun _ =>
    preOrder.mem_iff sound isInterface
  have merged : map = InterfaceMemberMap.ofInterface graph type :=
    (Query.Answers.interfaceMemberMap type graph sound).1
  have listed : ancestors = graph.ancestors type false :=
    (Query.Answers.ancestors type graph sound).1
  have merges := inPlace.merges_ofInterface sound isInterface preOrder
  rw [← merged] at merges
  refine ⟨order, preOrder, preOrder.nodup.1, ?_, merges.distinct, merges.mem_keys_iff inPlace,
    fun key entry => merges.exists_first inPlace, merges.contributors_eq inPlace,
    fun name => merges.names (Text.canonical name)⟩
  intro interface
  rw [reached, listed]
  by_cases same : interface = type
  · subst same
    exact iff_of_true .refl (.inl rfl)
  · simp [same, mem_ancestors_iff (Ne.symm same)]

/-- An interface that reaches the topmost one before and after another that declares the same
method. -/
def sharedMethod : List Operation :=
  diamond ++
    [.newMember (.method none .pub false "f" [] none),
      .newMember (.method none .pub false "f" [] none),
      .newMember (.method none .pub false "f" [{ name := "x", type := none }] none),
      .declareMember 0 (some 0) false, .declareMember 2 (some 1) false,
      .declareMember 2 (some 2) false]

theorem interfaceMemberMap_after_sharedMethod :
    ({} : Graph).admits sharedMethod = true ∧
      (∀ member, Operation.newMember member ∈ sharedMethod → Text.IsStable member.identifier) ∧
      ((({} : Graph).after sharedMethod).typeAt 3).isClass = false ∧
      (({} : Graph).after sharedMethod).PreOrder [] [3] [3, 1, 0, 2] ∧
      ((interfaceMemberMapView 3).exec (({} : Graph).after sharedMethod)).1.contributors
        ((({} : Graph).after sharedMethod).keyOf 0) = [0, 2] ∧
      ((interfaceMemberMapView 3).exec (({} : Graph).after sharedMethod)).1.membersByName "f"
        = [0, 2] := by
  have admitted : ({} : Graph).admits sharedMethod = true := by
    decide +kernel
  have stable : ∀ member, Operation.newMember member ∈ sharedMethod →
      Text.IsStable member.identifier := by
    intro member created
    simp only [sharedMethod, diamond, List.cons_append, List.nil_append, List.mem_cons,
      List.not_mem_nil, or_false, reduceCtorEq, false_or, Operation.newMember.injEq] at created
    rcases created with rfl | rfl | rfl
    all_goals decide +kernel
  have isInterface : ((({} : Graph).after sharedMethod).typeAt 3).isClass = false := by
    decide +kernel
  have top : ((({} : Graph).after sharedMethod).typeAt 0).interfaces = [] := by
    decide +kernel
  have left : ((({} : Graph).after sharedMethod).typeAt 1).interfaces = [0] := by
    decide +kernel
  have right : ((({} : Graph).after sharedMethod).typeAt 2).interfaces = [0] := by
    decide +kernel
  have bottom : ((({} : Graph).after sharedMethod).typeAt 3).interfaces = [1, 2, 0] := by
    decide +kernel
  have underLeft : (({} : Graph).after sharedMethod).PreOrder [1, 3] [0] ([0] ++ []) := by
    apply Graph.PreOrder.fresh (by decide) _ .nil
    rw [top]
    exact .nil
  have afterLeft : (({} : Graph).after sharedMethod).PreOrder [0, 1, 3] [2, 0] ([2] ++ []) := by
    apply Graph.PreOrder.fresh (by decide) _ (.known (by decide) .nil)
    rw [right]
    exact .known (by decide) .nil
  have underBottom :
      (({} : Graph).after sharedMethod).PreOrder [3] [1, 2, 0] ([1, 0] ++ [2]) := by
    apply Graph.PreOrder.fresh (by decide) _ afterLeft
    rw [left]
    exact underLeft
  have preOrder : (({} : Graph).after sharedMethod).PreOrder [] [3] ([3, 1, 0, 2] ++ []) := by
    apply Graph.PreOrder.fresh (by decide) _ .nil
    rw [bottom]
    exact underBottom
  obtain ⟨order, again, -, -, -, -, -, contributors, names⟩ :=
    interfaceMemberMap_after admitted stable isInterface
  obtain rfl := preOrder.unique again
  refine ⟨admitted, stable, isInterface, preOrder, ?_, ?_⟩
  · rw [contributors]
    decide +kernel
  · rw [names]
    decide +kernel

/-- An interface with a static method. -/
def staticMark : List Operation :=
  [.openArena {}, .newInterface 0 "Mark" "m" .pub {},
    .newMember (.method none .pub true "make" [] none), .declareMember 0 (some 0) true]

/-- Members of all kinds taken together, it is not true that each key which an interface or one of
its ancestors declares has an entry: static members are not merged. -/
theorem not_all_keys_merged_staticMark :
    let graph := ({} : Graph).after staticMark
    let map := ((interfaceMemberMapView 0).exec graph).1
    let ancestors := ((ancestorsView 0).exec graph).1
    ({} : Graph).admits staticMark = true ∧ (graph.typeAt 0).isClass = false ∧
      ¬ ∀ key, key ∈ map.members.keys ↔ ∃ interface ∈ 0 :: ancestors,
        ∃ member ∈ (graph.typeAt interface).allMembers, graph.keyOf member = key := by
  intro graph map ancestors
  refine ⟨by decide +kernel, by decide +kernel, ?_⟩
  intro merged
  have declared : 0 ∈ (graph.typeAt 0).allMembers := by
    decide +kernel
  have absent : graph.keyOf 0 ∉ map.members.keys := by
    decide +kernel
  exact absent ((merged (graph.keyOf 0)).mpr ⟨0, List.mem_cons_self, 0, declared, rfl⟩)

end Nominal
