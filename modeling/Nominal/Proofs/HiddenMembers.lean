import Nominal.Graph.Overloads
import Nominal.Proofs.Rosters

/-!
# Hidden members

No look-up finds a hidden member, and none is misled by one: a graph without its hidden members
answers every look-up in the same way.  `Graph.withoutHidden` takes them out of all tables, and
`Graph.Strips` relates a graph to one that lacks them, while queries keep views in both.

Interfaces have no hidden members, and in a class all members of a name are hidden if one of them
is.
-/

namespace Nominal

namespace Graph

/-! ## Graphs without hidden members -/

/-- Whether a member is not hidden. -/
def isShown (graph : Graph) (member : MemberId) : Bool :=
  (graph.memberAt member).visibility != .hidden

/-- Entries without hidden members, and without names that stand for nothing else. -/
def shownEntries (graph : Graph) (entries : List (String × List MemberId)) :
    List (String × List MemberId) :=
  (entries.map fun entry => (entry.1, entry.2.filter graph.isShown)).filter (!·.2.isEmpty)

/-- A table without hidden members. -/
def shownTable (graph : Graph) (table : MemberTable) : MemberTable :=
  ⟨graph.shownEntries table.entries⟩

/-- The graph without hidden members in its tables, and without kept views. -/
def withoutHidden (graph : Graph) : Graph :=
  { graph with
    types := graph.types.map fun type =>
      { type with
        staticMembers := graph.shownTable type.staticMembers
        instanceMembers := graph.shownTable type.instanceMembers }
    caches := graph.caches.map fun _ => {} }

section Tables

variable (graph : Graph)

theorem mem_shownTable {table : MemberTable} {entry : String × List MemberId} :
    entry ∈ (graph.shownTable table).entries ↔
      ∃ bucket, (entry.1, bucket) ∈ table.entries ∧ entry.2 = bucket.filter graph.isShown ∧
        entry.2 ≠ [] := by
  simp only [shownTable, shownEntries, List.mem_filter, List.mem_map]
  constructor
  · rintro ⟨⟨⟨name, bucket⟩, listed, rfl⟩, nonempty⟩
    exact ⟨bucket, listed, rfl, by simpa using nonempty⟩
  · obtain ⟨name, members⟩ := entry
    rintro ⟨bucket, listed, rfl, nonempty⟩
    exact ⟨⟨(name, bucket), listed, rfl⟩, by simpa using nonempty⟩

theorem nodup_keys_shownTable {table : MemberTable} (distinct : table.keys.Nodup) :
    (graph.shownTable table).keys.Nodup := by
  have sublist : (graph.shownTable table).keys.Sublist
      ((table.entries.map fun entry => (entry.1, entry.2.filter graph.isShown)).map (·.1)) :=
    List.filter_sublist.map _
  rw [List.map_map] at sublist
  exact distinct.sublist sublist

theorem getD_shownTable {table : MemberTable} (distinct : table.keys.Nodup) (name : String) :
    ((graph.shownTable table).get? name).getD []
      = ((table.get? name).getD []).filter graph.isShown := by
  cases found : table.get? name with
  | none =>
      cases shown : (graph.shownTable table).get? name with
      | none => rfl
      | some members =>
          obtain ⟨bucket, listed, -⟩ := graph.mem_shownTable.mp (Table.mem_of_get?_eq_some shown)
          rw [Table.get?_eq_some_of_mem distinct listed] at found
          cases found
  | some bucket =>
      have listed := Table.mem_of_get?_eq_some found
      by_cases nothing : bucket.filter graph.isShown = []
      · cases shown : (graph.shownTable table).get? name with
        | none => simp [nothing]
        | some members =>
            obtain ⟨other, inTable, filtered, -⟩ :=
              graph.mem_shownTable.mp (Table.mem_of_get?_eq_some shown)
            have same := Table.get?_eq_some_of_mem distinct inTable
            rw [found] at same
            cases same
            exact filtered
      · have shown : (name, bucket.filter graph.isShown) ∈ (graph.shownTable table).entries :=
          graph.mem_shownTable.mpr ⟨bucket, listed, rfl, nothing⟩
        rw [Table.get?_eq_some_of_mem (graph.nodup_keys_shownTable distinct) shown]
        rfl

theorem shownTable_eq_self {table : MemberTable}
    (shown : ∀ entry ∈ table.entries, ∀ member ∈ entry.2, graph.isShown member = true)
    (filled : ∀ entry ∈ table.entries, entry.2 ≠ []) : graph.shownTable table = table := by
  have unchanged : (table.entries.map fun entry => (entry.1, entry.2.filter graph.isShown))
      = table.entries := by
    conv_rhs => rw [← List.map_id table.entries]
    apply List.map_congr_left
    intro entry listed
    rw [List.filter_eq_self.mpr (shown entry listed)]
    rfl
  unfold shownTable shownEntries
  rw [unchanged, List.filter_eq_self.mpr]
  intro entry listed
  simpa using filled entry listed

/-- A computation over entries that ignores hidden members can do without them. -/
theorem foldl_shownEntries {Value : Type} {step : Value → String × List MemberId → Value}
    (ignores : ∀ value entry, step value (entry.1, entry.2.filter graph.isShown) = step value entry)
    (skips : ∀ value name, step value (name, []) = value)
    (entries : List (String × List MemberId)) (value : Value) :
    (graph.shownEntries entries).foldl step value = entries.foldl step value := by
  induction entries generalizing value with
  | nil => rfl
  | cons entry rest induction =>
      rw [List.foldl_cons, ← ignores, ← induction]
      by_cases nothing : entry.2.filter graph.isShown = []
      · rw [nothing, skips]
        simp [shownEntries, nothing]
      · have kept : graph.shownEntries (entry :: rest)
            = (entry.1, entry.2.filter graph.isShown) :: graph.shownEntries rest := by
          rw [shownEntries, List.map_cons, List.filter_cons_of_pos]
          · rfl
          · simpa using nothing
        rw [kept, List.foldl_cons]

theorem shownEntries_flatMap {Index : Type} (levels : List Index)
    (entries : Index → List (String × List MemberId)) :
    graph.shownEntries (levels.flatMap entries)
      = levels.flatMap fun level => graph.shownEntries (entries level) := by
  simp only [shownEntries, List.map_flatMap, List.filter_flatMap]

end Tables

section Types

variable (graph : Graph) (type : TypeId)

theorem typeAt_withoutHidden :
    graph.withoutHidden.typeAt type
      = { graph.typeAt type with
          staticMembers := graph.shownTable (graph.typeAt type).staticMembers
          instanceMembers := graph.shownTable (graph.typeAt type).instanceMembers } := by
  simp only [typeAt, withoutHidden, Array.getElem?_map]
  cases graph.types[type]? <;> rfl

theorem declared_withoutHidden (isStatic : Bool) :
    (graph.withoutHidden.typeAt type).declared isStatic
      = graph.shownTable ((graph.typeAt type).declared isStatic) := by
  rw [typeAt_withoutHidden]
  cases isStatic <;> rfl

theorem supertypesOf_withoutHidden :
    graph.withoutHidden.supertypesOf type = graph.supertypesOf type := by
  rw [supertypesOf, typeAt_withoutHidden]
  rfl

theorem cacheAt_withoutHidden : graph.withoutHidden.cacheAt type = {} := by
  simp only [cacheAt, withoutHidden, Array.getElem?_map]
  cases graph.caches[type]? <;> rfl

theorem size_withoutHidden : graph.withoutHidden.types.size = graph.types.size := by
  simp [withoutHidden]

end Types

section Invariants

variable {graph : Graph}

theorem Hierarchical.withoutHidden (hierarchical : graph.Hierarchical) :
    graph.withoutHidden.Hierarchical := by
  have extends_eq : graph.withoutHidden.Extends = graph.Extends := by
    funext type supertype
    rw [Extends, Extends, supertypesOf_withoutHidden]
  refine ⟨?_, ?_, ?_, ?_, ?_, ?_, ?_, ?_⟩
  · intro type supertype link
    rw [extends_eq] at link
    simpa [typeAt_withoutHidden, size_withoutHidden] using hierarchical.linked link
  · intro type present
    rw [size_withoutHidden] at present
    rw [typeAt_withoutHidden]
    exact hierarchical.indexed present
  · exact hierarchical.acyclic.of_supertypesOf_eq (supertypesOf_withoutHidden graph)
  · intro type supertype isFinal link
    rw [extends_eq] at link
    rw [isSealed, typeAt_withoutHidden] at isFinal ⊢
    exact hierarchical.sealedAbove isFinal link
  · intro type isFinal
    rw [isSealed, typeAt_withoutHidden] at isFinal
    rw [typeAt_withoutHidden]
    exact hierarchical.rooted isFinal
  · intro type parent link
    rw [typeAt_withoutHidden] at link ⊢
    exact hierarchical.parents link
  · intro type interface listed
    rw [typeAt_withoutHidden] at listed ⊢
    exact hierarchical.interfaces listed
  · intro type use id listed attached
    rw [typeAt_withoutHidden] at listed
    rw [size_withoutHidden]
    exact hierarchical.annotated listed attached

theorem keyOf_withoutHidden (membered : graph.Membered) (member : MemberId) :
    graph.withoutHidden.keyOf member = graph.keyOf member := by
  refine Member.key_congr (membered.within member) fun type _ => ?_
  rw [nameOf, typeAt_withoutHidden]
  rfl

theorem Membered.withoutHidden (membered : graph.Membered) : graph.withoutHidden.Membered := by
  refine ⟨?_, ?_, ?_, ?_⟩
  · intro member
    rw [size_withoutHidden]
    exact membered.within member
  · intro type isStatic entry member listed declared
    rw [declared_withoutHidden] at listed
    obtain ⟨bucket, inTable, filtered, -⟩ := graph.mem_shownTable.mp listed
    rw [filtered] at declared
    have owns := membered.owned inTable (List.mem_of_mem_filter declared)
    refine ⟨owns.owner, owns.staticness, owns.inheritable, ?_, owns.named⟩
    rw [typeAt_withoutHidden]
    exact owns.publicly
  · intro type isStatic
    rw [declared_withoutHidden]
    exact graph.nodup_keys_shownTable (membered.distinct type isStatic)
  · intro type isStatic name bucket found composed
    rw [declared_withoutHidden] at found
    obtain ⟨whole, inTable, rfl, -⟩ := graph.mem_shownTable.mp (Table.mem_of_get?_eq_some found)
    have overloaded := membered.overloaded
      (Table.get?_eq_some_of_mem (membered.distinct type isStatic) inTable) composed
    apply (overloaded.sublist List.filter_sublist).imp
    intro first second overloads
    refine ⟨overloads.kind, overloads.noField, ?_, overloads.visibility⟩
    rw [keyOf_withoutHidden membered, keyOf_withoutHidden membered]
    exact overloads.keys

theorem Sound.withoutHidden (sound : graph.Sound) : graph.withoutHidden.Sound := by
  refine ⟨⟨sound.wellFormed.hierarchical.withoutHidden,
    sound.wellFormed.membered.withoutHidden⟩, ?_⟩
  intro view type answer held
  rw [cacheAt_withoutHidden, view.kept_empty] at held
  cases held

end Invariants

/-! ## Values without hidden members -/

/-- The other graph is the first one without hidden members; kept views and journals may differ. -/
structure Strips (graph other : Graph) : Prop where
  sound : graph.Sound
  filled : graph.Filled
  stripped : other.Sound
  bare : other.bare = graph.withoutHidden.bare

namespace Strips

variable {graph other : Graph}

theorem start (sound : graph.Sound) (filled : graph.Filled) : graph.Strips graph.withoutHidden :=
  ⟨sound, filled, sound.withoutHidden, rfl⟩

theorem withoutHidden_eq_of_bare {left : Graph} (same : left.bare = graph.bare) :
    left.withoutHidden.bare = graph.withoutHidden.bare := by
  obtain ⟨_, _, _, _, _, _, _⟩ := graph
  obtain ⟨_, _, _, _, _, _, _⟩ := left
  cases same
  rfl

theorem reads (strips : graph.Strips other) {left right : Graph} (read : graph.Reads left)
    (readOther : other.Reads right) : left.Strips right := by
  refine ⟨read.sound, strips.filled.of_same (.of_bare read.bare), readOther.sound, ?_⟩
  rw [readOther.bare, strips.bare, withoutHidden_eq_of_bare read.bare]

section Facts

variable (strips : graph.Strips other)

include strips

theorem memberAt (member : MemberId) : other.memberAt member = graph.memberAt member :=
  memberAt_eq_of_bare strips.bare member

theorem typeAt (type : TypeId) :
    other.typeAt type
      = { graph.typeAt type with
          staticMembers := graph.shownTable (graph.typeAt type).staticMembers
          instanceMembers := graph.shownTable (graph.typeAt type).instanceMembers } := by
  rw [typeAt_eq_of_bare strips.bare, typeAt_withoutHidden]

theorem isClass (type : TypeId) : (other.typeAt type).isClass = (graph.typeAt type).isClass := by
  rw [strips.typeAt]
  rfl

theorem moduleName (type : TypeId) :
    (other.typeAt type).moduleName = (graph.typeAt type).moduleName := by
  rw [strips.typeAt]

theorem declared (type : TypeId) (isStatic : Bool) :
    (other.typeAt type).declared isStatic
      = graph.shownTable ((graph.typeAt type).declared isStatic) := by
  rw [typeAt_eq_of_bare strips.bare, declared_withoutHidden]

theorem declaredByName (type : TypeId) (name : String) (isStatic : Bool) :
    (other.typeAt type).declaredByName name isStatic
      = ((graph.typeAt type).declaredByName name isStatic).filter graph.isShown := by
  unfold NominalType.declaredByName
  rw [strips.declared]
  exact graph.getD_shownTable (strips.sound.wellFormed.membered.distinct type isStatic) _

theorem sameMember (member : MemberId) : graph.SameMember other member := by
  refine ⟨strips.memberAt member, ?_⟩
  rw [Graph.keyOf, Graph.keyOf, strips.memberAt]
  refine Member.key_congr (strips.sound.wellFormed.membered.within member) fun type _ => ?_
  rw [nameOf, strips.typeAt]
  rfl

theorem supertypesOf (type : TypeId) : other.supertypesOf type = graph.supertypesOf type := by
  rw [Graph.supertypesOf, strips.typeAt]
  rfl

theorem ancestors (type : TypeId) : other.ancestors type false = graph.ancestors type false := by
  unfold Graph.ancestors
  rw [@ancestorPriorities_congr graph other (fun _ => True) type false (fun _ _ _ _ => trivial)
    (fun type _ => strips.supertypesOf type) trivial]

theorem parentChain (type : TypeId) : other.parentChain type = graph.parentChain type := by
  have size : other.types.size = graph.types.size := by
    rw [types_eq_of_bare strips.bare, size_withoutHidden]
  refine strips.sound.wellFormed.parentChain_congr (Nat.le_of_eq size.symm)
    (fun _ _ _ _ => trivial) (fun type _ => ?_) trivial (.inr size)
  rw [strips.typeAt]
  rfl

end Facts

end Strips

end Graph

/-! ## Member maps -/

namespace ClassMemberMap

open Nominal.Graph

variable {graph other : Graph}

theorem filter_takesPart_shown (includeNonVisible : Bool) (distance : Nat)
    (members : List MemberId) :
    (members.filter graph.isShown).filter (takesPart graph includeNonVisible distance)
      = members.filter (takesPart graph includeNonVisible distance) := by
  rw [List.filter_filter]
  apply List.filter_congr
  intro member _
  by_cases hidden : (graph.memberAt member).visibility = .hidden <;>
    simp [takesPart, isShown, hidden]

theorem mergeLevels_shown (includeNonVisible : Bool) (distance : Nat)
    (levels : List (List MemberId)) :
    mergeLevels graph includeNonVisible distance (levels.map (·.filter graph.isShown))
      = mergeLevels graph includeNonVisible distance levels := by
  induction levels generalizing distance with
  | nil => rfl
  | cons bucket farther induction =>
      simp only [List.map_cons, mergeLevels, mergeRank, filter_takesPart_shown, induction]

theorem buckets_stripped (strips : graph.Strips other) (type : TypeId) (isStatic : Bool)
    (rank : Nat) (name : String) :
    (ofClass other type isStatic).buckets rank name
      = ((ofClass graph type isStatic).buckets rank name).map (·.filter graph.isShown) := by
  simp only [buckets, ofClass, strips.parentChain, ← List.map_drop, List.map_map]
  apply List.map_congr_left
  intro superclass _
  exact strips.declaredByName superclass name isStatic

theorem loadedAtRank_stripped (strips : graph.Strips other) (type : TypeId) (isStatic : Bool)
    (rank : Int) (name : String) (includeNonVisible : Bool) :
    (ofClass other type isStatic).loadedAtRank other rank name includeNonVisible
      = (ofClass graph type isStatic).loadedAtRank graph rank name includeNonVisible := by
  by_cases negative : rank < 0
  · simp only [loadedAtRank, if_pos negative]
  · obtain ⟨place, rfl⟩ := Int.eq_ofNat_of_zero_le (Int.not_lt.mp negative)
    rw [loadedAtRank_eq, loadedAtRank_eq,
      mergeLevels_congr _ _ fun _ _ member _ => strips.sameMember member,
      buckets_stripped strips, mergeLevels_shown]

theorem allHidden_shown (members : List MemberId) :
    allHidden graph (members.filter graph.isShown) = allHidden graph members := by
  simp [allHidden, List.all_filter, isShown, bne]

theorem names_stripped (strips : graph.Strips other) (type : TypeId) (isStatic : Bool) :
    (ofClass other type isStatic).names other = (ofClass graph type isStatic).names graph := by
  have same : ∀ members, allHidden other members = allHidden graph members := by
    intro members
    simp only [allHidden, strips.memberAt]
  have entries : ((ofClass other type isStatic).ranks.flatMap fun rank => rank.2.entries)
      = graph.shownEntries ((ofClass graph type isStatic).ranks.flatMap fun rank =>
        rank.2.entries) := by
    rw [shownEntries_flatMap]
    simp only [ofClass, strips.parentChain, List.flatMap_map, strips.declared]
    rfl
  simp only [names, same, entries]
  apply graph.foldl_shownEntries
  · intro found entry
    simp only [allHidden_shown]
  · intro found name
    simp [allHidden]

theorem visibleMembers_stripped (strips : graph.Strips other) (type : TypeId) (isStatic : Bool) :
    (ofClass other type isStatic).visibleMembers other
      = (ofClass graph type isStatic).visibleMembers graph := by
  simp only [visibleMembers, names_stripped strips, loadedByName, loadedAtRank_stripped strips]

end ClassMemberMap

namespace InterfaceMemberMap

open Nominal.Graph

variable {graph other : Graph}

theorem foldl_addMember_shown (interface : TypeId) (name : String) (members : List MemberId)
    (map : InterfaceMemberMap) :
    (members.filter graph.isShown).foldl (addMember graph interface name) map
      = members.foldl (addMember graph interface name) map := by
  induction members generalizing map with
  | nil => rfl
  | cons member rest induction =>
      by_cases hidden : (graph.memberAt member).visibility = .hidden
      · have skipped : addMember graph interface name map member = map := by
          simp only [addMember, if_pos hidden]
        simp [isShown, hidden, skipped, ← induction]
      · have shown : graph.isShown member = true := by simpa [isShown] using hidden
        rw [List.filter_cons_of_pos shown, List.foldl_cons, List.foldl_cons, induction]

theorem addInterface_stripped (strips : graph.Strips other) (interface : TypeId)
    (map : InterfaceMemberMap) :
    addInterface other map interface = addInterface graph map interface := by
  have added : ∀ name, addMember other interface name = addMember graph interface name := by
    intro name
    funext map member
    exact addMember_congr interface name map (strips.sameMember member)
  have table : (other.typeAt interface).instanceMembers
      = graph.shownTable (graph.typeAt interface).instanceMembers :=
    strips.declared interface false
  unfold addInterface
  simp only [table, added]
  apply graph.foldl_shownEntries
  · exact fun map entry => foldl_addMember_shown interface entry.1 entry.2 map
  · exact fun map name => rfl

theorem ofInterface_stripped (strips : graph.Strips other) (type : TypeId) :
    ofInterface other type = ofInterface graph type := by
  refine @ofInterface_congr graph other (fun _ => True) (fun _ _ _ _ => trivial) ?_ ?_ type trivial
  · intro interface _
    rw [strips.typeAt]
  · exact fun interface map _ => addInterface_stripped strips interface map

end InterfaceMemberMap

/-! ## Look-ups -/

open Nominal.Graph

/-- Two builds, each on a graph of its own, that end alike. -/
def EndAlike {α : Type} (build : Build α) (graph : Graph) (again : Build α) (other : Graph) :
    Prop :=
  (again.exec other).1 = (build.exec graph).1

namespace EndAlike

variable {α β : Type} {graph other : Graph}

theorem get_bind {next again : Graph → Build β}
    (rest : EndAlike (next graph) graph (again other) other) :
    EndAlike (get >>= next) graph (get >>= again) other :=
  rest

theorem lift_bind {query : Query α} {value : Graph → α} (answers : query.Answers value)
    (strips : graph.Strips other) {next again : α → Build β}
    (rest : ∀ left right, graph.Reads left → other.Reads right → left.Strips right →
      EndAlike (next (value graph)) left (again (value other)) right) :
    EndAlike (liftM query >>= next) graph (liftM query >>= again) other := by
  obtain ⟨answered, read⟩ := answers graph strips.sound
  obtain ⟨answeredOther, readOther⟩ := answers other strips.stripped
  have ended := rest _ _ read readOther (strips.reads read readOther)
  rw [← answered, ← answeredOther] at ended
  exact ended

theorem definingTypeOf_bind (strips : graph.Strips other) (member : MemberId)
    {next : TypeId → Build β} (rest : ∀ type, EndAlike (next type) graph (next type) other) :
    EndAlike (definingTypeOf member >>= next) graph (definingTypeOf member >>= next) other := by
  rw [EndAlike, definingTypeOf, bind_assoc, Build.exec_get_bind, Build.exec_get_bind,
    strips.memberAt]
  split
  next type _ => exact rest type
  next => rfl

end EndAlike

/-! ## Names of members -/

/-- The names of the members of a declared type, computed from the declarations. -/
def Graph.namesOf (graph : Graph) (type : TypeId) (isStatic : Bool) : List String :=
  if (graph.typeAt type).isClass then (ClassMemberMap.ofClass graph type isStatic).names graph
  else if isStatic then ((graph.typeAt type).declared true).keys
  else graph.identifiersOf (InterfaceMemberMap.ofInterface graph type).allMembers

theorem nominalMemberNames_answers (type : TypeId) (isStatic : Bool) :
    (nominalMemberNames type isStatic).Answers (·.namesOf type isStatic) := by
  have ofClass : Query.Answers (do
      let map ← classMemberMapView type isStatic
      return map.names (← get)) fun graph =>
        (ClassMemberMap.ofClass graph type isStatic).names graph := by
    apply (Query.Answers.classMemberMap type isStatic).bind
    intro graph sound left read
    have agree := sound.wellFormed.agreeOn_of_eq (types_eq_of_bare read.bare)
      (members_eq_of_bare read.bare)
    exact ⟨ClassMemberMap.names_congr (agree.sameMembers trivial isStatic), .refl read.sound⟩
  have ofInterface : Query.Answers (do
      let map ← interfaceMemberMapView type
      return (← get).identifiersOf map.allMembers) fun graph =>
        graph.identifiersOf (InterfaceMemberMap.ofInterface graph type).allMembers := by
    apply (Query.Answers.interfaceMemberMap type).bind
    intro graph sound left read
    refine ⟨?_, .refl read.sound⟩
    show left.identifiersOf _ = graph.identifiersOf _
    simp only [identifiersOf, memberAt_eq_of_bare read.bare]
    rfl
  intro graph sound
  unfold nominalMemberNames Graph.namesOf
  rw [Query.exec_bind, Query.exec_get]
  dsimp only
  by_cases isClass : (graph.typeAt type).isClass = true
  · rw [if_pos isClass, if_pos isClass]
    exact ofClass graph sound
  · rw [if_neg isClass, if_neg isClass]
    cases isStatic with
    | true => exact ⟨rfl, .refl sound⟩
    | false => exact ofInterface graph sound

/-! ## Methods -/

/-- The methods of a name that a declared type offers, computed from the declarations. -/
def Graph.methodsOf (graph : Graph) (type : TypeId) (name : String) (isStatic : Bool) :
    List MemberId :=
  if (graph.typeAt type).isClass then
    let members := ((ClassMemberMap.ofClass graph type isStatic).loadedByName graph name false).map
      (·.member)
    if isStatic then graph.ofKind .method members else members
  else if isStatic then (graph.typeAt type).declaredByName name true
  else (InterfaceMemberMap.ofInterface graph type).membersByName name

theorem classMembersByName_answers (type : TypeId) (name : String) (isStatic : Bool) :
    (classMembersByName type name isStatic).Answers fun graph =>
      ((ClassMemberMap.ofClass graph type isStatic).loadedByName graph name false).map
        (·.member) := by
  apply (Query.Answers.classMemberMap type isStatic).bind
  intro graph sound left read
  refine ⟨?_, .refl read.sound⟩
  rw [← loadedByName_eq_of_reads sound read]
  rfl

theorem staticMethodsByName_answers (type : TypeId) (name : String) :
    (staticMethodsByName type name).Answers fun graph => graph.ofKind .method
      (((ClassMemberMap.ofClass graph type true).loadedByName graph name false).map
        (·.member)) := by
  apply (classMembersByName_answers type name true).bind
  intro graph sound left read
  refine ⟨?_, .refl read.sound⟩
  exact ofKind_congr .method fun member _ => memberAt_eq_of_bare read.bare member

theorem methodCandidates_answers (type : TypeId) (name : String) (isStatic : Bool) :
    (methodCandidates type name isStatic).Answers (·.methodsOf type name isStatic) := by
  intro graph sound
  unfold methodCandidates Graph.methodsOf
  rw [Query.exec_bind, Query.exec_get]
  dsimp only
  by_cases isClass : (graph.typeAt type).isClass = true
  · rw [if_pos isClass, if_pos isClass]
    cases isStatic with
    | true => exact staticMethodsByName_answers type name graph sound
    | false => exact classMembersByName_answers type name false graph sound
  · rw [if_neg isClass, if_neg isClass]
    cases isStatic with
    | true => exact ⟨rfl, .refl sound⟩
    | false => exact interfaceMembersByName_answers type name graph sound

section LookUps

variable {graph other : Graph} (strips : graph.Strips other)

include strips

theorem Graph.Strips.interfaceTable {type : TypeId}
    (isInterface : (graph.typeAt type).isClass = false) (isStatic : Bool) :
    (other.typeAt type).declared isStatic = (graph.typeAt type).declared isStatic := by
  rw [strips.declared]
  apply shownTable_eq_self
  · intro entry listed member declared
    have owns := strips.sound.wellFormed.membered.owned listed declared
    simp [isShown, owns.publicly isInterface]
  · exact strips.filled type isStatic

theorem Graph.Strips.namesOf (type : TypeId) (isStatic : Bool) :
    other.namesOf type isStatic = graph.namesOf type isStatic := by
  unfold Graph.namesOf
  rw [strips.isClass]
  by_cases isClass : (graph.typeAt type).isClass = true
  · rw [if_pos isClass, if_pos isClass, ClassMemberMap.names_stripped strips]
  · rw [if_neg isClass, if_neg isClass, strips.interfaceTable (by simpa using isClass),
      InterfaceMemberMap.ofInterface_stripped strips]
    simp only [identifiersOf, strips.memberAt]

theorem Graph.Strips.methodsOf (type : TypeId) (name : String) (isStatic : Bool) :
    other.methodsOf type name isStatic = graph.methodsOf type name isStatic := by
  unfold Graph.methodsOf NominalType.declaredByName
  rw [strips.isClass]
  by_cases isClass : (graph.typeAt type).isClass = true
  · simp only [if_pos isClass, ClassMemberMap.loadedByName,
      ClassMemberMap.loadedAtRank_stripped strips, ofKind, strips.memberAt]
  · simp only [if_neg isClass, strips.interfaceTable (Bool.eq_false_of_not_eq_true isClass),
      InterfaceMemberMap.ofInterface_stripped strips]

theorem findMethod?_stripped (reference : Option TypeRef) (name : String)
    (types : List (Option TypeRef)) (isStatic : Bool) :
    ((findMethod? reference name types isStatic).exec other).1
      = ((findMethod? reference name types isStatic).exec graph).1 := by
  unfold findMethod?
  dsimp only
  split
  · rfl
  next owner _ =>
    obtain ⟨answered, read⟩ := methodCandidates_answers owner name isStatic graph strips.sound
    obtain ⟨answeredOther, readOther⟩ :=
      methodCandidates_answers owner name isStatic other strips.stripped
    have after := strips.reads read readOther
    simp only [Query.exec_bind, Query.exec_get, Query.exec_pure, answered, answeredOther,
      strips.methodsOf, after.memberAt]

theorem rejectUnknownMember_alike {α : Type} (reference : TypeRef) (name : String)
    (isStatic : Bool) :
    EndAlike (rejectUnknownMember reference name isStatic : Build α) graph
      (rejectUnknownMember reference name isStatic) other := by
  have nominal : ∀ type, ((nominalMemberNames type isStatic).exec other).1
      = ((nominalMemberNames type isStatic).exec graph).1 := by
    intro type
    rw [(nominalMemberNames_answers type isStatic graph strips.sound).1,
      (nominalMemberNames_answers type isStatic other strips.stripped).1]
    exact strips.namesOf type isStatic
  have names : ((memberNames reference isStatic).exec other).1
      = ((memberNames reference isStatic).exec graph).1 := by
    unfold memberNames
    split
    · exact nominal _
    · exact nominal _
    · rfl
  have run : ∀ some : Graph, ((rejectUnknownMember reference name isStatic : Build α).exec some).1
      = .error (.rejected (.unknownMember reference name isStatic
        ((memberNames reference isStatic).exec some).1)) := fun some => rfl
  rw [EndAlike, run, run, names]

theorem Graph.Strips.moduleOf (site : AccessSite) : site.moduleOf other = site.moduleOf graph := by
  simp only [AccessSite.moduleOf, strips.moduleName]

theorem Graph.Strips.referencingClass? (site : AccessSite) :
    site.referencingClass? other = site.referencingClass? graph := by
  simp only [AccessSite.referencingClass?, strips.isClass]

theorem Graph.Strips.superclassMember? (type : TypeId) (isStatic : Bool) (referencing : TypeId)
    (name : String) :
    Nominal.superclassMember? other (ClassMemberMap.ofClass other type isStatic) referencing name
      = Nominal.superclassMember? graph (ClassMemberMap.ofClass graph type isStatic) referencing
          name := by
  have chain : (ClassMemberMap.ofClass other type isStatic).ranks.map (·.1)
      = (ClassMemberMap.ofClass graph type isStatic).ranks.map (·.1) := by
    simp [ClassMemberMap.ofClass, Function.comp_def, strips.parentChain]
  simp only [Nominal.superclassMember?, chain, ClassMemberMap.loadedAtRank_stripped strips]

theorem definingTypeOf_alike (member : MemberId) :
    EndAlike (definingTypeOf member) graph (definingTypeOf member) other := by
  rw [EndAlike, definingTypeOf, Build.exec_get_bind, Build.exec_get_bind, strips.memberAt]
  split <;> rfl

theorem checkLoadedMember_alike (type : TypeId) (name : String) (site : AccessSite)
    (isStatic : Bool) :
    EndAlike (checkLoadedMember type name site isStatic) graph
      (checkLoadedMember type name site isStatic) other := by
  unfold checkLoadedMember
  refine .lift_bind (Query.Answers.classMemberMap type isStatic) strips ?_
  intro left right read readOther after
  -- Both look-ups give the same member, so only its visibility matters from here on.
  rw [← ofClass_eq_of_reads strips.sound read, ← ofClass_eq_of_reads strips.stripped readOther]
  apply EndAlike.get_bind
  have closest : (ClassMemberMap.ofClass right type isStatic).closestByName? right name true
      = (ClassMemberMap.ofClass left type isStatic).closestByName? left name true := by
    simp only [ClassMemberMap.closestByName?, ClassMemberMap.loadedByName,
      ClassMemberMap.loadedAtRank_stripped after]
  simp only [closest, after.memberAt, after.moduleOf, after.moduleName, after.referencingClass?,
    after.superclassMember?]
  cases (ClassMemberMap.ofClass left type isStatic).closestByName? left name true with
  | none => exact rejectUnknownMember_alike after _ _ _
  | some loaded =>
      apply EndAlike.definingTypeOf_bind after
      intro declaring
      cases (left.memberAt loaded.member).visibility with
      | pub => rfl
      | prot =>
          cases site.referencing with
          | none => rfl
          | some referencing =>
              refine .lift_bind (nominalDerivesFrom_answers referencing declaring) after ?_
              intro left right _ _ last
              rw [after.ancestors]
              split <;> rfl
      | moduleOnly =>
          dsimp only
          split <;> rfl
      | priv =>
          dsimp only
          split
          · rfl
          · split
            next member _ => exact definingTypeOf_alike after member
            next => rfl
      | hidden => rfl

theorem Graph.Strips.declaredByName_hidden {type : TypeId} {name : String} {isStatic : Bool}
    (stable : Text.IsStable name) {own : MemberId} {others : List MemberId}
    (declared : (graph.typeAt type).declaredByName name isStatic = own :: others)
    (hidden : (graph.memberAt own).visibility = .hidden) :
    (other.typeAt type).declaredByName name isStatic = [] := by
  rw [strips.declaredByName, declared, List.filter_eq_nil_iff]
  have overloaded : (own :: others).Pairwise graph.Overloads := by
    rw [← declared]
    unfold NominalType.declaredByName
    cases found : ((graph.typeAt type).declared isStatic).get? (Text.canonical name) with
    | none => exact .nil
    | some bucket => exact strips.sound.wellFormed.membered.overloaded found stable
  intro member listed
  have same : (graph.memberAt member).visibility = (graph.memberAt own).visibility := by
    rcases List.mem_cons.mp listed with rfl | later
    · rfl
    · exact ((List.pairwise_cons.mp overloaded).1 member later).visibility.symm
  simp [isShown, same, hidden]

/-- Inside of a method, a private member takes precedence unless it is hidden, and then all members
of its name are. -/
theorem checkClassMember_alike (type : TypeId) {name : String} (stable : Text.IsStable name)
    (site : AccessSite) (isStatic : Bool) :
    EndAlike (checkClassMember type name site isStatic) graph
      (checkClassMember type name site isStatic) other := by
  unfold checkClassMember
  apply EndAlike.get_bind
  rw [strips.referencingClass?]
  split
  next referencing inBody =>
    refine .lift_bind (nominalDerivesFrom_answers type referencing) strips ?_
    intro left right _ _ after
    have loaded := checkLoadedMember_alike after type name site isStatic
    rw [strips.ancestors]
    split
    · cases declared : (graph.typeAt referencing).declaredByName name isStatic with
      | nil =>
          have none : (other.typeAt referencing).declaredByName name isStatic = [] := by
            rw [strips.declaredByName, declared, List.filter_nil]
          rw [none]
          exact loaded
      | cons own others =>
          by_cases hidden : (graph.memberAt own).visibility = .hidden
          · rw [strips.declaredByName_hidden stable declared hidden]
            dsimp only
            rw [if_neg (by rw [hidden]; exact nofun)]
            exact loaded
          · have shown : graph.isShown own = true := by simpa [isShown] using hidden
            rw [strips.declaredByName, declared, List.filter_cons_of_pos shown]
            dsimp only
            rw [strips.memberAt]
            split
            · rfl
            · exact loaded
    · exact loaded
  next => exact checkLoadedMember_alike strips type name site isStatic

theorem Graph.Strips.interfaceMember? {type : TypeId}
    (isInterface : (graph.typeAt type).isClass = false) (name : String) (isStatic : Bool) :
    other.interfaceMember? type name isStatic = graph.interfaceMember? type name isStatic := by
  unfold Graph.interfaceMember? NominalType.declaredByName
  rw [strips.interfaceTable isInterface, InterfaceMemberMap.ofInterface_stripped strips]

theorem checkNominalMember_alike (type : TypeId) {name : String} (stable : Text.IsStable name)
    (site : AccessSite) (isStatic : Bool) :
    EndAlike (checkNominalMember type name site isStatic) graph
      (checkNominalMember type name site isStatic) other := by
  unfold checkNominalMember
  apply EndAlike.get_bind
  rw [strips.isClass]
  split
  · exact checkClassMember_alike strips type stable site isStatic
  next isInterface =>
    refine .lift_bind (interfaceMemberByName?_answers type name isStatic) strips ?_
    intro left right _ _ after
    rw [strips.interfaceMember? (by simpa using isInterface)]
    split
    next member _ => exact definingTypeOf_alike after member
    next => exact rejectUnknownMember_alike after _ _ _

theorem checkMemberAccess_alike (reference : TypeRef) {name : String} (stable : Text.IsStable name)
    (site : AccessSite) (isStatic : Bool) :
    EndAlike (checkMemberAccess reference name site isStatic) graph
      (checkMemberAccess reference name site isStatic) other := by
  unfold checkMemberAccess
  dsimp only
  split
  · exact checkNominalMember_alike strips _ stable.canonical site isStatic
  · exact checkNominalMember_alike strips _ stable.canonical site isStatic
  · exact rejectUnknownMember_alike strips _ _ _

end LookUps

/-! ## After every run -/

/-- Two graphs that answer all look-ups of members alike.  Access to a member is included for names
whose composed forms are composed. -/
structure Graph.SameLookUps (graph other : Graph) : Prop where
  loaded : ∀ type isStatic (rank : Int) name includeNonVisible,
    ((classMemberMapView type isStatic).exec other).1.loadedAtRank other rank name includeNonVisible
      = ((classMemberMapView type isStatic).exec graph).1.loadedAtRank graph rank name
          includeNonVisible
  closest : ∀ type isStatic name includeNonVisible,
    ((classMemberMapView type isStatic).exec other).1.closestByName? other name includeNonVisible
      = ((classMemberMapView type isStatic).exec graph).1.closestByName? graph name
          includeNonVisible
  names : ∀ type isStatic, ((classMemberMapView type isStatic).exec other).1.names other
    = ((classMemberMapView type isStatic).exec graph).1.names graph
  instanceMembers : ∀ type, ((classInstanceMembersView type).exec other).1
    = ((classInstanceMembersView type).exec graph).1
  staticMembers : ∀ type, ((classStaticMembersView type).exec other).1
    = ((classStaticMembersView type).exec graph).1
  fields : ∀ type, ((fieldsView type).exec other).1 = ((fieldsView type).exec graph).1
  methods : ∀ type, ((methodsView type).exec other).1 = ((methodsView type).exec graph).1
  method : ∀ reference name types isStatic,
    ((findMethod? reference name types isStatic).exec other).1
      = ((findMethod? reference name types isStatic).exec graph).1
  access : ∀ reference name site isStatic, Text.IsStable name →
    ((checkMemberAccess reference name site isStatic).exec other).1
      = ((checkMemberAccess reference name site isStatic).exec graph).1

theorem Graph.Strips.sameLookUps {graph other : Graph} (strips : graph.Strips other) :
    graph.SameLookUps other := by
  have map : ∀ type isStatic, ((classMemberMapView type isStatic).exec graph).1
      = ClassMemberMap.ofClass graph type isStatic :=
    fun type isStatic => (Query.Answers.classMemberMap type isStatic graph strips.sound).1
  have mapOther : ∀ type isStatic, ((classMemberMapView type isStatic).exec other).1
      = ClassMemberMap.ofClass other type isStatic :=
    fun type isStatic => (Query.Answers.classMemberMap type isStatic other strips.stripped).1
  have view : ∀ (view : View) type, view.value other type = view.value graph type →
      ((view.ask type).exec other).1 = ((view.ask type).exec graph).1 := by
    intro view type same
    rw [(Query.Answers.ask view type other strips.stripped).1,
      (Query.Answers.ask view type graph strips.sound).1]
    exact same
  have ofKind : ∀ kind type,
      other.ofKind kind ((ClassMemberMap.ofClass other type false).visibleMembers other)
        = graph.ofKind kind ((ClassMemberMap.ofClass graph type false).visibleMembers graph) := by
    intro kind type
    rw [ClassMemberMap.visibleMembers_stripped strips]
    exact ofKind_congr kind fun member _ => strips.memberAt member
  refine ⟨?_, ?_, ?_, ?_, ?_, ?_, ?_, ?_, ?_⟩
  · intro type isStatic rank name includeNonVisible
    rw [map, mapOther, ClassMemberMap.loadedAtRank_stripped strips]
  · intro type isStatic name includeNonVisible
    simp only [map, mapOther, ClassMemberMap.closestByName?, ClassMemberMap.loadedByName,
      ClassMemberMap.loadedAtRank_stripped strips]
  · intro type isStatic
    rw [map, mapOther, ClassMemberMap.names_stripped strips]
  · exact fun type => view .instanceMembers type (ClassMemberMap.visibleMembers_stripped strips ..)
  · exact fun type => view .staticMembers type (ClassMemberMap.visibleMembers_stripped strips ..)
  · exact fun type => view .fields type (ofKind .field type)
  · exact fun type => view .methods type (ofKind .method type)
  · exact findMethod?_stripped strips
  · exact fun reference name site isStatic stable =>
      checkMemberAccess_alike strips reference stable site isStatic

/-- After every run, the graph answers all look-ups of members as it does without its hidden
members. -/
theorem sameLookUps_withoutHidden {run : List Operation}
    (admitted : ({} : Graph).admits run = true) :
    (({} : Graph).after run).SameLookUps (({} : Graph).after run).withoutHidden :=
  (Strips.start (sound_after admitted) (filled_start.after sound_start admitted)).sameLookUps

/-- A class whose hidden method would replace an inherited one, and whose other members are
hidden too, below a root class. -/
def hiddenOverride : List Operation :=
  [.openArena {}, .newClass 0 "Root" "m" .pub (.ofList [.root]), .newClass 0 "Leaf" "m" .pub {},
    .newMember (.method none .pub false "f" [] none), .declareMember 0 (some 0) false,
    .setTrusted 1 true, .setParent 1 (some 0),
    .newMember (.method none .hidden false "f" [] none), .declareMember 1 (some 1) false,
    .newMember (.field none .hidden false false "x" none), .declareMember 1 (some 2) false,
    .sealType 0, .sealType 1, .ask .instanceMembers 1]

theorem sameLookUps_withoutHidden_hiddenOverride :
    ({} : Graph).admits hiddenOverride = true ∧
      ((({} : Graph).after hiddenOverride).typeAt 1).instanceMembers.keys = ["f", "x"] ∧
      ((({} : Graph).after hiddenOverride).withoutHidden.typeAt 1).instanceMembers.keys = [] ∧
      ((checkMemberAccess (.nominal 1) "x" {} false).exec
          (({} : Graph).after hiddenOverride).withoutHidden).1
        = ((checkMemberAccess (.nominal 1) "x" {} false).exec
            (({} : Graph).after hiddenOverride)).1 ∧
      (({} : Graph).after hiddenOverride).SameLookUps
        (({} : Graph).after hiddenOverride).withoutHidden := by
  have admitted : ({} : Graph).admits hiddenOverride = true := by
    decide +kernel
  have same := sameLookUps_withoutHidden admitted
  exact ⟨admitted, by decide +kernel, by decide +kernel,
    same.access (.nominal 1) "x" {} false (by decide +kernel), same⟩

end Nominal
