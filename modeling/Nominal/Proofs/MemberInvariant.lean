import Nominal.Proofs.Changes
import Nominal.Proofs.LoadedMembers

/-!
# The invariant of declared members

Every declared member belongs to the type that declares it, and the members of one name are
overloads of each other: fields stand alone, and methods have different keys and one visibility.

A name is told apart from its composed form only where composition is not stable, so what is said
about the members of a name is said of names that are their own composed form.
-/

namespace Nominal

/-! ## Tables -/

namespace Table

variable {Key Value : Type} [DecidableEq Key] {table : Table Key Value} {key : Key} {value : Value}

theorem mem_setEntry {entries : List (Key × Value)} {entry : Key × Value}
    (listed : entry ∈ setEntry key value entries) : entry = (key, value) ∨ entry ∈ entries := by
  induction entries with
  | nil => exact .inl (List.mem_singleton.mp listed)
  | cons first rest induction =>
      unfold setEntry at listed
      split at listed
      · rcases List.mem_cons.mp listed with here | later
        · exact .inl here
        · exact .inr (List.mem_cons_of_mem first later)
      · rcases List.mem_cons.mp listed with here | later
        · exact .inr (here ▸ List.mem_cons_self)
        · exact (induction later).imp_right (List.mem_cons_of_mem first)

theorem mem_set {entry : Key × Value} (listed : entry ∈ (table.set key value).entries) :
    entry = (key, value) ∨ entry ∈ table.entries :=
  mem_setEntry listed

theorem nodup_keys_set (distinct : table.keys.Nodup) : (table.set key value).keys.Nodup := by
  obtain ⟨entries⟩ := table
  simp only [keys, set] at distinct ⊢
  induction entries with
  | nil => simp [setEntry]
  | cons first rest induction =>
      rw [List.map_cons, List.nodup_cons] at distinct
      unfold setEntry
      split
      next here =>
        rw [List.map_cons, List.nodup_cons]
        exact ⟨here ▸ distinct.1, distinct.2⟩
      next different =>
        rw [List.map_cons, List.nodup_cons]
        refine ⟨?_, induction distinct.2⟩
        intro listed
        obtain ⟨entry, inRest, same⟩ := List.mem_map.mp listed
        rcases mem_setEntry inRest with rfl | old
        · exact different same.symm
        · exact distinct.1 (List.mem_map.mpr ⟨entry, old, same⟩)

theorem get?_set (table : Table Key Value) (key : Key) (value : Value) (asked : Key) :
    (table.set key value).get? asked = if asked = key then some value else table.get? asked := by
  obtain ⟨entries⟩ := table
  simp only [get?, set]
  induction entries with
  | nil =>
      by_cases here : asked = key
      · simp [setEntry, here]
      · simp [setEntry, here, Ne.symm here]
  | cons first rest induction =>
      unfold setEntry
      by_cases replaced : first.1 = key
      · by_cases here : asked = key
        · simp [replaced, here]
        · simp [replaced, here, Ne.symm here]
      · by_cases found : first.1 = asked
        · have different : asked ≠ key := fun equal => replaced (found.trans equal)
          simp [found, different]
        · simp only [if_neg replaced, List.find?_cons, found, decide_false]
          exact induction

theorem entries_set (value : Value) (fresh : key ∉ table.keys) :
    (table.set key value).entries = table.entries ++ [(key, value)] := by
  obtain ⟨entries⟩ := table
  simp only [keys, set] at fresh ⊢
  induction entries with
  | nil => rfl
  | cons entry rest ih =>
      simp only [List.map_cons, List.mem_cons, not_or] at fresh
      rw [setEntry, if_neg (Ne.symm fresh.1), ih fresh.2, List.cons_append]

theorem keys_set (value : Value) (fresh : key ∉ table.keys) :
    (table.set key value).keys = table.keys ++ [key] := by
  simp [keys, entries_set value fresh]

theorem get?_eq_none_iff : table.get? key = none ↔ key ∉ table.keys := by
  simp only [get?, keys, Option.map_eq_none_iff, List.find?_eq_none, List.mem_map, not_exists,
    not_and, decide_eq_true_eq]

/-- Replacing a value by one with the same image keeps the images of all values. -/
theorem map_values_set {Image : Type} (image : Value → Image) {old : Value}
    (found : table.get? key = some old) (same : image value = image old) :
    (table.set key value).values.map image = table.values.map image := by
  obtain ⟨entries⟩ := table
  simp only [get?, values, set] at found ⊢
  induction entries with
  | nil => cases found
  | cons first rest induction =>
      unfold setEntry
      rw [List.find?_cons] at found
      split
      next here =>
        rw [decide_eq_true here] at found
        obtain rfl := Option.some.inj found
        simp only [List.map_cons, same]
      next different =>
        rw [decide_eq_false different] at found
        simp only [List.map_cons, induction found]

/-- In a table whose keys are distinct, every entry is found by its key. -/
theorem get?_eq_some_of_mem (distinct : table.keys.Nodup) (listed : (key, value) ∈ table.entries) :
    table.get? key = some value := by
  obtain ⟨entries⟩ := table
  simp only [keys, get?] at distinct listed ⊢
  induction entries with
  | nil => cases listed
  | cons first rest induction =>
      rw [List.map_cons, List.nodup_cons] at distinct
      rcases List.mem_cons.mp listed with rfl | later
      · simp
      · have different : first.1 ≠ key := by
          intro same
          exact distinct.1 (same ▸ List.mem_map.mpr ⟨_, later, rfl⟩)
        simpa [different] using induction distinct.2 later

end Table

/-! ## Keys of members -/

section Keys

variable {graph later : Graph} {size : Nat}

theorem TypeRef.isWithin_of_le {reference : TypeRef} {larger : Nat}
    (within : reference.isWithin size = true) (grows : size ≤ larger) :
    reference.isWithin larger = true := by
  induction reference with
  | primitive kind => rfl
  | nominal id =>
      simp only [isWithin, decide_eq_true_eq] at within ⊢
      exact Nat.lt_of_lt_of_le within grows
  | array element base induction =>
      simp only [isWithin, Bool.and_eq_true] at within ⊢
      refine ⟨induction within.1, ?_⟩
      cases base with
      | none => rfl
      | some id =>
          simp only [Option.all_some, decide_eq_true_eq] at within ⊢
          exact Nat.lt_of_lt_of_le within.2 grows

theorem Member.isWithin_of_le {member : Member} {larger : Nat}
    (within : member.isWithin size = true) (grows : size ≤ larger) :
    member.isWithin larger = true := by
  unfold Member.isWithin at *
  rw [List.all_eq_true] at *
  exact fun reference listed => TypeRef.isWithin_of_le (within reference listed) grows

theorem TypeRef.qualifiedName_congr {reference : TypeRef} (within : reference.isWithin size = true)
    (names : ∀ type, type < size → later.nameOf type = graph.nameOf type) :
    reference.qualifiedName later = reference.qualifiedName graph := by
  induction reference with
  | primitive kind => rfl
  | nominal id => exact names id (by simpa [isWithin] using within)
  | array element base induction =>
      simp only [isWithin, Bool.and_eq_true] at within
      simp only [TypeRef.qualifiedName, induction within.1]

/-- A key depends only on the names of the types that the member mentions. -/
theorem Member.key_congr {member : Member} (within : member.isWithin size = true)
    (names : ∀ type, type < size → later.nameOf type = graph.nameOf type) :
    member.key later = member.key graph := by
  have signature : member.signature later = member.signature graph := by
    unfold Member.signature
    congr 1
    apply List.map_congr_left
    intro parameter listed
    have declared : parameter ∈ member.parameters := by
      unfold explicitParameters at listed
      split at listed
      next first rest parameters =>
        rw [parameters]
        split at listed
        · exact List.mem_cons_of_mem first listed
        · exact listed
      next => cases listed
    cases mentioned : parameter.type with
    | none => rfl
    | some reference =>
        refine TypeRef.qualifiedName_congr (List.all_eq_true.mp within reference ?_) names
        unfold Member.mentioned
        exact List.mem_append_left _ (List.mem_append_right _
          (List.mem_filterMap.mpr ⟨parameter, declared, mentioned⟩))
  simp only [Member.key, signature]

end Keys

/-- Lists a member under a name. -/
def NominalType.withListed (type : NominalType) (isStatic : Bool) (identifier : String)
    (member : MemberId) : NominalType :=
  type.mapDeclared isStatic fun table =>
    table.set identifier ((table.get? identifier).getD [] ++ [member])

namespace Graph

/-! ## Declared members -/

/-- A member that a type declares under a name. -/
structure Owns (graph : Graph) (type : TypeId) (isStatic : Bool) (name : String)
    (member : MemberId) : Prop where
  owner : (graph.memberAt member).definingType = some type
  staticness : (graph.memberAt member).isStatic = isStatic
  inheritable : (graph.memberAt member).kind.isInheritable = true
  publicly : (graph.typeAt type).isClass = false → (graph.memberAt member).visibility = .pub
  named : Text.canonical name = name → (graph.memberAt member).identifier = name

/-- Two members that can stand under one name. -/
structure Overloads (graph : Graph) (first second : MemberId) : Prop where
  kind : (graph.memberAt first).kind = (graph.memberAt second).kind
  noField : (graph.memberAt second).kind ≠ .field
  keys : graph.keyOf first ≠ graph.keyOf second
  visibility : (graph.memberAt first).visibility = (graph.memberAt second).visibility

/-- The declared members of a graph are in order. -/
structure Membered (graph : Graph) : Prop where
  within : ∀ member, (graph.memberAt member).isWithin graph.types.size = true
  owned : ∀ {type isStatic entry member},
    entry ∈ ((graph.typeAt type).declared isStatic).entries → member ∈ entry.2 →
      graph.Owns type isStatic entry.1 member
  distinct : ∀ type isStatic, ((graph.typeAt type).declared isStatic).keys.Nodup
  overloaded : ∀ {type isStatic name bucket},
    ((graph.typeAt type).declared isStatic).get? name = some bucket →
      Text.canonical name = name → bucket.Pairwise graph.Overloads

theorem overloads_of_overloadError? {graph : Graph} {type : TypeId} {member existing : MemberId}
    (consistent : graph.overloadError? type member existing = none) :
    graph.Overloads existing member := by
  simp only [overloadError?] at consistent
  split at consistent
  next => cases consistent
  next kinds =>
    split at consistent
    next => cases consistent
    next keys =>
      split at consistent
      next => cases consistent
      next visibility =>
        simp only [not_or, not_not] at kinds visibility
        exact ⟨kinds.2.2, kinds.2.1, keys, visibility⟩

/-- A member that plays the same part in two graphs. -/
structure Alike (graph later : Graph) (member : MemberId) : Prop where
  kind : (later.memberAt member).kind = (graph.memberAt member).kind
  visibility : (later.memberAt member).visibility = (graph.memberAt member).visibility
  key : later.keyOf member = graph.keyOf member

theorem Overloads.congr {graph later : Graph} {first second : MemberId}
    (overloads : graph.Overloads first second) (alikeFirst : graph.Alike later first)
    (alikeSecond : graph.Alike later second) : later.Overloads first second := by
  refine ⟨?_, ?_, ?_, ?_⟩
  · rw [alikeFirst.kind, alikeSecond.kind]
    exact overloads.kind
  · rw [alikeSecond.kind]
    exact overloads.noField
  · rw [alikeFirst.key, alikeSecond.key]
    exact overloads.keys
  · rw [alikeFirst.visibility, alikeSecond.visibility]
    exact overloads.visibility

/-! ## What is kept of adopted members -/

/-- What a later graph keeps of the members that types have adopted; a member may be adopted once
more, which composes its name again. -/
structure KeepsMembers (graph later : Graph) : Prop where
  identity : ∀ type, type < graph.types.size →
    (graph.typeAt type).SameIdentity (later.typeAt type)
  within : ∀ member, (later.memberAt member).isWithin later.types.size = true
  adopted : ∀ member, (graph.memberAt member).definingType.isSome = true →
    ∃ identifier, later.memberAt member = { graph.memberAt member with identifier } ∧
      (identifier = (graph.memberAt member).identifier ∨
        identifier = Text.canonical (graph.memberAt member).identifier)

theorem lt_size_of_mem_declared {graph : Graph} {type : TypeId} {isStatic : Bool}
    {entry : String × List MemberId}
    (listed : entry ∈ ((graph.typeAt type).declared isStatic).entries) :
    type < graph.types.size := by
  apply Nat.lt_of_not_le
  intro absent
  rw [typeAt_of_size_le absent] at listed
  cases isStatic <;> cases listed

namespace KeepsMembers

variable {graph later : Graph} {type : TypeId} {isStatic : Bool} {name : String}
  {member : MemberId}

theorem modifyType (membered : graph.Membered) {change : NominalType → NominalType}
    (identity : (graph.typeAt type).SameIdentity (change (graph.typeAt type))) :
    graph.KeepsMembers (graph.modifyType type change) := by
  refine ⟨?_, ?_, ?_⟩
  · exact fun other _ => typeAt_modifyType_related .refl identity other
  · intro member
    rw [size_modifyType]
    exact membered.within member
  · exact fun member _ => ⟨_, rfl, .inl rfl⟩

/-- A declared member under a stable name is not changed. -/
theorem memberAt (keeps : graph.KeepsMembers later) (owns : graph.Owns type isStatic name member)
    (stable : Text.canonical name = name) : later.memberAt member = graph.memberAt member := by
  obtain ⟨identifier, changed, origin⟩ := keeps.adopted member (by simp [owns.owner])
  have same : identifier = (graph.memberAt member).identifier := by
    rcases origin with same | composed
    · exact same
    · rw [composed, owns.named stable, stable]
  rw [changed, same]

theorem owns (keeps : graph.KeepsMembers later) (owns : graph.Owns type isStatic name member)
    (present : type < graph.types.size) : later.Owns type isStatic name member := by
  obtain ⟨identifier, changed, _⟩ := keeps.adopted member (by simp [owns.owner])
  refine ⟨?_, ?_, ?_, ?_, ?_⟩
  · rw [changed]
    exact owns.owner
  · rw [changed]
    exact owns.staticness
  · rw [changed]
    exact owns.inheritable
  · rw [changed, (keeps.identity type present).isClass]
    exact owns.publicly
  · intro stable
    rw [keeps.memberAt owns stable]
    exact owns.named stable

theorem keyOf (keeps : graph.KeepsMembers later) (membered : graph.Membered)
    (same : later.memberAt member = graph.memberAt member) :
    later.keyOf member = graph.keyOf member := by
  unfold Graph.keyOf
  rw [same]
  exact Member.key_congr (membered.within member) fun type present =>
    (keeps.identity type present).qualifiedName

theorem alike (keeps : graph.KeepsMembers later) (membered : graph.Membered)
    (owns : graph.Owns type isStatic name member) (stable : Text.canonical name = name) :
    graph.Alike later member := by
  have same := keeps.memberAt owns stable
  exact ⟨by rw [same], by rw [same], keeps.keyOf membered same⟩

end KeepsMembers

namespace Membered

variable {graph later : Graph} {type : TypeId} {isStatic : Bool} {member : MemberId}

/-- The members stay in order if no table is changed. -/
theorem of_tables (membered : graph.Membered) (keeps : graph.KeepsMembers later)
    (tables : ∀ type isStatic,
      (later.typeAt type).declared isStatic = (graph.typeAt type).declared isStatic) :
    later.Membered := by
  refine ⟨keeps.within, ?_, ?_, ?_⟩
  · intro type isStatic entry member listed declared
    rw [tables] at listed
    exact keeps.owns (membered.owned listed declared) (lt_size_of_mem_declared listed)
  · intro type isStatic
    rw [tables]
    exact membered.distinct type isStatic
  · intro type isStatic name bucket found stable
    rw [tables] at found
    have alike : ∀ member ∈ bucket, graph.Alike later member := fun member declared =>
      keeps.alike membered (membered.owned (Table.mem_of_get?_eq_some found) declared) stable
    apply (membered.overloaded found stable).imp_of_mem
    intro first second inFirst inSecond overloads
    exact overloads.congr (alike first inFirst) (alike second inSecond)

/-- What stands under a name is owned under that name. -/
theorem owns_of_mem_bucket (membered : graph.Membered) {name : String}
    (listed : member ∈ (((graph.typeAt type).declared isStatic).get? name).getD []) :
    graph.Owns type isStatic name member := by
  cases found : ((graph.typeAt type).declared isStatic).get? name with
  | none => simp [found] at listed
  | some bucket =>
      rw [found, Option.getD_some] at listed
      exact membered.owned (Table.mem_of_get?_eq_some found) listed

theorem overloaded_bucket (membered : graph.Membered) (type : TypeId) (isStatic : Bool)
    {name : String} (stable : Text.canonical name = name) :
    ((((graph.typeAt type).declared isStatic).get? name).getD []).Pairwise graph.Overloads := by
  cases found : ((graph.typeAt type).declared isStatic).get? name with
  | none => exact List.Pairwise.nil
  | some bucket => exact membered.overloaded found stable

/-- Listing a member changes the table of its staticness only. -/
theorem declared_withListed_cases (graph : Graph) (type : TypeId) (isStatic : Bool)
    (identifier : String) (member : MemberId) (other : TypeId) (asked : Bool) :
    ((graph.modifyType type (·.withListed isStatic identifier member)).typeAt other).declared asked
        = (graph.typeAt other).declared asked ∨
      other = type ∧ asked = isStatic ∧ type < graph.types.size ∧
      ((graph.modifyType type (·.withListed isStatic identifier member)).typeAt other).declared asked
        = ((graph.typeAt type).declared isStatic).set identifier
            ((((graph.typeAt type).declared isStatic).get? identifier).getD [] ++ [member]) := by
  rcases typeAt_modifyType_cases graph type (·.withListed isStatic identifier member) other
    with same | ⟨rfl, present, changed⟩
  · exact .inl (by rw [same])
  · rw [changed, NominalType.withListed, NominalType.mapDeclared_declared]
    split
    next here =>
      subst here
      exact .inr ⟨rfl, rfl, present, rfl⟩
    next => exact .inl rfl

/-- A member that is an overload of those of its name is listed. -/
theorem insert (membered : graph.Membered) {identifier : String}
    (owns : graph.Owns type isStatic identifier member)
    (consistent : Text.canonical identifier = identifier →
      ∀ existing ∈ (((graph.typeAt type).declared isStatic).get? identifier).getD [],
        graph.Overloads existing member) :
    (graph.modifyType type (·.withListed isStatic identifier member)).Membered := by
  have keeps : graph.KeepsMembers
      (graph.modifyType type (·.withListed isStatic identifier member)) :=
    .modifyType membered (NominalType.mapDeclared_identity _ _ _)
  have congr : ∀ {first second}, graph.Overloads first second →
      (graph.modifyType type (·.withListed isStatic identifier member)).Overloads first second :=
    fun overloads => overloads.congr ⟨rfl, rfl, keeps.keyOf membered rfl⟩
      ⟨rfl, rfl, keeps.keyOf membered rfl⟩
  have tables := declared_withListed_cases graph type isStatic identifier member
  refine ⟨keeps.within, ?_, ?_, ?_⟩
  · intro other asked entry known listed declared
    rcases tables other asked with same | ⟨rfl, rfl, present, changed⟩
    · rw [same] at listed
      exact keeps.owns (membered.owned listed declared) (lt_size_of_mem_declared listed)
    · rw [changed] at listed
      rcases Table.mem_set listed with rfl | old
      · rcases List.mem_append.mp declared with earlier | new
        · exact keeps.owns (membered.owns_of_mem_bucket earlier) present
        · rw [List.mem_singleton.mp new]
          exact keeps.owns owns present
      · exact keeps.owns (membered.owned old declared) present
  · intro other asked
    rcases tables other asked with same | ⟨rfl, rfl, _, changed⟩
    · rw [same]
      exact membered.distinct other asked
    · rw [changed]
      exact Table.nodup_keys_set (membered.distinct other asked)
  · intro other asked name bucket found stable
    rcases tables other asked with same | ⟨rfl, rfl, _, changed⟩
    · exact (membered.overloaded (same ▸ found) stable).imp congr
    · rw [changed, Table.get?_set] at found
      split at found
      next here =>
        subst here
        obtain rfl := Option.some.inj found
        rw [List.pairwise_append]
        refine ⟨(membered.overloaded_bucket other asked stable).imp congr,
          List.pairwise_singleton _ _, ?_⟩
        intro existing inBucket new last
        rw [List.mem_singleton.mp last]
        exact congr (consistent stable existing inBucket)
      next => exact (membered.overloaded found stable).imp congr

end Membered

end Graph

end Nominal
