import Nominal.Proofs.WellFormed

/-!
# The rules of inheritance

A class *conforms* if each of its members would pass the check against what it inherits now.  If all
classes of a chain conform, then every look-up by name is *orderly*: it gives one field, or methods
only, and nothing closer admits less than something farther.

The check looks at what the parent sees, its own private members included, while a look-up from
below does not see those.  They make no difference: a private member that masks an inherited one
would itself have been rejected.
-/

namespace Nominal

namespace Graph

/-! ## Orderly look-ups -/

/-- The members that a look-up gives keep the rules of inheritance. -/
structure Orderly (graph : Graph) (loaded : List LoadedMember) : Prop where
  kinds : (∃ only, loaded = [only] ∧ (graph.memberAt only.member).kind = .field) ∨
    ∀ seen ∈ loaded, (graph.memberAt seen.member).kind = .method
  visibilities : ∀ closer ∈ loaded, ∀ farther ∈ loaded, closer.rank < farther.rank →
    (graph.memberAt closer.member).visibility.isLessThan
      (graph.memberAt farther.member).visibility = false

/-- Every member that a class declares passes the check against what the class inherits now. -/
def Conforms (graph : Graph) (type : TypeId) : Prop :=
  ∀ member ∈ (graph.typeAt type).declaredForCheck,
    graph.ancestorError? type member (graph.memberAt member).identifier = none

/-- A member may stand below an inherited one. -/
structure Accepts (graph : Graph) (member inherited : MemberId) : Prop where
  kind : (graph.memberAt inherited).kind = (graph.memberAt member).kind
  noField : (graph.memberAt member).kind ≠ .field
  visibility : (graph.memberAt member).visibility.isLessThan
    (graph.memberAt inherited).visibility = false

/-- The check of a member against one that subclasses see. -/
theorem inheritanceError?_eq_none_iff {graph : Graph} {type : TypeId}
    {member inherited : MemberId}
    (subclassVisible : (graph.memberAt inherited).visibility.isSubclassVisible = true)
    (inheritable : (graph.memberAt inherited).kind.isInheritable = true) :
    graph.inheritanceError? type member inherited = none ↔ graph.Accepts member inherited := by
  simp only [inheritanceError?, subclassVisible, inheritable, Bool.not_true, Bool.or_self,
    Bool.false_eq_true, if_false]
  constructor
  · intro accepted
    split at accepted
    next => cases accepted
    next kind =>
      split at accepted
      next => cases accepted
      next noField =>
        split at accepted
        next => cases accepted
        next visibility => exact ⟨by simpa using kind, noField, by simpa using visibility⟩
  · rintro ⟨kind, noField, visibility⟩
    rw [if_neg (by simpa using kind), if_neg noField, if_neg (by simpa using visibility)]

/-- What stands below a member that subclasses see is seen by them as well. -/
theorem Accepts.subclassVisible {graph : Graph} {member inherited : MemberId}
    (accepts : graph.Accepts member inherited)
    (subclassVisible : (graph.memberAt inherited).visibility.isSubclassVisible = true) :
    (graph.memberAt member).visibility.isSubclassVisible = true := by
  have notLess := accepts.visibility
  revert notLess subclassVisible
  generalize (graph.memberAt inherited).visibility = upper
  generalize (graph.memberAt member).visibility = lower
  cases upper <;> cases lower <;> decide

end Graph

/-! ## Buckets of a chain -/

namespace ClassMemberMap

variable {graph : Graph} {levels : List (List MemberId)}

/-- Each bucket of one name holds overloads of each other. -/
structure Overloaded (graph : Graph) (levels : List (List MemberId)) : Prop where
  distinct : ∀ place : Nat, (levels[place]?.getD []).Pairwise graph.Overloads
  inheritable : ∀ place : Nat, ∀ member ∈ levels[place]?.getD [],
    (graph.memberAt member).kind.isInheritable = true

/-- The buckets of one name in a chain of classes keep the rules: what is declared may stand below
what the rest of the chain shows. -/
structure Conforming (graph : Graph) (levels : List (List MemberId)) : Prop
    extends Overloaded graph levels where
  accepted : ∀ place : Nat, ∀ member ∈ levels[place]?.getD [],
    (graph.memberAt member).visibility ≠ .hidden →
      ∀ entry ∈ (mergeLevels graph false 0 (levels.drop (place + 1))).entries,
        (graph.memberAt entry.2.member).visibility.isSubclassVisible = true →
          graph.Accepts member entry.2.member

theorem Conforming.tail {bucket : List MemberId}
    (conforming : Conforming graph (bucket :: levels)) : Conforming graph levels :=
  ⟨⟨fun place => by simpa using conforming.distinct (place + 1),
      fun place => by simpa using conforming.inheritable (place + 1)⟩,
    fun place => by simpa using conforming.accepted (place + 1)⟩

theorem Conforming.drop (conforming : Conforming graph levels) (place : Nat) :
    Conforming graph (levels.drop place) := by
  induction place generalizing levels with
  | zero => exact conforming
  | succ place induction =>
      cases levels with
      | nil => exact conforming
      | cons bucket levels => exact induction conforming.tail

/-- A member that is shown to subclasses: nothing closer that is shown to them has its key. -/
structure Shown (graph : Graph) (levels : List (List MemberId)) (place : Nat)
    (member : MemberId) : Prop where
  declared : member ∈ levels[place]?.getD []
  subclassVisible : (graph.memberAt member).visibility.isSubclassVisible = true
  unmasked : ∀ closer : Nat, closer < place → ∀ other ∈ levels[closer]?.getD [],
    (graph.memberAt other).visibility.isSubclassVisible = true →
      graph.keyOf other ≠ graph.keyOf member

theorem subclassVisible_of_takesPart {distance : Nat} {member : MemberId}
    (takes : takesPart graph false (distance + 1) member = true) :
    (graph.memberAt member).visibility.isSubclassVisible = true := by
  simpa [takesPart] using (Bool.and_eq_true_iff.mp takes).2

theorem takesPart_of_subclassVisible (distance : Nat) {member : MemberId}
    (subclassVisible : (graph.memberAt member).visibility.isSubclassVisible = true) :
    takesPart graph false distance member = true := by
  have visible : (graph.memberAt member).visibility ≠ .hidden := by
    intro hidden
    rw [hidden] at subclassVisible
    cases subclassVisible
  simp [takesPart, visible, subclassVisible]

theorem Shown.tail {bucket : List MemberId} {place : Nat} {member : MemberId}
    (shown : Shown graph (bucket :: levels) (place + 1) member) :
    Shown graph levels place member := by
  refine ⟨by simpa using shown.declared, shown.subclassVisible, ?_⟩
  intro closer before other listed subclassVisible
  exact shown.unmasked (closer + 1) (by omega) other (by simpa using listed) subclassVisible

/-- Whatever a chain shows to subclasses is also seen by its first class.  The induction is on the
chain: a private member of the first class that masked it would stand below it. -/
theorem Shown.mem_mergeLevels (conforming : Conforming graph levels) {place : Nat}
    {member : MemberId} (shown : Shown graph levels place member) :
    (graph.keyOf member, { member, rank := place })
      ∈ (mergeLevels graph false 0 levels).entries := by
  induction levels generalizing place with
  | nil => exact absurd shown.declared (by simp)
  | cons bucket farther induction =>
      have takes : TakesPartAt graph false 0 (bucket :: farther) place member :=
        ⟨shown.declared, takesPart_of_subclassVisible _ shown.subclassVisible⟩
      have distinct := (conforming.distinct place).imp fun overloads => overloads.keys
      rw [← Nat.zero_add place]
      apply ClassMemberMap.mem_mergeLevels takes distinct
      intro closer before other participates same
      by_cases subclassVisible : (graph.memberAt other).visibility.isSubclassVisible = true
      · exact shown.unmasked closer before other participates.declared subclassVisible same
      · cases closer with
        | succ closer =>
            have admitted := participates.admitted
            rw [Nat.zero_add] at admitted
            exact subclassVisible (subclassVisible_of_takesPart admitted)
        | zero =>
            obtain ⟨place, rfl⟩ := Nat.exists_eq_succ_of_ne_zero (Nat.ne_of_gt before)
            have seen := induction conforming.tail shown.tail
            have visible : (graph.memberAt other).visibility ≠ .hidden := by
              intro hidden
              have admitted := participates.admitted
              simp [takesPart, hidden] at admitted
            have accepts := conforming.accepted 0 other participates.declared visible _ seen
              shown.subclassVisible
            exact subclassVisible (accepts.subclassVisible shown.subclassVisible)

/-- Of two members that a look-up gives, the closer one may stand below the farther one. -/
theorem Conforming.accepts (conforming : Conforming graph levels)
    {closer farther : MemberKey × LoadedMember}
    (heldCloser : closer ∈ (mergeLevels graph false 0 levels).entries)
    (heldFarther : farther ∈ (mergeLevels graph false 0 levels).entries)
    (before : closer.2.rank < farther.2.rank) :
    graph.Accepts closer.2.member farther.2.member := by
  obtain ⟨-, place, ranked, takes, -⟩ := takesPartAt_of_mem_mergeLevels heldCloser
  obtain ⟨named, far, farRanked, farTakes, closest⟩ := takesPartAt_of_mem_mergeLevels heldFarther
  obtain ⟨gap, rfl⟩ : ∃ gap, far = place + 1 + gap := ⟨far - (place + 1), by omega⟩
  have visible : (graph.memberAt closer.2.member).visibility ≠ .hidden := by
    intro hidden
    have admitted := takes.admitted
    simp [takesPart, hidden] at admitted
  have subclassVisible : (graph.memberAt farther.2.member).visibility.isSubclassVisible = true := by
    have admitted := farTakes.admitted
    rw [show 0 + (place + 1 + gap) = place + gap + 1 by omega] at admitted
    exact subclassVisible_of_takesPart admitted
  have shown : Shown graph (levels.drop (place + 1)) gap farther.2.member := by
    refine ⟨?_, subclassVisible, ?_⟩
    · rw [List.getElem?_drop]
      exact farTakes.declared
    · intro between before other listed otherVisible same
      rw [List.getElem?_drop] at listed
      refine closest (place + 1 + between) (by omega) other
        ⟨listed, takesPart_of_subclassVisible _ otherVisible⟩ ?_
      rw [named, same]
  have seen := shown.mem_mergeLevels (conforming.drop (place + 1))
  exact conforming.accepted place closer.2.member takes.declared visible
    (graph.keyOf farther.2.member, { member := farther.2.member, rank := gap }) seen subclassVisible

/-- A field shares its bucket with nothing else. -/
theorem Overloaded.eq_of_field (overloaded : Overloaded graph levels) {place : Nat}
    {first second : MemberId} (inFirst : first ∈ levels[place]?.getD [])
    (inSecond : second ∈ levels[place]?.getD [])
    (isField : (graph.memberAt first).kind = .field) : second = first := by
  by_contra different
  have methods : (levels[place]?.getD []).Pairwise fun first second =>
      (graph.memberAt first).kind ≠ .field ∧ (graph.memberAt second).kind ≠ .field := by
    apply (overloaded.distinct place).imp
    intro first second overloads
    exact ⟨overloads.kind ▸ overloads.noField, overloads.noField⟩
  have symmetric : Std.Symm fun first second : MemberId =>
      (graph.memberAt first).kind ≠ .field ∧ (graph.memberAt second).kind ≠ .field :=
    ⟨fun _ _ => And.symm⟩
  exact (methods.forall inSecond inFirst different).2 isField

/-- A field and another member that a look-up gives are of different ranks. -/
theorem Overloaded.eq_of_same_rank (overloaded : Overloaded graph levels)
    {only other : MemberKey × LoadedMember}
    (heldOnly : only ∈ (mergeLevels graph false 0 levels).entries)
    (heldOther : other ∈ (mergeLevels graph false 0 levels).entries)
    (isField : (graph.memberAt only.2.member).kind = .field)
    (same : other.2.rank = only.2.rank) : other.2 = only.2 := by
  obtain ⟨-, place, ranked, takes, -⟩ := takesPartAt_of_mem_mergeLevels heldOnly
  obtain ⟨-, otherPlace, otherRanked, otherTakes, -⟩ := takesPartAt_of_mem_mergeLevels heldOther
  obtain rfl : otherPlace = place := by omega
  have member := overloaded.eq_of_field takes.declared otherTakes.declared isField
  obtain ⟨_, _, _⟩ := only
  obtain ⟨_, _, _⟩ := other
  exact congrArg₂ LoadedMember.mk member same

/-- A look-up is orderly exactly if what it gives may stand below what it gives from farther
classes. -/
theorem Overloaded.orderly_iff {map : ClassMemberMap} {name : String}
    (overloaded : Overloaded graph (map.buckets 0 name)) :
    graph.Orderly (map.loadedByName graph name false) ↔
      ∀ closer ∈ map.loadedByName graph name false,
        ∀ farther ∈ map.loadedByName graph name false, closer.rank < farther.rank →
          graph.Accepts closer.member farther.member := by
  have held : ∀ {loaded}, loaded ∈ map.loadedByName graph name false →
      ∃ key, (key, loaded) ∈ (mergeLevels graph false 0 (map.buckets 0 name)).entries :=
    fun listed => mem_loadedAtRank.mp listed
  constructor
  · intro orderly closer listedCloser farther listedFarther before
    have methods : ∀ seen ∈ map.loadedByName graph name false,
        (graph.memberAt seen.member).kind = .method := by
      rcases orderly.kinds with ⟨only, alone, -⟩ | methods
      · rw [alone, List.mem_singleton] at listedCloser listedFarther
        rw [listedCloser, listedFarther] at before
        exact absurd before (Nat.lt_irrefl _)
      · exact methods
    refine ⟨?_, ?_, orderly.visibilities closer listedCloser farther listedFarther before⟩
    · rw [methods farther listedFarther, methods closer listedCloser]
    · rw [methods closer listedCloser]
      exact nofun
  · intro accepted
    refine ⟨?_, fun closer listedCloser farther listedFarther before =>
      (accepted closer listedCloser farther listedFarther before).visibility⟩
    by_cases hasField : ∃ only ∈ map.loadedByName graph name false,
        (graph.memberAt only.member).kind = .field
    · left
      obtain ⟨only, listed, isField⟩ := hasField
      refine ⟨only, ?_, isField⟩
      by_contra several
      rcases (List.Nodup.ne_singleton_iff (nodup_loadedAtRank graph map 0 name false) only).mp
        several with none | ⟨other, listedOther, different⟩
      · exact List.ne_nil_of_mem listed none
      · rcases Nat.lt_trichotomy only.rank other.rank with before | same | after
        · exact (accepted only listed other listedOther before).noField isField
        · obtain ⟨key, heldOnly⟩ := held listed
          obtain ⟨otherKey, heldOther⟩ := held listedOther
          exact different (overloaded.eq_of_same_rank heldOnly heldOther isField same.symm)
        · have accepts := accepted other listedOther only listed after
          exact accepts.noField (accepts.kind.symm.trans isField)
    · right
      intro seen listed
      obtain ⟨key, heldSeen⟩ := held listed
      obtain ⟨-, place, -, takes, -⟩ := takesPartAt_of_mem_mergeLevels heldSeen
      have inheritable := overloaded.inheritable place seen.member takes.declared
      cases kind : (graph.memberAt seen.member).kind with
      | field => exact absurd ⟨seen, listed, kind⟩ hasField
      | method => rfl
      | unknown | constructor | initializer | staticConstructor =>
          rw [kind] at inheritable
          cases inheritable

/-- If the buckets of a name keep the rules, so does the look-up of the name. -/
theorem Conforming.orderly {map : ClassMemberMap} {name : String}
    (conforming : Conforming graph (map.buckets 0 name)) :
    graph.Orderly (map.loadedByName graph name false) := by
  apply conforming.toOverloaded.orderly_iff.mpr
  intro closer listedCloser farther listedFarther before
  obtain ⟨closerKey, heldCloser⟩ := mem_loadedAtRank.mp listedCloser
  obtain ⟨fartherKey, heldFarther⟩ := mem_loadedAtRank.mp listedFarther
  exact conforming.accepts heldCloser heldFarther before

end ClassMemberMap

/-! ## Chains of classes -/

theorem NominalType.mem_declaredForCheck {type : NominalType} {isStatic : Bool}
    {entry : String × List MemberId} {member : MemberId}
    (inTable : entry ∈ (type.declared isStatic).entries) (declared : member ∈ entry.2) :
    member ∈ type.declaredForCheck := by
  have listed : member ∈ (type.declared isStatic).values.flatten :=
    List.mem_flatten.mpr ⟨entry.2, List.mem_map.mpr ⟨entry, inTable, rfl⟩, declared⟩
  cases isStatic with
  | false => exact List.mem_append_left _ listed
  | true => exact List.mem_append_right _ listed

namespace Graph

variable {graph : Graph} {type : TypeId} {isStatic : Bool} {name : String} {member : MemberId}

/-- What is declared in a bucket of a class is declared by a superclass. -/
theorem exists_bucket {place : Nat}
    (listed : member ∈ ((ClassMemberMap.ofClass graph type isStatic).buckets 0 name)[place]?.getD
      []) :
    ∃ superclass bucket, (graph.parentChain type)[place]? = some superclass ∧
      ((graph.typeAt superclass).declared isStatic).get? (Text.canonical name) = some bucket ∧
      member ∈ bucket ∧
      ((ClassMemberMap.ofClass graph type isStatic).buckets 0 name)[place]?.getD [] = bucket := by
  simp only [ClassMemberMap.buckets, ClassMemberMap.ofClass, List.drop_zero, List.map_map,
    List.getElem?_map, Function.comp_def] at listed ⊢
  cases found : (graph.parentChain type)[place]? with
  | none => simp [found] at listed
  | some superclass =>
      simp only [found, Option.map_some, Option.getD_some] at listed ⊢
      cases bucket : ((graph.typeAt superclass).declared isStatic).get? (Text.canonical name) with
      | none => simp [bucket] at listed
      | some members =>
          rw [bucket, Option.getD_some] at listed
          exact ⟨superclass, members, rfl, bucket, listed, rfl⟩

/-- The buckets above a superclass are those of its parent. -/
theorem drop_buckets (wellFormed : graph.WellFormed) (present : type < graph.types.size)
    {place : Nat} {superclass : TypeId}
    (found : (graph.parentChain type)[place]? = some superclass) :
    ((ClassMemberMap.ofClass graph type isStatic).buckets 0 name).drop (place + 1)
      = match (graph.typeAt superclass).parent? with
        | some parent => (ClassMemberMap.ofClass graph parent isStatic).buckets 0 name
        | none => [] := by
  have rest := drop_succ_parentChain wellFormed.hierarchical.acyclic
    (fun _ _ link => (wellFormed.hierarchical.linked link).1) present found
  simp only [ClassMemberMap.buckets, ClassMemberMap.ofClass, List.drop_zero, ← List.map_drop, rest]
  cases (graph.typeAt superclass).parent? <;> rfl

theorem accepts_of_conforms (wellFormed : graph.WellFormed) (conforms : graph.Conforms type)
    {bucket : List MemberId}
    (found : ((graph.typeAt type).declared isStatic).get? name = some bucket)
    (stable : Text.canonical name = name) (declared : member ∈ bucket)
    (visible : (graph.memberAt member).visibility ≠ .hidden) {parent : TypeId}
    (link : (graph.typeAt type).parent? = some parent) {inherited : LoadedMember}
    (seen : inherited ∈
      (ClassMemberMap.ofClass graph parent isStatic).loadedByName graph name false)
    (subclassVisible : (graph.memberAt inherited.member).visibility.isSubclassVisible = true)
    (inheritable : (graph.memberAt inherited.member).kind.isInheritable = true) :
    graph.Accepts member inherited.member := by
  have owns := wellFormed.membered.owned (Table.mem_of_get?_eq_some found) declared
  have checked := conforms member
    (NominalType.mem_declaredForCheck (Table.mem_of_get?_eq_some found) declared)
  simp only [ancestorError?, visible, owns.inheritable, owns.staticness, owns.named stable,
    inheritedMembers, link, Bool.true_eq_false, or_self, if_false] at checked
  rw [List.findSome?_eq_none_iff] at checked
  have accepted := checked inherited.member (List.mem_map.mpr ⟨inherited, seen, rfl⟩)
  exact (inheritanceError?_eq_none_iff subclassVisible inheritable).mp accepted

/-- The members of a name that a class declares are overloads of each other. -/
theorem overloaded_buckets (membered : graph.Membered) (type : TypeId) (isStatic : Bool)
    (stable : Text.IsStable name) :
    ClassMemberMap.Overloaded graph
      ((ClassMemberMap.ofClass graph type isStatic).buckets 0 name) := by
  constructor
  · intro place
    by_cases empty : ((ClassMemberMap.ofClass graph type isStatic).buckets 0 name)[place]?.getD []
        = []
    · rw [empty]
      exact List.Pairwise.nil
    · obtain ⟨member, listed⟩ := List.exists_mem_of_ne_nil _ empty
      obtain ⟨superclass, bucket, -, found, -, same⟩ := exists_bucket listed
      rw [same]
      exact membered.overloaded found stable
  · intro place member listed
    obtain ⟨superclass, bucket, -, found, declared, -⟩ := exists_bucket listed
    exact (membered.owned (Table.mem_of_get?_eq_some found) declared).inheritable

/-- A look-up is orderly exactly if the check would pass between the members that it gives. -/
theorem orderly_iff_inheritanceError? (membered : graph.Membered) (type : TypeId) (isStatic : Bool)
    (stable : Text.IsStable name) :
    graph.Orderly ((ClassMemberMap.ofClass graph type isStatic).loadedByName graph name false) ↔
      ∀ closer ∈ (ClassMemberMap.ofClass graph type isStatic).loadedByName graph name false,
        ∀ farther ∈ (ClassMemberMap.ofClass graph type isStatic).loadedByName graph name false,
          closer.rank < farther.rank →
            graph.inheritanceError? type closer.member farther.member = none := by
  have overloaded := overloaded_buckets membered type isStatic stable
  rw [overloaded.orderly_iff]
  apply forall₅_congr
  intro closer _ farther listedFarther before
  obtain ⟨key, held⟩ := ClassMemberMap.mem_loadedAtRank.mp listedFarther
  obtain ⟨-, place, ranked, takes, -⟩ := ClassMemberMap.takesPartAt_of_mem_mergeLevels held
  obtain ⟨place, rfl⟩ : ∃ closer, place = closer + 1 := by
    refine ⟨place - 1, ?_⟩
    dsimp only at ranked
    omega
  have admitted := takes.admitted
  rw [Nat.zero_add] at admitted
  exact (inheritanceError?_eq_none_iff (ClassMemberMap.subclassVisible_of_takesPart admitted)
    (overloaded.inheritable _ _ takes.declared)).symm

/-- If all classes of a chain conform, the buckets of every name keep the rules. -/
theorem conforming_of_conforms (wellFormed : graph.WellFormed) (present : type < graph.types.size)
    (conforms : ∀ superclass ∈ graph.parentChain type, graph.Conforms superclass)
    (isStatic : Bool) (stable : Text.IsStable name) :
    ClassMemberMap.Conforming graph
      ((ClassMemberMap.ofClass graph type isStatic).buckets 0 name) := by
  have overloaded := overloaded_buckets wellFormed.membered type isStatic stable
  refine ⟨overloaded, ?_⟩
  intro place member listed visible entry held subclassVisible
  obtain ⟨superclass, bucket, listedClass, found, declared, -⟩ := exists_bucket listed
  have conform := conforms superclass (List.mem_of_getElem? listedClass)
  obtain ⟨-, farther, -, takes, -⟩ := ClassMemberMap.takesPartAt_of_mem_mergeLevels held
  have inheritable : (graph.memberAt entry.2.member).kind.isInheritable = true := by
    apply overloaded.inheritable (place + 1 + farther) entry.2.member
    rw [← List.getElem?_drop]
    exact takes.declared
  rw [drop_buckets wellFormed present listedClass] at held
  cases link : (graph.typeAt superclass).parent? with
  | none =>
      rw [link] at held
      cases held
  | some parent =>
      rw [link] at held
      refine accepts_of_conforms wellFormed conform found stable declared visible link ?_
        subclassVisible inheritable
      refine ClassMemberMap.mem_loadedAtRank.mpr ⟨entry.1, ?_⟩
      simpa only [ClassMemberMap.buckets, stable.canonical_canonical] using held

/-- If all classes of a chain conform, every look-up in the chain is orderly. -/
theorem orderly_of_conforms (wellFormed : graph.WellFormed) (present : type < graph.types.size)
    (conforms : ∀ superclass ∈ graph.parentChain type, graph.Conforms superclass)
    (isStatic : Bool) (stable : Text.IsStable name) :
    graph.Orderly ((ClassMemberMap.ofClass graph type isStatic).loadedByName graph name false) :=
  (conforming_of_conforms wellFormed present conforms isStatic stable).orderly

end Graph

end Nominal
