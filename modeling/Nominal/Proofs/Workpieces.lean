import Nominal.Module.Loader
import Nominal.Proofs.Outcomes

/-!
# Working on one type

A module is loaded by working on its types one after the other.  Work on a type leaves everything
else as it is: the other types, the members that existed before, the arenas apart from new array
types.  This holds however the work ends, so it is the frame of every part of the loader.
-/

namespace Nominal

namespace Graph

/-- Deeds of the work on a type. -/
def Deed.Concerns (type : TypeId) : Deed → Prop
  | describe | complete => True
  | implement _ => False
  | link linked => linked = type
  | declare declaring => declaring = type

/-- Every array type is kept under the name of its element, and offers the members of the built-in
array class. -/
def Interned (graph : Graph) (farm : Farm) : Prop :=
  ∀ name array, (graph.arenaAt farm.arena).arrays.get? name = some array →
    ∃ element : TypeRef, array = .array element (farm.lookup? "Array") ∧
      element.isWithin graph.types.size = true ∧ element.qualifiedName graph = name

theorem qualifiedName_eq_of_typeAt {graph left : Graph}
    (types : ∀ type, left.typeAt type = graph.typeAt type) (reference : TypeRef) :
    reference.qualifiedName left = reference.qualifiedName graph := by
  induction reference with
  | primitive kind => rfl
  | nominal id => exact congrArg NominalType.qualifiedName (types id)
  | array element base ih => exact congrArg (· ++ "[]") ih

theorem Interned.of_eq {graph left : Graph} {farm : Farm} (interned : graph.Interned farm)
    (types : left.types = graph.types)
    (arrays : (left.arenaAt farm.arena).arrays = (graph.arenaAt farm.arena).arrays) :
    left.Interned farm := by
  intro name array found
  rw [arrays] at found
  obtain ⟨element, equal, within, named⟩ := interned name array found
  refine ⟨element, equal, by rw [types]; exact within, ?_⟩
  rw [← named]
  apply qualifiedName_eq_of_typeAt
  intro type
  rw [typeAt, types, typeAt]

/-- What the work on some types leaves as it is.  Members below a bound existed before it. -/
structure Frame (farm : Farm) (touched : TypeId → Prop) (bound : Nat) (graph left : Graph) :
    Prop where
  size : left.types.size = graph.types.size
  others : ∀ other, ¬ touched other → left.typeAt other = graph.typeAt other
  identityAt : ∀ type, (graph.typeAt type).SameIdentity (left.typeAt type)
  implementation : ∀ type,
    (left.typeAt type).implementation = (graph.typeAt type).implementation
  progressCount : left.progress.size = graph.progress.size
  progress : ∀ other, ¬ touched other → left.progressAt other = graph.progressAt other
  members : ∀ member, member < bound → left.memberAt member = graph.memberAt member
  memberCount : graph.members.size ≤ left.members.size
  arenaCount : left.arenas.size = graph.arenas.size
  settings : ∀ arena, (left.arenaAt arena).settings = (graph.arenaAt arena).settings
  population : ∀ arena, (left.arenaAt arena).types = (graph.arenaAt arena).types
  arrays : ∀ {arena name array}, (graph.arenaAt arena).arrays.get? name = some array →
    (left.arenaAt arena).arrays.get? name = some array
  interned : graph.Interned farm → left.Interned farm

namespace Frame

variable {farm : Farm} {touched : TypeId → Prop} {type : TypeId} {bound : Nat}
  {graph left last : Graph}

theorem refl (graph : Graph) : graph.Frame farm touched bound graph :=
  ⟨rfl, fun _ _ => rfl, fun _ => .refl _, fun _ => rfl, rfl, fun _ _ => rfl, fun _ _ => rfl,
    Nat.le_refl _, rfl, fun _ => rfl, fun _ => rfl, fun found => found, fun interned => interned⟩

theorem trans (early : graph.Frame farm touched bound left)
    (late : left.Frame farm touched bound last) : graph.Frame farm touched bound last where
  size := late.size.trans early.size
  others other apart := (late.others other apart).trans (early.others other apart)
  identityAt type := (early.identityAt type).trans (late.identityAt type)
  implementation type := (late.implementation type).trans (early.implementation type)
  progressCount := late.progressCount.trans early.progressCount
  progress other apart := (late.progress other apart).trans (early.progress other apart)
  members member old := (late.members member old).trans (early.members member old)
  memberCount := Nat.le_trans early.memberCount late.memberCount
  arenaCount := late.arenaCount.trans early.arenaCount
  settings arena := (late.settings arena).trans (early.settings arena)
  population arena := (late.population arena).trans (early.population arena)
  arrays found := late.arrays (early.arrays found)
  interned held := late.interned (early.interned held)

theorem mono {wider : TypeId → Prop} {lower : Nat} (frame : graph.Frame farm touched bound left)
    (widens : ∀ type, touched type → wider type) (lowers : lower ≤ bound) :
    graph.Frame farm wider lower left :=
  { frame with
    others := fun other apart => frame.others other fun touches => apart (widens other touches)
    progress := fun other apart => frame.progress other fun touches => apart (widens other touches)
    members := fun member old => frame.members member (Nat.lt_of_lt_of_le old lowers) }

/-- Views and records do not count. -/
theorem of_bare {changed : Graph} (frame : graph.Frame farm touched bound changed)
    (same : left.bare = changed.bare) : graph.Frame farm touched bound left := by
  have typeAt : ∀ other, left.typeAt other = changed.typeAt other := typeAt_eq_of_bare same
  have memberAt := memberAt_eq_of_bare same
  have arenas := arenas_eq_of_bare same
  have progress := progress_eq_of_bare same
  have progressAt : ∀ other, left.progressAt other = changed.progressAt other := by
    intro other
    rw [Graph.progressAt, progress, Graph.progressAt]
  have arenaAt : ∀ arena, left.arenaAt arena = changed.arenaAt arena := by
    intro arena
    rw [Graph.arenaAt, arenas, Graph.arenaAt]
  have size : left.types.size = changed.types.size := by
    rw [types_eq_of_bare same]
  have memberSize : left.members.size = changed.members.size := by
    rw [members_eq_of_bare same]
  refine ⟨?_, ?_, ?_, ?_, ?_, ?_, ?_, ?_, ?_, ?_, ?_, ?_, ?_⟩
  · rw [size, frame.size]
  · intro other apart
    rw [typeAt, frame.others other apart]
  · intro type
    rw [typeAt]
    exact frame.identityAt type
  · intro type
    rw [typeAt, frame.implementation]
  · rw [progress, frame.progressCount]
  · intro other apart
    rw [progressAt, frame.progress other apart]
  · intro member old
    rw [memberAt, frame.members member old]
  · rw [memberSize]
    exact frame.memberCount
  · rw [arenas, frame.arenaCount]
  · intro arena
    rw [arenaAt, frame.settings]
  · intro arena
    rw [arenaAt, frame.population]
  · intro arena entry array found
    rw [arenaAt, frame.arrays found]
  · intro interned
    exact (frame.interned interned).of_eq (types_eq_of_bare same) (by rw [arenaAt])

theorem modifyType {change : NominalType → NominalType} (touches : touched type)
    (identity : (graph.typeAt type).SameIdentity (change (graph.typeAt type)))
    (implementation : (change (graph.typeAt type)).implementation
      = (graph.typeAt type).implementation) :
    graph.Frame farm touched bound (graph.modifyType type change) := by
  have others : ∀ other, ¬ touched other →
      (graph.modifyType type change).typeAt other = graph.typeAt other := by
    intro other apart
    refine typeAt_modifyType_of_ne ?_ change
    rintro rfl
    exact apart touches
  have identityAt : ∀ other,
      (graph.typeAt other).SameIdentity ((graph.modifyType type change).typeAt other) :=
    typeAt_modifyType_related .refl identity
  refine ⟨size_modifyType change, others, identityAt, ?_, rfl, fun _ _ => rfl, fun _ _ => rfl,
    Nat.le_refl _, rfl, fun _ => rfl, fun _ => rfl, fun found => found, ?_⟩
  · exact typeAt_modifyType_kept NominalType.implementation implementation
  · intro interned name array found
    obtain ⟨element, equal, within, named⟩ := interned name array found
    refine ⟨element, equal, ?_, ?_⟩
    · rw [size_modifyType]
      exact within
    · rw [← named]
      exact element.qualifiedName_congr within fun other _ => (identityAt other).qualifiedName

theorem withMember (bounded : bound ≤ graph.members.size) (member : Member) :
    graph.Frame farm touched bound (graph.withMember member) := by
  refine ⟨rfl, fun _ _ => rfl, fun _ => .refl _, fun _ => rfl, rfl, fun _ _ => rfl, ?_, ?_, rfl,
    fun _ => rfl, fun _ => rfl, fun found => found, fun interned => interned.of_eq rfl rfl⟩
  · intro known old
    exact memberAt_withMember_of_ne (Nat.ne_of_lt (Nat.lt_of_lt_of_le old bounded))
  · simp only [Graph.withMember, Array.size_push]
    exact Nat.le_succ _

theorem modifyMember {member : MemberId} (young : bound ≤ member) (change : Member → Member) :
    graph.Frame farm touched bound (graph.modifyMember member change) := by
  refine ⟨rfl, fun _ _ => rfl, fun _ => .refl _, fun _ => rfl, rfl, fun _ _ => rfl, ?_,
    Nat.le_of_eq (size_modifyMember change).symm, rfl, fun _ => rfl, fun _ => rfl,
    fun found => found, fun interned => interned.of_eq rfl rfl⟩
  intro known old
  exact memberAt_modifyMember_of_ne (Nat.ne_of_lt (Nat.lt_of_lt_of_le old young)) change

theorem modifyProgress (touches : touched type) (change : BuildProgress → BuildProgress) :
    graph.Frame farm touched bound (graph.modifyProgress type change) := by
  refine ⟨rfl, fun _ _ => rfl, fun _ => .refl _, fun _ => rfl, Array.size_modify, ?_,
    fun _ _ => rfl, Nat.le_refl _, rfl, fun _ => rfl, fun _ => rfl, fun found => found,
    fun interned => interned.of_eq rfl rfl⟩
  intro other apart
  have different : other ≠ type := by
    rintro rfl
    exact apart touches
  exact progressAt_modifyProgress_of_ne different

theorem placed_identity (graph : Graph) (member : MemberId) (old : NominalType) :
    old.SameIdentity (graph.placed member old) ∧
      (graph.placed member old).implementation = old.implementation := by
  unfold placed
  cases (graph.memberAt member).kind with
  | constructor => exact ⟨old.mapClassPart_identity _, old.mapClassPart_implementation _⟩
  | initializer => exact ⟨old.mapClassPart_identity _, old.mapClassPart_implementation _⟩
  | staticConstructor => exact ⟨old.mapClassPart_identity _, old.mapClassPart_implementation _⟩
  | field => exact ⟨old.mapDeclared_identity _ _, old.mapDeclared_implementation _ _⟩
  | method => exact ⟨old.mapDeclared_identity _ _, old.mapDeclared_implementation _ _⟩
  | unknown => exact ⟨old.mapDeclared_identity _ _, old.mapDeclared_implementation _ _⟩

theorem placed_state (graph : Graph) (member : MemberId) (old : NominalType) :
    (graph.placed member old).state = old.state := by
  unfold placed
  cases (graph.memberAt member).kind with
  | constructor => exact old.mapClassPart_state _
  | initializer => exact old.mapClassPart_state _
  | staticConstructor => exact old.mapClassPart_state _
  | field => exact old.mapDeclared_state _ _
  | method => exact old.mapDeclared_state _ _
  | unknown => exact old.mapDeclared_state _ _

theorem placed_supertypes (graph : Graph) (member : MemberId) (old : NominalType) :
    (graph.placed member old).supertypes = old.supertypes := by
  have ofClass : ∀ change : ClassPart → ClassPart, (∀ part, (change part).parent = part.parent) →
      (old.mapClassPart change).supertypes = old.supertypes := by
    intro change kept
    unfold NominalType.supertypes
    rw [NominalType.mapClassPart_parent?_of_eq old kept, NominalType.mapClassPart_interfaces]
  unfold Graph.placed
  cases (graph.memberAt member).kind with
  | constructor | initializer | staticConstructor => exact ofClass _ fun _ => rfl
  | field | method | unknown =>
      unfold NominalType.supertypes
      exact congrArg₂ (·.toList ++ ·) (NominalType.mapDeclared_parent? ..)
        (NominalType.mapDeclared_interfaces ..)

theorem withDeclared (touches : touched type) {member : MemberId} (young : bound ≤ member) :
    graph.Frame farm touched bound (graph.withDeclared type member) :=
  (Frame.modifyMember young _).trans (Frame.modifyType touches (placed_identity graph member _).1
    (placed_identity graph member _).2)

theorem withSealed (touches : touched type) :
    graph.Frame farm touched bound (graph.withSealed type) := by
  have started : graph.Frame farm touched bound
      (graph.modifyProgress type ({ · with isPreInitialized := true })) :=
    .modifyProgress touches _
  exact started.trans (.modifyType touches ⟨rfl, rfl, rfl, rfl, rfl, rfl, rfl⟩ rfl)

theorem withArray {element : TypeRef} (within : element.isWithin graph.types.size = true) :
    graph.Frame farm touched bound (graph.withArray farm.arena element (farm.lookup? "Array")) := by
  unfold Graph.withArray
  cases known : (graph.arenaAt farm.arena).arrays.get? (element.qualifiedName graph) with
  | some array => exact .refl graph
  | none =>
      have cases_at := arenaAt_modify_cases graph farm.arena fun old =>
        { old with
          arrays := old.arrays.set (element.qualifiedName graph)
            (.array element (farm.lookup? "Array")) }
      refine ⟨rfl, fun _ _ => rfl, fun _ => .refl _, fun _ => rfl, rfl, fun _ _ => rfl,
        fun _ _ => rfl, Nat.le_refl _, Array.size_modify, ?_, ?_, ?_, ?_⟩
      · intro arena
        rcases cases_at arena with same | ⟨rfl, changed⟩
        · rw [same]
        · rw [changed]
      · intro arena
        rcases cases_at arena with same | ⟨rfl, changed⟩
        · rw [same]
        · rw [changed]
      · intro arena name array found
        rcases cases_at arena with same | ⟨rfl, changed⟩
        · rw [same]
          exact found
        · rw [changed, Table.get?_set, if_neg]
          · exact found
          · rintro rfl
            rw [known] at found
            cases found
      · intro interned name array found
        have kept : ∀ reference : TypeRef, reference.qualifiedName
            { graph with arenas := graph.arenas.modify farm.arena fun old =>
              { old with
                arrays := old.arrays.set (element.qualifiedName graph)
                  (.array element (farm.lookup? "Array")) } }
            = reference.qualifiedName graph := qualifiedName_eq_of_typeAt fun _ => rfl
        simp only [kept]
        rcases cases_at farm.arena with same | ⟨-, changed⟩
        · rw [same] at found
          exact interned name array found
        · rw [changed, Table.get?_set] at found
          split at found
          next asked =>
            cases found
            exact ⟨element, rfl, within, asked.symm⟩
          next => exact interned name array found

end Frame

/-- The work on a type before it is sealed. -/
structure Alters (farm : Farm) (type : TypeId) (bound : Nat) (graph left : Graph) : Prop where
  steps : Steps (Deed.Concerns type) graph left
  frame : graph.Frame farm (· = type) bound left
  progress : left.progressAt type = graph.progressAt type
  state : left.isSealed type = graph.isSealed type

namespace Alters

variable {farm : Farm} {type : TypeId} {bound : Nat} {graph left last : Graph}

theorem refl (graph : Graph) : graph.Alters farm type bound graph :=
  ⟨.refl, .refl graph, rfl, rfl⟩

theorem trans (early : graph.Alters farm type bound left)
    (late : left.Alters farm type bound last) : graph.Alters farm type bound last :=
  ⟨early.steps.trans late.steps, early.frame.trans late.frame,
    late.progress.trans early.progress, late.state.trans early.state⟩

theorem progress_of_bare {changed : Graph} (same : left.bare = changed.bare)
    (kept : changed.progress = graph.progress) : left.progressAt type = graph.progressAt type := by
  rw [progressAt, progress_eq_of_bare same, kept, progressAt]

theorem of_reads (read : graph.Reads left) : graph.Alters farm type bound left :=
  ⟨.single (.of_reads read), (Frame.refl graph).of_bare read.bare, progress_of_bare read.bare rfl,
    isSealed_eq_of_bare read.bare type⟩

theorem of_step {deed : Deed} (step : Step (· = deed) graph left) (concerns : deed.Concerns type)
    {changed : Graph} (same : left.bare = changed.bare)
    (frame : graph.Frame farm (· = type) bound changed)
    (progress : changed.progress = graph.progress)
    (state : changed.isSealed type = graph.isSealed type) : graph.Alters farm type bound left := by
  refine ⟨.single (step.mono ?_), frame.of_bare same, progress_of_bare same progress,
    (isSealed_eq_of_bare same type).trans state⟩
  rintro _ rfl
  exact concerns

end Alters

end Graph

open Nominal.Graph

/-! ## Array types -/

section Arrays

variable {farm : Farm} {graph : Graph}

theorem get?_withArray {arena : ArenaId} (present : arena < graph.arenas.size) (element : TypeRef)
    (base : Option TypeId) (asked : String) :
    ((graph.withArray arena element base).arenaAt arena).arrays.get? asked =
      if asked = element.qualifiedName graph then some (graph.arrayFor arena element base)
      else (graph.arenaAt arena).arrays.get? asked := by
  unfold Graph.withArray Graph.arrayFor
  cases known : (graph.arenaAt arena).arrays.get? (element.qualifiedName graph) with
  | some array =>
      dsimp only
      by_cases same : asked = element.qualifiedName graph
      · rw [if_pos same, same, known, Option.getD_some]
      · rw [if_neg same]
  | none =>
      have changed : ({ graph with arenas := graph.arenas.modify arena fun old =>
          { old with
            arrays := old.arrays.set (element.qualifiedName graph) (.array element base) } :
            Graph }.arenaAt arena).arrays
          = (graph.arenaAt arena).arrays.set (element.qualifiedName graph)
              (.array element base) := by
        simp only [Graph.arenaAt, Array.getElem?_modify, if_true,
          Array.getElem?_eq_getElem present, Option.map_some, Option.getD_some]
      dsimp only
      rw [changed, Table.get?_set, Option.getD_none]

/-- The array type over an element is over a type of the same name. -/
theorem arrayFor_cases (interned : graph.Interned farm) (element : TypeRef) :
    ∃ found : TypeRef, graph.arrayFor farm.arena element (farm.lookup? "Array")
        = .array found (farm.lookup? "Array") ∧
      found.qualifiedName graph = element.qualifiedName graph ∧
      ((graph.arenaAt farm.arena).arrays.get? (element.qualifiedName graph)
          = some (.array found (farm.lookup? "Array")) ∨
        (graph.arenaAt farm.arena).arrays.get? (element.qualifiedName graph) = none ∧
          found = element) := by
  unfold Graph.arrayFor
  cases known : (graph.arenaAt farm.arena).arrays.get? (element.qualifiedName graph) with
  | none => exact ⟨element, rfl, rfl, .inr ⟨rfl, rfl⟩⟩
  | some array =>
      obtain ⟨found, rfl, -, named⟩ := interned _ _ known
      exact ⟨found, rfl, named, .inl rfl⟩

end Arrays

/-! ## Names that are in scope -/

/-- What a resolver may mention is in the graph, in one arena. -/
structure Resolver.Hosted (resolver : Resolver) (graph : Graph) : Prop where
  denoted : ∀ {name type}, resolver.module.lookupType? resolver.farm name = some type →
    type < graph.types.size
  builtin : ∀ {name type}, resolver.farm.lookup? name = some type →
    (graph.typeAt type).isClass = true
  arena : resolver.farm.arena < graph.arenas.size
  together : ∀ {type}, type < graph.types.size →
    (graph.typeAt type).arena = resolver.farm.arena
  interned : graph.Interned resolver.farm

/-- A type that a resolver works on. -/
structure Workpiece (resolver : Resolver) (type : TypeId) (bound : Nat) (graph : Graph) :
    Prop where
  sound : graph.Sound
  hosted : resolver.Hosted graph
  present : type < graph.types.size
  bounded : bound ≤ graph.members.size
  plain : ∀ other, ¬ graph.AddsMembers other
  undeferred : (graph.typeAt type).implementation = none
  fresh : graph.progressAt type = {}

section Work

variable {resolver : Resolver} {type : TypeId} {bound : Nat} {graph left : Graph}

theorem Resolver.Hosted.of_frame (hosted : resolver.Hosted graph)
    {touched : TypeId → Prop} (frame : graph.Frame resolver.farm touched bound left) :
    resolver.Hosted left where
  denoted found := by
    rw [frame.size]
    exact hosted.denoted found
  builtin found := by
    rw [(frame.identityAt _).isClass]
    exact hosted.builtin found
  arena := by
    rw [frame.arenaCount]
    exact hosted.arena
  together present := by
    rw [(frame.identityAt _).arena]
    exact hosted.together (frame.size ▸ present)
  interned := frame.interned hosted.interned

theorem Workpiece.of_alters (piece : Workpiece resolver type bound graph)
    (alters : graph.Alters resolver.farm type bound left) :
    Workpiece resolver type bound left where
  sound := alters.steps.sound piece.sound
  hosted := piece.hosted.of_frame alters.frame
  present := by
    rw [alters.frame.size]
    exact piece.present
  bounded := Nat.le_trans piece.bounded alters.frame.memberCount
  plain other := by
    rintro ⟨serial, member, deferred⟩
    rw [alters.frame.implementation] at deferred
    exact piece.plain other ⟨serial, member, deferred⟩
  undeferred := by rw [alters.frame.implementation, piece.undeferred]
  fresh := by rw [alters.progress, piece.fresh]

/-- However a computation ends, it has only worked on the type; what it gives satisfies a
condition. -/
structure Build.Works {α : Type} (resolver : Resolver) (type : TypeId) (bound : Nat)
    (build : Build α) (graph : Graph) (given : α → Graph → Prop) : Prop where
  alters : graph.Alters resolver.farm type bound (build.exec graph).2
  result : ∀ value, (build.exec graph).1 = .ok value → given value (build.exec graph).2

namespace Build.Works

variable {α β : Type} {build : Build α} {given : α → Graph → Prop}

theorem pure {value : α} (holds : given value graph) :
    Build.Works resolver type bound (pure value) graph given := by
  refine ⟨.refl graph, ?_⟩
  rintro _ ⟨⟩
  exact holds

theorem throw (failure : Failure) :
    Build.Works resolver type bound (throw failure : Build α) graph given := by
  refine ⟨.refl graph, ?_⟩
  intro value impossible
  cases impossible

theorem mono {weaker : α → Graph → Prop} (works : build.Works resolver type bound graph given)
    (weaken : ∀ value left, graph.Alters resolver.farm type bound left → given value left →
      weaker value left) : build.Works resolver type bound graph weaker :=
  ⟨works.alters, fun value ended => weaken value _ works.alters (works.result value ended)⟩

theorem bind (piece : Workpiece resolver type bound graph)
    (first : build.Works resolver type bound graph given) {next : α → Build β}
    {last : β → Graph → Prop}
    (rest : ∀ value left, Workpiece resolver type bound left →
      graph.Alters resolver.farm type bound left → given value left →
        (next value).Works resolver type bound left last) :
    Build.Works resolver type bound (build >>= next) graph last := by
  obtain ⟨alters, result⟩ := first
  rcases Build.exec_bind_cases build next graph with
    ⟨failure, left, run, ended⟩ | ⟨value, left, run, ended⟩
  · rw [run] at alters
    constructor
    · rwa [ended]
    · intro value impossible
      rw [ended] at impossible
      cases impossible
  · rw [run] at alters result
    have later := rest value left (piece.of_alters alters) alters (result value rfl)
    constructor
    · rw [ended]
      exact alters.trans later.alters
    · rw [ended]
      exact later.result

/-- An operation works on the type if it takes a step of such work and leaves a graph that is only
changed there. -/
theorem of_ends {found : Option Error} {value : α} {changed : Graph} {deed : Deed}
    (ends : build.Ends graph found value changed)
    (step : Step (· = deed) graph (build.exec graph).2)
    (concerns : deed.Concerns type)
    (frame : graph.Frame resolver.farm (· = type) bound changed)
    (progress : changed.progress = graph.progress)
    (state : changed.isSealed type = graph.isSealed type) :
    build.Works resolver type bound graph fun given left =>
      found = none ∧ given = value ∧ left.bare = changed.bare := by
  have left := ends.left
  have outcome := ends.outcome
  cases found with
  | none =>
      refine ⟨.of_step step concerns left frame progress state, ?_⟩
      intro given ended
      rw [outcome] at ended
      cases ended
      exact ⟨rfl, rfl, left⟩
  | some error =>
      refine ⟨.of_step step concerns left (.refl graph) rfl rfl, ?_⟩
      intro given ended
      rw [outcome] at ended
      cases ended

/-- What refuses to change a sealed type leaves it as it is. -/
theorem of_sealed (isFinal : graph.isSealed type = true) (mutation : Mutation)
    (next : Unit → Build α) :
    Build.Works resolver type bound (requireUnsealed type mutation >>= next) graph given := by
  have run : (requireUnsealed type mutation >>= next).exec graph
      = (.error (.aborted (.sealedMutation type mutation)), graph) := by
    rw [exec_requireUnsealed_bind, if_pos isFinal]
  refine ⟨?_, ?_⟩
  · rw [run]
    exact .refl graph
  · intro value ended
    rw [run] at ended
    cases ended

end Build.Works

end Work

end Nominal
