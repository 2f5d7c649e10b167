import Nominal.Builtin.Types
import Nominal.Proofs.Bootstrapped
import Nominal.Proofs.DeclarationOrder

/-!
# What built-in types add

A built-in type brings its own functions, which are run while the types of its farm are stubs.  What
the construction relies on is little: as far as they return without an error, the one adds members
and the other seals the stub.  The default built-in types keep to that in every graph that holds
their farm.
-/

namespace Nominal

open Nominal.Graph

/-- A deed that leaves supertypes and implementations alone, and completes nothing. -/
def Graph.Deed.Populates : Deed → Prop
  | describe | declare _ => True
  | implement _ | link _ | complete => False

/-- A graph that holds the classes of a farm, finished or not, and array types over types that are
there. -/
structure Graph.Holds (graph : Graph) (farm : Farm) : Prop where
  sound : graph.Sound
  arena : farm.arena < graph.arenas.size
  classes : ∀ {name type}, farm.lookup? name = some type → (graph.typeAt type).isClass = true
  arrays : ∀ {name array}, (graph.arenaAt farm.arena).arrays.get? name = some array →
    array.isWithin graph.types.size = true

/-- What the construction relies on: as far as the functions of a built-in type return without an
error, the one adds members and the other seals the stub.  An error may come at any time. -/
structure BuiltinType.IsOrderly (builtin : BuiltinType) : Prop where
  adds : ∀ {farm graph left}, graph.Holds farm →
    (builtin.implement farm (farm.builderOf builtin)).exec graph = (.ok (), left) →
      Steps Deed.Populates graph left ∧ left.Holds farm
  finishes : ∀ {stub graph left}, (builtin.complete stub).exec graph = (.ok (), left) →
    Build.exec (do sealType (← stub)) graph = (.ok (), left)

section Holding

variable {farm : Farm} {graph left : Graph} {type : TypeId}

namespace Graph.Holds

theorem present (holds : graph.Holds farm) {name : String} (found : farm.lookup? name = some type) :
    type < graph.types.size :=
  lt_size_of_isClass (holds.classes found)

theorem of_keeps (holds : graph.Holds farm) (sound : left.Sound) (keeps : graph.KeepsSealed left)
    (arenas : graph.arenas.size ≤ left.arenas.size)
    (arrays : (left.arenaAt farm.arena).arrays = (graph.arenaAt farm.arena).arrays) :
    left.Holds farm where
  sound := sound
  arena := Nat.lt_of_lt_of_le holds.arena arenas
  classes found := by
    rw [(keeps.identity _ (holds.present found)).isClass]
    exact holds.classes found
  arrays found := by
    rw [arrays] at found
    exact TypeRef.isWithin_of_le (holds.arrays found) keeps.grows

theorem of_step (holds : graph.Holds farm) {allowed : Deed → Prop} (step : Step allowed graph left)
    (arenas : left.arenas = graph.arenas) : left.Holds farm := by
  refine holds.of_keeps step.sound step.keepsSealed (Nat.le_of_eq (by rw [arenas])) ?_
  rw [arenaAt, arenas, ← arenaAt]

end Graph.Holds

/-- Whatever is more than a description makes no types and no array types. -/
theorem Graph.Change.arenas {deed : Deed} (changed : graph.Change deed left)
    (other : deed ≠ .describe) :
    left.arenas = graph.arenas ∧ left.types.size = graph.types.size := by
  cases changed with
  | openArena | allocate | intern | create => exact absurd rfl other
  | start | fail | callHook => exact ⟨rfl, rfl⟩
  | reform | declare => exact ⟨rfl, Array.size_modify⟩

theorem Graph.Step.arenas {allowed : Deed → Prop} (step : Step allowed graph left)
    (other : ¬ allowed .describe) :
    left.arenas = graph.arenas ∧ left.types.size = graph.types.size := by
  rcases step.effect with same | ⟨deed, changed, permitted, change, same⟩
  · exact ⟨arenas_eq_of_bare same, by rw [types_eq_of_bare same]⟩
  · rw [arenas_eq_of_bare same, types_eq_of_bare same]
    refine change.arenas ?_
    rintro rfl
    exact other permitted

theorem Graph.Step.holds {allowed : Deed → Prop} (step : Step allowed graph left)
    (other : ¬ allowed .describe) (holds : graph.Holds farm) : left.Holds farm :=
  holds.of_step step (step.arenas other).1

theorem Graph.Steps.holds {allowed : Deed → Prop} (steps : Steps allowed graph left)
    (other : ¬ allowed .describe) (holds : graph.Holds farm) : left.Holds farm := by
  induction steps with
  | refl => exact holds
  | tail _ step held => exact step.holds other held

/-! ## Stubs and array types -/

theorem exec_require_ok {name : String} (run : (farm.require name).exec graph = (.ok type, left)) :
    left = graph ∧ farm.lookup? name = some type := by
  unfold Farm.require at run
  cases found : farm.lookup? name with
  | none =>
      rw [found] at run
      cases run
  | some known =>
      rw [found] at run
      cases run
      exact ⟨rfl, rfl⟩

theorem exec_builderOf_ok {builtin : BuiltinType}
    (run : (farm.builderOf builtin).exec graph = (.ok type, left)) :
    left = graph ∧ farm.lookup? builtin.name = some type := by
  unfold Farm.builderOf at run
  cases found : farm.lookup? builtin.name with
  | none =>
      rw [found] at run
      cases run
  | some known =>
      rw [found] at run
      cases run
      exact ⟨rfl, rfl⟩

/-- An array type that is asked for is kept. -/
theorem exec_farm_arrayOf (farm : Farm) (element : TypeRef) (graph : Graph) :
    Build.exec (liftM (farm.arrayOf element) : Build TypeRef) graph
      = (.ok (graph.arrayFor farm.arena element (farm.lookup? "Array")),
          graph.withArray farm.arena element (farm.lookup? "Array")) := by
  have run : (farm.arrayOf element).exec graph = _ := exec_arrayOf graph farm.arena element _
  rw [Build.exec_lift, run]

theorem Graph.Holds.withArray (holds : graph.Holds farm) {element : TypeRef}
    (within : element.isWithin graph.types.size = true) :
    let array := graph.arrayFor farm.arena element (farm.lookup? "Array")
    let changed := graph.withArray farm.arena element (farm.lookup? "Array")
    array.isWithin graph.types.size = true ∧ changed.Holds farm ∧
      Step (· = .describe) graph changed ∧ changed.types = graph.types := by
  intro array changed
  have step : Step (· = .describe) graph changed := by
    have taken := arrayOf_step holds.sound farm.arena element (farm.lookup? "Array")
    rwa [exec_arrayOf] at taken
  have types : changed.types = graph.types := by
    unfold changed Graph.withArray
    split <;> rfl
  have arenas : changed.arenas.size = graph.arenas.size := by
    unfold changed Graph.withArray
    split
    · rfl
    · exact Array.size_modify
  have base : ((farm.lookup? "Array").all (· < graph.types.size)) = true := by
    rw [Option.all_eq_true]
    exact fun type found => decide_eq_true (holds.present found)
  have arrayWithin : array.isWithin graph.types.size = true := by
    unfold array arrayFor
    cases known : (graph.arenaAt farm.arena).arrays.get? (element.qualifiedName graph) with
    | some kept => exact holds.arrays known
    | none =>
        rw [Option.getD_none, TypeRef.isWithin, within, base]
        rfl
  refine ⟨arrayWithin, ⟨step.sound, arenas ▸ holds.arena, ?_, ?_⟩, step, types⟩
  · intro name type found
    rw [typeAt, types, ← typeAt]
    exact holds.classes found
  · intro name kept found
    rw [types]
    rw [get?_withArray holds.arena] at found
    split at found
    · cases found
      exact arrayWithin
    · exact holds.arrays found

end Holding

/-! ## Gathering members -/

/-- A computation that adds members to a graph that holds a farm, or array types of the farm; what
it gives depends on the number of types only, which stays the same. -/
structure Build.Gathers {α : Type} (farm : Farm) (size : Nat) (build : Build α)
    (given : α → Prop) : Prop where
  ran : ∀ {graph left : Graph} {value : α}, graph.Holds farm → graph.types.size = size →
    build.exec graph = (.ok value, left) →
      (Steps Deed.Populates graph left ∧ left.Holds farm ∧ left.types.size = size) ∧ given value

namespace Build.Gathers

variable {α β : Type} {farm : Farm} {size : Nat} {given : α → Prop}

theorem pure {value : α} (holds : given value) :
    Build.Gathers farm size (Pure.pure value) given := by
  constructor
  intro graph left result held sized run
  cases run
  exact ⟨⟨.refl, held, sized⟩, holds⟩

theorem bind {first : Build β} {next : β → Build α} {middle : β → Prop}
    (gathers : first.Gathers farm size middle)
    (goes : ∀ value, middle value → (next value).Gathers farm size given) :
    Build.Gathers farm size (first >>= next) given := by
  constructor
  intro graph left result held sized run
  rcases Build.exec_bind_cases first next graph with ⟨_, _, _, failed⟩ | ⟨value, between, ran, rest⟩
  · rw [failed] at run
    cases run
  · rw [rest] at run
    obtain ⟨⟨steps, betweenHeld, betweenSized⟩, holds⟩ := gathers.ran held sized ran
    obtain ⟨⟨later, leftHeld, leftSized⟩, given⟩ :=
      (goes value holds).ran betweenHeld betweenSized run
    exact ⟨⟨steps.trans later, leftHeld, leftSized⟩, given⟩

theorem require (farm : Farm) (name : String) :
    (farm.require name).Gathers farm size (· < size) := by
  constructor
  intro graph left type held sized run
  obtain ⟨rfl, found⟩ := exec_require_ok run
  exact ⟨⟨.refl, held, sized⟩, sized ▸ held.present found⟩

theorem builderOf (farm : Farm) (builtin : BuiltinType) :
    (farm.builderOf builtin).Gathers farm size (· < size) := by
  constructor
  intro graph left type held sized run
  obtain ⟨rfl, found⟩ := exec_builderOf_ok run
  exact ⟨⟨.refl, held, sized⟩, sized ▸ held.present found⟩

theorem arrayOf {element : TypeRef} (within : element.isWithin size = true) :
    Build.Gathers farm size (liftM (farm.arrayOf element) : Build TypeRef)
      (·.isWithin size = true) := by
  constructor
  intro graph left array held sized run
  rw [exec_farm_arrayOf] at run
  cases run
  subst sized
  obtain ⟨arrayWithin, leftHeld, step, types⟩ := held.withArray within
  exact ⟨⟨.single (step.mono fun _ only => only ▸ trivial), leftHeld, by rw [types]⟩, arrayWithin⟩

/-- An operation that takes one step, and makes neither types nor array types. -/
theorem of_step {build : Build α} (holds : ∀ value, given value)
    (step : ∀ {graph : Graph}, graph.Holds farm → graph.types.size = size →
      Step Deed.Populates graph (build.exec graph).2 ∧
        (build.exec graph).2.arenas = graph.arenas ∧
        (build.exec graph).2.types.size = graph.types.size) :
    build.Gathers farm size given := by
  constructor
  intro graph left value held sized run
  obtain ⟨taken, arenas, types⟩ := step held sized
  rw [run] at taken arenas types
  exact ⟨⟨.single taken, held.of_step taken arenas, types.trans sized⟩, holds value⟩

theorem setDocString {self : TypeId} (present : self < size) (docString : String) :
    (Nominal.setDocString self docString).Gathers farm size fun _ => True := by
  refine .of_step (fun _ => trivial) ?_
  rintro graph held rfl
  have described : graph.Described (graph.typeAt self) { graph.typeAt self with docString } :=
    ⟨⟨rfl, rfl, rfl, rfl, rfl, rfl, rfl⟩, rfl, fun _ => rfl, rfl, .inl rfl, rfl,
      fun _ listed => .inl listed⟩
  have step := changeType_step held.sound present .setDocumentation
    (.describe ({ · with docString }) described)
  refine ⟨step.mono fun _ only => only ▸ trivial, ?_⟩
  unfold Nominal.setDocString changeType
  rw [exec_requireUnsealed_bind]
  split
  · exact ⟨rfl, rfl⟩
  · exact ⟨rfl, Array.size_modify⟩

theorem newMember {member : Member} (within : member.isWithin size = true) :
    Build.Gathers farm size (liftM (Nominal.newMember member) : Build MemberId)
      fun _ => True := by
  refine .of_step (fun _ => trivial) ?_
  rintro graph held rfl
  exact ⟨(newMember_step held.sound within).mono fun _ only => only ▸ trivial, rfl, rfl⟩

theorem declareMember {self : TypeId} (present : self < size) (member : MemberId)
    (isStatic : Bool) :
    (Nominal.declareMember self (some member) isStatic).Gathers farm size fun _ => True := by
  refine .of_step (fun _ => trivial) ?_
  rintro graph held rfl
  have step := declareMember_step held.sound present (some member) isStatic
  exact ⟨step.mono fun _ only => only ▸ trivial, step.arenas nofun⟩

/-- Members that mention types of the graph only can be added one after the other. -/
theorem declareAll {self : TypeId} (present : self < size) {members : List Member}
    (within : ∀ member ∈ members, member.isWithin size = true) :
    (Builtin.declareAll self members).Gathers farm size fun _ => True := by
  induction members with
  | nil => exact .pure trivial
  | cons member rest ih =>
      rw [List.forall_mem_cons] at within
      change Build.Gathers farm size (do
        let id ← Nominal.newMember member
        Nominal.declareMember self (some id) member.isStatic
        Builtin.declareAll self rest) _
      refine .bind (.newMember within.1) fun id _ => ?_
      refine .bind (.declareMember present id _) fun _ _ => ?_
      exact ih within.2

end Build.Gathers

/-! ## The default built-in types -/

/-- A class of the default built-in types is orderly if its members mention types of the graph
only. -/
theorem isOrderly_ofClass {name : String} {properties : List TypeProperty} {parentName : String}
    {wantsArrayType : Bool} {docString : String}
    {members : Farm → TypeId → Build (List Member)}
    (gathers : ∀ {farm size self}, self < size → (members farm self).Gathers farm size
      fun given => ∀ member ∈ given, member.isWithin size = true) :
    (Builtin.ofClass name properties parentName wantsArrayType docString members).IsOrderly where
  adds := by
    intro farm graph left held run
    let builtin := Builtin.ofClass name properties parentName wantsArrayType docString members
    have gathered : Build.Gathers farm graph.types.size
        (builtin.implement farm (farm.builderOf builtin)) fun _ => True := by
      refine .bind (.builderOf farm builtin) fun self present => ?_
      refine .bind (.setDocString present docString) fun _ _ => ?_
      refine .bind (gathers present) fun given within => ?_
      exact .declareAll present within
    obtain ⟨⟨steps, leftHeld, -⟩, -⟩ := gathered.ran held rfl run
    exact ⟨steps, leftHeld⟩
  finishes run := run

section Defaults

variable {size : Nat}

theorem isWithin_method (self : TypeId) (isStatic : Bool) (name : String) (result : TypeRef)
    (parameters : List Parameter) (docString : String) :
    (Member.method (some self) .pub isStatic name parameters (some result) docString).isWithin size
      = (result.isWithin size
          && (parameters.filterMap (·.type)).all fun reference => reference.isWithin size) := by
  simp [Member.isWithin, Member.mentioned, Member.method]

@[simp]
theorem isWithin_constructor (self : TypeId) (visibility : Visibility)
    (parameters : List Parameter) :
    (Member.constructor (some self) visibility parameters).isWithin size
      = (parameters.filterMap (·.type)).all fun reference => reference.isWithin size := by
  simp [Member.isWithin, Member.mentioned, Member.constructor]

@[simp]
theorem isWithin_builtinMethod (self : TypeId) (name : String) (result : TypeRef)
    (parameters : List Parameter) (docString : String) :
    (Builtin.method self name result parameters docString).isWithin size
      = (result.isWithin size
          && (parameters.filterMap (·.type)).all fun reference => reference.isWithin size) :=
  isWithin_method self false name result parameters docString

@[simp]
theorem isWithin_builtinStaticMethod (self : TypeId) (name : String) (result : TypeRef)
    (parameters : List Parameter) :
    (Builtin.staticMethod self name result parameters).isWithin size
      = (result.isWithin size
          && (parameters.filterMap (·.type)).all fun reference => reference.isWithin size) :=
  isWithin_method self true name result parameters ""

theorem isOrderly_object : Builtin.object.IsOrderly := by
  refine isOrderly_ofClass fun {farm size self} _ => ?_
  refine .bind (.require farm "String") fun string stringPresent => ?_
  refine .bind (.require farm "Dynamic") fun dynamic dynamicPresent => ?_
  refine .bind (.require farm "Type") fun type typePresent => .pure ?_
  simp [Builtin.param, TypeRef.isWithin, stringPresent, dynamicPresent, typePresent]

theorem isOrderly_string : Builtin.string.IsOrderly := by
  refine isOrderly_ofClass fun {farm size self} present => ?_
  refine .bind (.require farm "Dynamic") fun dynamic dynamicPresent => ?_
  refine .bind (.arrayOf (decide_eq_true present)) fun strings stringsWithin => ?_
  refine .bind (.arrayOf rfl) fun chars charsWithin => .pure ?_
  simp [Builtin.param, TypeRef.isWithin, present, dynamicPresent, stringsWithin, charsWithin]

theorem isOrderly_array : Builtin.array.IsOrderly := by
  refine isOrderly_ofClass fun {farm size self} _ => ?_
  refine .bind (.require farm "Dynamic") fun dynamic dynamicPresent => .pure ?_
  simp [Builtin.param, TypeRef.isWithin, dynamicPresent]

theorem isOrderly_enumeration : Builtin.enumeration.IsOrderly := by
  refine isOrderly_ofClass fun {farm size self} _ => ?_
  refine .bind (.require farm "String") fun string stringPresent => .pure ?_
  simp [Builtin.param, TypeRef.isWithin, stringPresent]

theorem isOrderly_attributeBase : Builtin.attributeBase.IsOrderly := by
  refine isOrderly_ofClass fun {farm size self} _ => .pure ?_
  simp

theorem isOrderly_function : Builtin.function.IsOrderly := by
  refine isOrderly_ofClass fun {farm size self} _ => ?_
  refine .bind (.require farm "Dynamic") fun dynamic dynamicPresent => ?_
  refine .bind (.arrayOf (decide_eq_true dynamicPresent)) fun dynamics dynamicsWithin => .pure ?_
  simp [Builtin.param, TypeRef.isWithin, dynamicPresent, dynamicsWithin]

theorem isOrderly_dynamic : Builtin.dynamic.IsOrderly :=
  isOrderly_ofClass fun _ => .pure (List.forall_mem_nil _)

theorem isOrderly_type : Builtin.type.IsOrderly := by
  refine isOrderly_ofClass fun {farm size self} present => ?_
  refine .bind (.require farm "String") fun string stringPresent => ?_
  refine .bind (.require farm "Dynamic") fun dynamic dynamicPresent => ?_
  refine .bind (.arrayOf (decide_eq_true present)) fun types typesWithin => .pure ?_
  simp [Builtin.param, TypeRef.isWithin, present, stringPresent, dynamicPresent, typesWithin]

/-- The default built-in types add members only, and seal themselves. -/
theorem isOrderly_defaults : ∀ builtin ∈ Builtin.defaults, builtin.IsOrderly := by
  simp only [Builtin.defaults, List.forall_mem_cons]
  exact ⟨isOrderly_object, isOrderly_string, isOrderly_array, isOrderly_enumeration,
    isOrderly_attributeBase, isOrderly_function, isOrderly_dynamic, isOrderly_type,
    List.forall_mem_nil _⟩

end Defaults

end Nominal
