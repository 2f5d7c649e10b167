import Nominal.Proofs.ArrayTypes
import Nominal.Proofs.UserFaults

/-!
# References with array suffixes

A reference is read from its end: every array suffix is cut off, with the blanks around it, until a
name without suffixes is left.  The name is resolved, and then the array types are asked for from
the inside outwards.

An arena keeps its array types under the names of their elements.  If every type has its own name,
asking for array types one after the other therefore gives the array type of that depth over the
named type, and over the built-in dynamic class where the name leaves the type open.  Nothing but
the name can be refused.
-/

namespace Nominal

open Nominal.Graph

/-! ## Trimming -/

namespace Text

/-- A text has blank characters only. -/
def AllBlank (text : String) : Prop :=
  ∀ c ∈ text.toList, isBlank c = true

instance (text : String) : Decidable (AllBlank text) :=
  List.decidableBAll (isBlank · = true) text.toList

theorem trimEnd_append {after : List Char} (blank : ∀ c ∈ after, isBlank c = true)
    (characters : List Char) : trimEnd (characters ++ after) = trimEnd characters := by
  unfold trimEnd
  rw [List.reverse_append, List.dropWhile_append_of_pos]
  intro c listed
  exact blank c (List.mem_reverse.mp listed)

/-- Blanks around a text do not matter. -/
theorem trimList_of_blanks {before after : List Char} (blank : ∀ c ∈ before, isBlank c = true)
    (blankAfter : ∀ c ∈ after, isBlank c = true) (characters : List Char) :
    trimList (before ++ characters ++ after) = trimList characters := by
  unfold trimList
  rw [List.append_assoc, List.dropWhile_append_of_pos blank, List.dropWhile_append]
  cases kept : characters.dropWhile isBlank with
  | nil =>
      have rest : after.dropWhile isBlank = [] := List.dropWhile_eq_nil_iff.mpr blankAfter
      rw [rest]
      rfl
  | cons first rest => exact trimEnd_append blankAfter (first :: rest)

theorem trimList_dropWhile (characters : List Char) :
    trimList (characters.dropWhile isBlank) = trimList characters := by
  unfold trimList
  rw [List.dropWhile_eq_self_iff.mpr (List.dropWhile_get_zero_not isBlank characters)]

/-- An array suffix ends a text, whatever blanks follow it. -/
theorem trimList_suffixed (characters : List Char) {after : List Char}
    (blank : ∀ c ∈ after, isBlank c = true) :
    trimList (characters ++ ['[', ']'] ++ after) = characters.dropWhile isBlank ++ ['[', ']'] := by
  have kept : (characters ++ (['[', ']'] ++ after)).dropWhile isBlank
      = characters.dropWhile isBlank ++ ['[', ']'] ++ after := by
    rw [List.dropWhile_append, List.append_assoc]
    cases characters.dropWhile isBlank <;> rfl
  unfold trimList
  rw [List.append_assoc, kept, trimEnd_append blank, trimEnd, List.reverse_append]
  have ends : (['[', ']'].reverse ++ (characters.dropWhile isBlank).reverse).dropWhile isBlank
      = ['[', ']'].reverse ++ (characters.dropWhile isBlank).reverse :=
    List.dropWhile_cons_of_neg (by decide)
  rw [ends, ← List.reverse_append, List.reverse_reverse]

end Text

/-! ## Cutting the suffixes -/

/-- A reference is a name with a number of array suffixes, and blanks around the name and around
every suffix. -/
inductive Suffixed (name : String) : Nat → String → Prop
  | plain {before after : String} (blank : Text.AllBlank before)
      (blankAfter : Text.AllBlank after) :
      Suffixed name 0 (before ++ name ++ after)
  | array {depth : Nat} {inner before after : String} (suffixed : Suffixed name depth inner)
      (blank : Text.AllBlank before) (blankAfter : Text.AllBlank after) :
      Suffixed name (depth + 1) (inner ++ before ++ "[]" ++ after)

theorem peelArrays_of_some {characters element : List Char}
    (found : arrayElement? (Text.trimList characters) = some element) :
    peelArrays characters = ((peelArrays element).1, (peelArrays element).2 + 1) := by
  rw [peelArrays]
  split
  next other same =>
    rw [found] at same
    cases same
    rfl
  next absent =>
    rw [found] at absent
    cases absent

theorem peelArrays_of_none {characters : List Char}
    (found : arrayElement? (Text.trimList characters) = none) :
    peelArrays characters = (Text.trimList characters, 0) := by
  rw [peelArrays]
  split
  next same =>
    rw [found] at same
    cases same
  next => rfl

/-- Only the trimmed text matters. -/
theorem peelArrays_congr {first second : List Char}
    (same : Text.trimList first = Text.trimList second) : peelArrays first = peelArrays second := by
  cases found : arrayElement? (Text.trimList second) with
  | none =>
      rw [peelArrays_of_none found, peelArrays_of_none (same ▸ found), same]
  | some element => rw [peelArrays_of_some found, peelArrays_of_some (same ▸ found)]

/-- The name and all suffixes are found, with whatever blanks they are written. -/
theorem Suffixed.peelArrays {name : String}
    (unsuffixed : arrayElement? (Text.trimList name.toList) = none) {depth : Nat} {text : String}
    (suffixed : Suffixed name depth text) :
    Nominal.peelArrays text.toList = (Text.trimList name.toList, depth) := by
  induction suffixed with
  | plain blank blankAfter =>
      rw [String.toList_append, String.toList_append]
      have trimmed := Text.trimList_of_blanks blank blankAfter name.toList
      rw [peelArrays_congr trimmed, peelArrays_of_none unsuffixed]
  | @array depth inner before after _ blank blankAfter ih =>
      have cut : arrayElement? (Text.trimList (inner ++ before ++ "[]" ++ after).toList)
          = some ((inner.toList ++ before.toList).dropWhile Text.isBlank) := by
        simp only [String.toList_append]
        rw [show "[]".toList = ['[', ']'] from rfl, Text.trimList_suffixed _ blankAfter]
        exact arrayElement?_append _
      have rest : Nominal.peelArrays ((inner.toList ++ before.toList).dropWhile Text.isBlank)
          = Nominal.peelArrays inner.toList := by
        apply peelArrays_congr
        rw [Text.trimList_dropWhile]
        exact @Text.trimList_of_blanks [] _ nofun blank inner.toList
      rw [peelArrays_of_some cut, rest, ih]

/-! ## Nested array types -/

namespace TypeRef

/-- The array type of a depth over an element type. -/
def nested (base : Option TypeId) : Nat → TypeRef → TypeRef
  | 0, element => element
  | depth + 1, element => .array (nested base depth element) base

theorem nested_array (base : Option TypeId) (depth : Nat) (element : TypeRef) :
    nested base depth (.array element base) = nested base (depth + 1) element := by
  induction depth with
  | zero => rfl
  | succ depth ih => exact congrArg (array · base) ih

theorem same_nested (base : Option TypeId) (depth : Nat) {first second : TypeRef}
    (same : first.same second = true) :
    (nested base depth first).same (nested base depth second) = true := by
  induction depth with
  | zero => exact same
  | succ depth ih => exact ih

theorem same_trans {first second third : TypeRef} (early : first.same second = true)
    (late : second.same third = true) : first.same third = true := by
  induction first generalizing second third with
  | primitive kind =>
      cases second with
      | primitive other =>
          rw [beq_iff_eq.mp early]
          exact late
      | nominal | array => cases early
  | nominal type =>
      cases second with
      | nominal other =>
          rw [beq_iff_eq.mp early]
          exact late
      | primitive | array => cases early
  | array element base ih =>
      cases second with
      | array other otherBase =>
          cases third with
          | array last lastBase => exact ih early late
          | primitive | nominal => cases late
      | primitive | nominal => cases early

end TypeRef

namespace Graph

variable {graph left last : Graph} {arena : ArenaId}

/-- The types that there are: primitive types, declared types, the array types that an arena keeps,
and what these are over. -/
inductive Knows (graph : Graph) (arena : ArenaId) : TypeRef → Prop
  | primitive (kind : Primitive) : Knows graph arena (.primitive kind)
  | nominal {type : TypeId} (present : type < graph.types.size) : Knows graph arena (.nominal type)
  | kept {name : String} {array : TypeRef}
      (found : (graph.arenaAt arena).arrays.get? name = some array) : Knows graph arena array
  | element {inner : TypeRef} {base : Option TypeId}
      (known : Knows graph arena (.array inner base)) : Knows graph arena inner

/-- No two types share a name. -/
def Unshared (graph : Graph) (arena : ArenaId) : Prop :=
  ∀ first second, graph.Knows arena first → graph.Knows arena second →
    first.qualifiedName graph = second.qualifiedName graph → first.same second = true

/-- The declared types stay as they are, and array types are only added. -/
structure AddsArrays (graph : Graph) (arena : ArenaId) (left : Graph) : Prop where
  types : left.types = graph.types
  arrays : ∀ {name array}, (graph.arenaAt arena).arrays.get? name = some array →
    (left.arenaAt arena).arrays.get? name = some array

namespace AddsArrays

theorem refl (graph : Graph) (arena : ArenaId) : graph.AddsArrays arena graph :=
  ⟨rfl, id⟩

theorem trans (early : graph.AddsArrays arena left) (late : left.AddsArrays arena last) :
    graph.AddsArrays arena last :=
  ⟨late.types.trans early.types, fun found => late.arrays (early.arrays found)⟩

theorem withArray (present : arena < graph.arenas.size) (element : TypeRef)
    (base : Option TypeId) : graph.AddsArrays arena (graph.withArray arena element base) :=
  ⟨types_withArray graph arena element base, found_withArray present element base⟩

theorem qualifiedName (adds : graph.AddsArrays arena left) (reference : TypeRef) :
    reference.qualifiedName left = reference.qualifiedName graph :=
  qualifiedName_eq_of_typeAt (fun type => by rw [typeAt, typeAt, adds.types]) reference

/-- Types that there are do not vanish. -/
theorem knows (adds : graph.AddsArrays arena left) {reference : TypeRef}
    (known : graph.Knows arena reference) : left.Knows arena reference := by
  induction known with
  | primitive kind => exact .primitive kind
  | nominal present => exact .nominal (adds.types ▸ present)
  | kept found => exact .kept (adds.arrays found)
  | element _ ih => exact ih.element

end AddsArrays

theorem Interned.later {farm : Farm} (interned : graph.Interned farm)
    (keeps : graph.KeepsNames left)
    (arrays : (left.arenaAt farm.arena).arrays = (graph.arenaAt farm.arena).arrays) :
    left.Interned farm := by
  intro name array found
  rw [arrays] at found
  obtain ⟨element, equal, within, named⟩ := interned name array found
  exact ⟨element, equal, TypeRef.isWithin_of_le within keeps.grows,
    (keeps.qualifiedName within).trans named⟩

end Graph

/-- What a resolver needs to resolve references: the types that names denote, the built-in types in
the arena of the farm, and an array type for each name at most. -/
structure Resolver.Serves (resolver : Resolver) (graph : Graph) : Prop where
  sound : graph.Sound
  denoted : ∀ {name type}, resolver.Denotes name type → type < graph.types.size
  builtin : ∀ {name type}, resolver.farm.lookup? name = some type →
    type < graph.types.size ∧ (graph.typeAt type).arena = resolver.farm.arena
  interned : graph.Interned resolver.farm
  equipped : resolver.farm.Equipped

namespace Resolver.Serves

variable {resolver : Resolver} {graph left : Graph}

/-- Types are kept, so a resolver is served as long as the array types are in order. -/
theorem later (serves : resolver.Serves graph) (sound : left.Sound) (keeps : graph.KeepsNames left)
    (interned : left.Interned resolver.farm) : resolver.Serves left where
  sound := sound
  denoted denotes := Nat.lt_of_lt_of_le (serves.denoted denotes) keeps.grows
  builtin found := by
    obtain ⟨present, here⟩ := serves.builtin found
    exact ⟨Nat.lt_of_lt_of_le present keeps.grows, (keeps.identity _ present).arena.trans here⟩
  interned := interned
  equipped := serves.equipped

theorem arena (serves : resolver.Serves graph) : resolver.farm.arena < graph.arenas.size := by
  obtain ⟨dynamic, found⟩ := Option.isSome_iff_exists.mp serves.equipped.dynamic
  obtain ⟨present, here⟩ := serves.builtin found
  exact here ▸ serves.sound.wellFormed.hierarchical.arena_lt present

theorem baseWithin (serves : resolver.Serves graph) :
    (resolver.farm.lookup? "Array").all (· < graph.types.size) = true := by
  cases found : resolver.farm.lookup? "Array" with
  | none => rfl
  | some array => exact decide_eq_true (serves.builtin found).1

/-- A request for an array type leaves a graph that serves as well. -/
theorem withArray (serves : resolver.Serves graph) {element : TypeRef}
    (within : element.isWithin graph.types.size = true) :
    resolver.Serves
      (graph.withArray resolver.farm.arena element (resolver.farm.lookup? "Array")) := by
  have frame : graph.Frame resolver.farm (fun _ => False) 0
      (graph.withArray resolver.farm.arena element (resolver.farm.lookup? "Array")) :=
    .withArray within
  have step := arrayOf_step serves.sound resolver.farm.arena element (resolver.farm.lookup? "Array")
  rw [exec_arrayOf] at step
  exact serves.later step.sound (KeepsNames.of_frame frame).1 (frame.interned serves.interned)

/-- Every type that there is mentions types of the graph. -/
theorem isWithin_of_knows (serves : resolver.Serves graph) {reference : TypeRef}
    (known : graph.Knows resolver.farm.arena reference) :
    reference.isWithin graph.types.size = true := by
  induction known with
  | primitive kind => rfl
  | nominal present => exact decide_eq_true present
  | kept found =>
      obtain ⟨element, rfl, within, -⟩ := serves.interned _ _ found
      rw [TypeRef.isWithin, within, serves.baseWithin]
      rfl
  | element _ ih =>
      rw [TypeRef.isWithin, Bool.and_eq_true] at ih
      exact ih.1

/-- If no two references share a name, no two types do. -/
theorem unshared_of_sole (serves : resolver.Serves graph)
    (sole : ∀ reference : TypeRef, reference.isWithin graph.types.size = true →
      graph.Sole reference) : graph.Unshared resolver.farm.arena :=
  fun first second known otherKnown named =>
    sole second (serves.isWithin_of_knows otherKnown) first (serves.isWithin_of_knows known) named

/-- Array types that are asked for from the inside outwards are the nested array type, if no two
types share a name once they have been made. -/
theorem exec_nestedArray (serves : resolver.Serves graph) {element : TypeRef}
    (within : element.isWithin graph.types.size = true) (depth : Nat) :
    ∃ array left, (resolver.nestedArray depth element).exec graph = (.ok array, left) ∧
      resolver.Serves left ∧ graph.AddsArrays resolver.farm.arena left ∧
      (left.Unshared resolver.farm.arena → graph.Knows resolver.farm.arena element →
        array.same (.nested (resolver.farm.lookup? "Array") depth element) = true) := by
  induction depth generalizing graph element with
  | zero =>
      exact ⟨element, graph, rfl, serves, .refl graph _, fun _ _ => TypeRef.same_refl element⟩
  | succ depth ih =>
      obtain ⟨found, given, named, -⟩ := arrayFor_cases serves.interned element
      have made := AddsArrays.withArray serves.arena element (resolver.farm.lookup? "Array")
      have kept := get?_withArray serves.arena element (resolver.farm.lookup? "Array")
        (element.qualifiedName graph)
      rw [if_pos rfl, given] at kept
      have arrayKnown := Knows.kept kept
      have next := serves.withArray within
      obtain ⟨array, left, ran, leftServes, later, nests⟩ :=
        ih next (next.isWithin_of_knows arrayKnown)
      refine ⟨array, left, ?_, leftServes, made.trans later, fun unshared known => ?_⟩
      · have run : (resolver.farm.arrayOf element).exec graph = _ := exec_arrayOf _ _ _ _
        have asked : (liftM (resolver.farm.arrayOf element) : Build TypeRef).exec graph
            = (.ok (.array found (resolver.farm.lookup? "Array")),
              graph.withArray resolver.farm.arena element (resolver.farm.lookup? "Array")) := by
          rw [Build.exec_lift, run, given]
        rw [Resolver.nestedArray]
        exact (Build.exec_bind_of_ok asked).trans ran
      · have same : found.same element = true := by
          apply unshared found element (later.knows arrayKnown).element
            ((made.trans later).knows known)
          rw [(made.trans later).qualifiedName, (made.trans later).qualifiedName, named]
        have inner := nests unshared arrayKnown
        rw [TypeRef.nested_array] at inner
        exact TypeRef.same_trans inner (TypeRef.same_nested _ (depth + 1) same)

/-! ## References -/

/-- A name without suffixes is refused, or gives nothing exactly if it leaves the type open, and
otherwise a type of the graph. -/
theorem plainType_cases (serves : resolver.Serves graph) (self : TypeId) (name : String) :
    (∃ failure, (resolver.plainType self name).exec graph = (.error failure, graph)) ∨
    ∃ plain, (resolver.plainType self name).exec graph = (.ok plain, graph) ∧
      (plain = none ↔ name = "" ∨ name = untypedName) ∧
      ∀ type ∈ plain, graph.Knows resolver.farm.arena type := by
  unfold Resolver.plainType
  by_cases untyped : name = "" ∨ name = untypedName
  · rw [if_pos untyped]
    exact .inr ⟨none, rfl, iff_of_true rfl untyped, nofun⟩
  · rw [if_neg untyped]
    cases Primitive.ofName? name with
    | some kind =>
        refine .inr ⟨some (.primitive kind), rfl, iff_of_false nofun untyped, ?_⟩
        rintro _ ⟨⟩
        exact .primitive kind
    | none =>
        have named := exec_nominalType resolver graph self name
        cases failed : resolver.nameFailure? graph self name with
        | some failure =>
            rw [failed] at named
            exact .inl ⟨failure, Build.exec_bind_of_error named⟩
        | none =>
            rw [failed] at named
            refine .inr ⟨some (.nominal (resolver.denoted name)), Build.exec_bind_of_ok named,
              iff_of_false nofun untyped, ?_⟩
            rintro _ ⟨⟩
            exact .nominal (serves.denoted (denotes_of_nameFailure? failed))

theorem exec_type_of_error {self : TypeId} {text : String} {characters : List Char} {depth : Nat}
    (peeled : peelArrays text.toList = (characters, depth)) {failure : Failure}
    (ran : (resolver.plainType self (String.ofList characters)).exec graph
      = (.error failure, graph)) :
    (resolver.type self text).exec graph = (.error failure, graph) := by
  unfold Resolver.type
  rw [peeled]
  exact Build.exec_bind_of_error ran

/-- What a name stands for is the element of the array types that are asked for; the dynamic class
is, where the name leaves the type open. -/
theorem exec_type_of_ok {self : TypeId} {text : String} {characters : List Char} {depth : Nat}
    (peeled : peelArrays text.toList = (characters, depth)) {plain : Option TypeRef}
    (ran : (resolver.plainType self (String.ofList characters)).exec graph = (.ok plain, graph))
    {dynamic : TypeId} (found : resolver.farm.lookup? "Dynamic" = some dynamic) :
    (resolver.type self text).exec graph =
      if depth = 0 then (.ok plain, graph)
      else Build.exec (do
        return some (← resolver.nestedArray depth (plain.getD (.nominal dynamic)))) graph := by
  have required : (resolver.farm.require "Dynamic").exec graph = (.ok dynamic, graph) := by
    unfold Farm.require
    rw [found]
    rfl
  unfold Resolver.type
  rw [peeled]
  refine (Build.exec_bind_of_ok ran).trans ?_
  by_cases flat : depth = 0
  · rw [if_pos flat, if_pos flat]
    rfl
  · rw [if_neg flat, if_neg flat]
    cases plain with
    | some element => rfl
    | none => exact Build.exec_bind_of_ok required

/-- The dynamic class stands in for a type that is left open. -/
theorem knows_getD (serves : resolver.Serves graph) {dynamic : TypeId}
    (found : resolver.farm.lookup? "Dynamic" = some dynamic) {plain : Option TypeRef}
    (known : ∀ type ∈ plain, graph.Knows resolver.farm.arena type) :
    graph.Knows resolver.farm.arena (plain.getD (.nominal dynamic)) := by
  cases plain with
  | none => exact .nominal (serves.builtin found).1
  | some type => exact known type rfl

/-- Resolving a reference makes array types and changes nothing else. -/
theorem exec_type (serves : resolver.Serves graph) (self : TypeId) (text : String) :
    resolver.Serves ((resolver.type self text).exec graph).2 ∧
      graph.AddsArrays resolver.farm.arena ((resolver.type self text).exec graph).2 := by
  obtain ⟨dynamic, found⟩ := Option.isSome_iff_exists.mp serves.equipped.dynamic
  rcases peeled : peelArrays text.toList with ⟨characters, depth⟩
  rcases serves.plainType_cases self (String.ofList characters) with
    ⟨failure, ran⟩ | ⟨plain, ran, -, known⟩
  · rw [exec_type_of_error peeled ran]
    exact ⟨serves, .refl graph _⟩
  · rw [exec_type_of_ok peeled ran found]
    split
    · exact ⟨serves, .refl graph _⟩
    · obtain ⟨array, left, nested, leftServes, adds, -⟩ := serves.exec_nestedArray
        (serves.isWithin_of_knows (serves.knows_getD found known)) depth
      rw [Build.exec_bind_of_ok nested]
      exact ⟨leftServes, adds⟩

/-- Suffixes and blanks do not change whether a reference is refused, and how; they give the nested
array type over what the name stands for. -/
theorem resolves_suffixed (serves : resolver.Serves graph) (self : TypeId) {name text : String}
    (unshared : ((resolver.type self text).exec graph).2.Unshared resolver.farm.arena)
    (unsuffixed : arrayElement? (Text.trimList name.toList) = none) {depth : Nat}
    (suffixed : Suffixed name depth text) :
    ∃ dynamic, resolver.farm.lookup? "Dynamic" = some dynamic ∧
      (∀ failure, ((resolver.type self text).exec graph).1 = .error failure ↔
        ((resolver.type self name).exec graph).1 = .error failure) ∧
      ∀ result, ((resolver.type self name).exec graph).1 = .ok result →
        (result = none ↔ Text.trim name = "" ∨ Text.trim name = untypedName) ∧
        (depth = 0 → ((resolver.type self text).exec graph).1 = .ok result) ∧
        (0 < depth → ∃ array, ((resolver.type self text).exec graph).1 = .ok (some array) ∧
          array.same (.nested (resolver.farm.lookup? "Array") depth
            (result.getD (.nominal dynamic))) = true) := by
  obtain ⟨dynamic, found⟩ := Option.isSome_iff_exists.mp serves.equipped.dynamic
  refine ⟨dynamic, found, ?_⟩
  have alone : Suffixed name 0 name := by
    simpa using @Suffixed.plain name "" "" nofun nofun
  have peeled := suffixed.peelArrays unsuffixed
  have peeledAlone := alone.peelArrays unsuffixed
  rcases serves.plainType_cases self (Text.trim name) with
    ⟨failure, ran⟩ | ⟨plain, ran, untyped, known⟩
  · rw [exec_type_of_error peeled ran, exec_type_of_error peeledAlone ran]
    exact ⟨fun _ => .rfl, nofun⟩
  · have resolved := exec_type_of_ok peeled ran found
    have resolvedAlone := exec_type_of_ok peeledAlone ran found
    rw [if_pos rfl] at resolvedAlone
    have elementKnown := serves.knows_getD found known
    obtain ⟨array, left, nested, -, -, nests⟩ :=
      serves.exec_nestedArray (serves.isWithin_of_knows elementKnown) depth
    rw [Build.exec_bind_of_ok nested] at resolved
    rw [resolvedAlone]
    by_cases flat : depth = 0
    · rw [resolved, if_pos flat]
      refine ⟨fun _ => .rfl, ?_⟩
      rintro result ⟨⟩
      exact ⟨untyped, fun _ => rfl, fun deep => absurd flat (Nat.ne_of_gt deep)⟩
    · rw [if_neg flat] at resolved
      rw [resolved] at unshared ⊢
      refine ⟨fun _ => iff_of_false nofun nofun, ?_⟩
      rintro result ⟨⟩
      exact ⟨untyped, fun same => absurd same flat,
        fun _ => ⟨array, rfl, nests unshared elementKnown⟩⟩

end Resolver.Serves

/-! ## Modules under load -/

namespace Workspace

variable {settings : ArenaSettings} {resolver : Resolver} {graph : Graph}

/-- The states of a session while a module is loaded.  The stubs of its types have been made;
whatever the loader does then is made of operations, requests for array types and reads. -/
inductive UnderLoad (settings : ArenaSettings) (resolver : Resolver) : Graph → Prop
  | stubs {workspace : Workspace} (session : Session settings workspace) {imports : List Module}
      (known : ∀ imported ∈ imports, imported ∈ workspace.modules)
      {declaration : ModuleDeclaration} {pending : List PendingType} {graph : Graph}
      (farm : resolver.farm = workspace.farm)
      (declared : (declareTypes workspace.farm.arena
          (Module.importing workspace.loads declaration.name imports) declaration.types).exec
            workspace.graph = (.ok (resolver.module, pending), graph)) :
      UnderLoad settings resolver graph
  | perform {graph : Graph} (earlier : UnderLoad settings resolver graph) {operation : Operation}
      (admissible : operation.isAdmissible graph = true)
      (other : operation.asksArray resolver.farm.arena = false) :
      UnderLoad settings resolver (operation.perform graph)
  | intern {graph : Graph} (earlier : UnderLoad settings resolver graph) {element : TypeRef}
      (within : element.isWithin graph.types.size = true) :
      UnderLoad settings resolver ((resolver.farm.arrayOf element).exec graph).2
  | read {graph left : Graph} (earlier : UnderLoad settings resolver graph)
      (reads : graph.Reads left) : UnderLoad settings resolver left

/-- As soon as the stubs are made, references can be resolved. -/
theorem serves_stubs {workspace : Workspace} (session : Session settings workspace)
    {imports : List Module} (known : ∀ imported ∈ imports, imported ∈ workspace.modules)
    {declaration : ModuleDeclaration} {pending : List PendingType}
    (farm : resolver.farm = workspace.farm)
    (declared : (declareTypes workspace.farm.arena
        (Module.importing workspace.loads declaration.name imports) declaration.types).exec
          workspace.graph = (.ok (resolver.module, pending), graph)) :
    resolver.Serves graph := by
  have ready := session.ready
  obtain ⟨free, capacity⟩ := Nat.exists_eq_add_of_le ready.houses.room
  obtain ⟨made, stubs, -, ran, same, whole, -⟩ := declareTypes_exec declaration.types
    (Module.importing workspace.loads declaration.name imports) ready.houses.arena capacity.symm
  have grows := (declareTypes_grows ready.houses
    (Module.importing workspace.loads declaration.name imports) declaration.types).1
  rw [declared] at ran grows
  dsimp only at grows
  cases accepted : declarationsFailure?
      (Module.importing workspace.loads declaration.name imports).name free
      (Module.importing workspace.loads declaration.name imports).types.keys declaration.types with
  | some failure =>
      rw [accepted] at ran
      cases ran
  | none =>
      rw [accepted] at ran
      obtain ⟨ok, rfl⟩ := Prod.mk.inj ran
      rw [whole accepted] at same
      have hosted : (loadResolver workspace.farm workspace.loads imports declaration
          workspace.graph.types.size).Hosted graph :=
        hosted_of_withStubs ready.houses
          (fun imported listed => ready.complete imported (known imported listed))
          (nodup_of_declarationsFailure? List.nodup_nil accepted) grows same
      have isLoader : resolver = loadResolver workspace.farm workspace.loads imports declaration
          workspace.graph.types.size := by
        have module := (Prod.mk.inj (Except.ok.inj ok)).1
        cases resolver
        cases farm
        cases module
        rfl
      rw [← isLoader] at hosted
      refine ⟨grows.houses.sound, hosted.denoted, ?_, hosted.interned, farm ▸ session.equipped⟩
      intro name type found
      have present := lt_size_of_isClass (hosted.builtin found)
      exact ⟨present, hosted.together present⟩

/-- While a module is loaded, references can be resolved. -/
theorem UnderLoad.serves (underLoad : UnderLoad settings resolver graph) :
    resolver.Serves graph := by
  induction underLoad with
  | stubs session known farm declared => exact serves_stubs session known farm declared
  | perform _ admissible other ih =>
      obtain ⟨sound, keeps⟩ := Operation.perform_sound ih.sound admissible
      have keepsNames := KeepsNames.of_keepsSealed keeps
      exact ih.later sound keepsNames
        (ih.interned.later keepsNames (Operation.arrays_perform ih.sound admissible other))
  | @intern graph _ element within ih =>
      have run : (resolver.farm.arrayOf element).exec graph = _ := exec_arrayOf _ _ _ _
      rw [run]
      exact ih.withArray within
  | read _ reads ih =>
      have keeps := KeepsNames.of_types (types_eq_of_bare reads.bare)
      exact ih.later reads.sound keeps
        (ih.interned.later keeps (arrays_eq_of_arenas (arenas_eq_of_bare reads.bare) _))

/-- While a module is loaded, a reference with suffixes and blanks is refused exactly if the name in
it is, with the same failure.  Otherwise it gives the nested array type over the type that the name
stands for, and over the dynamic class if there are suffixes and the name is empty or leaves the
type open; no two types may share a name for this, the array types that are made included. -/
theorem UnderLoad.type_suffixed (underLoad : UnderLoad settings resolver graph) (self : TypeId)
    {name text : String}
    (unshared : ((resolver.type self text).exec graph).2.Unshared resolver.farm.arena)
    (unsuffixed : arrayElement? (Text.trim name).toList = none) {depth : Nat}
    (suffixed : Suffixed name depth text) :
    let base := resolver.farm.lookup? "Array"
    let alone := ((resolver.type self name).exec graph).1
    let whole := ((resolver.type self text).exec graph).1
    ∃ dynamic, resolver.farm.lookup? "Dynamic" = some dynamic ∧
      (∀ failure, whole = .error failure ↔ alone = .error failure) ∧
      ∀ result, alone = .ok result →
        (result = none ↔ Text.trim name = "" ∨ Text.trim name = untypedName) ∧
        (depth = 0 → whole = .ok result) ∧
        (0 < depth → ∃ array, whole = .ok (some array) ∧
          array.same (.nested base depth (result.getD (.nominal dynamic))) = true) :=
  underLoad.serves.resolves_suffixed self unshared (by simpa [Text.trim] using unsuffixed) suffixed

/-- A class in a module under load, with two suffixes and some blanks, and a suffix without a
name. -/
theorem UnderLoad.type_suffixed_baseModule :
    ∃ (resolver : Resolver) (graph : Graph) (type dynamic : TypeId) (array dynamicArray : TypeRef),
      UnderLoad {} resolver graph ∧
      (∀ text, ((resolver.type type text).exec graph).2.Unshared resolver.farm.arena) ∧
      Suffixed "P" 2 " P [] []\t" ∧ Suffixed "" 1 "[]" ∧
      ((resolver.type type "P").exec graph).1 = .ok (some (.nominal type)) ∧
      ((resolver.type type " P [] []\t").exec graph).1 = .ok (some array) ∧
      array.same (.nested (resolver.farm.lookup? "Array") 2 (.nominal type)) = true ∧
      resolver.farm.lookup? "Dynamic" = some dynamic ∧
      ((resolver.type type "[]").exec graph).1 = .ok (some dynamicArray) ∧
      dynamicArray.same (.nested (resolver.farm.lookup? "Array") 1 (.nominal dynamic)) = true := by
  have evaluated : startsIn (fun started =>
      match (declareTypes started.farm.arena
          (Module.importing started.loads baseModule.name []) baseModule.types).exec
            started.graph with
      | (.ok (module, _), graph) =>
        let resolver : Resolver := { farm := started.farm, module }
        decide ((∀ first < graph.types.size, ∀ second < graph.types.size,
            graph.nameOf first = graph.nameOf second → first = second) ∧
          (∀ type < graph.types.size, graph.PlainlyNamed type) ∧
          ((resolver.type 8 "P").exec graph).1.toOption = some (some (.nominal 8)) ∧
          ((resolver.type 8 "").exec graph).1.toOption = some none)
      | (.error _, _) => false) = true := by
    decide +kernel
  obtain ⟨started, session, evaluated⟩ := exists_of_startsIn evaluated
  split at evaluated
  next module pending graph declared =>
    obtain ⟨distinct, plain, given, nothing⟩ := of_decide_eq_true evaluated
    have ended : ∀ {outcome : Except Failure (Option TypeRef)} {given : Option TypeRef},
        outcome.toOption = some given → outcome = .ok given := by
      rintro (failure | result) given ⟨⟩
      rfl
    have underLoad : UnderLoad {} { farm := started.farm, module } graph :=
      @UnderLoad.stubs _ { farm := started.farm, module } _ session [] (by simp) _ _ _ rfl declared
    have unshared : ∀ text, (((Resolver.mk started.farm module).type 8 text).exec
        graph).2.Unshared started.farm.arena := by
      intro text
      obtain ⟨serves, adds⟩ := underLoad.serves.exec_type 8 text
      apply serves.unshared_of_sole
      intro reference within
      rw [adds.types] at within
      exact (sole_of_plain distinct plain within).of_types adds.types
    have blank : Text.AllBlank " " := by decide
    have tab : Text.AllBlank "\t" := by decide
    have empty : Text.AllBlank "" := by decide
    have named : Suffixed "P" 2 " P [] []\t" :=
      @Suffixed.array "P" 1 " P []" " " "\t"
        (@Suffixed.array "P" 0 " P" " " "" (@Suffixed.plain "P" " " "" blank empty) blank empty)
        blank tab
    have unnamed : Suffixed "" 1 "[]" :=
      @Suffixed.array "" 0 "" "" "" (@Suffixed.plain "" "" "" empty empty) empty empty
    obtain ⟨_, _, -, nests⟩ := underLoad.type_suffixed 8 (unshared _) (by decide) named
    obtain ⟨dynamic, found, -, nestsDynamic⟩ :=
      underLoad.type_suffixed 8 (unshared _) (by decide) unnamed
    obtain ⟨-, -, deep⟩ := nests _ (ended given)
    obtain ⟨-, -, deepDynamic⟩ := nestsDynamic _ (ended nothing)
    obtain ⟨array, whole, isNested⟩ := deep (by decide)
    obtain ⟨dynamicArray, wholeDynamic, isNestedDynamic⟩ := deepDynamic (by decide)
    exact ⟨_, graph, 8, dynamic, array, dynamicArray, underLoad, unshared, named, unnamed,
      ended given, whole, isNested, found, wholeDynamic, isNestedDynamic⟩
  next => cases evaluated

end Workspace

end Nominal
