import Nominal.Proofs.MirroredLoads

/-!
# The stubs of a module in two graphs

A module is declared in a graph, and in one that has grown out of it; the second declaration may
list the types in another order.  What was there before is the same in both graphs, and the stubs of
one declared type correspond to each other.  So both loads start from graphs that mirror each other.
-/

namespace Nominal

open Nominal.Graph

/-! ## What is common to two graphs -/

namespace Mirror

variable {mirror : Mirror}

theorem ShowsRef.of_common (covered : mirror.common ≤ mirror.source.types.size)
    {reference : TypeRef} (within : reference.isWithin mirror.common = true) :
    mirror.ShowsRef reference reference := by
  induction reference with
  | primitive kind => exact .primitive kind
  | nominal type =>
      have old : type < mirror.common := of_decide_eq_true within
      have shown : mirror.ShowsRef (.nominal type) (.nominal (mirror.rename type)) :=
        .nominal (Nat.lt_of_lt_of_le old covered)
      rwa [mirror.fixed old] at shown
  | array element base ih =>
      rw [TypeRef.isWithin, Bool.and_eq_true] at within
      have shown := ih within.1
      exact .array shown.qualifiedName fun _ => shown

theorem ShowsType?.of_common (covered : mirror.common ≤ mirror.source.types.size)
    {reference : Option TypeRef}
    (within : ∀ mentioned ∈ reference, mentioned.isWithin mirror.common = true) :
    mirror.ShowsType? reference reference := by
  cases reference with
  | none => exact .none
  | some mentioned => exact .some (.of_common covered (within mentioned rfl))

theorem ShowsMember.of_common (covered : mirror.common ≤ mirror.source.types.size) {member : Member}
    (within : member.isWithin mirror.common = true)
    (owner : ∀ type ∈ member.definingType, type < mirror.common) :
    mirror.ShowsMember member member := by
  rw [Member.isWithin, List.all_eq_true] at within
  have mentioned : ∀ {reference : TypeRef}, reference ∈ member.mentioned →
      reference.isWithin mirror.common = true := fun listed => within _ listed
  simp only [Member.mentioned, List.mem_append, Option.mem_toList, List.mem_filterMap] at mentioned
  refine ⟨rfl, rfl, rfl, rfl, rfl, rfl, rfl, ?_, ?_, ?_, ?_, ?_⟩
  · exact .of_common covered fun reference isType => mentioned (.inl (.inl isType))
  · cases owned : member.definingType with
    | none => rfl
    | some type => exact (congrArg some (mirror.fixed (owner type owned))).symm
  · exact fun type owned => Nat.lt_of_lt_of_le (owner type owned) covered
  · refine List.forall₂_same.mpr fun parameter listed => ⟨rfl, rfl, ?_⟩
    exact .of_common covered fun reference isType =>
      mentioned (.inl (.inr ⟨parameter, listed, isType⟩))
  · cases calls : member.forwardCall with
    | none => exact .none
    | some call =>
        refine .some ⟨rfl, List.forall₂_same.mpr fun argument listed => ?_⟩
        refine .of_common covered fun reference isType => mentioned (.inr ⟨argument, ?_, isType⟩)
        rw [calls]
        exact listed

end Mirror

/-! ## The stubs of one module in two graphs -/

/-- The same types, declared in another order. -/
structure Rearranged (declaration image : ModuleDeclaration) (places : Nat → Nat) : Prop where
  name : image.name = declaration.name
  distinct : (declaration.types.map (·.name)).Nodup
  imageDistinct : (image.types.map (·.name)).Nodup
  found : ∀ {place declared}, declaration.types[place]? = some declared →
    image.types[places place]? = some declared
  covered : ∀ declared ∈ image.types, declared ∈ declaration.types

/-- The stubs of a module in a graph, and in one that has grown out of it. -/
structure StubbedTwice (farm : Farm) (imports : List Module) (declaration image : ModuleDeclaration)
    (places : Nat → Nat) (serial imageSerial : Nat) (graph grown stubs imageStubs : Graph) :
    Prop where
  houses : graph.Houses farm
  grows : graph.Grows farm grown
  complete : ∀ imported ∈ imports, imported.Complete graph
  rearranged : Rearranged declaration image places
  same : stubs.bare = (graph.withStubs (.ofModule serial declaration.name) farm.arena
    declaration.types).bare
  imageSame : imageStubs.bare = (grown.withStubs (.ofModule imageSerial image.name) farm.arena
    image.types).bare
  sound : stubs.Sound

/-- The type that corresponds to a type, where the declared types stand at other places. -/
def renameStub (first imageFirst : Nat) (places : Nat → Nat) (type : Nat) : Nat :=
  if type < first then type else imageFirst + places (type - first)

section Renaming

variable {first imageFirst : Nat} {places : Nat → Nat} {type : Nat}

theorem renameStub_old (old : type < first) : renameStub first imageFirst places type = type :=
  if_pos old

theorem renameStub_new (place : Nat) :
    renameStub first imageFirst places (first + place) = imageFirst + places place := by
  rw [renameStub, if_neg (by omega), Nat.add_sub_cancel_left]

end Renaming

/-- A module knows the types that it declares by their names. -/
theorem get?_loadResolver {farm : Farm} {serial : Nat} {imports : List Module}
    {declaration : ModuleDeclaration} {first : TypeId}
    (distinct : (declaration.types.map (·.name)).Nodup) {name : String} {type : TypeId} :
    (loadResolver farm serial imports declaration first).module.types.get? name = some type ↔
      ∃ place declared, declaration.types[place]? = some declared ∧ declared.name = name ∧
        first + place = type := by
  have entries : (loadResolver farm serial imports declaration first).module.types.entries
      = (pendingFrom first declaration.types).map fun entry =>
          (entry.declaration.name, entry.type) := by
    unfold loadResolver
    rw [entries_withTypes _ (by simpa [Module.importing, Table.keys] using distinct)]
    rfl
  have keys : (loadResolver farm serial imports declaration first).module.types.keys.Nodup := by
    rw [Table.keys, entries, List.map_map]
    have named : (pendingFrom first declaration.types).map
        (Prod.fst ∘ fun entry => (entry.declaration.name, entry.type))
        = declaration.types.map (·.name) := by
      conv_rhs => rw [← pendingFrom_declarations first declaration.types, List.map_map]
      rfl
    rwa [named]
  constructor
  · intro found
    have listed := Table.mem_of_get?_eq_some found
    rw [entries] at listed
    obtain ⟨entry, pending, equal⟩ := List.mem_map.mp listed
    obtain ⟨place, foundEntry⟩ := List.mem_iff_getElem?.mp pending
    rw [getElem?_pendingFrom] at foundEntry
    obtain ⟨declared, foundDeclared, rfl⟩ := Option.map_eq_some_iff.mp foundEntry
    cases equal
    exact ⟨place, declared, foundDeclared, rfl, rfl⟩
  · rintro ⟨place, declared, found, rfl, rfl⟩
    refine Table.get?_eq_some_of_mem keys ?_
    rw [entries]
    refine List.mem_map.mpr ⟨⟨declared, first + place⟩, ?_, rfl⟩
    apply List.mem_of_getElem?
    rw [getElem?_pendingFrom, found]
    rfl

namespace StubbedTwice

variable {farm : Farm} {imports : List Module} {declaration image : ModuleDeclaration}
  {places : Nat → Nat} {serial imageSerial : Nat} {graph grown stubs imageStubs : Graph}
  (twice : StubbedTwice farm imports declaration image places serial imageSerial graph grown stubs
    imageStubs)

include twice

theorem size : stubs.types.size = graph.types.size + declaration.types.length := by
  rw [types_eq_of_bare twice.same, size_withStubs]

theorem imageSize : imageStubs.types.size = grown.types.size + image.types.length := by
  rw [types_eq_of_bare twice.imageSame, size_withStubs]

theorem typeAt_old {type : TypeId} (old : type < graph.types.size) :
    stubs.typeAt type = graph.typeAt type ∧ imageStubs.typeAt type = graph.typeAt type := by
  rw [typeAt_eq_of_bare twice.same, typeAt_eq_of_bare twice.imageSame, typeAt_withStubs_old _ _ old,
    typeAt_withStubs_old _ _ (Nat.lt_of_lt_of_le old twice.grows.size), twice.grows.types old]
  exact ⟨rfl, rfl⟩

theorem typeAt_new {place : Nat} {declared : TypeDeclaration}
    (found : declaration.types[place]? = some declared) :
    ∃ index imageIndex,
      stubs.typeAt (graph.types.size + place)
          = declared.stub (.ofModule serial declaration.name) farm.arena index ∧
        imageStubs.typeAt (grown.types.size + places place)
          = declared.stub (.ofModule imageSerial declaration.name) farm.arena imageIndex := by
  have imageFound := twice.rearranged.found found
  have stub := typeAt_withStubs_new twice.houses.arena (.ofModule serial declaration.name) found
  have imageStub := typeAt_withStubs_new twice.grows.houses.arena
    (.ofModule imageSerial image.name) imageFound
  rw [← typeAt_eq_of_bare twice.same] at stub
  rw [← typeAt_eq_of_bare twice.imageSame, twice.rearranged.name] at imageStub
  exact ⟨_, _, stub, imageStub⟩

theorem memberAt_old {member : MemberId} (old : member < graph.members.size) :
    stubs.memberAt member = graph.memberAt member ∧
      imageStubs.memberAt member = graph.memberAt member := by
  refine ⟨?_, ?_⟩
  · rw [memberAt, members_eq_of_bare twice.same, members_withStubs, memberAt]
  · rw [memberAt, members_eq_of_bare twice.imageSame, members_withStubs, ← memberAt,
      twice.grows.members old]

theorem members_size :
    stubs.members.size = graph.members.size ∧ imageStubs.members.size = grown.members.size := by
  rw [members_eq_of_bare twice.same, members_eq_of_bare twice.imageSame, members_withStubs,
    members_withStubs]
  exact ⟨rfl, rfl⟩

theorem arenaAt (arena : ArenaId) :
    ((stubs.arenaAt arena).settings = (graph.arenaAt arena).settings ∧
        (stubs.arenaAt arena).arrays = (graph.arenaAt arena).arrays) ∧
      (imageStubs.arenaAt arena).settings = (grown.arenaAt arena).settings ∧
        (imageStubs.arenaAt arena).arrays = (grown.arenaAt arena).arrays := by
  simp only [Graph.arenaAt, arenas_eq_of_bare twice.same, arenas_eq_of_bare twice.imageSame]
  exact ⟨arenaAt_withStubs _ _ _, arenaAt_withStubs _ _ _⟩

/-- A type of the first graph is old, or the stub of a declared type. -/
theorem old_or_new {type : Nat} (present : type < stubs.types.size) :
    type < graph.types.size ∨
      ∃ place declared, type = graph.types.size + place ∧
        declaration.types[place]? = some declared := by
  rw [twice.size] at present
  by_cases old : type < graph.types.size
  · exact .inl old
  · have inRange : type - graph.types.size < declaration.types.length := by omega
    exact .inr ⟨type - graph.types.size, declaration.types[type - graph.types.size], by omega,
      List.getElem?_eq_getElem inRange⟩

theorem face {type : TypeId} (present : type < stubs.types.size) :
    (stubs.typeAt type).SameFace (imageStubs.typeAt
      (renameStub graph.types.size grown.types.size places type)) := by
  rcases twice.old_or_new present with old | ⟨place, declared, rfl, found⟩
  · rw [renameStub_old old, (twice.typeAt_old old).1, (twice.typeAt_old old).2]
    exact ⟨rfl, rfl, rfl, rfl, rfl⟩
  · obtain ⟨index, imageIndex, stub, imageStub⟩ := twice.typeAt_new found
    rw [renameStub_new, stub, imageStub]
    refine ⟨rfl, rfl, rfl, rfl, ?_⟩
    rw [TypeDeclaration.isClass_stub, TypeDeclaration.isClass_stub]

theorem rename_present {type : Nat} (present : type < stubs.types.size) :
    renameStub graph.types.size grown.types.size places type < imageStubs.types.size := by
  rw [twice.imageSize]
  rcases twice.old_or_new present with old | ⟨place, declared, rfl, found⟩
  · rw [renameStub_old old]
    have grown := twice.grows.size
    omega
  · rw [renameStub_new]
    have inRange := (List.getElem?_eq_some_iff.mp (twice.rearranged.found found)).1
    omega

theorem rename_injective {type other : Nat} (present : type < stubs.types.size)
    (otherPresent : other < stubs.types.size)
    (equal : renameStub graph.types.size grown.types.size places type
      = renameStub graph.types.size grown.types.size places other) : type = other := by
  have grown := twice.grows.size
  rcases twice.old_or_new present with old | ⟨place, declared, rfl, found⟩ <;>
    rcases twice.old_or_new otherPresent with
      otherOld | ⟨otherPlace, otherDeclared, rfl, otherFound⟩
  · rwa [renameStub_old old, renameStub_old otherOld] at equal
  · rw [renameStub_old old, renameStub_new] at equal
    omega
  · rw [renameStub_new, renameStub_old otherOld] at equal
    omega
  · rw [renameStub_new, renameStub_new] at equal
    have samePlace : places place = places otherPlace := by omega
    have shown := twice.rearranged.found found
    rw [samePlace, twice.rearranged.found otherFound] at shown
    cases shown
    have inRange := (List.getElem?_eq_some_iff.mp found).1
    have places := (List.getElem?_inj (by rwa [List.length_map]) twice.rearranged.distinct).mp
      (show (declaration.types.map (·.name))[place]?
        = (declaration.types.map (·.name))[otherPlace]? by simp [found, otherFound])
    rw [places]

/-- The mirror of the two graphs. -/
def mirror (exact : Prop) : Mirror where
  source := stubs
  target := imageStubs
  rename := renameStub graph.types.size grown.types.size places
  common := graph.types.size
  exact := exact
  present := twice.rename_present
  injective := twice.rename_injective
  fixed := renameStub_old
  face := twice.face

theorem rename_old {exact : Prop} {type : TypeId} (old : type < graph.types.size) :
    (twice.mirror exact).rename type = type :=
  renameStub_old old

theorem rename_new {exact : Prop} (place : Nat) :
    (twice.mirror exact).rename (graph.types.size + place) = grown.types.size + places place :=
  renameStub_new place

theorem fixed_of_lt {exact : Prop} {types : List TypeId}
    (old : ∀ type ∈ types, type < graph.types.size) :
    types.map (twice.mirror exact).rename = types := by
  conv_rhs => rw [← List.map_id types]
  exact List.map_congr_left fun type listed => twice.rename_old (old type listed)

theorem showsMemberAt (exact : Prop) {type : TypeId} {isStatic : Bool} {name : String}
    {member : MemberId} (old : type < graph.types.size)
    (owns : graph.Owns type isStatic name member) :
    (twice.mirror exact).ShowsMemberAt stubs imageStubs member member := by
  have present := lt_size_of_isInheritable owns.inheritable
  obtain ⟨size, imageSize⟩ := twice.members_size
  refine ⟨size ▸ present, imageSize ▸ Nat.lt_of_lt_of_le present twice.grows.memberCount, ?_⟩
  rw [(twice.memberAt_old present).1, (twice.memberAt_old present).2]
  refine .of_common ?_ (twice.houses.sound.wellFormed.membered.within member) ?_
  · change graph.types.size ≤ stubs.types.size
    rw [twice.size]
    exact Nat.le_add_right _ _
  · rw [owns.owner]
    rintro _ ⟨⟩
    exact old

theorem showsType_old (exact : Prop) {type : TypeId} (old : type < graph.types.size) :
    (twice.mirror exact).ShowsType stubs imageStubs (graph.typeAt type) (graph.typeAt type) := by
  have wellFormed := twice.houses.sound.wellFormed
  refine ⟨rfl, ?_, ?_, fun isStatic => ?_⟩
  · cases link : (graph.typeAt type).parent? with
    | none => rfl
    | some parent =>
        have present := (wellFormed.hierarchical.linked (extends_of_parent? link)).1
        exact (congrArg some (twice.rename_old present)).symm
  · refine (twice.fixed_of_lt fun interface listed => ?_).symm
    exact (wellFormed.hierarchical.linked
      (InterfaceMemberMap.extends_of_mem_interfaces listed)).1
  · refine List.forall₂_same.mpr fun entry listed => ⟨rfl, List.forall₂_same.mpr ?_⟩
    intro member declared
    exact twice.showsMemberAt exact old (wellFormed.membered.owned listed declared)

theorem showsStub (exact : Prop) (declared : TypeDeclaration) (scope imageScope : Scope)
    (index imageIndex : Nat) :
    (twice.mirror exact).ShowsType stubs imageStubs (declared.stub scope farm.arena index)
        (declared.stub imageScope farm.arena imageIndex) ∧
      (twice.mirror exact).ShowsBody stubs imageStubs (declared.stub scope farm.arena index)
        (declared.stub imageScope farm.arena imageIndex) := by
  have classPart : ∀ scope index, (declared.stub scope farm.arena index).classPart = {} := by
    intro scope index
    unfold TypeDeclaration.stub NominalType.classPart
    cases declared.isInterface <;> rfl
  refine ⟨⟨rfl, ?_, rfl, fun isStatic => ?_⟩, ⟨rfl, rfl, rfl, ?_⟩⟩
  · rw [NominalType.parent?, NominalType.parent?, classPart, classPart]
    rfl
  · cases isStatic <;> exact .nil
  · rw [classPart, classPart]
    exact ⟨.nil, .nil, .none⟩

/-- The two graphs mirror each other, with array types if those that only one of them has can be
told apart. -/
theorem shows {exact : Prop}
    (told : exact → ∀ {name element base},
      (graph.arenaAt farm.arena).arrays.get? name = none →
        (grown.arenaAt farm.arena).arrays.get? name = some (.array element base) →
          imageStubs.Sole element) :
    (twice.mirror exact).Shows farm (· < stubs.types.size) stubs imageStubs where
  source := .refl stubs
  target := .refl imageStubs
  within := id
  closed _ link := (twice.sound.wellFormed.hierarchical.linked link).1
  types := by
    intro type present
    rcases twice.old_or_new present with old | ⟨place, declared, rfl, found⟩
    · rw [twice.rename_old old, (twice.typeAt_old old).1, (twice.typeAt_old old).2]
      exact twice.showsType_old exact old
    · obtain ⟨index, imageIndex, stub, imageStub⟩ := twice.typeAt_new found
      rw [twice.rename_new, stub, imageStub]
      exact (twice.showsStub exact declared _ _ index imageIndex).1
  bodies := by
    intro type present young
    rcases twice.old_or_new present with old | ⟨place, declared, rfl, found⟩
    · exact absurd old (Nat.not_lt.mpr young)
    · obtain ⟨index, imageIndex, stub, imageStub⟩ := twice.typeAt_new found
      rw [twice.rename_new, stub, imageStub]
      exact (twice.showsStub exact declared _ _ index imageIndex).2
  arrays := by
    intro isExact
    obtain ⟨⟨-, arrays⟩, -, imageArrays⟩ := twice.arenaAt farm.arena
    rw [arrays, imageArrays]
    have covered : (twice.mirror exact).common ≤ (twice.mirror exact).source.types.size := by
      change graph.types.size ≤ stubs.types.size
      rw [twice.size]
      exact Nat.le_add_right _ _
    refine ⟨?_, ?_, fun found absent => told isExact absent found⟩
    · intro name array image found imageFound
      cases (twice.grows.arrays found).symm.trans imageFound
      obtain ⟨element, rfl, within, -⟩ := twice.houses.interned name array found
      have shown : (twice.mirror exact).ShowsRef element element := .of_common covered within
      exact .array shown.qualifiedName fun _ => shown
    · intro name element base found absent
      cases (twice.grows.arrays found).symm.trans absent
  settings := by
    obtain ⟨⟨settings, -⟩, imageSettings, -⟩ := twice.arenaAt farm.arena
    rw [settings, imageSettings, twice.grows.settings]

/-- What the module does not declare in one order, it does not declare in the other. -/
theorem foreign {name : String}
    (foreign : (loadResolver farm serial imports declaration
      graph.types.size).module.types.get? name
      = none) :
    (loadResolver farm imageSerial imports image grown.types.size).module.types.get? name
      = none := by
  rw [Option.eq_none_iff_forall_ne_some] at foreign ⊢
  intro type known
  obtain ⟨place, declared, found, named, -⟩ :=
    (get?_loadResolver twice.rearranged.imageDistinct).mp known
  obtain ⟨source, sourceFound⟩ := List.mem_iff_getElem?.mp
    (twice.rearranged.covered declared (List.mem_of_getElem? found))
  exact foreign _ ((get?_loadResolver twice.rearranged.distinct).mpr
    ⟨source, declared, sourceFound, named, rfl⟩)

theorem lookup_foreign {name : String}
    (foreign : (loadResolver farm serial imports declaration
      graph.types.size).module.types.get? name
      = none) :
    (loadResolver farm imageSerial imports image grown.types.size).module.lookupType? farm name
      = (loadResolver farm serial imports declaration graph.types.size).module.lookupType? farm
          name := by
  unfold Module.lookupType? Module.lookup?
  rw [foreign, twice.foreign foreign]
  unfold loadResolver
  rw [(withTypes_parts _ _ _).1, (withTypes_parts _ _ _).1]
  rfl

/-- Both loads mean corresponding types by a name. -/
theorem showsResolver (exact : Prop) :
    (twice.mirror exact).ShowsResolver
      (loadResolver farm serial imports declaration graph.types.size)
      (loadResolver farm imageSerial imports image grown.types.size) where
  farm := rfl
  moduleName := by
    unfold loadResolver
    rw [(withTypes_parts _ _ _).2.1, (withTypes_parts _ _ _).2.1]
    exact twice.rearranged.name
  denotes name := by
    change (loadResolver farm imageSerial imports image
      grown.types.size).module.lookupType? farm name
      = ((loadResolver farm serial imports declaration graph.types.size).module.lookupType? farm
          name).map _
    cases known : (loadResolver farm serial imports declaration graph.types.size).module.types.get?
        name with
    | some type =>
        obtain ⟨place, declared, found, named, rfl⟩ :=
          (get?_loadResolver twice.rearranged.distinct).mp known
        have imageKnown := (@get?_loadResolver farm imageSerial imports image grown.types.size
          twice.rearranged.imageDistinct name (grown.types.size + places place)).mpr
            ⟨places place, declared, twice.rearranged.found found, named, rfl⟩
        unfold Module.lookupType? Module.lookup?
        rw [known, imageKnown]
        exact congrArg some (twice.rename_new place).symm
    | none =>
        rw [twice.lookup_foreign known]
        cases denotes : (loadResolver farm serial imports declaration
            graph.types.size).module.lookupType? farm name with
        | none => rfl
        | some type =>
            rcases denotes_loadResolver twice.houses twice.complete twice.rearranged.distinct
              denotes with ⟨entry, listed, named, rfl⟩ | isFinal
            · obtain ⟨place, foundEntry⟩ := List.mem_iff_getElem?.mp listed
              rw [getElem?_pendingFrom] at foundEntry
              obtain ⟨declared, found, rfl⟩ := Option.map_eq_some_iff.mp foundEntry
              rw [(get?_loadResolver twice.rearranged.distinct).mpr
                ⟨place, declared, found, named, rfl⟩] at known
              cases known
            · exact (congrArg some (twice.rename_old (lt_size_of_isSealed isFinal))).symm
  present := by
    intro name type denotes
    change type < stubs.types.size
    rw [twice.size]
    rcases denotes_loadResolver twice.houses twice.complete twice.rearranged.distinct
      denotes with ⟨entry, listed, -, rfl⟩ | isFinal
    · have inRange := List.mem_map_of_mem (f := (·.type)) listed
      rw [pendingFrom_types, List.mem_range'_1] at inRange
      exact inRange.2
    · exact Nat.lt_of_lt_of_le (lt_size_of_isSealed isFinal) (Nat.le_add_right _ _)
  builtin := by
    intro name type found
    have old := lt_size_of_isSealed (twice.houses.builtin found).2
    refine ⟨old, ?_⟩
    change type < stubs.types.size
    rw [twice.size]
    exact Nat.lt_of_lt_of_le old (Nat.le_add_right _ _)

end StubbedTwice

end Nominal
