import Nominal.Proofs.Changes
import Nominal.Proofs.Traversal

/-!
# The invariant of the hierarchy

The supertype links of a graph stay inside of an arena, form no cycle, and lead from sealed types to
sealed types.  A new type keeps this so, and so does every checked change of an unsealed type; what
a change can do to the links of a type is said once, by `Graph.TypeEffect`.
-/

namespace Nominal

namespace Graph

/-- The links of a graph are in order. -/
structure Hierarchical (graph : Graph) : Prop where
  linked : ∀ {type supertype}, graph.Extends type supertype →
    supertype < graph.types.size ∧ (graph.typeAt supertype).arena = (graph.typeAt type).arena
  indexed : ∀ {type}, type < graph.types.size →
    (graph.arenaAt (graph.typeAt type).arena).types[(graph.typeAt type).index]? = some type
  acyclic : graph.Acyclic
  sealedAbove : ∀ {type supertype}, graph.isSealed type = true → graph.Extends type supertype →
    graph.isSealed supertype = true
  rooted : ∀ {type}, graph.isSealed type = true → (graph.typeAt type).isClass = true →
    (graph.typeAt type).parent? = none → (graph.typeAt type).properties.has .root = true
  parents : ∀ {type parent}, (graph.typeAt type).parent? = some parent →
    (graph.typeAt parent).isClass = true
  interfaces : ∀ {type interface}, interface ∈ (graph.typeAt type).interfaces →
    (graph.typeAt interface).isClass = false
  annotated : ∀ {type use id}, use ∈ (graph.typeAt type).annotations → use.type = some id →
    id < graph.types.size

/-- What a change can do to the links and annotations of a type. -/
structure TypeEffect (graph : Graph) (type : TypeId) (old new : NominalType) : Prop where
  identity : old.SameIdentity new
  supertypes : ∀ supertype ∈ new.supertypes,
    supertype ∈ old.supertypes ∨ graph.Linkable type supertype
  parent : ∀ parent, new.parent? = some parent →
    old.parent? = some parent ∨ (graph.typeAt parent).isClass = true
  interfaces : ∀ interface ∈ new.interfaces,
    interface ∈ old.interfaces ∨ (graph.typeAt interface).isClass = false
  final : new.state = .frozen → old.state = .frozen ∨ graph.sealError? type = none ∧
    new.supertypes = old.supertypes ∧ new.parent? = old.parent?
  annotations : ∀ use ∈ new.annotations, use ∈ old.annotations ∨
    ∀ id ∈ use.type, id < graph.types.size

section Effects

variable {graph : Graph} {type : TypeId} {change : NominalType → NominalType}

theorem supertypes_eq_of_parts {old new : NominalType} (parent : new.parent? = old.parent?)
    (interfaces : new.interfaces = old.interfaces) : new.supertypes = old.supertypes := by
  simp only [NominalType.supertypes, parent, interfaces]

/-- A change that keeps all links has only its state and its annotations to account for. -/
theorem TypeEffect.of_links {old new : NominalType} (identity : old.SameIdentity new)
    (parent : new.parent? = old.parent?) (interfaces : new.interfaces = old.interfaces)
    (final : new.state = .frozen → old.state = .frozen ∨ graph.sealError? type = none)
    (annotations : ∀ use ∈ new.annotations, use ∈ old.annotations ∨
      ∀ id ∈ use.type, id < graph.types.size) : graph.TypeEffect type old new := by
  have supertypes := supertypes_eq_of_parts parent interfaces
  refine ⟨identity, ?_, ?_, ?_, ?_, annotations⟩
  · intro supertype listed
    exact .inl (supertypes ▸ listed)
  · intro superclass link
    exact .inl (parent ▸ link)
  · intro interface listed
    exact .inl (interfaces ▸ listed)
  · intro frozen
    exact (final frozen).imp_right fun ready => ⟨ready, supertypes, parent⟩

/-- A new parent is the only link that it adds. -/
theorem TypeEffect.of_parent {parent : TypeId} (linkable : graph.Linkable type parent)
    (isClass : (graph.typeAt type).isClass = true)
    (parentIsClass : (graph.typeAt parent).isClass = true) :
    graph.TypeEffect type (graph.typeAt type)
      ((graph.typeAt type).mapClassPart ({ · with parent := some parent })) := by
  have linked := NominalType.mapClassPart_parent? isClass ({ · with parent := some parent })
  refine ⟨NominalType.mapClassPart_identity _ _, ?_, ?_, ?_, ?_, ?_⟩
  · intro supertype listed
    simp only [NominalType.supertypes, linked, Option.toList_some,
      NominalType.mapClassPart_interfaces, List.singleton_append, List.mem_cons] at listed
    rcases listed with rfl | old
    · exact .inr linkable
    · exact .inl (List.mem_append_right _ old)
  · intro superclass link
    rw [linked] at link
    cases link
    exact .inr parentIsClass
  · intro interface listed
    rw [NominalType.mapClassPart_interfaces] at listed
    exact .inl listed
  · intro frozen
    rw [NominalType.mapClassPart_state] at frozen
    exact .inl frozen
  · intro use listed
    rw [NominalType.mapClassPart_annotations] at listed
    exact .inl listed

theorem TypeChange.effect {deed : Deed} (checked : graph.TypeChange type deed change) :
    graph.TypeEffect type (graph.typeAt type) (change (graph.typeAt type)) := by
  have identity := checked.identity
  cases checked with
  | describe _ described =>
      have parent : (change (graph.typeAt type)).parent? = (graph.typeAt type).parent? := by
        simp only [NominalType.parent?, NominalType.classPart, described.shape]
      refine .of_links identity parent described.interfaces ?_ described.annotations
      intro frozen
      rcases described.state with same | parsed
      · exact .inl (same ▸ frozen)
      · rw [parsed] at frozen
        cases frozen
  | implement implementation =>
      exact .of_links identity rfl rfl (fun frozen => .inl frozen) fun _ listed => .inl listed
  | link parent linkable isClass parentIsClass accepted =>
      exact .of_parent linkable isClass parentIsClass
  | extend interface linkable isInterface =>
      refine ⟨identity, ?_, fun _ link => .inl link, ?_, fun frozen => .inl frozen,
        fun _ listed => .inl listed⟩
      · intro supertype listed
        rcases List.mem_append.mp listed with parent | listed
        · exact .inl (List.mem_append_left _ parent)
        · rcases List.mem_append.mp listed with old | new
          · exact .inl (List.mem_append_right _ old)
          · rw [List.mem_singleton.mp new]
            exact .inr linkable
      · intro other listed
        rcases List.mem_append.mp listed with old | new
        · exact .inl old
        · rw [List.mem_singleton.mp new]
          exact .inr isInterface
  | freeze ready =>
      exact .of_links identity rfl rfl (fun _ => .inr ready) fun _ listed => .inl listed

theorem Placement.effect {member : MemberId} {identifier : String}
    (checked : graph.Placement type member identifier change) :
    graph.TypeEffect type (graph.typeAt type) (change (graph.typeAt type)) := by
  have identity := checked.identity
  have kept : ∀ {update : ClassPart → ClassPart}, (∀ part, (update part).parent = part.parent) →
      graph.TypeEffect type (graph.typeAt type) ((graph.typeAt type).mapClassPart update) := by
    intro update parent
    refine .of_links (NominalType.mapClassPart_identity _ _)
      (NominalType.mapClassPart_parent?_of_eq _ parent) (by simp) ?_ ?_
    · intro frozen
      rw [NominalType.mapClassPart_state] at frozen
      exact .inl frozen
    · intro use listed
      rw [NominalType.mapClassPart_annotations] at listed
      exact .inl listed
  cases checked with
  | overload inheritable consistent publicly accepted =>
      refine .of_links identity (by simp) (by simp) ?_ ?_
      · intro frozen
        rw [NominalType.mapDeclared_state] at frozen
        exact .inl frozen
      · intro use listed
        rw [NominalType.mapDeclared_annotations] at listed
        exact .inl listed
  | constructor | initializer | staticConstructor => exact kept fun _ => rfl

/-- What sealing a type requires of its supertypes. -/
theorem sealedAbove_of_sealError? (ready : graph.sealError? type = none) {supertype : TypeId}
    (link : graph.Extends type supertype) : graph.isSealed supertype = true := by
  simp only [sealError?, Option.or_eq_none_iff, Option.map_eq_none_iff, List.find?_eq_none,
    Bool.not_eq_true] at ready
  rcases List.mem_append.mp link with parent | interface
  · have parentReady := ready.1
    cases shape : (graph.typeAt type).shape with
    | interfaceShape => simp [NominalType.parent?, NominalType.classPart, shape] at parent
    | classShape part =>
        simp only [NominalType.parent?, NominalType.classPart, shape] at parent
        simp only [shape] at parentReady
        cases has : part.parent with
        | none => simp [has] at parent
        | some superclass =>
            obtain rfl : supertype = superclass := by simpa [has] using parent
            simpa [has] using parentReady
  · simpa using ready.2 supertype interface

theorem rooted_of_sealError? (ready : graph.sealError? type = none)
    (isClass : (graph.typeAt type).isClass = true)
    (parentless : (graph.typeAt type).parent? = none) :
    (graph.typeAt type).properties.has .root = true := by
  simp only [sealError?, Option.or_eq_none_iff] at ready
  have parentReady := ready.1
  cases shape : (graph.typeAt type).shape with
  | interfaceShape => simp [NominalType.isClass, shape] at isClass
  | classShape part =>
      simp only [NominalType.parent?, NominalType.classPart, shape] at parentless
      simpa [shape, parentless] using parentReady

/-- Nothing stands against sealing a type whose supertypes are sealed, if it has a parent or is a
root. -/
theorem sealError?_eq_none
    (sealedAbove : ∀ supertype, graph.Extends type supertype → graph.isSealed supertype = true)
    (rooted : (graph.typeAt type).isClass = true → (graph.typeAt type).parent? = none →
      (graph.typeAt type).properties.has .root = true) : graph.sealError? type = none := by
  simp only [sealError?, Option.or_eq_none_iff, Option.map_eq_none_iff, List.find?_eq_none]
  constructor
  · cases shape : (graph.typeAt type).shape with
    | interfaceShape => rfl
    | classShape part =>
        have parent : (graph.typeAt type).parent? = part.parent := by
          simp only [NominalType.parent?, NominalType.classPart, shape]
        cases has : part.parent with
        | none =>
            have isRoot := rooted (by simp [NominalType.isClass, shape]) (parent.trans has)
            simp [has, isRoot]
        | some superclass =>
            have isFinal := sealedAbove superclass (extends_of_parent? (parent.trans has))
            simp [has, isFinal]
  · intro interface listed
    simp [sealedAbove interface (List.mem_append_right _ listed)]

/-- A change seals an open type only if nothing stands against it, and then it changes no link. -/
theorem TypeEffect.ready {old new : NominalType} (effect : graph.TypeEffect type old new)
    (isOpen : old.isSealed = false) (isFinal : new.isSealed = true) :
    graph.sealError? type = none ∧ new.supertypes = old.supertypes ∧ new.parent? = old.parent? := by
  rcases effect.final (by simpa [NominalType.isSealed] using isFinal) with frozen | ready
  · simp [NominalType.isSealed, frozen] at isOpen
  · exact ready

/-- A changed graph has the old links and those that the change could add. -/
theorem TypeEffect.links
    (effect : graph.TypeEffect type (graph.typeAt type) (change (graph.typeAt type)))
    {other supertype : TypeId} (link : (graph.modifyType type change).Extends other supertype) :
    graph.Extends other supertype ∨ other = type ∧ graph.Linkable type supertype := by
  rcases typeAt_modifyType_cases graph type change other with same | ⟨rfl, -, changed⟩
  · left
    simpa only [Extends, supertypesOf, same] using link
  · rw [Extends, supertypesOf, changed] at link
    exact (effect.supertypes supertype link).imp_right fun linkable => ⟨rfl, linkable⟩

/-- A further type without supertypes adds no links. -/
theorem supertypesOf_withType {added : NominalType} (apart : added.supertypes = [])
    (type : TypeId) : (graph.withType added).supertypesOf type = graph.supertypesOf type := by
  rcases typeAt_withType_cases graph added type with same | ⟨rfl, new⟩
  · simp only [supertypesOf, same]
  · rw [supertypesOf_eq_nil_of_size_le (Nat.le_refl _), supertypesOf, new, apart]

end Effects

namespace Hierarchical

variable {graph later : Graph}

/-- The hierarchy is made of the types and of their places in arenas. -/
theorem of_eq (hierarchical : graph.Hierarchical) (types : later.types = graph.types)
    (arenas : ∀ arena, (later.arenaAt arena).types = (graph.arenaAt arena).types) :
    later.Hierarchical := by
  have at_eq : ∀ type, later.typeAt type = graph.typeAt type := fun type => by
    simp only [typeAt, types]
  have extends_eq : ∀ {type supertype}, later.Extends type supertype →
      graph.Extends type supertype := by
    intro type supertype link
    simpa only [Extends, supertypesOf, at_eq] using link
  refine ⟨?_, ?_, ?_, ?_, ?_, ?_, ?_, ?_⟩
  · intro type supertype link
    rw [types, at_eq, at_eq]
    exact hierarchical.linked (extends_eq link)
  · intro type present
    rw [at_eq, arenas]
    exact hierarchical.indexed (types ▸ present)
  · exact hierarchical.acyclic.of_supertypesOf_eq fun type => by simp only [supertypesOf, at_eq]
  · intro type supertype isFinal link
    simp only [isSealed, at_eq] at isFinal ⊢
    exact hierarchical.sealedAbove isFinal (extends_eq link)
  · intro type isFinal
    simp only [isSealed, at_eq] at isFinal ⊢
    exact hierarchical.rooted isFinal
  · intro type parent link
    rw [at_eq] at link ⊢
    exact hierarchical.parents link
  · intro type interface listed
    rw [at_eq] at listed ⊢
    exact hierarchical.interfaces listed
  · intro type use id listed
    rw [at_eq] at listed
    rw [types]
    exact hierarchical.annotated listed

/-- A new type without links stands apart from everything. -/
theorem withType (hierarchical : graph.Hierarchical) {added : NominalType}
    (present : added.arena < graph.arenas.size)
    (placed : added.index = (graph.arenaAt added.arena).types.length)
    (isOpen : added.isSealed = false) (apart : added.supertypes = [])
    (plain : added.annotations = []) : (graph.withType added).Hierarchical := by
  have old : ∀ {type}, type < graph.types.size →
      (graph.withType added).typeAt type = graph.typeAt type :=
    fun inside => typeAt_withType_of_ne (Nat.ne_of_lt inside)
  have cases_at := typeAt_withType_cases graph added
  have extends_eq : ∀ {type supertype}, (graph.withType added).Extends type supertype →
      graph.Extends type supertype := by
    intro type supertype link
    rwa [Extends, supertypesOf_withType apart] at link
  obtain ⟨noParent, unlisted⟩ := List.append_eq_nil_iff.mp apart
  have parentless : added.parent? = none := by simpa using noParent
  refine ⟨?_, ?_, ?_, ?_, ?_, ?_, ?_, ?_⟩
  · intro type supertype link
    have inside := hierarchical.linked (extends_eq link)
    rw [size_withType, old inside.1, old (lt_size_of_extends (extends_eq link))]
    exact ⟨Nat.lt_succ_of_lt inside.1, inside.2⟩
  · intro type inside
    rw [arenaTypes_withType present]
    rcases Nat.lt_succ_iff_lt_or_eq.mp (size_withType graph added ▸ inside) with earlier | rfl
    · have indexed := hierarchical.indexed earlier
      rw [old earlier]
      split
      · rw [List.getElem?_append_left (List.getElem?_eq_some_iff.mp indexed).1]
        exact indexed
      · exact indexed
    · rw [typeAt_withType_self, if_pos rfl, placed]
      exact List.getElem?_concat_length
  · exact hierarchical.acyclic.of_supertypesOf_eq (supertypesOf_withType apart)
  · intro type supertype isFinal link
    rw [isSealed_withType isOpen] at isFinal ⊢
    exact hierarchical.sealedAbove isFinal (extends_eq link)
  · intro type isFinal
    rw [isSealed_withType isOpen] at isFinal
    rw [old (lt_size_of_isSealed isFinal)]
    exact hierarchical.rooted isFinal
  · intro type parent link
    rcases cases_at type with same | ⟨rfl, new⟩
    · rw [same] at link
      rw [old (hierarchical.linked (extends_of_parent? link)).1]
      exact hierarchical.parents link
    · rw [new, parentless] at link
      cases link
  · intro type interface listed
    rcases cases_at type with same | ⟨rfl, new⟩
    · rw [same] at listed
      have link : graph.Extends type interface := List.mem_append_right _ listed
      rw [old (hierarchical.linked link).1]
      exact hierarchical.interfaces listed
    · rw [new, unlisted] at listed
      cases listed
  · intro type use id listed attached
    rw [size_withType]
    rcases cases_at type with same | ⟨rfl, new⟩
    · rw [same] at listed
      exact Nat.lt_succ_of_lt (hierarchical.annotated listed attached)
    · rw [new, plain] at listed
      cases listed

/-- A checked change of an unsealed type keeps the hierarchy in order. -/
theorem modifyType (hierarchical : graph.Hierarchical) {type : TypeId}
    {change : NominalType → NominalType} (isOpen : graph.isSealed type = false)
    (effect : graph.TypeEffect type (graph.typeAt type) (change (graph.typeAt type))) :
    (graph.modifyType type change).Hierarchical := by
  have keeps : graph.KeepsSealed (graph.modifyType type change) :=
    .modifyType isOpen effect.identity
  have cases_at := typeAt_modifyType_cases graph type change
  have identity : ∀ other, (graph.typeAt other).SameIdentity
      ((graph.modifyType type change).typeAt other) :=
    typeAt_modifyType_related .refl effect.identity
  refine ⟨?_, ?_, ?_, ?_, ?_, ?_, ?_, ?_⟩
  · intro other supertype link
    rw [size_modifyType, (identity supertype).arena, (identity other).arena]
    rcases effect.links link with oldLink | ⟨rfl, linkable⟩
    · exact hierarchical.linked oldLink
    · exact ⟨linkable.present, linkable.sameArena⟩
  · intro other present
    rw [(identity other).arena, (identity other).index, arenaAt_modifyType]
    exact hierarchical.indexed (by simpa using present)
  · apply hierarchical.acyclic.relink
    · intro other different
      rw [supertypesOf, supertypesOf, typeAt_modifyType_of_ne different change]
    · intro supertype link
      exact (effect.links link).imp_right fun linkable => linkable.2.apart
  · intro other supertype isFinal link
    apply keeps.isSealed
    rcases cases_at other with same | ⟨rfl, -, changed⟩
    · rw [isSealed, same] at isFinal
      rw [Extends, supertypesOf, same] at link
      exact hierarchical.sealedAbove isFinal link
    · rw [isSealed, changed] at isFinal
      rw [Extends, supertypesOf, changed] at link
      obtain ⟨ready, same, -⟩ := effect.ready isOpen isFinal
      rw [same] at link
      exact sealedAbove_of_sealError? ready link
  · intro other isFinal isClass parentless
    rw [(identity other).isClass] at isClass
    rw [(identity other).properties]
    rcases cases_at other with same | ⟨rfl, -, changed⟩
    · rw [isSealed, same] at isFinal
      rw [same] at parentless
      exact hierarchical.rooted isFinal isClass parentless
    · rw [isSealed, changed] at isFinal
      rw [changed] at parentless
      obtain ⟨ready, -, same⟩ := effect.ready isOpen isFinal
      exact rooted_of_sealError? ready isClass (same ▸ parentless)
  · intro other parent link
    rw [(identity parent).isClass]
    rcases cases_at other with same | ⟨rfl, -, changed⟩
    · exact hierarchical.parents (same ▸ link)
    · rw [changed] at link
      exact (effect.parent parent link).elim (fun oldLink => hierarchical.parents oldLink) id
  · intro other interface listed
    rw [(identity interface).isClass]
    rcases cases_at other with same | ⟨rfl, -, changed⟩
    · exact hierarchical.interfaces (same ▸ listed)
    · rw [changed] at listed
      exact (effect.interfaces interface listed).elim
        (fun oldLink => hierarchical.interfaces oldLink) id
  · intro other use id listed attached
    rw [size_modifyType]
    rcases cases_at other with same | ⟨rfl, -, changed⟩
    · exact hierarchical.annotated (same ▸ listed) attached
    · rw [changed] at listed
      rcases effect.annotations use listed with old | inside
      · exact hierarchical.annotated old attached
      · exact inside id attached

end Hierarchical

/-! ## What stands above a sealed type -/

/-- A class and its superclasses up to one that has no parent. -/
inductive Lineage (graph : Graph) : TypeId → List TypeId → Prop
  | root {type : TypeId} (parentless : (graph.typeAt type).parent? = none) :
      Lineage graph type [type]
  | child {type parent : TypeId} {above : List TypeId}
      (link : (graph.typeAt type).parent? = some parent) (lineage : Lineage graph parent above) :
      Lineage graph type (type :: above)

/-- The parent chain of a type goes on until there is no parent. -/
theorem Hierarchical.lineage {graph : Graph} (hierarchical : graph.Hierarchical) {type : TypeId}
    (present : type < graph.types.size) : graph.Lineage type (graph.parentChain type) := by
  have linked : ∀ type supertype, graph.Extends type supertype → supertype < graph.types.size :=
    fun type supertype link => (hierarchical.linked link).1
  induction length : (graph.parentChain type).length using Nat.strong_induction_on
    generalizing type with
  | _ count ih =>
      obtain ⟨first, rest, chain⟩ := List.exists_cons_of_ne_nil
        (List.ne_nil_of_mem (self_mem_parentChain present))
      have head : first = type := by
        obtain ⟨steps, size⟩ := Nat.exists_eq_succ_of_ne_zero (Nat.ne_zero_of_lt present)
        rw [parentChain, size, parentChainFrom_succ] at chain
        exact (List.cons.inj chain).1.symm
      subst head
      have found : (graph.parentChain first)[0]? = some first := by
        rw [chain]
        rfl
      have tail := drop_succ_parentChain hierarchical.acyclic linked present found
      rw [chain, List.drop_succ_cons, List.drop_zero] at tail
      cases link : (graph.typeAt first).parent? with
      | none =>
          simp only [link] at tail
          rw [chain, tail]
          exact .root link
      | some parent =>
          simp only [link] at tail
          rw [chain, tail]
          refine .child link (ih _ ?_ (linked _ _ (extends_of_parent? link)) rfl)
          rw [← length, chain, tail, List.length_cons]
          exact Nat.lt_succ_self _

/-- What holds of a type and of the parent of each type that it holds of, holds at the end of the
lineage. -/
theorem Lineage.last {graph : Graph} {population : TypeId → Prop}
    (closed : ∀ {type parent}, population type → (graph.typeAt type).parent? = some parent →
      population parent)
    {type : TypeId} {chain : List TypeId} (lineage : graph.Lineage type chain)
    (inside : population type) :
    ∃ last, chain.getLast? = some last ∧ population last ∧ (graph.typeAt last).parent? = none := by
  induction lineage with
  | root parentless => exact ⟨_, rfl, inside, parentless⟩
  | child link lineage ih =>
      obtain ⟨last, ends, holds, parentless⟩ := ih (closed inside link)
      refine ⟨last, ?_, holds, parentless⟩
      rw [List.getLast?_cons, ends, Option.getD_some]

/-- Everything above a sealed type is sealed. -/
theorem Hierarchical.isSealed_of_reaches {graph : Graph} (hierarchical : graph.Hierarchical)
    {type ancestor : TypeId} (isFinal : graph.isSealed type = true)
    (path : graph.Reaches type ancestor) : graph.isSealed ancestor = true := by
  induction path with
  | refl => exact isFinal
  | tail path link ih => exact hierarchical.sealedAbove ih link

end Graph

end Nominal
