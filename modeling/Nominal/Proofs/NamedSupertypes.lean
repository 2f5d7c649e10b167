import Nominal.Proofs.CompletionRuns

/-!
# Supertypes by name

A declaration names its supertypes, so what stands above a declared type can be read off the names
in its module.  Two conditions on them make the order of the declarations irrelevant: the supertypes
that a module declares itself have names in composed form, and no annotation class, nor anything
above it, is declared after the types that use it.
-/

namespace Nominal

open Nominal.Graph

/-- The names of the supertypes that a declaration asks for. -/
def TypeDeclaration.supertypeNames (declaration : TypeDeclaration) : List String :=
  (if declaration.isInterface then [] else [declaration.parent])
    ++ Resolver.interfaceNames declaration

namespace ModuleDeclaration

/-- A name is a supertype of another name that the module declares. -/
def StandsAbove (declaration : ModuleDeclaration) (lower upper : String) : Prop :=
  ∃ declared ∈ declaration.types, declared.name = lower ∧ upper ∈ declared.supertypeNames

/-- The supertypes that the module declares itself have names in composed form. -/
def IsComposed (declaration : ModuleDeclaration) : Prop :=
  ∀ declared ∈ declaration.types, ∀ name ∈ declared.supertypeNames,
    name ∈ declaration.types.map (·.name) → Text.canonical name = name

/-- No annotation class, nor anything above it, is declared after a type that uses it. -/
def DeclaresMarksFirst (declaration : ModuleDeclaration) : Prop :=
  declaration.types.Pairwise fun earlier later => ∀ mark ∈ earlier.annotations,
    ¬ Relation.ReflTransGen declaration.StandsAbove mark.type later.name

theorem IsComposed.of_perm {declaration image : ModuleDeclaration}
    (composed : declaration.IsComposed) (same : declaration.types.Perm image.types) :
    image.IsComposed := by
  intro declared listed name asked known
  exact composed declared (same.symm.subset listed) name asked
    ((same.map (·.name)).symm.subset known)

/-- What stands above a name is found in every list of names that holds it and is closed. -/
theorem mem_of_standsAbove {declaration : ModuleDeclaration} {names : List String}
    (closed : ∀ declared ∈ declaration.types, declared.name ∈ names →
      ∀ upper ∈ declared.supertypeNames, upper ∈ names) {lower upper : String}
    (start : lower ∈ names) (path : Relation.ReflTransGen declaration.StandsAbove lower upper) :
    upper ∈ names := by
  induction path with
  | refl => exact start
  | tail _ link ih =>
      obtain ⟨declared, listed, rfl, asked⟩ := link
      exact closed declared listed ih _ asked

theorem DeclaresMarksFirst.of_closed {declaration : ModuleDeclaration} {names : List String}
    (closed : ∀ declared ∈ declaration.types, declared.name ∈ names →
      ∀ upper ∈ declared.supertypeNames, upper ∈ names)
    (apart : declaration.types.Pairwise fun earlier later => ∀ mark ∈ earlier.annotations,
      mark.type ∈ names ∧ later.name ∉ names) :
    declaration.DeclaresMarksFirst := by
  refine apart.imp fun fits mark marked path => ?_
  obtain ⟨start, outside⟩ := fits mark marked
  exact outside (mem_of_standsAbove closed start path)

end ModuleDeclaration

/-! ## What the names denote -/

section Names

variable {resolver : Resolver} {declaration : TypeDeclaration}

theorem exists_supertypeName (finds : resolver.FindsSupertypes declaration) {supertype : TypeId}
    (declared : supertype ∈ resolver.declaredSupertypes declaration) :
    resolver.farm.lookup? "Object" = some supertype ∨
      ∃ name ∈ declaration.supertypeNames, resolver.Denotes name supertype := by
  rw [Resolver.declaredSupertypes, List.mem_append] at declared
  rcases declared with asParent | asInterface
  · cases isInterface : declaration.isInterface with
    | true =>
        rw [isInterface] at asParent
        cases asParent
    | false =>
        rw [isInterface] at asParent
        obtain rfl := List.mem_singleton.mp asParent
        unfold Resolver.declaredParent
        by_cases rooted : declaration.parent = ""
        · rw [if_pos rooted]
          exact .inl (finds.root isInterface rooted)
        · rw [if_neg rooted]
          refine .inr ⟨declaration.parent, ?_, finds.parent isInterface rooted⟩
          simp [TypeDeclaration.supertypeNames, isInterface]
  · obtain ⟨name, listed, rfl⟩ := List.mem_map.mp asInterface
    exact .inr ⟨name, List.mem_append_right _ listed, finds.interfaces name listed⟩

end Names

section Stubs

variable {farm : Farm} {serial : Nat} {imports : List Module} {declaration : ModuleDeclaration}
  {base stubs : Graph} (houses : base.Houses farm)
  (complete : ∀ imported ∈ imports, imported.Complete base)
  (distinct : (declaration.types.map (·.name)).Nodup)
  (same : stubs.bare = (base.withStubs (.ofModule serial declaration.name) farm.arena
    declaration.types).bare)

theorem declaration_mem {first : TypeId} {declarations : List TypeDeclaration} {entry : PendingType}
    (listed : entry ∈ pendingFrom first declarations) : entry.declaration ∈ declarations := by
  rw [← pendingFrom_declarations first declarations]
  exact List.mem_map_of_mem listed

theorem supertypesOf_stub {arena : ArenaId} (present : arena < base.arenas.size) {scope : Scope}
    {declarations : List TypeDeclaration}
    (same : stubs.bare = (base.withStubs scope arena declarations).bare) {entry : PendingType}
    (listed : entry ∈ pendingFrom base.types.size declarations) :
    stubs.supertypesOf entry.type = [] := by
  obtain ⟨-, -, index, isStub⟩ := stub_of_mem_pendingFrom present same listed
  rw [supertypesOf, isStub]
  unfold TypeDeclaration.stub NominalType.supertypes NominalType.parent? NominalType.classPart
  cases entry.declaration.isInterface <;> rfl

include houses complete distinct

theorem supertype_cases {declared : TypeDeclaration}
    (finds :
      (loadResolver farm serial imports declaration base.types.size).FindsSupertypes declared)
    {supertype : TypeId}
    (asked : supertype ∈ (loadResolver farm serial imports declaration
      base.types.size).declaredSupertypes declared) :
    supertype < base.types.size ∨
      ∃ entry ∈ pendingFrom base.types.size declaration.types,
        entry.type = supertype ∧ entry.declaration.name ∈ declared.supertypeNames := by
  rcases exists_supertypeName finds asked with root | ⟨name, listed, denotes⟩
  · exact .inl (lt_size_of_isSealed (houses.builtin root).2)
  · rcases denotes_loadResolver houses complete distinct denotes with
      ⟨entry, pending, rfl, same⟩ | isFinal
    · exact .inr ⟨entry, pending, same, listed⟩
    · exact .inl (lt_size_of_isSealed isFinal)

include same

/-- Supertypes with names in composed form count as dependencies. -/
theorem tracks_of_isComposed (composed : declaration.IsComposed)
    (finds : ∀ entry ∈ pendingFrom base.types.size declaration.types,
      (loadResolver farm serial imports declaration base.types.size).FindsSupertypes
        entry.declaration) :
    (loadResolver farm serial imports declaration base.types.size).Tracks base stubs
      (pendingFrom base.types.size declaration.types) := by
  intro entry listed supertype asked young
  rcases supertype_cases houses complete distinct (finds entry listed) asked with
    old | ⟨above, pending, rfl, named⟩
  · exact absurd old (Nat.not_lt.mpr young)
  · obtain ⟨-, -, index, isStub⟩ := stub_of_mem_pendingFrom houses.arena same pending
    have identifier : (stubs.typeAt above.type).identifier = above.declaration.name := by
      rw [isStub]
      exact composed entry.declaration (declaration_mem listed) above.declaration.name named
        (List.mem_map_of_mem (declaration_mem pending))
    apply Option.isSome_iff_exists.mp
    rw [pendingIndex?, List.findIdx?_isSome, List.any_eq_true]
    exact ⟨above, pending, by simp [identifier]⟩

/-- What stands above a named type has a name above it, or was there before the module. -/
theorem exists_name_of_reaches
    (stubbed : Stubbed (loadResolver farm serial imports declaration base.types.size) base
      (pendingFrom base.types.size declaration.types) stubs)
    (finds : ∀ entry ∈ pendingFrom base.types.size declaration.types,
      (loadResolver farm serial imports declaration base.types.size).FindsSupertypes
        entry.declaration) {name : String} {type ancestor : TypeId}
    (denotes : (loadResolver farm serial imports declaration base.types.size).Denotes name type)
    (path : ((loadResolver farm serial imports declaration base.types.size).withLinks stubs
      (pendingFrom base.types.size declaration.types)).Reaches type ancestor) :
    ancestor < base.types.size ∨
      ∃ entry ∈ pendingFrom base.types.size declaration.types, entry.type = ancestor ∧
        Relation.ReflTransGen declaration.StandsAbove name entry.declaration.name := by
  induction path with
  | refl =>
      rcases denotes_loadResolver houses complete distinct denotes with
        ⟨entry, pending, rfl, found⟩ | isFinal
      · exact .inr ⟨entry, pending, found, .refl⟩
      · exact .inl (lt_size_of_isSealed isFinal)
  | @tail lower upper _ link ih =>
      rcases ih with old | ⟨entry, listed, rfl, above⟩
      · exact .inl (stubbed.old_of_extends houses.sound old link)
      · have asked := stubbed.declared_of_extends
          (fun _ waiting => supertypesOf_stub houses.arena same waiting) listed link
        refine (supertype_cases houses complete distinct (finds entry listed) asked).imp_right ?_
        rintro ⟨next, pending, found, named⟩
        exact ⟨next, pending, found,
          above.tail ⟨entry.declaration, declaration_mem listed, rfl, named⟩⟩

/-- If annotation classes are declared first, nothing above them is linked later. -/
theorem not_reaches_later (first : declaration.DeclaresMarksFirst)
    (stubbed : Stubbed (loadResolver farm serial imports declaration base.types.size) base
      (pendingFrom base.types.size declaration.types) stubs)
    (finds : ∀ entry ∈ pendingFrom base.types.size declaration.types,
      (loadResolver farm serial imports declaration base.types.size).FindsSupertypes
          entry.declaration ∧
        (loadResolver farm serial imports declaration base.types.size).FindsParts
          entry.declaration) {before after : List PendingType} {entry : PendingType}
    (split : pendingFrom base.types.size declaration.types = before ++ entry :: after)
    {mark : AnnotationDeclaration} (marked : mark ∈ entry.declaration.annotations)
    {later : PendingType} (listed : later ∈ after) :
    ¬ ((loadResolver farm serial imports declaration base.types.size).withLinks stubs
        (pendingFrom base.types.size declaration.types)).Reaches
      ((loadResolver farm serial imports declaration base.types.size).denoted mark.type)
      later.type := by
  intro path
  have waiting : later ∈ pendingFrom base.types.size declaration.types := by simp [split, listed]
  have here : entry ∈ pendingFrom base.types.size declaration.types := by simp [split]
  have apart :
      ¬ Relation.ReflTransGen declaration.StandsAbove mark.type later.declaration.name := by
    unfold ModuleDeclaration.DeclaresMarksFirst at first
    rw [← pendingFrom_declarations base.types.size declaration.types, split, List.map_append,
      List.map_cons, List.pairwise_append, List.pairwise_cons] at first
    exact first.2.1.1 _ (List.mem_map_of_mem listed) mark marked
  rcases exists_name_of_reaches houses complete distinct same stubbed
    (fun entry pending => (finds entry pending).1) ((finds entry here).2.annotations mark marked)
    path with old | ⟨found, pending, sameType, above⟩
  · exact Nat.not_lt.mpr (stubbed.ready later waiting).young old
  · rw [List.inj_on_of_nodup_map stubbed.distinct pending waiting sameType] at above
    exact apart above

end Stubs

end Nominal
