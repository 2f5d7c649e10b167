import Mathlib.Algebra.BigOperators.Group.Finset.Basic
import Mathlib.Logic.Relation
import Nominal.Graph.Ancestors

/-!
# The supertype relation

`Graph.Extends` relates a type to its direct supertypes and `Graph.Reaches` to everything above it.
The search `Graph.reaches` decides the second relation wherever indices tell types apart, and a
graph stays free of cycles when a link is changed only to types that do not reach its origin.
-/

namespace Nominal

namespace Graph

/-! ## Links and paths -/

/-- The supertype is the parent or an interface of the type. -/
def Extends (graph : Graph) (type supertype : TypeId) : Prop :=
  supertype ∈ graph.supertypesOf type

/-- The ancestor is the type itself or is reached from it by supertype links. -/
def Reaches (graph : Graph) : TypeId → TypeId → Prop :=
  Relation.ReflTransGen graph.Extends

/-- No type is a proper ancestor of itself. -/
def Acyclic (graph : Graph) : Prop :=
  ∀ type, ¬ Relation.TransGen graph.Extends type type

theorem supertypesOf_eq_nil_of_size_le {graph : Graph} {type : TypeId}
    (absent : graph.types.size ≤ type) : graph.supertypesOf type = [] := by
  have missing : graph.types[type]? = none := Array.getElem?_eq_none absent
  simp [supertypesOf, typeAt, missing, NominalType.blank, NominalType.supertypes,
    NominalType.parent?, NominalType.classPart]

/-- A linked type is there. -/
theorem lt_size_of_extends {graph : Graph} {type supertype : TypeId}
    (link : graph.Extends type supertype) : type < graph.types.size := by
  apply Nat.lt_of_not_le
  intro absent
  rw [Extends, supertypesOf_eq_nil_of_size_le absent] at link
  cases link

/-- Two graphs with the same links have the same paths. -/
theorem Acyclic.of_supertypesOf_eq {graph changed : Graph} (acyclic : graph.Acyclic)
    (same : ∀ type, changed.supertypesOf type = graph.supertypesOf type) : changed.Acyclic := by
  intro type cycle
  apply acyclic type
  refine Relation.TransGen.mono ?_ type type cycle
  intro source target link
  simpa only [Extends, same source] using link

section Relinking

variable {graph changed : Graph} {origin : TypeId}

/-- A path to the type whose links were changed uses only old links. -/
theorem reaches_origin_of_relinked
    (same : ∀ type, type ≠ origin → changed.supertypesOf type = graph.supertypesOf type)
    {type : TypeId} (path : changed.Reaches type origin) : graph.Reaches type origin := by
  induction path using Relation.ReflTransGen.head_induction_on with
  | refl => exact .refl
  | @head source next link _ reached =>
      by_cases here : source = origin
      · rw [here]
        exact .refl
      · have oldLink : graph.Extends source next := by
          simpa only [Extends, same source here] using link
        exact .head oldLink reached

/-- A path that is not made of old links passes through the type whose links were changed. -/
theorem old_path_or_through_origin
    (same : ∀ type, type ≠ origin → changed.supertypesOf type = graph.supertypesOf type)
    {source target : TypeId} (path : Relation.TransGen changed.Extends source target) :
    Relation.TransGen graph.Extends source target ∨
      changed.Reaches source origin ∧ Relation.TransGen changed.Extends origin target := by
  induction path with
  | @single target link =>
      by_cases here : source = origin
      · subst here
        exact .inr ⟨.refl, .single link⟩
      · left
        apply Relation.TransGen.single
        simpa only [Extends, same source here] using link
  | @tail middle target path link split =>
      by_cases here : middle = origin
      · subst here
        exact .inr ⟨path.to_reflTransGen, .single link⟩
      · rcases split with old | ⟨before, after⟩
        · left
          apply old.tail
          simpa only [Extends, same middle here] using link
        · exact .inr ⟨before, after.tail link⟩

/-- Changing the links of one type keeps a graph free of cycles, if every new supertype does not
reach that type. -/
theorem Acyclic.relink (acyclic : graph.Acyclic)
    (same : ∀ type, type ≠ origin → changed.supertypesOf type = graph.supertypesOf type)
    (guarded : ∀ supertype, changed.Extends origin supertype →
      graph.Extends origin supertype ∨ ¬ graph.Reaches supertype origin) :
    changed.Acyclic := by
  intro type cycle
  rcases old_path_or_through_origin same cycle with old | ⟨before, after⟩
  · exact acyclic type old
  · have loop : Relation.TransGen changed.Extends origin origin :=
      Relation.TransGen.trans_left after before
    obtain ⟨supertype, link, path⟩ := Relation.TransGen.head'_iff.mp loop
    have reached : graph.Reaches supertype origin := reaches_origin_of_relinked same path
    rcases guarded supertype link with old | unreached
    · exact acyclic origin (Relation.TransGen.head'_iff.mpr ⟨supertype, old, reached⟩)
    · exact unreached reached

end Relinking

/-! ## Links that are still to be followed -/

/-- The number of links of types outside of a list. -/
def openLinks (graph : Graph) (seen : List TypeId) : Nat :=
  ∑ type ∈ (Finset.range graph.types.size).filter (· ∉ seen), (graph.supertypesOf type).length

theorem openLinks_cons (graph : Graph) {current : TypeId} {seen : List TypeId}
    (fresh : current ∉ seen) :
    (graph.supertypesOf current).length + graph.openLinks (current :: seen)
      = graph.openLinks seen := by
  have smaller : (Finset.range graph.types.size).filter (· ∉ current :: seen)
      = ((Finset.range graph.types.size).filter (· ∉ seen)).erase current := by
    ext type
    simp only [Finset.mem_filter, Finset.mem_erase, List.mem_cons, not_or]
    tauto
  unfold openLinks
  rw [smaller]
  by_cases present : current < graph.types.size
  · apply Finset.add_sum_erase _ (fun type => (graph.supertypesOf type).length)
    simp [present, fresh]
  · have noLinks := supertypesOf_eq_nil_of_size_le (Nat.le_of_not_lt present)
    rw [Finset.erase_eq_of_notMem (by simp [present]), noLinks]
    simp

/-- A list of links is counted by position or by recursion on the list. -/
theorem sum_range_supertypes (types : List NominalType) :
    ∑ place ∈ Finset.range types.length, (types[place]?.getD .blank).supertypes.length
      = types.foldr (fun type count => type.supertypes.length + count) 0 := by
  induction types with
  | nil => rfl
  | cons type types induction =>
      rw [List.length_cons, Finset.sum_range_succ']
      simp only [List.getElem?_cons_succ, List.getElem?_cons_zero, Option.getD_some,
        List.foldr_cons, induction]
      exact Nat.add_comm _ _

theorem openLinks_nil (graph : Graph) : graph.openLinks [] = graph.linkCount := by
  have counted := sum_range_supertypes graph.types.toList
  simpa [openLinks, linkCount, supertypesOf, typeAt] using counted

/-! ## The search -/

/-- What the search finds is above one of the pending types. -/
theorem reaches_of_reachesFrom {graph : Graph} {target : TypeId} {steps : Nat}
    {visited : List Nat} {pending : List TypeId}
    (found : graph.reachesFrom target steps visited pending = true) :
    ∃ start ∈ pending, graph.Reaches start target := by
  induction steps generalizing visited pending with
  | zero => simp [reachesFrom] at found
  | succ steps induction =>
      cases pending with
      | nil => simp [reachesFrom] at found
      | cons current rest =>
          simp only [reachesFrom] at found
          split at found
          next here =>
            subst here
            exact ⟨current, List.mem_cons_self, .refl⟩
          next =>
            split at found
            next =>
              obtain ⟨start, member, path⟩ := induction found
              exact ⟨start, List.mem_cons_of_mem current member, path⟩
            next =>
              obtain ⟨start, member, path⟩ := induction found
              rcases List.mem_append.mp member with above | later
              · exact ⟨current, List.mem_cons_self, .head above path⟩
              · exact ⟨start, List.mem_cons_of_mem current later, path⟩

/-- The state of a search that has not met its target: what stands above a searched type has been
searched or is pending. -/
structure Searched (graph : Graph) (target : TypeId) (seen pending : List TypeId) : Prop where
  avoids : target ∉ seen
  covers : ∀ type ∈ seen, ∀ supertype, graph.Extends type supertype →
    supertype ∈ seen ∨ supertype ∈ pending

namespace Searched

variable {graph : Graph} {target current : TypeId} {seen pending : List TypeId}

theorem start (graph : Graph) (target : TypeId) (pending : List TypeId) :
    graph.Searched target [] pending :=
  ⟨List.not_mem_nil, fun _ member => absurd member List.not_mem_nil⟩

/-- A pending type that has been searched before is dropped. -/
theorem skip (searched : graph.Searched target seen (current :: pending))
    (known : current ∈ seen) : graph.Searched target seen pending := by
  refine ⟨searched.avoids, ?_⟩
  intro type member supertype link
  rcases searched.covers type member supertype link with old | waiting
  · exact .inl old
  · rcases List.mem_cons.mp waiting with here | later
    · exact .inl (here ▸ known)
    · exact .inr later

/-- A pending type other than the target is searched by putting its supertypes in its place. -/
theorem expand (searched : graph.Searched target seen (current :: pending))
    (different : current ≠ target) :
    graph.Searched target (current :: seen) (graph.supertypesOf current ++ pending) := by
  constructor
  · intro member
    rcases List.mem_cons.mp member with here | later
    · exact different here.symm
    · exact searched.avoids later
  · intro type member supertype link
    rcases List.mem_cons.mp member with rfl | later
    · exact .inr (List.mem_append_left pending link)
    · rcases searched.covers type later supertype link with old | waiting
      · exact .inl (List.mem_cons_of_mem current old)
      · rcases List.mem_cons.mp waiting with rfl | rest
        · exact .inl List.mem_cons_self
        · exact .inr (List.mem_append_right _ rest)

/-- When nothing is pending, the searched types do not reach the target. -/
theorem not_reaches (searched : graph.Searched target seen []) {type : TypeId}
    (member : type ∈ seen) : ¬ graph.Reaches type target := by
  intro path
  have closed : ∀ last, graph.Reaches type last → last ∈ seen := by
    intro last reached
    induction reached with
    | refl => exact member
    | @tail middle last _ link earlier =>
        rcases searched.covers middle earlier last link with old | waiting
        · exact old
        · exact absurd waiting List.not_mem_nil
  exact searched.avoids (closed target path)

end Searched

/-- A population of types that its links do not leave and in which indices tell types apart. -/
structure Distinguished (graph : Graph) (population : TypeId → Prop) : Prop where
  closed : ∀ {type supertype}, population type → graph.Extends type supertype →
    population supertype
  injective : ∀ {type other}, population type → population other →
    (graph.typeAt type).index = (graph.typeAt other).index → type = other

/-- A search with enough steps that does not find its target has looked everywhere. -/
theorem not_reaches_of_reachesFrom {graph : Graph} {population : TypeId → Prop}
    (distinguished : graph.Distinguished population) {target : TypeId} {steps : Nat}
    {seen pending : List TypeId} (enough : pending.length + graph.openLinks seen < steps)
    (within : ∀ type, type ∈ seen ∨ type ∈ pending → population type)
    (searched : graph.Searched target seen pending)
    (missed : graph.reachesFrom target steps (seen.map fun type => (graph.typeAt type).index)
      pending = false) :
    ∀ type, type ∈ seen ∨ type ∈ pending → ¬ graph.Reaches type target := by
  induction steps generalizing seen pending with
  | zero => exact absurd enough (Nat.not_lt_zero _)
  | succ steps induction =>
      cases pending with
      | nil =>
          intro type member
          exact searched.not_reaches (member.resolve_right List.not_mem_nil)
      | cons current rest =>
          simp only [reachesFrom] at missed
          split at missed
          next => cases missed
          next different =>
            split at missed
            next visited =>
              -- Indices tell types apart, so the type itself has been searched.
              obtain ⟨other, searchedOther, sameIndex⟩ := List.mem_map.mp visited
              have known : current ∈ seen := by
                have same : other = current := distinguished.injective
                  (within other (.inl searchedOther))
                  (within current (.inr List.mem_cons_self)) sameIndex
                exact same ▸ searchedOther
              have restMissed := induction (by simp only [List.length_cons] at enough; omega)
                (fun type member => within type (member.imp_right (List.mem_cons_of_mem _)))
                (searched.skip known) missed
              intro type member
              rcases member with old | waiting
              · exact restMissed type (.inl old)
              · rcases List.mem_cons.mp waiting with rfl | later
                · exact restMissed type (.inl known)
                · exact restMissed type (.inr later)
            next unvisited =>
              have fresh : current ∉ seen := fun member =>
                unvisited (List.mem_map.mpr ⟨current, member, rfl⟩)
              have counted := openLinks_cons graph fresh
              have grown : ∀ type, type ∈ current :: seen ∨
                  type ∈ graph.supertypesOf current ++ rest → population type := by
                intro type member
                rcases member with old | waiting
                · rcases List.mem_cons.mp old with rfl | older
                  · exact within type (.inr List.mem_cons_self)
                  · exact within type (.inl older)
                · rcases List.mem_append.mp waiting with above | later
                  · exact distinguished.closed (within current (.inr List.mem_cons_self)) above
                  · exact within type (.inr (List.mem_cons_of_mem current later))
              have restMissed := induction
                (by simp only [List.length_cons, List.length_append] at enough ⊢; omega)
                grown (searched.expand different) missed
              intro type member
              rcases member with old | waiting
              · exact restMissed type (.inl (List.mem_cons_of_mem current old))
              · rcases List.mem_cons.mp waiting with rfl | later
                · exact restMissed type (.inl List.mem_cons_self)
                · exact restMissed type (.inr (List.mem_append_right _ later))

/-- The search decides whether one type is above another. -/
theorem reaches_iff {graph : Graph} {population : TypeId → Prop}
    (distinguished : graph.Distinguished population) {source target : TypeId}
    (member : population source) :
    graph.reaches source target = true ↔ graph.Reaches source target := by
  constructor
  · intro found
    obtain ⟨start, inPending, path⟩ := reaches_of_reachesFrom found
    rw [List.mem_singleton.mp inPending] at path
    exact path
  · intro path
    by_contra missed
    have enough : [source].length + graph.openLinks [] < graph.linkCount + 2 := by
      rw [openLinks_nil, List.length_singleton]
      omega
    have within : ∀ type, type ∈ [] ∨ type ∈ [source] → population type := by
      intro type inLists
      rcases inLists with none | only
      · exact absurd none List.not_mem_nil
      · exact List.mem_singleton.mp only ▸ member
    exact not_reaches_of_reachesFrom distinguished enough within (.start graph target [source])
      (Bool.eq_false_iff.mpr missed) source (.inr List.mem_cons_self) path

end Graph

end Nominal
