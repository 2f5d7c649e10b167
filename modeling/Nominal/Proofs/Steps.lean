import Nominal.Proofs.Coherence

/-!
# Steps of a build

A step of a build makes at most one change and may read: it keeps views and makes records.  The
checks of a build read and decide by declarations alone, so each of them is described by the error
that it finds.
-/

namespace Nominal

namespace Graph

/-- At most one change of an allowed kind, followed by reading. -/
structure Step (allowed : Deed → Prop) (graph left : Graph) : Prop where
  sound : left.Sound
  effect : left.bare = graph.bare ∨
    ∃ deed changed, allowed deed ∧ graph.Change deed changed ∧ left.bare = changed.bare

/-- A sequence of steps. -/
abbrev Steps (allowed : Deed → Prop) : Graph → Graph → Prop :=
  Relation.ReflTransGen (Step allowed)

namespace Step

variable {allowed : Deed → Prop} {graph left last : Graph}

theorem of_reads (read : graph.Reads left) : Step allowed graph left :=
  ⟨read.sound, .inl read.bare⟩

theorem refl (sound : graph.Sound) : Step allowed graph graph :=
  .of_reads (.refl sound)

theorem reading (step : Step allowed graph left) (read : left.Reads last) :
    Step allowed graph last := by
  refine ⟨read.sound, ?_⟩
  rcases step.effect with same | ⟨deed, changed, permitted, change, same⟩
  · exact .inl (read.bare.trans same)
  · exact .inr ⟨deed, changed, permitted, change, read.bare.trans same⟩

/-- A change that is made after reading and keeps no new views. -/
theorem of_change (read : graph.Reads last) {deed : Deed} (permitted : allowed deed)
    {changed : Graph} (change : graph.Change deed changed) (same : left.bare = changed.bare)
    (kept : ∀ (view : View) (type : TypeId) (answer : view.Answer),
      view.kept (left.cacheAt type) = some answer →
        view.kept (last.cacheAt type) = some answer) : Step allowed graph left := by
  have before : last.KeepsSealed graph :=
    .of_eq (types_eq_of_bare read.bare).symm (members_eq_of_bare read.bare).symm
  have after : changed.KeepsSealed left :=
    .of_eq (types_eq_of_bare same) (members_eq_of_bare same)
  have start : graph.WellFormed := read.sound.wellFormed.of_bare read.bare.symm
  have wellFormed : left.WellFormed := (change.wellFormed start).of_bare same
  exact ⟨read.sound.of_keeps wellFormed ((before.trans change.keepsSealed).trans after) kept,
    .inr ⟨deed, changed, permitted, change, same⟩⟩

theorem keepsSealed (step : Step allowed graph left) : graph.KeepsSealed left := by
  rcases step.effect with same | ⟨deed, changed, _, change, same⟩
  · exact .of_eq (types_eq_of_bare same) (members_eq_of_bare same)
  · exact change.keepsSealed.trans (.of_eq (types_eq_of_bare same) (members_eq_of_bare same))

theorem mono {permitted : Deed → Prop} (step : Step allowed graph left)
    (weaker : ∀ deed, allowed deed → permitted deed) : Step permitted graph left := by
  refine ⟨step.sound, ?_⟩
  rcases step.effect with same | ⟨deed, changed, isAllowed, change, same⟩
  · exact .inl same
  · exact .inr ⟨deed, changed, weaker deed isAllowed, change, same⟩

end Step

namespace Steps

variable {allowed : Deed → Prop} {graph left : Graph}

theorem sound (steps : Steps allowed graph left) (sound : graph.Sound) : left.Sound := by
  cases steps with
  | refl => exact sound
  | tail _ step => exact step.sound

theorem keepsSealed (steps : Steps allowed graph left) : graph.KeepsSealed left := by
  induction steps with
  | refl => exact .refl graph
  | tail _ step keeps => exact keeps.trans step.keepsSealed

theorem mono {permitted : Deed → Prop} (steps : Steps allowed graph left)
    (weaker : ∀ deed, allowed deed → permitted deed) : Steps permitted graph left := by
  induction steps with
  | refl => exact .refl
  | tail _ step ih => exact ih.tail (step.mono weaker)

end Steps

end Graph

/-! ## Checks -/

section Checks

variable {β : Type} {graph : Graph} {type : TypeId}

theorem exec_requireUnsealed_bind (mutation : Mutation) (next : Unit → Build β) :
    (requireUnsealed type mutation >>= next).exec graph =
      if graph.isSealed type then (.error (.aborted (.sealedMutation type mutation)), graph)
      else (next ()).exec graph := by
  by_cases isFinal : graph.isSealed type = true
  · rw [if_pos isFinal, Build.exec_bind, requireUnsealed, Build.exec_get_bind, if_pos isFinal]
    rfl
  · rw [if_neg isFinal, Build.exec_bind, requireUnsealed, Build.exec_get_bind, if_neg isFinal]
    rfl

theorem exec_requireSameArena_bind (other : TypeId) (next : Unit → Build β) :
    (requireSameArena type other >>= next).exec graph =
      if (graph.typeAt other).arena = (graph.typeAt type).arena then (next ()).exec graph
      else (.error (.misuse ("type `" ++ graph.nameOf other ++ "` belongs to a different arena")),
        graph) := by
  by_cases same : (graph.typeAt other).arena = (graph.typeAt type).arena
  · rw [if_pos same, Build.exec_bind, requireSameArena, Build.exec_get_bind, ite_not, if_pos same]
    rfl
  · rw [if_neg same, Build.exec_bind, requireSameArena, Build.exec_get_bind, ite_not, if_neg same]
    rfl

/-- How a check ends that found an error, or none. -/
def verdict : Option Error → Except Failure Unit
  | some error => .error (.rejected error)
  | none => .ok ()

/-- A build goes on after a check that found nothing, and ends with the error otherwise. -/
theorem Build.exec_bind_of_verdict {check : Build Unit} {found : Option Error} {left : Graph}
    (checks : check.exec graph = (verdict found, left)) (next : Unit → Build β) :
    (check >>= next).exec graph =
      found.elim ((next ()).exec left) fun error => (.error (.rejected error), left) := by
  rw [Build.exec_bind, checks]
  cases found <;> rfl

theorem exec_checkTypeVisibility (reference : Option TypeRef) (site : AccessSite) :
    (checkTypeVisibility reference site).exec graph =
      (verdict (reference.bind (graph.typeVisibilityError? site)), graph) := by
  rw [checkTypeVisibility, Build.exec_get_bind]
  cases reference.bind (graph.typeVisibilityError? site) <;> rfl

theorem exec_checkOverloads (overloads : List MemberId) (member : MemberId) :
    (checkOverloads type overloads member).exec graph =
      (verdict (overloads.findSome? (graph.overloadError? type member)), graph) := by
  rw [checkOverloads, Build.exec_get_bind]
  cases overloads.findSome? (graph.overloadError? type member) <;> rfl

theorem exec_checkDistinctKey (existing : List MemberId) (member : MemberId) :
    (checkDistinctKey type existing member).exec graph =
      (verdict (if existing.any fun other => graph.keyOf other = graph.keyOf member then
        some (.duplicateMember type member) else none), graph) := by
  rw [checkDistinctKey, Build.exec_get_bind]
  split <;> rfl

/-- The check against inherited members reads, and ends as `Graph.ancestorError?` says. -/
theorem exec_checkAgainstAncestors (sound : graph.Sound) (member : MemberId)
    (identifier : String) :
    ∃ left, graph.Reads left ∧ (checkAgainstAncestors type member identifier).exec graph
      = (verdict (graph.ancestorError? type member identifier), left) := by
  rw [checkAgainstAncestors, Build.exec_get_bind]
  simp only [Graph.ancestorError?, Graph.inheritedMembers]
  cases parental : (graph.typeAt type).parent? with
  | none =>
      refine ⟨graph, .refl sound, ?_⟩
      rw [List.findSome?_nil, ite_self]
      rfl
  | some parent =>
      dsimp only
      by_cases exempt : (graph.memberAt member).visibility = .hidden ∨
          (graph.memberAt member).kind.isInheritable = false
      · rw [if_pos exempt, if_pos exempt]
        exact ⟨graph, .refl sound, rfl⟩
      · rw [if_neg exempt, if_neg exempt]
        obtain ⟨answered, read⟩ := Query.Answers.classMemberMap parent
          (graph.memberAt member).isStatic graph sound
        refine ⟨_, read, ?_⟩
        rw [Build.exec_lift_bind, Build.exec_get_bind, answered,
          Graph.loadedByName_eq_of_reads sound read]
        have same : ∀ left : Graph, left.bare = graph.bare →
            left.inheritanceError? type member = graph.inheritanceError? type member := by
          intro left bare
          funext ancestor
          simp only [Graph.inheritanceError?, Graph.memberAt_eq_of_bare bare]
        rw [same _ read.bare]
        cases (((ClassMemberMap.ofClass graph parent
          (graph.memberAt member).isStatic).loadedByName graph identifier false).map
            (·.member)).findSome? (graph.inheritanceError? type member) <;> rfl

end Checks

end Nominal
