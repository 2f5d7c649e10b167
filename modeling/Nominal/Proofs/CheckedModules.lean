import Nominal.Proofs.ModuleLoads

/-!
# The members of loaded modules

The types of a module are completed supertypes first, and each is sealed before anything below it
gets members.  So what was checked when a member was added still holds when the module is loaded: in
an arena with checks, every sealed class conforms, whether the load succeeds or fails.
-/

namespace Nominal

open Nominal.Graph

namespace Graph

/-! ## Sealed classes -/

/-- Every sealed class conforms. -/
def Vetted (graph : Graph) : Prop :=
  ∀ type, graph.isSealed type = true → graph.Conforms type

section Sealed

variable {graph left : Graph} {type : TypeId}

theorem KeepsClasses.of_keepsSealed (wellFormed : graph.WellFormed)
    (keeps : graph.KeepsSealed left) : graph.KeepsClasses left (graph.isSealed · = true) := by
  refine ⟨keeps.grows, lt_size_of_isSealed, ?_, ?_, ?_, ?_⟩
  · exact fun isFinal link =>
      wellFormed.hierarchical.sealedAbove isFinal (extends_of_parent? link)
  · intro type isFinal
    rw [keeps.frozen type isFinal]
  · intro type isFinal isStatic
    rw [keeps.frozen type isFinal]
  · intro type isStatic name member isFinal owns
    exact wellFormed.sameMember keeps.identity (keeps.adopted member type owns.owner isFinal)

theorem Vetted.conforms (vetted : graph.Vetted) (wellFormed : graph.WellFormed)
    (keeps : graph.KeepsSealed left) (isFinal : graph.isSealed type = true) :
    left.Conforms type :=
  (KeepsClasses.of_keepsSealed wellFormed keeps).conforms wellFormed isFinal (vetted type isFinal)

theorem Vetted.of_sealsNothing (vetted : graph.Vetted) (wellFormed : graph.WellFormed)
    (nothing : graph.SealsNothing left) : left.Vetted := by
  intro type isFinal
  exact vetted.conforms wellFormed nothing.keeps (nothing.isSealed type ▸ isFinal)

end Sealed

/-! ## Work on a class -/

/-- A type whose members are checked, and which conforms. -/
structure Watched (graph : Graph) (type : TypeId) : Prop where
  present : type < graph.types.size
  untrusted : (graph.progressAt type).isTrusted = false
  checksOn : (graph.settingsOf type).skipSanityChecks = false
  conforms : graph.Conforms type

section Watching

variable {graph left : Graph} {type : TypeId}

theorem Watched.of_bare (watched : graph.Watched type) (wellFormed : graph.WellFormed)
    (same : left.bare = graph.bare) : left.Watched type where
  present := types_eq_of_bare same ▸ watched.present
  untrusted := by
    rw [progressAt, progress_eq_of_bare same]
    exact watched.untrusted
  checksOn := by
    rw [settingsOf, typeAt_eq_of_bare same, arenaAt, arenas_eq_of_bare same]
    exact watched.checksOn
  conforms := (KeepsClasses.of_eq wellFormed (types_eq_of_bare same)
    (members_eq_of_bare same)).conforms wellFormed watched.present watched.conforms

/-- A change that concerns no other type keeps a type conforming. -/
theorem Watched.of_change (watched : graph.Watched type) (wellFormed : graph.WellFormed)
    {deed : Deed} (concerns : deed.Concerns type) (changed : graph.Change deed left) :
    left.Watched type where
  present := Nat.lt_of_lt_of_le watched.present changed.keepsSealed.grows
  untrusted := changed.untrusted watched.untrusted
  checksOn := by
    rw [changed.settingsOf wellFormed watched.present]
    exact watched.checksOn
  conforms := by
    cases subject : deed.subject? with
    | none =>
        have keeps : graph.KeepsClasses left (· < graph.types.size) :=
          changed.keepsClasses wellFormed id
            (fun _ link => (wellFormed.hierarchical.linked (extends_of_parent? link)).1)
            (by simp [subject])
        exact keeps.conforms wellFormed watched.present watched.conforms
    | some touched =>
        have here : touched = type := by
          cases deed with
          | link linked => exact (Option.some.inj subject).symm.trans concerns
          | declare declaring => exact (Option.some.inj subject).symm.trans concerns
          | describe | implement | complete => cases subject
        subst here
        refine changed.conforms_subject wellFormed subject ?_ watched.conforms
        simp [checksAncestors, watched.untrusted, watched.checksOn]

theorem Watched.of_steps (watched : graph.Watched type) (sound : graph.Sound)
    (steps : Steps (Deed.Concerns type) graph left) : left.Watched type := by
  induction steps with
  | refl => exact watched
  | tail earlier step ih =>
      have wellFormed := (Steps.sound earlier sound).wellFormed
      rcases step.effect with same | ⟨deed, changed, concerns, change, same⟩
      · exact ih.of_bare wellFormed same
      · exact (ih.of_change wellFormed concerns change).of_bare (change.wellFormed wellFormed) same

end Watching

end Graph

/-! ## Loads -/

section Loads

variable {resolver : Resolver} {base graph left : Graph} {entry : PendingType}

/-- The completion of one type leaves only conforming classes sealed. -/
theorem completeType_vetted (unfinished : Unfinished resolver base entry graph)
    (checksOn : (graph.arenaAt resolver.farm.arena).settings.skipSanityChecks = false)
    (vetted : graph.Vetted) : ((completeType resolver entry).exec graph).2.Vetted := by
  obtain ⟨steps, frame, -⟩ := completeType_work unfinished
  have piece := unfinished.piece
  have watched : graph.Watched entry.type := by
    refine ⟨piece.present, ?_, ?_, ?_⟩
    · rw [piece.fresh]
    · rw [settingsOf, piece.hosted.together piece.present]
      exact checksOn
    · intro member listed
      rw [unfinished.memberless] at listed
      cases listed
  intro type isFinal
  by_cases here : type = entry.type
  · subst here
    exact (watched.of_steps piece.sound steps).conforms
  · rw [isSealed, frame.others type here] at isFinal
    exact vetted.conforms piece.sound.wellFormed steps.keepsSealed isFinal

/-- However a load ends, every sealed class conforms. -/
theorem loadModule_vetted {farm : Farm} (serial : Nat) {imports : List Module}
    (declaration : ModuleDeclaration) (houses : graph.Houses farm)
    (complete : ∀ imported ∈ imports, imported.Complete graph)
    (checksOn : (graph.arenaAt farm.arena).settings.skipSanityChecks = false)
    (vetted : graph.Vetted) :
    ((loadModule farm serial imports declaration).exec graph).2.Vetted := by
  refine (@loadModule_keeps graph farm serial imports declaration (fun left =>
    (left.arenaAt farm.arena).settings.skipSanityChecks = false ∧ left.Vetted) houses complete
      ?_ ?_).2.2
  · intro linked grows nothing
    exact ⟨grows.settings farm.arena ▸ checksOn,
      vetted.of_sealsNothing houses.sound.wellFormed nothing⟩
  · rintro resolver entry left rfl unfinished ⟨checksOn, vetted⟩
    refine ⟨?_, completeType_vetted unfinished checksOn vetted⟩
    obtain ⟨-, frame, -⟩ := completeType_work unfinished
    rw [frame.settings]
    exact checksOn

end Loads

end Nominal
