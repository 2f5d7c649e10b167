import Mathlib.Data.List.Basic
import Mathlib.Data.Nat.Basic
import Mathlib.Order.MinMax
import Nominal.Text.EditDistance

/-!
# The cost of editing

An alignment turns one text into another from left to right: it keeps a character, replaces it,
deletes it or inserts one, and pays for all but the first.  The distance that is computed row by
row is the least cost of an alignment.

So texts without a common character are at the distance that the lengths of both add up to: all of
the one is deleted and all of the other inserted, whatever is replaced on the way.
-/

namespace Nominal.Text

/-- What it costs to put a character in the place of another. -/
def replaceCost (character other : Char) : Nat :=
  if character = other then 0 else 2

/-- A text can be turned into another at a cost. -/
inductive Aligns : Nat → List Char → List Char → Prop where
  | done : Aligns 0 [] []
  | replace {cost : Nat} {source target : List Char} (character other : Char) :
      Aligns cost source target →
        Aligns (cost + replaceCost character other) (character :: source) (other :: target)
  | delete {cost : Nat} {source target : List Char} (character : Char) :
      Aligns cost source target → Aligns (cost + 1) (character :: source) target
  | insert {cost : Nat} {source target : List Char} (character : Char) :
      Aligns cost source target → Aligns (cost + 1) source (character :: target)

/-- The least cost of turning a text into another, decided on their first characters. -/
def leastCost : List Char → List Char → Nat
  | [], target => target.length
  | source, [] => source.length
  | character :: source, other :: target =>
    min (min (leastCost source (other :: target) + 1) (leastCost (character :: source) target + 1))
      (leastCost source target + replaceCost character other)

@[simp]
theorem leastCost_nil_left (target : List Char) : leastCost [] target = target.length := by
  rw [leastCost]

@[simp]
theorem leastCost_nil_right (source : List Char) : leastCost source [] = source.length := by
  cases source <;> simp [leastCost]

/-! ## Alignments -/

namespace Aligns

variable {source target moreSource moreTarget : List Char} {cost moreCost : Nat}

theorem deleteAll (source : List Char) : Aligns source.length source [] := by
  induction source with
  | nil => exact .done
  | cons character source ih => exact .delete character ih

theorem insertAll (target : List Char) : Aligns target.length [] target := by
  induction target with
  | nil => exact .done
  | cons character target ih => exact .insert character ih

/-- Two alignments in a row. -/
theorem append (first : Aligns cost source target)
    (second : Aligns moreCost moreSource moreTarget) :
    Aligns (cost + moreCost) (source ++ moreSource) (target ++ moreTarget) := by
  induction first with
  | done => simpa using second
  | replace character other _ ih =>
      rw [Nat.add_right_comm]
      exact .replace character other ih
  | delete character _ ih =>
      rw [Nat.add_right_comm]
      exact .delete character ih
  | insert character _ ih =>
      rw [Nat.add_right_comm]
      exact .insert character ih

/-- Texts can be aligned from their ends as well. -/
theorem reverse (aligned : Aligns cost source target) :
    Aligns cost source.reverse target.reverse := by
  induction aligned with
  | done => exact .done
  | replace character other _ ih =>
      have last : Aligns (replaceCost character other) [character] [other] := by
        simpa using Aligns.replace character other .done
      simpa using ih.append last
  | delete character _ ih => simpa using ih.append (deleteAll [character])
  | insert character _ ih => simpa using ih.append (insertAll [character])

/-- What an alignment without a kept character costs does not depend on what it replaces. -/
theorem eq_of_disjoint (aligned : Aligns cost source target) (apart : source.Disjoint target) :
    cost = source.length + target.length := by
  induction aligned with
  | done => rfl
  | replace character other _ ih =>
      have different : character ≠ other := by
        rintro rfl
        exact apart List.mem_cons_self List.mem_cons_self
      have rest := ih fun _ inSource inTarget =>
        apart (List.mem_cons_of_mem _ inSource) (List.mem_cons_of_mem _ inTarget)
      simp only [replaceCost, if_neg different, List.length_cons]
      omega
  | delete character _ ih =>
      have rest := ih fun _ inSource => apart (List.mem_cons_of_mem _ inSource)
      simp only [List.length_cons]
      omega
  | insert character _ ih =>
      have rest := ih fun _ inSource inTarget => apart inSource (List.mem_cons_of_mem _ inTarget)
      simp only [List.length_cons]
      omega

end Aligns

/-! ## The least cost -/

theorem aligns_leastCost (source target : List Char) :
    Aligns (leastCost source target) source target := by
  fun_induction leastCost source target with
  | case1 target => exact .insertAll target
  | case2 source => exact .deleteAll source
  | case3 character source other target shorter narrower both =>
      rcases min_choice (min (leastCost source (other :: target) + 1)
        (leastCost (character :: source) target + 1))
        (leastCost source target + replaceCost character other) with outer | outer
      · rw [outer]
        rcases min_choice (leastCost source (other :: target) + 1)
          (leastCost (character :: source) target + 1) with inner | inner
        · rw [inner]
          exact .delete character shorter
        · rw [inner]
          exact .insert other narrower
      · rw [outer]
        exact .replace character other both

theorem leastCost_cons_left_le (character : Char) (source target : List Char) :
    leastCost (character :: source) target ≤ leastCost source target + 1 := by
  cases target with
  | nil => simp
  | cons other target =>
      rw [leastCost]
      exact (min_le_left _ _).trans (min_le_left _ _)

theorem leastCost_cons_right_le (other : Char) (source target : List Char) :
    leastCost source (other :: target) ≤ leastCost source target + 1 := by
  cases source with
  | nil => simp
  | cons character source =>
      rw [leastCost]
      exact (min_le_left _ _).trans (min_le_right _ _)

theorem leastCost_le {cost : Nat} {source target : List Char}
    (aligned : Aligns cost source target) : leastCost source target ≤ cost := by
  induction aligned with
  | done => simp
  | @replace cost source target character other _ ih =>
      rw [leastCost]
      exact (min_le_right _ _).trans (Nat.add_le_add_right ih _)
  | @delete cost source target character _ ih =>
      exact (leastCost_cons_left_le character source target).trans (Nat.add_le_add_right ih 1)
  | @insert cost source target character _ ih =>
      exact (leastCost_cons_right_le character source target).trans (Nat.add_le_add_right ih 1)

/-- Deciding on the last characters first makes no difference. -/
theorem leastCost_reverse (source target : List Char) :
    leastCost source.reverse target.reverse = leastCost source target := by
  apply le_antisymm
  · exact leastCost_le (aligns_leastCost source target).reverse
  · have aligned := (aligns_leastCost source.reverse target.reverse).reverse
    rw [List.reverse_reverse, List.reverse_reverse] at aligned
    exact leastCost_le aligned

/-! ## Rows

A row belongs to a prefix of the source and has an entry for every prefix of the target.  Prefixes
are extended at their ends, so they are compared in reverse.
-/

/-- The least costs of turning a reversed prefix of the source into the reversed prefixes of the
target that are longer than the given one. -/
def costsFrom (source reached : List Char) : List Char → List Nat
  | [] => []
  | character :: target =>
    leastCost source (character :: reached) :: costsFrom source (character :: reached) target

theorem distanceRowFrom_costsFrom (character : Char) (source reached target : List Char) :
    distanceRowFrom character (leastCost (character :: source) reached) (leastCost source reached)
      target (costsFrom source reached target)
        = costsFrom (character :: source) reached target := by
  induction target generalizing reached with
  | nil => rfl
  | cons other target ih =>
      have entry : min (min (leastCost source (other :: reached) + 1)
            (leastCost (character :: source) reached + 1))
          (leastCost source reached + if character = other then 0 else 2)
            = leastCost (character :: source) (other :: reached) := by
        rw [leastCost, replaceCost]
      simp only [costsFrom, distanceRowFrom, entry, ih]

theorem costsFrom_nil (reached target : List Char) :
    costsFrom [] reached target = List.range' (reached.length + 1) target.length := by
  induction target generalizing reached with
  | nil => rfl
  | cons character target ih =>
      rw [costsFrom, ih, leastCost_nil_left, List.length_cons, List.length_cons, List.range'_succ]

theorem foldl_distanceRow (source before target : List Char) :
    source.foldl (distanceRow target) (leastCost before [] :: costsFrom before [] target)
      = leastCost (source.reverse ++ before) []
        :: costsFrom (source.reverse ++ before) [] target := by
  induction source generalizing before with
  | nil => rfl
  | cons character source ih =>
      have step : distanceRow target (leastCost before [] :: costsFrom before [] target) character
          = leastCost (character :: before) [] :: costsFrom (character :: before) [] target := by
        have next := distanceRowFrom_costsFrom character before [] target
        simp only [leastCost_nil_right, List.length_cons] at next ⊢
        rw [distanceRow, next]
      rw [List.foldl_cons, step, ih, List.reverse_cons, List.append_assoc, List.singleton_append]

theorem getLastD_costsFrom (source reached target : List Char) (first : Nat) :
    (leastCost source reached :: costsFrom source reached target).getLastD first
      = leastCost source (target.reverse ++ reached) := by
  induction target generalizing reached first with
  | nil => rfl
  | cons character target ih =>
      rw [costsFrom, List.getLastD_cons, ih, List.reverse_cons, List.append_assoc,
        List.singleton_append]

/-- The last entry of the last row is the least cost. -/
theorem editDistanceList_eq (source target : List Char) :
    editDistanceList source target = leastCost source target := by
  have start : List.range (target.length + 1) = leastCost [] [] :: costsFrom [] [] target := by
    rw [costsFrom_nil, List.range_succ_eq_map, leastCost_nil_left, List.range'_eq_map_range]
    simp [Nat.add_comm]
  rw [editDistanceList, start, foldl_distanceRow, getLastD_costsFrom, List.append_nil,
    List.append_nil, leastCost_reverse]

/-! ## The distance of two texts -/

/-- The distance is the cost of an alignment, and no alignment costs less. -/
theorem editDistance_least (source target : String) :
    Aligns (editDistance source target) source.toList target.toList ∧
      ∀ cost, Aligns cost source.toList target.toList → editDistance source target ≤ cost := by
  rw [editDistance, editDistanceList_eq]
  exact ⟨aligns_leastCost _ _, fun cost => leastCost_le⟩

/-- Texts without a common character are as far apart as both are long. -/
theorem editDistance_of_disjoint {source target : String}
    (apart : source.toList.Disjoint target.toList) :
    editDistance source target = source.length + target.length := by
  rw [← String.length_toList, ← String.length_toList]
  exact (editDistance_least source target).1.eq_of_disjoint apart

end Nominal.Text
