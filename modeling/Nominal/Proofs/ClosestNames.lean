import Mathlib.Data.String.Basic
import Nominal.Proofs.EditCosts

/-!
# Suggested names

A name is suggested for another one if its distance is below both byte lengths.  Of the names that
qualify, the suggestion is one of least distance, and of those the least text: the names are scanned
in order, and a later name replaces an earlier one only if it is strictly closer.

Distances count characters and the bounds count bytes.  Without a common character the distance is
the number of characters of both names together, which does not reach the bounds if both names
consist of characters of three bytes or more.  So such names are suggested for each other.
-/

namespace Nominal.Text

variable {distance : String → Nat} {bound : Nat} {names others : List String} {closest : String}

/-- A name is close enough: its distance is below a bound and below its own byte length. -/
def IsClose (distance : String → Nat) (bound : Nat) (name : String) : Prop :=
  distance name < bound ∧ distance name < name.utf8ByteSize

instance (distance : String → Nat) (bound : Nat) (name : String) :
    Decidable (IsClose distance bound name) :=
  inferInstanceAs (Decidable (_ ∧ _))

/-- One of the listed names is close enough, no such name is closer, and none of those that are as
close comes before it. -/
structure IsClosest (distance : String → Nat) (bound : Nat) (names : List String)
    (closest : String) : Prop where
  listed : closest ∈ names
  close : IsClose distance bound closest
  least : ∀ name ∈ names, IsClose distance bound name → distance closest ≤ distance name
  first : ∀ name ∈ names, IsClose distance bound name → distance name = distance closest →
    closest ≤ name

/-- Two names have a character in common. -/
def SharesCharacter (name other : String) : Prop :=
  ∃ character ∈ name.toList, character ∈ other.toList

/-! ## The closest name -/

/-- No distance is below the length of the empty name. -/
theorem IsClose.ne_empty {name : String} (close : IsClose distance bound name) : name ≠ "" := by
  rintro rfl
  exact Nat.not_lt_zero _ close.2

namespace IsClosest

theorem unique {other : String} (one : IsClosest distance bound names closest)
    (another : IsClosest distance bound names other) : closest = other := by
  have same : distance closest = distance other :=
    le_antisymm (one.least other another.listed another.close)
      (another.least closest one.listed one.close)
  exact le_antisymm (one.first other another.listed another.close same.symm)
    (another.first closest one.listed one.close same)

/-- Neither the order of the names nor their repetition matters. -/
theorem congr (same : ∀ name, name ∈ others ↔ name ∈ names)
    (one : IsClosest distance bound names closest) : IsClosest distance bound others closest :=
  ⟨(same closest).mpr one.listed, one.close,
    fun name listed => one.least name ((same name).mp listed),
    fun name listed => one.first name ((same name).mp listed)⟩

/-- A name that is close enough, before names that are not closer. -/
theorem of_head {name : String} {rest : List String} (close : IsClose distance bound name)
    (sorted : ∀ later ∈ rest, name ≤ later)
    (none : ∀ later ∈ rest, ¬ IsClose distance (distance name) later) :
    IsClosest distance bound (name :: rest) name := by
  refine ⟨List.mem_cons_self, close, ?_, ?_⟩
  · rw [List.forall_mem_cons]
    refine ⟨fun _ => le_rfl, fun later listed isClose => ?_⟩
    exact not_lt.mp fun closer => none later listed ⟨closer, isClose.2⟩
  · rw [List.forall_mem_cons]
    exact ⟨fun _ _ => le_rfl, fun later listed _ _ => sorted later listed⟩

/-- A name that is closer than the one before it. -/
theorem of_tail {name : String} {rest : List String} (close : IsClose distance bound name)
    (one : IsClosest distance (distance name) rest closest) :
    IsClosest distance bound (name :: rest) closest := by
  have closer : distance closest < distance name := one.close.1
  refine ⟨List.mem_cons_of_mem _ one.listed, ⟨closer.trans close.1, one.close.2⟩, ?_, ?_⟩
  · rw [List.forall_mem_cons]
    refine ⟨fun _ => closer.le, fun later listed isClose => ?_⟩
    by_cases within : distance later < distance name
    · exact one.least later listed ⟨within, isClose.2⟩
    · exact closer.le.trans (not_lt.mp within)
  · rw [List.forall_mem_cons]
    refine ⟨fun _ same => absurd same closer.ne', fun later listed isClose same => ?_⟩
    exact one.first later listed ⟨same.trans_lt closer, isClose.2⟩ same

/-- A name that is not close enough makes no difference. -/
theorem cons_of_not_isClose {name : String} {rest : List String}
    (far : ¬ IsClose distance bound name) (one : IsClosest distance bound rest closest) :
    IsClosest distance bound (name :: rest) closest := by
  refine ⟨List.mem_cons_of_mem _ one.listed, one.close, ?_, ?_⟩
  · rw [List.forall_mem_cons]
    exact ⟨fun isClose => absurd isClose far, one.least⟩
  · rw [List.forall_mem_cons]
    exact ⟨fun isClose => absurd isClose far, one.first⟩

end IsClosest

theorem closestFrom_of_isClose {name : String} {best : Option String}
    (close : IsClose distance bound name) :
    closestFrom distance best bound (name :: names)
      = closestFrom distance (some name) (distance name) names :=
  if_pos close

theorem closestFrom_of_not_isClose {name : String} {best : Option String}
    (far : ¬ IsClose distance bound name) :
    closestFrom distance best bound (name :: names) = closestFrom distance best bound names :=
  if_neg far

/-- The scan keeps its suggestion if no name undercuts the bound, and otherwise finds the closest
name. -/
theorem closestFrom_cases (best : Option String) (bound : Nat) (sorted : names.Pairwise (· ≤ ·)) :
    closestFrom distance best bound names = best ∧ (∀ name ∈ names, ¬ IsClose distance bound name) ∨
      ∃ closest, closestFrom distance best bound names = some closest ∧
        IsClosest distance bound names closest := by
  induction names generalizing best bound with
  | nil => exact .inl ⟨rfl, by simp⟩
  | cons name rest ih =>
      obtain ⟨ahead, sorted⟩ := List.pairwise_cons.mp sorted
      by_cases close : IsClose distance bound name
      · rw [closestFrom_of_isClose close]
        right
        rcases ih (some name) (distance name) sorted with ⟨kept, none⟩ | ⟨closest, found, one⟩
        · exact ⟨name, kept, .of_head close ahead none⟩
        · exact ⟨closest, found, .of_tail close one⟩
      · rw [closestFrom_of_not_isClose close]
        rcases ih best bound sorted with ⟨kept, none⟩ | ⟨closest, found, one⟩
        · exact .inl ⟨kept, List.forall_mem_cons.mpr ⟨close, none⟩⟩
        · exact .inr ⟨closest, found, .cons_of_not_isClose close one⟩

theorem closestName_cases (distance : String → Nat) (name : String) (names : List String) :
    closestName distance name names = none ∧
        (∀ member ∈ names, ¬ IsClose distance name.utf8ByteSize member) ∨
      ∃ closest, closestName distance name names = some closest ∧
        IsClosest distance name.utf8ByteSize names closest := by
  have sorted : (names.mergeSort fun a b => decide (a ≤ b)).Pairwise (· ≤ ·) := by
    have pairwise := @List.pairwise_mergeSort String (fun a b => decide (a ≤ b))
      (by simpa using fun a b c => le_trans) (by simpa using le_total) names
    simpa using pairwise
  have same : ∀ member, member ∈ names ↔ member ∈ names.mergeSort fun a b => decide (a ≤ b) :=
    fun member => List.mem_mergeSort.symm
  rcases closestFrom_cases none name.utf8ByteSize sorted with ⟨kept, none⟩ | ⟨closest, found, one⟩
  · exact .inl ⟨kept, fun member listed => none member ((same member).mp listed)⟩
  · exact .inr ⟨closest, found, one.congr same⟩

theorem closestName_eq_some_iff {name : String} :
    closestName distance name names = some closest ↔
      IsClosest distance name.utf8ByteSize names closest := by
  rcases closestName_cases distance name names with ⟨found, none⟩ | ⟨other, found, one⟩
  · rw [found]
    exact ⟨nofun, fun one => absurd one.close (none closest one.listed)⟩
  · rw [found]
    refine ⟨?_, fun another => congrArg some (one.unique another)⟩
    rintro ⟨rfl⟩
    exact one

theorem closestName_eq_none_iff {name : String} :
    closestName distance name names = none ↔
      ∀ member ∈ names, ¬ IsClose distance name.utf8ByteSize member := by
  rcases closestName_cases distance name names with ⟨found, none⟩ | ⟨other, found, one⟩
  · exact ⟨fun _ => none, fun _ => found⟩
  · rw [found]
    exact ⟨nofun, fun none => absurd one.close (none other one.listed)⟩

/-- The suggestion is the closest name: there is none exactly if no listed name is close enough, and
then the text of the suggestion is empty.  It is found in whatever order and however often the names
are listed. -/
theorem closestName_least (distance : String → Nat) (name : String) (names : List String) :
    ((closestName distance name names).getD "" = "" ↔
        ∀ member ∈ names, ¬ IsClose distance name.utf8ByteSize member) ∧
      (∀ closest, closestName distance name names = some closest ↔
        IsClosest distance name.utf8ByteSize names closest) ∧
      ∀ others, (∀ member, member ∈ others ↔ member ∈ names) →
        closestName distance name others = closestName distance name names := by
  refine ⟨?_, fun closest => closestName_eq_some_iff, fun others same => ?_⟩
  · rw [← closestName_eq_none_iff]
    cases found : closestName distance name names with
    | none => exact ⟨fun _ => rfl, fun _ => rfl⟩
    | some closest =>
        have close := (closestName_eq_some_iff.mp found).close
        exact ⟨fun empty => absurd empty close.ne_empty, nofun⟩
  · apply Option.ext
    intro closest
    rw [closestName_eq_some_iff, closestName_eq_some_iff]
    exact ⟨.congr fun member => (same member).symm, .congr same⟩

/-- Of two names that are as close as each other, the first in lexicographic order is suggested. -/
theorem closestName_least_misspelled :
    let distance := editDistance "balanse"
    closestName distance "balanse" ["ledger", "valanse", "balance"] = some "balance" ∧
      closestName distance "balanse" ["balance", "valanse", "ledger", "balance"]
        = some "balance" := by
  intro distance
  obtain ⟨-, least, reordered⟩ :=
    closestName_least distance "balanse" ["ledger", "valanse", "balance"]
  have found := (least "balance").mpr ⟨by simp, by decide, by decide, by decide⟩
  exact ⟨found, (reordered _ (by simp; tauto)).trans found⟩

/-! ## Common characters -/

theorem not_sharesCharacter_iff {name other : String} :
    ¬ SharesCharacter name other ↔ name.toList.Disjoint other.toList := by
  rw [SharesCharacter, not_exists]
  exact forall_congr' fun character => not_and

/-- A name without a common character is close enough exactly if the characters of both names are
fewer than the bytes of either. -/
theorem isClose_of_not_sharesCharacter {name other : String}
    (apart : ¬ SharesCharacter name other) :
    IsClose (editDistance name) name.utf8ByteSize other ↔
      name.length + other.length < min name.utf8ByteSize other.utf8ByteSize := by
  rw [IsClose, editDistance_of_disjoint (not_sharesCharacter_iff.mp apart), lt_min_iff]

/-- Whatever names are listed, a suggestion has a character in common with the name that it stands
for, unless the two names have fewer characters together than either has bytes. -/
theorem sharesCharacter_iff_of_closestName (name suggestion : String) :
    (∀ names, closestName (editDistance name) name names = some suggestion →
        SharesCharacter name suggestion) ↔
      SharesCharacter name suggestion ∨
        min name.utf8ByteSize suggestion.utf8ByteSize ≤ name.length + suggestion.length := by
  constructor
  · intro suggested
    by_contra! apart
    obtain ⟨foreign, below⟩ := apart
    have close := (isClose_of_not_sharesCharacter foreign).mpr below
    refine foreign (suggested [suggestion] (closestName_eq_some_iff.mpr ?_))
    exact .of_head close (by simp) (by simp)
  · rintro (shared | bounded) names suggested
    · exact shared
    · by_contra foreign
      have close := (closestName_eq_some_iff.mp suggested).close
      exact absurd ((isClose_of_not_sharesCharacter foreign).mp close) (not_lt.mpr bounded)

/-- Two characters of three bytes each are suggested for each other. -/
theorem not_sharesCharacter_ideographs :
    closestName (editDistance "日") "日" ["本"] = some "本" ∧ ¬ SharesCharacter "日" "本" := by
  have foreign : ¬ SharesCharacter "日" "本" := by
    simp [SharesCharacter]
  refine ⟨closestName_eq_some_iff.mpr ?_, foreign⟩
  have close := (isClose_of_not_sharesCharacter foreign).mpr (by decide)
  exact .of_head close (by simp) (by simp)

end Nominal.Text
