import Mathlib.Data.List.Nodup

/-!
# First occurrences

Dependencies, names and identifiers are gathered one by one, and what is known already is passed
over.  Gathered in this way, the items of a list are left in order, each at its first occurrence.
-/

namespace Nominal

variable {Item : Type} [DecidableEq Item]

theorem foldl_keepFirst (items seen : List Item) :
    items.foldl (fun seen next => if next ∈ seen then seen else seen ++ [next]) seen
      = seen ++ (items.filter (· ∉ seen)).eraseDups := by
  induction items generalizing seen with
  | nil => simp
  | cons next rest ih =>
      rw [List.foldl_cons, ih]
      by_cases known : next ∈ seen
      · simp [known]
      · have kept : rest.filter (· ∉ seen ++ [next])
            = (rest.filter (· ∉ seen)).filter fun other => !other == next := by
          rw [List.filter_filter]
          apply List.filter_congr
          intro other _
          simp [and_comm, beq_eq_decide]
        rw [if_neg known, kept, List.filter_cons_of_pos (by simpa using known),
          List.eraseDups_cons, List.append_assoc, List.singleton_append]

/-- Gathering from the start keeps each item at its first occurrence. -/
theorem foldl_keepFirst_nil (items : List Item) :
    items.foldl (fun seen next => if next ∈ seen then seen else seen ++ [next]) []
      = items.eraseDups := by
  simp [foldl_keepFirst]

theorem nodup_eraseDups (items : List Item) : items.eraseDups.Nodup := by
  cases items with
  | nil => exact .nil
  | cons item rest =>
      rw [List.eraseDups_cons, List.nodup_cons, List.mem_eraseDups]
      exact ⟨by simp, nodup_eraseDups _⟩
termination_by items.length
decreasing_by
  exact Nat.lt_succ_of_le (List.length_filter_le _ _)

end Nominal
