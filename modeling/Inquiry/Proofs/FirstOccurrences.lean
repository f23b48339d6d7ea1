import Mathlib.Data.List.Basic

/-!
# First occurrences

What is left of a list without repetitions is in the order of the first occurrences.
-/

namespace Inquiry

variable {α : Type} [BEq α] [LawfulBEq α]

/-- What is left of a list without repetitions is in the order of the first occurrences,
also of those elements that a filter has taken out. -/
theorem ordered_eraseDups (list : List α) (keep : α → Bool) :
    (list.filter keep).eraseDups.Pairwise
      fun earlier later => list.idxOf earlier < list.idxOf later := by
  induction list generalizing keep with
  | nil => exact List.Pairwise.nil
  | cons first list ih =>
      -- An element that is not the first one occurs one place later than without it.
      have behind {keep : α → Bool} (dropped : keep first = false) :
          (list.filter keep).eraseDups.Pairwise fun a b =>
            (first :: list).idxOf a < (first :: list).idxOf b := by
        refine (ih keep).imp_of_mem fun {a b} ha hb less => ?_
        have other {a : α} (member : a ∈ (list.filter keep).eraseDups) : a ≠ first := by
          rintro rfl
          rw [List.mem_eraseDups, List.mem_filter, dropped] at member
          exact absurd member.2 Bool.false_ne_true
        rw [List.idxOf_cons_ne list (other ha).symm, List.idxOf_cons_ne list (other hb).symm]
        exact Nat.succ_lt_succ less
      by_cases kept : keep first = true
      · rw [List.filter_cons_of_pos kept, List.eraseDups_cons, List.filter_filter]
        refine List.Pairwise.cons (fun a member => ?_) (behind (by simp))
        have other : a ≠ first := by
          rw [List.mem_eraseDups, List.mem_filter, Bool.and_eq_true] at member
          simpa using member.2.1
        rw [List.idxOf_cons_ne list other.symm, List.idxOf_cons_self]
        exact Nat.succ_pos _
      · rw [List.filter_cons_of_neg kept]
        exact behind (Bool.eq_false_iff.mpr kept)

end Inquiry
