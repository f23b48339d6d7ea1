import Inquiry.Failure
import Mathlib.Data.List.Basic

/-!
# Outcomes of reading

Reading a request ends with a result or with a failure that the request is to
blame for: a field that cannot be resolved, a value that is malformed, or an integer
with too many digits, which are digits of the request then.
`Yields` states both sides at once, with a property of the result. Its rules
follow the ways in which steps are put together, so no proof about a reader
looks at failures that are only passed on.
-/

namespace Inquiry

/-- A failure that a request of at most `most` digits is to blame for once its report is
known. -/
inductive Failure.IsOfRequest (most : Nat) : Failure → Prop where
  | unresolved {failure : Failure} (code : failure.code? = some .unresolvedField) :
      IsOfRequest most failure
  | malformed {failure : Failure} (code : failure.code? = some .malformedValue) :
      IsOfRequest most failure
  | digits {n : Nat} (many : maxDigits < n) (within : n ≤ most) :
      IsOfRequest most (.integerNotRead n)

/-- A result with a property, or a failure that the request is to blame for. -/
def Yields {α : Type} (most : Nat) (P : α → Prop) : Except Failure α → Prop
  | .ok a => P a
  | .error failure => failure.IsOfRequest most

namespace Yields

variable {α β : Type} {most : Nat} {P : α → Prop} {Q : β → Prop}

@[simp] theorem ok_iff {a : α} : Yields most P (.ok a) ↔ P a := Iff.rfl

theorem mono {result : Except Failure α} {P' : α → Prop} (h : Yields most P result)
    (imp : ∀ a, P a → P' a) : Yields most P' result := by
  cases result with
  | ok a => exact imp a h
  | error failure => exact h

theorem bind {first : Except Failure α} {next : α → Except Failure β} (h : Yields most P first)
    (then_ : ∀ a, P a → Yields most Q (next a)) : Yields most Q (first >>= next) := by
  cases first with
  | ok a => exact then_ a h
  | error failure => exact h

theorem map {result : Except Failure α} {f : α → β} (h : Yields most P result)
    (imp : ∀ a, P a → Q (f a)) : Yields most Q (result.map f) := by
  cases result with
  | ok a => exact imp a h
  | error failure => exact h

/-- Steps over a list yield a result for each of its elements. -/
theorem mapM {f : α → Except Failure β} {xs : List α} (h : ∀ x ∈ xs, Yields most Q (f x)) :
    Yields most (fun ys => (∀ y ∈ ys, Q y) ∧ ys.length = xs.length) (xs.mapM f) := by
  induction xs with
  | nil => exact ⟨fun y member => (List.not_mem_nil member).elim, rfl⟩
  | cons x xs ih =>
      rw [List.mapM_cons]
      refine (h x List.mem_cons_self).bind fun y hy => ?_
      refine (ih fun z member => h z (List.mem_cons_of_mem x member)).bind fun ys hys => ?_
      refine ⟨?_, congrArg (· + 1) hys.2⟩
      intro z member
      rcases List.mem_cons.mp member with rfl | member
      · exact hy
      · exact hys.1 z member

theorem of_ok {result : Except Failure α} {a : α} (h : Yields most P result)
    (found : result = .ok a) : P a := by
  rw [found] at h
  exact h

theorem of_error {result : Except Failure α} {failure : Failure} (h : Yields most P result)
    (found : result = .error failure) : failure.IsOfRequest most := by
  rw [found] at h
  exact h

end Yields

end Inquiry
