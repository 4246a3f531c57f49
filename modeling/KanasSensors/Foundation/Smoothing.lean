import Mathlib.Algebra.BigOperators.Ring.Finset
import Mathlib.Algebra.Order.Field.Basic
import Mathlib.Tactic.Ring
import Mathlib.Tactic.Linarith

/-! Exponential smoothing: a mean that forgets, and how far the next value lies from it.

The mean is given in closed form, as a sum over all the values; `mean_concat` is the
recurrence by which a filter computes it.
-/

set_option autoImplicit false

namespace Foundation.Smoothing

variable {K : Type} [Field K]

/-- The exponentially weighted mean of a sequence, oldest value first. The last value has
weight `1 - α`, and each other value `α` times the weight of the next. -/
def mean (α : K) (values : List K) : K :=
  ∑ k ∈ Finset.range values.length, (1 - α) * α ^ k * values.reverse.getD k 0

/-- How far the last value lies from the mean of the values before it. -/
def jump (α : K) (values : List K) : K :=
  (values.getLast?.map fun last => last - mean α values.dropLast).getD 0

def residual (α : K) (values : List K) : K :=
  (values.getLast?.map fun last => last - mean α values).getD 0

@[simp] theorem mean_nil (α : K) : mean α [] = 0 := rfl

theorem mean_concat (α : K) (values : List K) (last : K) :
    mean α (values ++ [last]) = α * mean α values + (1 - α) * last := by
  have reversed : (values ++ [last]).reverse = last :: values.reverse := List.reverse_concat
  have earlier : ∀ k, (1 - α) * α ^ (k + 1) * (last :: values.reverse).getD (k + 1) 0 =
      α * ((1 - α) * α ^ k * values.reverse.getD k 0) := by
    intro k
    rw [List.getD_cons_succ, pow_succ]
    ring
  unfold mean
  rw [List.length_append, List.length_singleton, Finset.sum_range_succ', reversed, Finset.mul_sum]
  simp only [earlier, pow_zero, mul_one, List.getD_cons_zero]

/-- Counting a value in draws the mean towards it, and leaves `α` of the distance. -/
theorem residual_eq (α : K) (values : List K) : residual α values = α * jump α values := by
  rcases List.eq_nil_or_concat values with rfl | ⟨front, last, rfl⟩
  · simp [residual, jump]
  · simp only [residual, jump, List.concat_eq_append, List.getLast?_concat, Option.map_some,
      Option.getD_some, List.dropLast_concat, mean_concat]
    ring

variable [LinearOrder K] [IsStrictOrderedRing K]

theorem abs_mean_le {α bound : K} (nonneg : 0 ≤ α) (le_one : α ≤ 1) (bound_nonneg : 0 ≤ bound)
    (values : List K) (bounded : ∀ value ∈ values, |value| ≤ bound) : |mean α values| ≤ bound := by
  induction values using List.reverseRecOn with
  | nil => rwa [mean_nil, abs_zero]
  | append_singleton values last ih =>
    rw [List.forall_mem_append, List.forall_mem_singleton] at bounded
    have complement : 0 ≤ 1 - α := sub_nonneg.mpr le_one
    calc |mean α (values ++ [last])|
        = |α * mean α values + (1 - α) * last| := by rw [mean_concat]
      _ ≤ |α * mean α values| + |(1 - α) * last| := abs_add_le _ _
      _ = α * |mean α values| + (1 - α) * |last| := by
          rw [abs_mul, abs_mul, abs_of_nonneg nonneg, abs_of_nonneg complement]
      _ ≤ α * bound + (1 - α) * bound :=
          add_le_add (mul_le_mul_of_nonneg_left (ih bounded.1) nonneg)
            (mul_le_mul_of_nonneg_left bounded.2 complement)
      _ = bound := by ring

theorem abs_jump_le {α bound : K} (nonneg : 0 ≤ α) (le_one : α ≤ 1) (bound_nonneg : 0 ≤ bound)
    (values : List K) (bounded : ∀ value ∈ values, |value| ≤ bound) : |jump α values| ≤ 2 * bound := by
  rcases List.eq_nil_or_concat values with rfl | ⟨front, last, rfl⟩
  · rw [jump, List.getLast?_nil, Option.map_none, Option.getD_none, abs_zero]
    linarith
  · rw [List.concat_eq_append, List.forall_mem_append, List.forall_mem_singleton] at bounded
    rw [List.concat_eq_append, jump, List.getLast?_concat, Option.map_some, Option.getD_some,
      List.dropLast_concat]
    have drawn := abs_mean_le nonneg le_one bound_nonneg front bounded.1
    calc |last - mean α front| ≤ |last| + |mean α front| := abs_sub _ _
      _ ≤ bound + bound := add_le_add bounded.2 drawn
      _ = 2 * bound := (two_mul bound).symm

theorem abs_residual_le_iff {α : K} (positive : 0 < α) (values : List K) (limit : K) :
    |residual α values| ≤ limit ↔ |jump α values| ≤ limit / α := by
  rw [residual_eq, abs_mul, abs_of_pos positive, le_div_iff₀ positive, mul_comm]

end Foundation.Smoothing
