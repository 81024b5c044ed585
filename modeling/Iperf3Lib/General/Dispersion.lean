import Mathlib.Algebra.BigOperators.Group.List.Basic
import Mathlib.Algebra.BigOperators.Ring.List
import Mathlib.Algebra.Order.BigOperators.Group.List
import Mathlib.Algebra.Order.Field.Basic
import Mathlib.Tactic.FieldSimp
import Mathlib.Tactic.LinearCombination
import Mathlib.Tactic.Linarith
import Mathlib.Tactic.Ring

/-!
# Dispersion

Mean, population variance and Jain's index of a list. The index and the variance measure the same
thing: the index is one over one plus the square of the coefficient of variation. All of them depend
on the members and not on their order, and relative measures do not depend on the unit.
-/

namespace Iperf3Lib.Dispersion

variable {K : Type} [Field K]

/-- `statistics.mean`. -/
def mean (xs : List K) : K := xs.sum / xs.length

/-- `statistics.pvariance`. -/
def pvariance (xs : List K) : K := (xs.map fun x => (x - mean xs) ^ 2).sum / xs.length

/-- The sum of the squares. -/
def sumSq (xs : List K) : K := (xs.map fun x => x * x).sum

/-- `sum(x)**2 / (n * sum(x * x))`. -/
def jain (xs : List K) : K := xs.sum ^ 2 / (xs.length * sumSq xs)

/-! ## Order -/

variable {xs ys : List K} {c : K}

theorem mean_perm (h : xs.Perm ys) : mean xs = mean ys := by
  rw [mean, mean, h.sum_eq, h.length_eq]

theorem pvariance_perm (h : xs.Perm ys) : pvariance xs = pvariance ys := by
  rw [pvariance, pvariance, mean_perm h, (h.map _).sum_eq, h.length_eq]

theorem jain_perm (h : xs.Perm ys) : jain xs = jain ys := by
  rw [jain, jain, sumSq, sumSq, (h.map _).sum_eq, h.sum_eq, h.length_eq]

/-! ## Sums of squares -/

/-- The squares of the distances from any point. -/
theorem sum_sub_sq (xs : List K) (c : K) :
    (xs.map fun x => (x - c) ^ 2).sum = sumSq xs - 2 * c * xs.sum + xs.length * c ^ 2 := by
  induction xs with
  | nil => simp [sumSq]
  | cons x xs ih =>
    rw [sumSq] at ih
    simp only [sumSq, List.map_cons, List.sum_cons, List.length_cons, ih]
    push_cast
    ring

/-- The variance is the mean of the squares less the square of the mean. -/
theorem length_mul_sumSq (hlen : (xs.length : K) ≠ 0) :
    xs.length * sumSq xs = xs.sum ^ 2 + xs.length ^ 2 * pvariance xs := by
  rw [pvariance, sum_sub_sq, mean]
  field_simp
  ring

/-- The index is one over one plus the square of the coefficient of variation. -/
theorem jain_mul (hlen : (xs.length : K) ≠ 0) (hsum : xs.sum ≠ 0) (hsq : sumSq xs ≠ 0) :
    jain xs * (1 + pvariance xs / mean xs ^ 2) = 1 := by
  have h := length_mul_sumSq hlen
  rw [jain, mean]
  field_simp
  linear_combination -h

variable [LinearOrder K] [IsStrictOrderedRing K]

theorem pvariance_nonneg (xs : List K) : 0 ≤ pvariance xs := by
  refine div_nonneg (List.sum_nonneg fun y hy => ?_) (Nat.cast_nonneg _)
  obtain ⟨x, -, rfl⟩ := List.mem_map.mp hy
  exact sq_nonneg _

theorem sumSq_nonneg (xs : List K) : 0 ≤ sumSq xs := by
  refine List.sum_nonneg fun y hy => ?_
  obtain ⟨x, -, rfl⟩ := List.mem_map.mp hy
  exact mul_self_nonneg _

/-- A positive member makes both sums positive. -/
theorem sum_pos_of_mem (h : ∀ x ∈ xs, 0 ≤ x) {x : K} (hx : x ∈ xs) (hpos : 0 < x) : 0 < xs.sum :=
  hpos.trans_le (List.single_le_sum h x hx)

theorem sumSq_pos_of_mem {x : K} (hx : x ∈ xs) (hpos : 0 < x) : 0 < sumSq xs := by
  refine (mul_pos hpos hpos).trans_le (List.single_le_sum (fun y hy => ?_) _
    (List.mem_map_of_mem (f := fun x => x * x) hx))
  obtain ⟨z, -, rfl⟩ := List.mem_map.mp hy
  exact mul_self_nonneg _

/-- Without negative members, the square of the sum exceeds the sum of the squares. -/
theorem sumSq_le_sum_sq (h : ∀ x ∈ xs, 0 ≤ x) : sumSq xs ≤ xs.sum ^ 2 := by
  induction xs with
  | nil => simp [sumSq]
  | cons x xs ih =>
    have hx := h x (.head _)
    have hxs := List.sum_nonneg fun y hy => h y (.tail _ hy)
    have hrest := ih fun y hy => h y (.tail _ hy)
    simp only [sumSq, List.map_cons, List.sum_cons] at hrest ⊢
    nlinarith [mul_nonneg hx hxs]

/-- The variance is zero exactly if every member is the mean. -/
theorem pvariance_eq_zero_iff : pvariance xs = 0 ↔ ∀ x ∈ xs, x = mean xs := by
  constructor
  · intro h x hx
    have hlen : (0 : K) < xs.length := Nat.cast_pos.mpr (List.length_pos_of_mem hx)
    have hsum := (div_eq_zero_iff.mp h).resolve_right hlen.ne'
    have hle : (x - mean xs) ^ 2 ≤ 0 := hsum ▸ List.single_le_sum (fun y hy => by
      obtain ⟨z, -, rfl⟩ := List.mem_map.mp hy
      exact sq_nonneg _) _ (List.mem_map_of_mem (f := fun x => (x - mean xs) ^ 2) hx)
    exact sub_eq_zero.mp (pow_eq_zero_iff two_ne_zero |>.mp (le_antisymm hle (sq_nonneg _)))
  · intro h
    rw [pvariance, List.sum_eq_zero, zero_div]
    intro y hy
    obtain ⟨x, hx, rfl⟩ := List.mem_map.mp hy
    rw [← h x hx, sub_self]
    ring

/-! ## Jain's index -/

/-- The index lies between one share of the list and one. -/
theorem inv_length_le_jain (h : ∀ x ∈ xs, 0 ≤ x) (hsq : 0 < sumSq xs) :
    1 / (xs.length : K) ≤ jain xs := by
  have hne : xs ≠ [] := by
    rintro rfl
    simp [sumSq] at hsq
  have hlen : (0 : K) < xs.length := Nat.cast_pos.mpr (List.length_pos_iff.mpr hne)
  rw [jain, div_le_div_iff₀ hlen (mul_pos hlen hsq), one_mul, mul_comm (xs.sum ^ 2)]
  exact mul_le_mul_of_nonneg_left (sumSq_le_sum_sq h) hlen.le

theorem jain_le_one (xs : List K) : jain xs ≤ 1 := by
  by_cases hlen : (xs.length : K) = 0
  · rw [jain, hlen, zero_mul, div_zero]
    exact zero_le_one
  · refine div_le_one_of_le₀ ?_ (mul_nonneg (Nat.cast_nonneg _) (sumSq_nonneg xs))
    rw [length_mul_sumSq hlen]
    exact le_add_of_nonneg_right (mul_nonneg (sq_nonneg _) (pvariance_nonneg xs))

end Iperf3Lib.Dispersion
