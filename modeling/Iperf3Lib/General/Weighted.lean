import Mathlib.Algebra.BigOperators.Group.List.Basic
import Mathlib.Algebra.BigOperators.Ring.List
import Mathlib.Algebra.Order.BigOperators.Group.List
import Mathlib.Algebra.Order.Ring.Defs
import Mathlib.Data.List.Perm.Basic
import Mathlib.Tactic.Linarith
import Mathlib.Tactic.Ring

/-!
# Weighted values

Items with a value and a weight. `mass` is the weight of the items with a property. `reach` goes over
the items, adds up their weights and stops at the value with which the sum reaches a target; where
the values ascend, this is the least value up to which the mass reaches the target, however items of
one value are ordered. The weighted sum of the values lies between the bounds of the values.
-/

namespace Iperf3Lib.Weighted

variable {ι α K : Type}

/-! ## Mass -/

section Mass

variable [AddCommGroup K]

/-- The weight of the items with a property. -/
def mass (w : ι → K) (p : ι → Bool) (xs : List ι) : K := ((xs.filter p).map w).sum

@[simp] theorem mass_nil (w : ι → K) (p : ι → Bool) : mass w p [] = 0 := rfl

theorem mass_cons_of_pos {w : ι → K} {p : ι → Bool} {x : ι} (h : p x = true) (xs : List ι) :
    mass w p (x :: xs) = w x + mass w p xs := by
  simp only [mass, List.filter_cons_of_pos h, List.map_cons, List.sum_cons]

theorem mass_cons_of_neg {w : ι → K} {p : ι → Bool} {x : ι} (h : ¬ p x = true) (xs : List ι) :
    mass w p (x :: xs) = mass w p xs := by
  simp only [mass, List.filter_cons_of_neg h]

/-- No item has the property. -/
theorem mass_eq_zero {w : ι → K} {p : ι → Bool} {xs : List ι} (h : ∀ x ∈ xs, ¬ p x = true) :
    mass w p xs = 0 := by
  rw [mass, List.filter_eq_nil_iff.mpr h, List.map_nil, List.sum_nil]

/-- Every item has the property. -/
theorem mass_eq_sum {w : ι → K} {p : ι → Bool} {xs : List ι} (h : ∀ x ∈ xs, p x = true) :
    mass w p xs = (xs.map w).sum := by
  rw [mass, List.filter_eq_self.mpr h]

/-- The mass does not depend on the order. -/
theorem mass_perm {w : ι → K} {p : ι → Bool} {xs ys : List ι} (h : xs.Perm ys) :
    mass w p xs = mass w p ys :=
  ((h.filter p).map w).sum_eq

variable [LinearOrder K] [IsOrderedAddMonoid K]

theorem mass_nonneg {w : ι → K} {p : ι → Bool} {xs : List ι} (hw : ∀ x ∈ xs, 0 ≤ w x) :
    0 ≤ mass w p xs := by
  apply List.sum_nonneg
  intro a ha
  obtain ⟨x, hx, rfl⟩ := List.mem_map.mp ha
  exact hw x (List.mem_of_mem_filter hx)

/-- More items have more mass. -/
theorem mass_le_mass {w : ι → K} {p q : ι → Bool} {xs : List ι} (hw : ∀ x ∈ xs, 0 ≤ w x)
    (hpq : ∀ x ∈ xs, p x = true → q x = true) : mass w p xs ≤ mass w q xs := by
  induction xs with
  | nil => exact le_rfl
  | cons x xs ih =>
    have hle := ih (fun y hy => hw y (.tail _ hy)) fun y hy => hpq y (.tail _ hy)
    have hx := hw x (.head _)
    by_cases hp : p x = true
    · rw [mass_cons_of_pos hp, mass_cons_of_pos (hpq x (.head _) hp)]
      exact add_le_add_right hle _
    · rw [mass_cons_of_neg hp]
      by_cases hq : q x = true
      · rw [mass_cons_of_pos hq]
        exact hle.trans (le_add_of_nonneg_left hx)
      · rw [mass_cons_of_neg hq]
        exact hle

end Mass

/-! ## Reaching a target -/

section Reach

variable [AddCommGroup K] [LinearOrder K] {v : ι → α} {w : ι → K} {target c : K} {xs : List ι} {a : α}

/-- The value at which the weights, added up from `c` on, reach the target. -/
def reach (v : ι → α) (w : ι → K) (target : K) : K → List ι → Option α
  | _, [] => none
  | c, x :: xs => if target ≤ c + w x then some (v x) else reach v w target (c + w x) xs

/-- It is the value of an item. -/
theorem exists_mem_of_reach (h : reach v w target c xs = some a) : ∃ x ∈ xs, v x = a := by
  induction xs generalizing c with
  | nil => cases h
  | cons x xs ih =>
    rw [reach] at h
    split at h
    · exact ⟨x, .head _, Option.some.inj h⟩
    · obtain ⟨y, hy, rfl⟩ := ih h
      exact ⟨y, .tail _ hy, rfl⟩

/-- A target within the total is reached. -/
theorem exists_reach (hxs : xs ≠ []) (h : target ≤ c + (xs.map w).sum) :
    ∃ a, reach v w target c xs = some a := by
  induction xs generalizing c with
  | nil => exact absurd rfl hxs
  | cons x xs ih =>
    rw [reach]
    split
    · exact ⟨_, rfl⟩
    · next hc =>
      rw [List.map_cons, List.sum_cons, ← add_assoc] at h
      by_cases hnil : xs = []
      · rw [hnil, List.map_nil, List.sum_nil, add_zero] at h
        exact absurd h hc
      · exact ih hnil h

variable [LinearOrder α] [IsOrderedAddMonoid K]

/-- The items up to the value reach the target. -/
theorem target_le_of_reach (hw : ∀ x ∈ xs, 0 ≤ w x) (hsorted : xs.Pairwise fun x y => v x ≤ v y)
    (h : reach v w target c xs = some a) : target ≤ c + mass w (fun x => v x ≤ a) xs := by
  induction xs generalizing c with
  | nil => cases h
  | cons x xs ih =>
    have hw' : ∀ y ∈ xs, 0 ≤ w y := fun y hy => hw y (.tail _ hy)
    rw [reach] at h
    split at h
    · next hc =>
      obtain rfl := Option.some.inj h
      rw [mass_cons_of_pos (by simp), ← add_assoc]
      exact hc.trans (le_add_of_nonneg_right (mass_nonneg hw'))
    · obtain ⟨y, hy, rfl⟩ := exists_mem_of_reach h
      rw [mass_cons_of_pos (by simpa using List.rel_of_pairwise_cons hsorted hy), ← add_assoc]
      exact ih hw' hsorted.of_cons h

/-- The items below the value do not reach the target, unless nothing was needed. -/
theorem lt_target_of_reach (hw : ∀ x ∈ xs, 0 ≤ w x) (hsorted : xs.Pairwise fun x y => v x ≤ v y)
    (hc : c < target) (h : reach v w target c xs = some a) :
    c + mass w (fun x => v x < a) xs < target := by
  induction xs generalizing c with
  | nil => cases h
  | cons x xs ih =>
    have hw' : ∀ y ∈ xs, 0 ≤ w y := fun y hy => hw y (.tail _ hy)
    rw [reach] at h
    split at h
    · obtain rfl := Option.some.inj h
      -- the walk stops at the least value, below which there is no item
      rw [mass_eq_zero, add_zero]
      · exact hc
      · intro y hy
        rw [decide_eq_true_eq, not_lt]
        rcases List.mem_cons.mp hy with rfl | hy
        · exact le_rfl
        · exact List.rel_of_pairwise_cons hsorted hy
    · next hstop =>
      have hlt := ih hw' hsorted.of_cons (not_le.mp hstop) h
      by_cases hx : v x < a
      · rw [mass_cons_of_pos (by simpa using hx), ← add_assoc]
        exact hlt
      · rw [mass_cons_of_neg (by simpa using hx)]
        exact (add_le_add_left (le_add_of_nonneg_right (hw x (.head _))) _).trans_lt hlt

/-- The items up to a smaller value of an item do not reach the target. -/
theorem lt_target_of_mem_of_lt (hw : ∀ x ∈ xs, 0 ≤ w x)
    (hsorted : xs.Pairwise fun x y => v x ≤ v y) (h : reach v w target c xs = some a) {x : ι}
    (hx : x ∈ xs) (hlt : v x < a) : c + mass w (fun y => v y ≤ v x) xs < target := by
  -- the walk went over the item, so that its target was not reached before
  have hc : c < target := by
    cases xs with
    | nil => cases h
    | cons y ys =>
      rw [reach] at h
      split at h
      · obtain rfl := Option.some.inj h
        rcases List.mem_cons.mp hx with rfl | hx
        · exact absurd hlt (lt_irrefl _)
        · exact absurd hlt (not_lt.mpr (List.rel_of_pairwise_cons hsorted hx))
      · next hstop => exact (le_add_of_nonneg_right (hw y (.head _))).trans_lt (not_le.mp hstop)
  refine (add_le_add_right (mass_le_mass hw fun y _ hy => ?_) c).trans_lt
    (lt_target_of_reach hw hsorted hc h)
  exact decide_eq_true ((of_decide_eq_true hy).trans_lt hlt)

end Reach

/-! ## Weighted sums -/

section Sum

variable [CommRing K] [LinearOrder K] [IsStrictOrderedRing K] {v w : ι → K} {xs : List ι} {b : K}

/-- The values are bounded from below. -/
theorem mul_sum_le_sum_mul (hw : ∀ x ∈ xs, 0 ≤ w x) (hb : ∀ x ∈ xs, b ≤ v x) :
    b * (xs.map w).sum ≤ (xs.map fun x => w x * v x).sum := by
  rw [← List.sum_map_mul_left]
  apply List.sum_le_sum
  intro x hx
  rw [mul_comm]
  exact mul_le_mul_of_nonneg_left (hb x hx) (hw x hx)

/-- The values are bounded from above. -/
theorem sum_mul_le_mul_sum (hw : ∀ x ∈ xs, 0 ≤ w x) (hb : ∀ x ∈ xs, v x ≤ b) :
    (xs.map fun x => w x * v x).sum ≤ b * (xs.map w).sum := by
  rw [← List.sum_map_mul_left]
  apply List.sum_le_sum
  intro x hx
  rw [mul_comm b]
  exact mul_le_mul_of_nonneg_left (hb x hx) (hw x hx)

end Sum

end Iperf3Lib.Weighted
