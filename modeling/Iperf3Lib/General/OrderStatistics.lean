import Mathlib.Data.List.Forall2
import Mathlib.Data.List.Sort
import Mathlib.Order.MinMax
import Mathlib.Tactic.Common

/-!
# Order statistics

What a sorted list says of the list it was sorted from. Sorting forgets the order of a list, and it
keeps lists in their pointwise order: if no member of a list exceeds the member of another list in
its place, then neither does the `k`-th least one.
-/

namespace Iperf3Lib

variable {α : Type} [LinearOrder α] {xs ys : List α} {a b : α}

theorem pairwise_insertionSort_le (xs : List α) : (xs.insertionSort (· ≤ ·)).Pairwise (· ≤ ·) :=
  List.pairwise_insertionSort (· ≤ ·) xs

/-- Lists of the same members are sorted into the same list. -/
theorem insertionSort_eq_of_perm (h : xs.Perm ys) :
    xs.insertionSort (· ≤ ·) = ys.insertionSort (· ≤ ·) :=
  List.Perm.eq_of_pairwise (fun _ _ _ _ hab hba => le_antisymm hab hba)
    (pairwise_insertionSort_le xs) (pairwise_insertionSort_le ys)
    (((List.perm_insertionSort _ xs).trans h).trans (List.perm_insertionSort _ ys).symm)

/-- Distinct members are sorted into a strictly increasing list. -/
theorem pairwise_insertionSort_lt (h : xs.Nodup) : (xs.insertionSort (· ≤ ·)).Pairwise (· < ·) :=
  (pairwise_insertionSort_le xs).imp₂ (fun _ _ hle hne => lt_of_le_of_ne hle hne)
    ((List.perm_insertionSort _ xs).nodup_iff.mpr h)

/-- Nothing of a strictly increasing list lies between two neighbours. -/
theorem not_mem_of_adjacent (h : xs.Pairwise (· < ·)) (hpair : (a, b) ∈ xs.zip xs.tail) {m : α}
    (ha : a < m) (hb : m < b) : m ∉ xs := by
  induction xs with
  | nil => exact List.not_mem_nil
  | cons x rest ih =>
    cases rest with
    | nil => exact absurd hpair List.not_mem_nil
    | cons y rest =>
      have hx : ∀ z ∈ y :: rest, x < z := fun _ hz => List.rel_of_pairwise_cons h hz
      have hy : ∀ z ∈ rest, y < z := fun _ hz => List.rel_of_pairwise_cons h.of_cons hz
      rcases List.mem_cons.mp hpair with heq | htail
      · obtain ⟨rfl, rfl⟩ := Prod.mk.inj heq
        intro hm
        rcases List.mem_cons.mp hm with rfl | hm
        · exact lt_irrefl _ ha
        · rcases List.mem_cons.mp hm with rfl | hm
          · exact lt_irrefl _ hb
          · exact lt_asymm hb (hy m hm)
      · intro hm
        rcases List.mem_cons.mp hm with rfl | hm
        · have hmem : a ∈ y :: rest := (List.of_mem_zip htail).1
          exact lt_asymm ha (hx a hmem)
        · exact ih h.of_cons htail hm

/-- A member that is least stays in front. -/
theorem orderedInsert_eq_cons (h : (a :: xs).Pairwise (· ≤ ·)) :
    xs.orderedInsert (· ≤ ·) a = a :: xs := by
  cases xs with
  | nil => rfl
  | cons x xs => rw [List.orderedInsert, if_pos (List.rel_of_pairwise_cons h (.head _))]

/-- Insertion keeps sorted lists in their pointwise order. -/
theorem forall₂_orderedInsert (hab : a ≤ b) (hxs : xs.Pairwise (· ≤ ·)) (hys : ys.Pairwise (· ≤ ·))
    (h : List.Forall₂ (· ≤ ·) xs ys) :
    List.Forall₂ (· ≤ ·) (xs.orderedInsert (· ≤ ·) a) (ys.orderedInsert (· ≤ ·) b) := by
  induction h generalizing a b with
  | nil => exact .cons hab .nil
  | @cons x y xs ys hxy h ih =>
    rw [List.orderedInsert, List.orderedInsert]
    by_cases hax : a ≤ x
    · by_cases hby : b ≤ y
      · rw [if_pos hax, if_pos hby]
        exact .cons hab (.cons hxy h)
      · -- the inserted members change places: the head of each list is moved on
        rw [if_pos hax, if_neg hby]
        refine .cons (hax.trans hxy) ?_
        rw [← orderedInsert_eq_cons hxs]
        exact ih (hxy.trans (not_le.mp hby).le) hxs.of_cons hys.of_cons
    · by_cases hby : b ≤ y
      · rw [if_neg hax, if_pos hby]
        refine .cons ((not_le.mp hax).le.trans hab) ?_
        rw [← orderedInsert_eq_cons hys]
        exact ih (hab.trans hby) hxs.of_cons hys.of_cons
      · rw [if_neg hax, if_neg hby]
        exact .cons hxy (ih hab hxs.of_cons hys.of_cons)

/-- Sorting keeps lists in their pointwise order. -/
theorem forall₂_insertionSort (h : List.Forall₂ (· ≤ ·) xs ys) :
    List.Forall₂ (· ≤ ·) (xs.insertionSort (· ≤ ·)) (ys.insertionSort (· ≤ ·)) := by
  induction h with
  | nil => exact .nil
  | cons hab _ ih =>
    exact forall₂_orderedInsert hab (pairwise_insertionSort_le _) (pairwise_insertionSort_le _) ih

/-- Members that are not greater have no greater maximum. -/
theorem exists_max?_le (h : List.Forall₂ (fun x y => y ≤ x) xs ys) (ha : xs.max? = some a) :
    ∃ b, ys.max? = some b ∧ b ≤ a := by
  have hxs : xs ≠ [] := by
    rintro rfl
    cases ha
  have hys : ys ≠ [] := fun hnil => hxs (List.length_eq_zero_iff.mp (by rw [h.length_eq, hnil]; rfl))
  refine ⟨ys.max hys, List.max?_eq_some_max hys, ?_⟩
  obtain ⟨k, hk, hmax⟩ := List.mem_iff_getElem.mp (List.max_mem hys)
  rw [← hmax]
  exact (h.get (h.length_eq ▸ hk) hk).trans
    ((List.max?_eq_some_iff.mp ha).2 _ (List.getElem_mem _))

end Iperf3Lib
