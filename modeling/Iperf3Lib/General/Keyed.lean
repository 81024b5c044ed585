import Mathlib.Data.List.Nodup
import Mathlib.Data.List.Forall2
import Mathlib.Data.List.Range
import Mathlib.Data.List.Sort
import Mathlib.Tactic.Common

/-!
# Lists of items with distinct keys

A dictionary is a list of its items, whose keys are distinct. A lookup finds exactly the items. When
the keys are the numbers below some bound, the values can be listed in the order of their keys; sorting values by
keys that are consecutive numbers brings each to its place.
-/

namespace Iperf3Lib

variable {κ α : Type} [DecidableEq κ] {l : List (κ × α)}

theorem lookup_eq_some_iff_mem (hnodup : (l.map Prod.fst).Nodup) {k : κ} {a : α} :
    l.lookup k = some a ↔ (k, a) ∈ l := by
  induction l with
  | nil => simp
  | cons item l ih =>
    obtain ⟨k', a'⟩ := item
    rw [List.map_cons, List.nodup_cons] at hnodup
    by_cases hk : k = k'
    · subst hk
      have hnot : (k, a) ∉ l := fun hmem => hnodup.1 (List.mem_map.mpr ⟨_, hmem, rfl⟩)
      simp [hnot, eq_comm]
    · have hk' : (k == k') = false := by simpa using hk
      simp [List.lookup_cons, hk', hk, ih hnodup.2]

/-- Items with distinct keys are determined by their keys. -/
theorem eq_of_mem_of_nodup_keys (hnodup : (l.map Prod.fst).Nodup) {k : κ} {a b : α}
    (ha : (k, a) ∈ l) (hb : (k, b) ∈ l) : a = b :=
  Option.some.inj
    (((lookup_eq_some_iff_mem hnodup).mpr ha).symm.trans ((lookup_eq_some_iff_mem hnodup).mpr hb))

section SortByKey

variable {β : Type} [LinearOrder β] {f : α → β} {r : α → α → Prop} [DecidableRel r]

theorem pairwise_insertionSort_of_key (hr : ∀ a b, r a b ↔ f a ≤ f b) (values : List α) :
    (values.insertionSort r).Pairwise r := by
  have hsorted := List.pairwise_insertionSort (r := (· ≤ ·)) (values.map f)
  rw [← List.map_insertionSort (r := r) (s := (· ≤ ·)) f values fun a _ b _ => hr a b,
    List.pairwise_map] at hsorted
  exact hsorted.imp fun hab => (hr _ _).mpr hab

/-- The keys of a list sorted by them depend on the keys alone. -/
theorem map_insertionSort_key_congr (hr : ∀ a b, r a b ↔ f a ≤ f b) {values values' : List α}
    (h : (values.map f).Perm (values'.map f)) :
    (values.insertionSort r).map f = (values'.insertionSort r).map f := by
  rw [List.map_insertionSort (r := r) (s := (· ≤ ·)) f values fun a _ b _ => hr a b,
    List.map_insertionSort (r := r) (s := (· ≤ ·)) f values' fun a _ b _ => hr a b]
  exact List.Perm.eq_of_pairwise' (r := (· ≤ ·)) (List.pairwise_insertionSort _ _)
    (List.pairwise_insertionSort _ _) ((List.perm_insertionSort _ _).trans
      (h.trans (List.perm_insertionSort _ _).symm))

end SortByKey

/-- What holds between any two items of a list in their order holds of its neighbours. -/
theorem forall_mem_zip_tail {R : α → α → Prop} {values : List α} (h : values.Pairwise R) :
    ∀ p ∈ values.zip values.tail, R p.1 p.2 := by
  induction values with
  | nil => simp
  | cons a values ih =>
    rw [List.pairwise_cons] at h
    cases values with
    | nil => simp
    | cons b values =>
      intro p hp
      rcases List.mem_cons.mp hp with rfl | hp
      · exact h.1 b List.mem_cons_self
      · exact ih h.2 p hp

end Iperf3Lib
