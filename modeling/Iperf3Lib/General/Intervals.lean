import Mathlib.Order.Interval.Set.Basic
import Mathlib.Data.List.Forall2
import Mathlib.Data.List.Pairwise
import Mathlib.Tactic.Common

/-!
# Sorted intervals

Closed intervals in the order of their starts are compared with their neighbours only. A relation
that a later start weakens holds of two neighbours as soon as it holds of any two members, so that
neighbours show every overlap. Where nothing overlaps they show every gap as well: the intervals
cover all points from the first start to the last end exactly if each one begins no later than the
one in front of it ends.
-/

namespace Iperf3Lib

variable {α K : Type}

/-- Two neighbours of the list are related. -/
def anyAdjacent (r : α → α → Bool) (xs : List α) : Bool :=
  (xs.zip xs.tail).any fun p => r p.1 p.2

@[simp] theorem anyAdjacent_nil (r : α → α → Bool) : anyAdjacent r [] = false := rfl

@[simp] theorem anyAdjacent_singleton (r : α → α → Bool) (a : α) : anyAdjacent r [a] = false := rfl

@[simp] theorem anyAdjacent_cons_cons (r : α → α → Bool) (a b : α) (xs : List α) :
    anyAdjacent r (a :: b :: xs) = (r a b || anyAdjacent r (b :: xs)) := rfl

/-- Related lists agree on what a relation says of neighbours that respects them. -/
theorem anyAdjacent_congr {R : α → α → Prop} {r : α → α → Bool}
    (hr : ∀ a a' b b', R a a' → R b b' → r a b = r a' b') {xs ys : List α}
    (h : List.Forall₂ R xs ys) : anyAdjacent r xs = anyAdjacent r ys := by
  induction h with
  | nil => rfl
  | cons hab htail ih =>
    cases htail with
    | nil => rfl
    | cons hcd _ => rw [anyAdjacent_cons_cons, anyAdjacent_cons_cons, hr _ _ _ _ hab hcd, ih]

/-- Two members of the list are related, the earlier one to the later one. -/
def SomeBefore (R : α → α → Prop) (xs : List α) : Prop :=
  ∃ (i j : ℕ) (hij : i < j) (hj : j < xs.length), R xs[i] xs[j]

theorem not_someBefore {R : α → α → Prop} {xs : List α} :
    ¬ SomeBefore R xs ↔ xs.Pairwise fun a b => ¬ R a b := by
  rw [List.pairwise_iff_getElem]
  constructor
  · intro h i j _ hj hij hR
    exact h ⟨i, j, hij, hj, hR⟩
  · rintro h ⟨i, j, hij, hj, hR⟩
    exact h i j _ hj hij hR

section Sorted

variable {r : α → α → Bool} {le : α → α → Prop}

/-- In a sorted list, a relation that a later member weakens holds of no two members unless it holds
of two neighbours. -/
theorem anyAdjacent_eq_false_iff (hanti : ∀ a b c, le b c → r a c = true → r a b = true)
    {xs : List α} (hsorted : xs.Pairwise le) :
    anyAdjacent r xs = false ↔ xs.Pairwise fun a b => ¬ r a b = true := by
  induction xs with
  | nil => simp
  | cons a xs ih =>
    cases xs with
    | nil => simp
    | cons b xs =>
      have htail := (List.pairwise_cons.mp hsorted).2
      rw [anyAdjacent_cons_cons, Bool.or_eq_false_iff, List.pairwise_cons (a := a), ih htail]
      refine and_congr_left fun _ => ?_
      constructor
      · intro hab c hc
        rcases List.mem_cons.mp hc with rfl | hc
        · rw [hab]
          exact Bool.false_ne_true
        · -- what relates to `c` relates to `b`, which stands in front of `c`
          intro hac
          have hbc := (List.pairwise_cons.mp htail).1 c hc
          rw [hanti a b c hbc hac] at hab
          cases hab
      · intro h
        exact Bool.eq_false_iff.mpr (h b List.mem_cons_self)

theorem anyAdjacent_iff_someBefore (hanti : ∀ a b c, le b c → r a c = true → r a b = true)
    {xs : List α} (hsorted : xs.Pairwise le) :
    anyAdjacent r xs = true ↔ SomeBefore (fun a b => r a b = true) xs := by
  have hfalse := anyAdjacent_eq_false_iff hanti hsorted
  rw [← not_someBefore] at hfalse
  rw [← not_iff_not, ← hfalse, Bool.not_eq_true]

end Sorted

/-! ## Gaps -/

section Gaps

variable [LinearOrder K] {start stop : α → K}

/-- Every point between a start and an end lies in one of the intervals. -/
def Covers (start stop : α → K) (xs : List α) : Prop :=
  ∀ t, (∃ a ∈ xs, start a ≤ t) → (∃ b ∈ xs, t ≤ stop b) → ∃ c ∈ xs, t ∈ Set.Icc (start c) (stop c)

/-- Intervals that touch or overlap their neighbours leave nothing out. -/
theorem covers_of_anyAdjacent_eq_false {xs : List α}
    (hsorted : xs.Pairwise fun a b => start a ≤ start b)
    (h : anyAdjacent (fun a b => decide (stop a < start b)) xs = false) : Covers start stop xs := by
  induction xs with
  | nil =>
    rintro t ⟨a, ha, -⟩
    cases ha
  | cons a xs ih =>
    rintro t ⟨a', ha', hlow⟩ ⟨b, hb, hhigh⟩
    have hfirst : start a ≤ t := by
      rcases List.mem_cons.mp ha' with rfl | ha'
      · exact hlow
      · exact ((List.pairwise_cons.mp hsorted).1 a' ha').trans hlow
    by_cases hin : t ≤ stop a
    · exact ⟨a, List.mem_cons_self, hfirst, hin⟩
    -- a later point lies behind the start of the next interval
    · have hmem : b ∈ xs := by
        rcases List.mem_cons.mp hb with rfl | hb
        · exact absurd hhigh hin
        · exact hb
      cases xs with
      | nil => cases hmem
      | cons c xs =>
        rw [anyAdjacent_cons_cons, Bool.or_eq_false_iff, decide_eq_false_iff_not, not_lt] at h
        have hnext : start c ≤ t := h.1.trans (not_le.mp hin).le
        obtain ⟨d, hd, hcover⟩ := ih (List.pairwise_cons.mp hsorted).2 h.2 t
          ⟨c, List.mem_cons_self, hnext⟩ ⟨b, hmem, hhigh⟩
        exact ⟨d, List.mem_cons_of_mem _ hd, hcover⟩

/-- Intervals behind one another do not cover a point between two neighbours that do not touch. -/
theorem not_covers_of_anyAdjacent [DenselyOrdered K] {xs : List α}
    (hproper : ∀ a ∈ xs, start a ≤ stop a) (hdisjoint : xs.Pairwise fun a b => stop a ≤ start b)
    (h : anyAdjacent (fun a b => decide (stop a < start b)) xs = true) :
    ∃ t, (∃ a ∈ xs, start a ≤ t) ∧ (∃ b ∈ xs, t ≤ stop b) ∧ ∀ c ∈ xs, t < start c ∨ stop c < t := by
  induction xs with
  | nil => cases h
  | cons a xs ih =>
    obtain ⟨hbefore, htail⟩ := List.pairwise_cons.mp hdisjoint
    have hproper' : ∀ b ∈ xs, start b ≤ stop b := fun b hb => hproper b (List.mem_cons_of_mem _ hb)
    cases xs with
    | nil => cases h
    | cons b xs =>
      rw [anyAdjacent_cons_cons, Bool.or_eq_true, decide_eq_true_eq] at h
      have hb : b ∈ b :: xs := List.mem_cons_self
      rcases h with hgap | hrest
      · obtain ⟨t, hlow, hhigh⟩ := exists_between hgap
        refine ⟨t, ⟨a, List.mem_cons_self, (hproper a List.mem_cons_self).trans hlow.le⟩,
          ⟨b, List.mem_cons_of_mem _ hb, hhigh.le.trans (hproper' b hb)⟩, ?_⟩
        intro c hc
        rcases List.mem_cons.mp hc with rfl | hc
        · exact .inr hlow
        rcases List.mem_cons.mp hc with rfl | hc
        · exact .inl hhigh
        · have hbc := (List.pairwise_cons.mp htail).1 c hc
          exact .inl (hhigh.trans_le ((hproper' b hb).trans hbc))
      · obtain ⟨t, ⟨d, hd, hlow⟩, ⟨e, he, hhigh⟩, hout⟩ := ih hproper' htail hrest
        refine ⟨t, ⟨d, List.mem_cons_of_mem _ hd, hlow⟩, ⟨e, List.mem_cons_of_mem _ he, hhigh⟩, ?_⟩
        intro c hc
        rcases List.mem_cons.mp hc with rfl | hc
        · -- the point is no earlier than some later start
          rcases (hbefore d hd).trans hlow |>.lt_or_eq with hlt | heq
          · exact .inr hlt
          · rcases hout d hd with h' | h'
            · exact absurd hlow h'.not_ge
            · exact .inr ((hbefore d hd).trans_lt ((hproper' d hd).trans_lt h'))
        · exact hout c hc

/-- Intervals behind one another cover everything exactly if no neighbours leave a gap. -/
theorem covers_iff_anyAdjacent_eq_false [DenselyOrdered K] {xs : List α}
    (hproper : ∀ a ∈ xs, start a ≤ stop a) (hdisjoint : xs.Pairwise fun a b => stop a ≤ start b) :
    anyAdjacent (fun a b => decide (stop a < start b)) xs = false ↔ Covers start stop xs := by
  constructor
  · refine covers_of_anyAdjacent_eq_false (List.Pairwise.imp_of_mem ?_ hdisjoint)
    intro a b ha _ hab
    exact (hproper a ha).trans hab
  · intro hcovers
    rw [Bool.eq_false_iff]
    intro hgap
    obtain ⟨t, hlow, hhigh, hout⟩ := not_covers_of_anyAdjacent hproper hdisjoint hgap
    obtain ⟨c, hc, hle, hge⟩ := hcovers t hlow hhigh
    rcases hout c hc with h | h
    · exact absurd hle h.not_ge
    · exact absurd hge h.not_ge

end Gaps

end Iperf3Lib
