import Mathlib.Data.List.Nodup
import Mathlib.Algebra.BigOperators.Group.List.Basic
import Mathlib.Algebra.Order.BigOperators.Group.List
import Mathlib.Algebra.Order.Ring.Int
import Mathlib.Tactic.Common

/-!
# Exclusive reservations within limits

Holders of reservations each occupy one place, a weight, and keys that no other holder may share.
A list of holders `Fits` when it respects all three. Holders join one at a time and leave in any
order. `Sweeps` replays a sequence of arrivals and departures; `sweeps_of_pairwise` accepts a sorted
sequence when at each arrival those who may still be there fit together with the newcomer, and
`sweeps_iff_fits` says that a sweep line decides whether the holders fit at every instant.
-/

namespace Iperf3Lib

/-- What each holder reserves, and the limits on the holders together. -/
structure Limits (ι κ : Type) where
  keys : ι → List κ
  weight : ι → ℤ
  maxCount : ℤ
  maxWeight : ℤ

namespace Limits

variable {ι κ : Type} (c : Limits ι κ)

/-- The holders respect the limits together. -/
structure Fits (l : List ι) : Prop where
  count : (l.length : ℤ) ≤ c.maxCount
  weight : (l.map c.weight).sum ≤ c.maxWeight
  disjoint : l.Pairwise fun i j => (c.keys i).Disjoint (c.keys j)

variable {c}

theorem Fits.nil (hcount : 0 ≤ c.maxCount) (hweight : 0 ≤ c.maxWeight) : c.Fits [] :=
  ⟨by simpa using hcount, by simpa using hweight, .nil⟩

/-- Holders may leave. -/
theorem Fits.sublist {l l' : List ι} (h : c.Fits l) (hl : l'.Sublist l)
    (hpos : ∀ i ∈ l, 0 ≤ c.weight i) : c.Fits l' := by
  refine ⟨?_, ?_, h.disjoint.sublist hl⟩
  · have := hl.length_le
    have := h.count
    omega
  · refine le_trans (List.Sublist.sum_le_sum (hl.map c.weight) ?_) h.weight
    intro w hw
    obtain ⟨i, hi, rfl⟩ := List.mem_map.mp hw
    exact hpos i hi

/-- The order of the holders does not matter. -/
theorem Fits.perm {l l' : List ι} (h : c.Fits l) (hl : l.Perm l') : c.Fits l' := by
  refine ⟨?_, ?_, ?_⟩
  · rw [← hl.length_eq]
    exact h.count
  · rw [← (hl.map c.weight).sum_eq]
    exact h.weight
  · refine (hl.pairwise_iff ?_).mp h.disjoint
    intro i j hij key hj hi
    exact hij hi hj

/-- A holder may join when there is a place, the weight suffices and its keys are free. -/
theorem Fits.concat {l : List ι} {i : ι} (h : c.Fits l) (hcount : (l.length : ℤ) < c.maxCount)
    (hweight : (l.map c.weight).sum + c.weight i ≤ c.maxWeight)
    (hfree : (c.keys i).Disjoint (l.flatMap c.keys)) : c.Fits (l ++ [i]) := by
  refine ⟨?_, by simpa using hweight, ?_⟩
  · rw [List.length_append, List.length_singleton]
    push_cast
    omega
  · rw [List.pairwise_append]
    refine ⟨h.disjoint, List.pairwise_singleton _ _, fun j hj k hk => ?_⟩
    rw [List.mem_singleton.mp hk]
    intro key hkey hkey'
    exact hfree hkey' (List.mem_flatMap.mpr ⟨j, hj, hkey⟩)

/-- Holders may be among others that fit. -/
theorem Fits.subset {l l' : List ι} (h : c.Fits l) (hnodup : l'.Nodup) (hsub : l' ⊆ l)
    (hpos : ∀ i ∈ l, 0 ≤ c.weight i) : c.Fits l' := by
  obtain ⟨l'', hperm, hl⟩ := List.subperm_of_subset hnodup hsub
  exact (h.sublist hl hpos).perm hperm

/-! ## Sweeps -/

/-- Arrivals (`true`) and departures (`false`) that respect the limits, from the given holders on. -/
inductive Sweeps [DecidableEq ι] (c : Limits ι κ) : List ι → List (Bool × ι) → Prop
  | nil {l} : Sweeps c l []
  | arrive {l i events} : i ∉ l → c.Fits (l ++ [i]) → Sweeps c (l ++ [i]) events →
      Sweeps c l ((true, i) :: events)
  | leave {l i events} : i ∈ l → Sweeps c (l.erase i) events → Sweeps c l ((false, i) :: events)

variable [DecidableEq ι]

/-- A sorted sequence is a sweep when no departure precedes its arrival and, at each arrival, those
who arrived earlier and leave later fit together with the newcomer. -/
theorem sweeps_of_pairwise {R : Bool × ι → Bool × ι → Prop} {events : List (Bool × ι)}
    (hnodup : events.Nodup) (hsorted : events.Pairwise R)
    (hopened : ∀ i, (false, i) ∈ events → (true, i) ∈ events ∧ ¬ R (false, i) (true, i))
    (hfits : ∀ i l, (true, i) ∈ events → l.Nodup → i ∉ l →
      (∀ j ∈ l, (true, j) ∈ events ∧ R (true, j) (true, i) ∧
        ((false, j) ∈ events → R (true, i) (false, j))) → c.Fits (l ++ [i])) :
    Sweeps c [] events := by
  -- the holders behind a prefix are those who arrived in it and did not leave in it
  have hsuffix : ∀ (rest past : List (Bool × ι)) (l : List ι), past ++ rest = events → l.Nodup →
      (∀ j, j ∈ l ↔ (true, j) ∈ past ∧ (false, j) ∉ past) → Sweeps c l rest := by
    intro rest
    induction rest with
    | nil => exact fun _ _ _ _ _ => .nil
    | cons e rest ih =>
      intro past l hevents hl hmem
      subst hevents
      obtain ⟨hpast, hrest, hapart⟩ := List.nodup_append.mp hnodup
      obtain ⟨-, hsortedRest, hbefore⟩ := List.pairwise_append.mp hsorted
      have hnew : ∀ e', e' ∈ past → e' ≠ e := fun e' he' => hapart e' he' e List.mem_cons_self
      have hnext : (past ++ [e]) ++ rest = past ++ e :: rest := by simp
      obtain ⟨opens, i⟩ := e
      cases opens with
      | true =>
        have hil : i ∉ l := fun hi => hnew _ ((hmem i).mp hi).1 rfl
        refine .arrive hil (hfits i l (by simp) hl hil fun j hj => ?_)
          (ih (past ++ [(true, i)]) _ hnext ?_ fun j => ?_)
        · obtain ⟨hj, hj'⟩ := (hmem j).mp hj
          refine ⟨List.mem_append_left _ hj, hbefore _ hj _ List.mem_cons_self, fun hleave => ?_⟩
          rcases List.mem_append.mp hleave with hleave | hleave
          · exact absurd hleave hj'
          · rcases List.mem_cons.mp hleave with heq | hleave
            · cases heq
            · exact (List.pairwise_cons.mp hsortedRest).1 _ hleave
        · exact List.nodup_append.mpr ⟨hl, List.nodup_singleton _, fun j hj k hk heq =>
            hil (List.mem_singleton.mp hk ▸ heq ▸ hj)⟩
        · have hi : (false, i) ∉ past := by
            intro hi
            obtain ⟨hopen, hlate⟩ := hopened i (List.mem_append_left _ hi)
            exact hlate (hbefore _ hi _ List.mem_cons_self)
          simp only [List.mem_append, List.mem_singleton, Prod.mk.injEq, true_and, hmem,
            Bool.false_eq_true, false_and, or_false]
          constructor
          · rintro (h | rfl)
            · exact ⟨.inl h.1, h.2⟩
            · exact ⟨.inr rfl, hi⟩
          · rintro ⟨h | rfl, h'⟩
            · exact .inl ⟨h, h'⟩
            · exact .inr rfl
      | false =>
        have harrived : (true, i) ∈ past := by
          obtain ⟨hopen, hlate⟩ := hopened i (by simp)
          rcases List.mem_append.mp hopen with hopen | hopen
          · exact hopen
          · rcases List.mem_cons.mp hopen with heq | hopen
            · cases heq
            · exact absurd ((List.pairwise_cons.mp hsortedRest).1 _ hopen) hlate
        refine .leave ((hmem i).mpr ⟨harrived, fun h => hnew _ h rfl⟩)
          (ih (past ++ [(false, i)]) _ hnext (hl.erase i) fun j => ?_)
        rw [hl.mem_erase_iff, hmem]
        simp only [List.mem_append, List.mem_singleton, Prod.mk.injEq, true_and, Bool.true_eq_false,
          false_and, or_false, not_or]
        tauto
  exact hsuffix events [] [] rfl .nil (by simp)

/-! ## Instants -/

/-- The holders behind a sequence of arrivals and departures. -/
def after : List ι → List (Bool × ι) → List ι
  | l, [] => l
  | l, (true, i) :: events => after (l ++ [i]) events
  | l, (false, i) :: events => after (l.erase i) events

/-- Behind every prefix of a sweep the holders fit. -/
theorem Sweeps.fits_after {l : List ι} {past rest : List (Bool × ι)} (h : c.Sweeps l (past ++ rest))
    (hl : c.Fits l) (hpos : ∀ i, 0 ≤ c.weight i) : c.Fits (after l past) := by
  induction past generalizing l with
  | nil => exact hl
  | cons e past ih =>
    rw [List.cons_append] at h
    cases h with
    | arrive _ hfits hrest => exact ih hrest hfits
    | leave _ hrest => exact ih hrest (hl.sublist List.erase_sublist fun i _ => hpos i)

/-- Whoever holds behind a prefix arrived in it and did not leave in it. -/
theorem Sweeps.mem_after {l : List ι} {past rest : List (Bool × ι)} (h : c.Sweeps l (past ++ rest))
    (hl : l.Nodup) (hpast : past.Nodup) (hfresh : ∀ i ∈ l, (true, i) ∉ past) :
    (after l past).Nodup ∧
      ∀ i, i ∈ after l past ↔ (i ∈ l ∨ (true, i) ∈ past) ∧ (false, i) ∉ past := by
  induction past generalizing l with
  | nil => simp [after, hl]
  | cons e past ih =>
    rw [List.cons_append] at h
    obtain ⟨hnew, hrestPast⟩ := List.nodup_cons.mp hpast
    cases h with
    | @arrive _ i _ hi _ hrest =>
      have hnodup : (l ++ [i]).Nodup := List.nodup_append.mpr ⟨hl, List.nodup_singleton _,
        fun j hj k hk heq => hi (List.mem_singleton.mp hk ▸ heq ▸ hj)⟩
      obtain ⟨hafter, hmem⟩ := ih hrest hnodup hrestPast fun j hj => by
        rcases List.mem_append.mp hj with hj | hj
        · exact fun hin => hfresh j hj (List.mem_cons_of_mem _ hin)
        · rw [List.mem_singleton.mp hj]
          exact hnew
      refine ⟨hafter, fun j => ?_⟩
      rw [show after l ((true, i) :: past) = after (l ++ [i]) past from rfl, hmem]
      simp [or_assoc]
    | @leave _ i _ hi hrest =>
      obtain ⟨hafter, hmem⟩ := ih hrest (hl.erase i) hrestPast fun j hj hin =>
        hfresh j (List.mem_of_mem_erase hj) (List.mem_cons_of_mem _ hin)
      refine ⟨hafter, fun j => ?_⟩
      rw [show after l ((false, i) :: past) = after (l.erase i) past from rfl, hmem,
        hl.mem_erase_iff]
      have hback : (true, i) ∉ past := fun hin => hfresh i hi (List.mem_cons_of_mem _ hin)
      by_cases hji : j = i
      · subst hji
        simp [hback]
      · simp [hji]

section Instants

variable {T : Type} [LinearOrder T] (time : Bool × ι → T)

/-- The order of a sweep line: by time, departures before arrivals. -/
def SweepOrder (a b : Bool × ι) : Prop :=
  time a < time b ∨ (time a = time b ∧ (b.1 = false → a.1 = false))

/-- Who holds at an instant: from the arrival on and before the departure. -/
def HoldsAt (events : List (Bool × ι)) (t : T) (i : ι) : Prop :=
  (true, i) ∈ events ∧ time (true, i) ≤ t ∧ ((false, i) ∈ events → t < time (false, i))

instance (events : List (Bool × ι)) (t : T) (i : ι) : Decidable (HoldsAt time events t i) :=
  inferInstanceAs (Decidable (_ ∧ _ ∧ _))

variable {time}

omit [DecidableEq ι] in
theorem SweepOrder.le {a b : Bool × ι} (h : SweepOrder time a b) : time a ≤ time b := by
  rcases h with h | ⟨h, -⟩
  · exact h.le
  · exact h.le

omit [DecidableEq ι] in
/-- In a sorted sequence the events up to an instant come first. -/
theorem mem_takeWhile_iff {events : List (Bool × ι)} (hsorted : events.Pairwise (SweepOrder time))
    {t : T} {e : Bool × ι} :
    e ∈ events.takeWhile (fun e => decide (time e ≤ t)) ↔ e ∈ events ∧ time e ≤ t := by
  induction events with
  | nil => simp
  | cons a events ih =>
    obtain ⟨hhead, htail⟩ := List.pairwise_cons.mp hsorted
    by_cases ha : time a ≤ t
    · rw [List.takeWhile_cons_of_pos (by simpa using ha), List.mem_cons, ih htail, List.mem_cons]
      constructor
      · rintro (rfl | ⟨he, ht⟩)
        · exact ⟨.inl rfl, ha⟩
        · exact ⟨.inr he, ht⟩
      · rintro ⟨rfl | he, ht⟩
        · exact .inl rfl
        · exact .inr ⟨he, ht⟩
    · rw [List.takeWhile_cons_of_neg (by simpa using ha)]
      refine ⟨fun h => absurd h List.not_mem_nil, fun ⟨he, ht⟩ => absurd ?_ ha⟩
      rcases List.mem_cons.mp he with rfl | he
      · exact ht
      · exact (hhead e he).le.trans ht

/-- The holders at an instant, as a list. -/
def holders (time : Bool × ι → T) (events : List (Bool × ι)) (t : T) : List ι :=
  (events.filter fun e => e.1 && decide (HoldsAt time events t e.2)).map Prod.snd

theorem mem_holders {events : List (Bool × ι)} {t : T} {i : ι} :
    i ∈ holders time events t ↔ HoldsAt time events t i := by
  simp only [holders, List.mem_map, List.mem_filter, Bool.and_eq_true, decide_eq_true_eq]
  constructor
  · rintro ⟨e, ⟨-, -, he⟩, rfl⟩
    exact he
  · exact fun h => ⟨(true, i), ⟨h.1, rfl, h⟩, rfl⟩

theorem nodup_holders {events : List (Bool × ι)} (hnodup : events.Nodup) (t : T) :
    (holders time events t).Nodup := by
  refine List.Nodup.map_on ?_ (hnodup.filter _)
  intro a ha b hb hab
  have ha : a.1 = true := ((Bool.and_eq_true _ _).mp (List.mem_filter.mp ha).2).1
  have hb : b.1 = true := ((Bool.and_eq_true _ _).mp (List.mem_filter.mp hb).2).1
  exact Prod.ext (ha.trans hb.symm) hab

/-- A sweep line is exact: a sorted sequence of arrivals and later departures respects the limits
step by step when and only when the holders fit at every instant. -/
theorem sweeps_iff_fits {events : List (Bool × ι)} (hnodup : events.Nodup)
    (hsorted : events.Pairwise (SweepOrder time))
    (hopened : ∀ i, (false, i) ∈ events → (true, i) ∈ events ∧ time (true, i) < time (false, i))
    (hnil : c.Fits []) (hpos : ∀ i, 0 ≤ c.weight i) :
    c.Sweeps [] events ↔ ∀ t, c.Fits (holders time events t) := by
  constructor
  · intro h t
    have hsplit := List.takeWhile_append_dropWhile (p := fun e => decide (time e ≤ t)) (l := events)
    rw [← hsplit] at h
    obtain ⟨hafter, hmem⟩ := h.mem_after .nil
      (hnodup.sublist (List.takeWhile_sublist _)) (by simp)
    refine (h.fits_after hnil hpos).perm ((List.perm_ext_iff_of_nodup hafter
      (nodup_holders hnodup t)).mpr fun i => ?_)
    rw [hmem, mem_holders, mem_takeWhile_iff hsorted, mem_takeWhile_iff hsorted]
    simp only [List.not_mem_nil, false_or, HoldsAt, not_and, not_le, and_assoc]
  · intro h
    refine sweeps_of_pairwise hnodup hsorted (fun i hi => ?_) fun i l hi hl hil hbefore => ?_
    · obtain ⟨hopen, hlt⟩ := hopened i hi
      exact ⟨hopen, fun hlate => absurd hlate.le (not_le.mpr hlt)⟩
    · -- at the arrival of `i` all of them hold
      refine (h (time (true, i))).subset ?_ ?_ fun j _ => hpos j
      · exact List.nodup_append.mpr ⟨hl, List.nodup_singleton _,
          fun j hj k hk heq => hil (List.mem_singleton.mp hk ▸ heq ▸ hj)⟩
      · intro j hj
        rw [mem_holders]
        rcases List.mem_append.mp hj with hj | hj
        · obtain ⟨harrived, hearlier, hlater⟩ := hbefore j hj
          refine ⟨harrived, hearlier.le, fun hleave => ?_⟩
          rcases hlater hleave with hlt | ⟨-, hkind⟩
          · exact hlt
          · exact absurd (hkind rfl) (by simp)
        · rw [List.mem_singleton.mp hj]
          exact ⟨hi, le_rfl, fun hleave => (hopened i hleave).2⟩

end Instants

end Limits

end Iperf3Lib
