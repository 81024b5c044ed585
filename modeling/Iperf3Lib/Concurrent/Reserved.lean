import Iperf3Lib.Concurrent.Safety
import Iperf3Lib.Concurrent.Accepted

/-!
# The sweep over reservations is exact

`_validate_reservations` looks at the reservations only where one begins or ends. For records whose
admissions are numbered in the order of their offsets, and that no release precedes, this is enough:
it accepts exactly when the reservations that are held respect the limits at every instant.
-/

namespace Iperf3Lib

open Py

variable {A : Type} {e : ConcurrentPlanResult A}

/-- What the policy allows to be held together. -/
def ConcurrentExecutionPolicy.limits (policy : ConcurrentExecutionPolicy) :
    Limits (TrialRecord A) PyStr where
  keys := TrialRecord.resourceKeys
  weight := TrialRecord.targetBps
  maxCount := policy.maxWorkers
  maxWeight := policy.maxActiveTargetBps

/-- `admitted <= t < released`, where an absent release means never. -/
def TrialRecord.Occupies (record : TrialRecord A) (t : ℚ) : Prop :=
  record.status ≠ .notRun ∧ (∃ admitted ∈ record.admittedOffset, admitted.toRat ≤ t) ∧
    ∀ released ∈ record.releasedOffset, t < released.toRat

instance (record : TrialRecord A) (t : ℚ) : Decidable (record.Occupies t) :=
  inferInstanceAs (Decidable (_ ∧ _ ∧ _))

/-- The records that hold their reservation at an instant. -/
def occupants (e : ConcurrentPlanResult A) (t : ℚ) : List (TrialRecord A) :=
  e.trials.filter fun record => record.Occupies t

/-- The admissions of a list of records: numbered from one in the order of their offsets, in the
order of the declared trials within a cell, and never released before they are admitted. -/
structure Admissions (e : ConcurrentPlanResult A) : Prop where
  policy : e.policy.postInit = .ok ()
  contiguous : (admittedRecords e).map TrialRecord.admissionIndex =
    (List.range (admittedRecords e).length).map fun i => some (i + 1)
  offsets : ∀ record ∈ admittedRecords e, record.admittedOffset.isSome
  nondecreasing : (admittedRecords e).Pairwise fun left right => left.admittedOr ≤ right.admittedOr
  cells : validateCells [] e.trials = .ok ()
  released : ∀ record ∈ admittedRecords e, ∀ admitted ∈ record.admittedOffset,
    ∀ released ∈ record.releasedOffset, admitted ≤ released

/-- Limits on two descriptions of the same holders agree. -/
theorem Limits.fits_map_iff {α ι ι' κ : Type} {c : Limits ι κ} {c' : Limits ι' κ} {f : α → ι}
    {g : α → ι'} {l : List α} (hcount : c.maxCount = c'.maxCount)
    (hweight : c.maxWeight = c'.maxWeight)
    (hsame : ∀ a ∈ l, c.keys (f a) = c'.keys (g a) ∧ c.weight (f a) = c'.weight (g a)) :
    c.Fits (l.map f) ↔ c'.Fits (l.map g) := by
  have hsum : ((l.map f).map c.weight).sum = ((l.map g).map c'.weight).sum := by
    rw [List.map_map, List.map_map]
    exact congrArg List.sum (List.map_congr_left fun a ha => (hsame a ha).2)
  have hpair : ((l.map f).Pairwise fun i j => (c.keys i).Disjoint (c.keys j)) ↔
      (l.map g).Pairwise fun i j => (c'.keys i).Disjoint (c'.keys j) := by
    rw [List.pairwise_map, List.pairwise_map]
    constructor <;> refine fun h => h.imp_of_mem fun ha hb hab => ?_
    · rwa [← (hsame _ ha).1, ← (hsame _ hb).1]
    · rwa [(hsame _ ha).1, (hsame _ hb).1]
  constructor
  · rintro ⟨h₁, h₂, h₃⟩
    exact ⟨by simpa [hcount] using h₁, hsum ▸ hweight ▸ h₂, hpair.mp h₃⟩
  · rintro ⟨h₁, h₂, h₃⟩
    exact ⟨by simpa [hcount] using h₁, hsum ▸ hweight ▸ h₂, hpair.mpr h₃⟩

/-! ## The sweep -/

/-- The converse of `sweep_ok`: what the sweep lets pass respects the limits. -/
theorem sweeps_of_sweep {c : Limits ℕ PyStr} {policy : ConcurrentExecutionPolicy}
    (hcount : c.maxCount = policy.maxWorkers) (hweight : c.maxWeight = policy.maxActiveTargetBps)
    (hpos : ∀ i, 0 ≤ c.weight i) {boundaries : List (Boundary A)}
    (hrecord : ∀ b ∈ boundaries, b.record.resourceKeys = c.keys b.index ∧
      b.record.targetBps = c.weight b.index) :
    ∀ {l : List ℕ} {keys : List PyStr}, (boundaries.map Run.event).Nodup →
      (∀ i ∈ l, (true, i) ∉ boundaries.map Run.event) → l.Nodup → c.Fits l →
      (∀ key, key ∈ keys ↔ ∃ i ∈ l, key ∈ c.keys i) →
      sweep policy l (l.map c.weight).sum keys boundaries = .ok () →
      c.Sweeps l (boundaries.map Run.event) := by
  induction boundaries with
  | nil => exact fun _ _ _ _ _ _ => .nil
  | cons b boundaries ih =>
    intro l keys hevents hfresh hnodup hfits hkeys h
    obtain ⟨hbkeys, hbweight⟩ := hrecord b List.mem_cons_self
    have hrest := @ih fun b' hb' => hrecord b' (List.mem_cons_of_mem _ hb')
    rw [List.map_cons] at hevents hfresh ⊢
    obtain ⟨hnew, hevents⟩ := List.nodup_cons.mp hevents
    cases hopens : b.opens with
    | false =>
      have hevent : Run.event b = (false, b.index) := by rw [Run.event, hopens]
      rw [sweep_closing _ _ _ _ hopens] at h
      split at h
      · cases h
      · next hmem =>
        have hmem := not_not.mp hmem
        have hsum : (l.map c.weight).sum - b.record.targetBps =
            ((l.erase b.index).map c.weight).sum := by
          have := List.sum_map_erase c.weight hmem
          omega
        rw [hsum] at h
        rw [hevent]
        refine .leave hmem (hrest hevents (fun i hi hin => ?_) (hnodup.erase _)
          (hfits.sublist List.erase_sublist fun i _ => hpos i) (fun key => ?_) h)
        · exact hfresh i (List.mem_of_mem_erase hi) (List.mem_cons_of_mem _ hin)
        · rw [List.mem_filter, hkeys, hbkeys, decide_eq_true_eq]
          constructor
          · rintro ⟨⟨i, hi, hkey⟩, hnot⟩
            refine ⟨i, hnodup.mem_erase_iff.mpr ⟨?_, hi⟩, hkey⟩
            rintro rfl
            exact hnot hkey
          · rintro ⟨i, hi, hkey⟩
            obtain ⟨hne, hi⟩ := hnodup.mem_erase_iff.mp hi
            have : Std.Symm fun i j => (c.keys i).Disjoint (c.keys j) :=
              ⟨fun _ _ hij _ hj hi => hij hi hj⟩
            exact ⟨⟨i, hi, hkey⟩, fun hkey' => hfits.disjoint.forall hi hmem hne hkey hkey'⟩
    | true =>
      have hevent : Run.event b = (true, b.index) := by rw [Run.event, hopens]
      have hil : b.index ∉ l := fun hi => hfresh _ hi (hevent ▸ List.mem_cons_self)
      rw [sweep_opening _ _ _ _ (by simp [hopens]), bind_unit_eq_ok, failIf_eq_ok] at h
      obtain ⟨hfree, h⟩ := h
      dsimp only at h
      rw [if_neg hil, bind_unit_eq_ok, failIf_eq_ok, not_or, not_lt, not_lt, hbweight] at h
      obtain ⟨⟨hlength, hrate⟩, h⟩ := h
      rw [List.length_append, List.length_singleton] at hlength
      push_cast at hlength
      have hjoined : c.Fits (l ++ [b.index]) := by
        refine hfits.concat (by omega) (by omega) fun key hkey hkey' => ?_
        obtain ⟨i, hi, hkey'⟩ := List.mem_flatMap.mp hkey'
        exact hfree ⟨key, hbkeys ▸ hkey, (hkeys key).mpr ⟨i, hi, hkey'⟩⟩
      have hsum : (l.map c.weight).sum + c.weight b.index =
          ((l ++ [b.index]).map c.weight).sum := by simp
      rw [hsum, hbkeys] at h
      rw [hevent]
      refine .arrive hil hjoined (hrest hevents (fun i hi hin => ?_) ?_ hjoined (fun key => ?_) h)
      · rcases List.mem_append.mp hi with hi | hi
        · exact hfresh i hi (List.mem_cons_of_mem _ hin)
        · rw [List.mem_singleton.mp hi, ← hevent] at hin
          exact hnew hin
      · exact List.nodup_append.mpr ⟨hnodup, List.nodup_singleton _, fun i hi j hj heq =>
          hil (List.mem_singleton.mp hj ▸ heq ▸ hi)⟩
      · rw [List.mem_append, hkeys]
        simp [or_and_right, exists_or]

/-! ## The numbered reservations -/

/-- The record of an admission, by its number. -/
def recordAt (e : ConcurrentPlanResult A) (number : ℕ) : Option (TrialRecord A) :=
  (admittedRecords e)[number - 1]?

/-- What each admission reserves, by its number. -/
def numberedLimits (e : ConcurrentPlanResult A) : Limits ℕ PyStr where
  keys number := ((recordAt e number).map TrialRecord.resourceKeys).getD []
  weight number := ((recordAt e number).map TrialRecord.targetBps).getD 0
  maxCount := e.policy.maxWorkers
  maxWeight := e.policy.maxActiveTargetBps

/-- When an admission arrives or departs. -/
def timeAt (e : ConcurrentPlanResult A) : Bool × ℕ → ℚ
  | (true, number) => (((recordAt e number).bind TrialRecord.admittedOffset).map Finite64.toRat).getD 0
  | (false, number) =>
    (((recordAt e number).bind TrialRecord.releasedOffset).map Finite64.toRat).getD 0

namespace Admissions

variable (h : Admissions e)

include h

theorem admissionIndex {k : ℕ} {r : TrialRecord A} (hr : (admittedRecords e)[k]? = some r) :
    r.admissionIndex = some (k + 1) := by
  obtain ⟨hk, rfl⟩ := List.getElem?_eq_some_iff.mp hr
  have := congrArg (·[k]?) h.contiguous
  simpa [hk] using this

/-- A boundary is the arrival or the departure of a numbered record. -/
theorem mem_boundaries {b : Boundary A} : b ∈ Run.boundaries e ↔
    ∃ (k : ℕ) (r : TrialRecord A) (a : Finite64), (admittedRecords e)[k]? = some r ∧
      r.admittedOffset = some a ∧
      (∀ o ∈ r.releasedOffset, o.toRat ≠ a.toRat) ∧
      (b = ⟨a, true, k + 1, r⟩ ∨ ∃ o ∈ r.releasedOffset, b = ⟨o, false, k + 1, r⟩) := by
  rw [Run.boundaries, List.mem_insertionSort, List.mem_flatMap]
  constructor
  · rintro ⟨r, hr, hb⟩
    obtain ⟨k, hk⟩ := List.mem_iff_getElem?.mp hr
    obtain ⟨a, ha⟩ := Option.isSome_iff_exists.mp (h.offsets r hr)
    exact ⟨k, r, a, hk, ha, (TrialRecord.mem_boundaries ha (h.admissionIndex hk)).mp hb⟩
  · rintro ⟨k, r, a, hk, ha, hb⟩
    exact ⟨r, List.mem_of_getElem? hk,
      (TrialRecord.mem_boundaries ha (h.admissionIndex hk)).mpr hb⟩

theorem timeAt_event {b : Boundary A} (hb : b ∈ Run.boundaries e) :
    timeAt e (Run.event b) = b.offset.toRat := by
  obtain ⟨k, r, a, hr, ha, -, rfl | ⟨o, ho, rfl⟩⟩ := h.mem_boundaries.mp hb
  · simp [timeAt, Run.event, recordAt, hr, ha]
  · simp [timeAt, Run.event, recordAt, hr, Option.mem_def.mp ho]

theorem mem_opened {number : ℕ} : (true, number) ∈ (Run.boundaries e).map Run.event ↔
    ∃ (k : ℕ) (r : TrialRecord A) (a : Finite64), number = k + 1 ∧
      (admittedRecords e)[k]? = some r ∧ r.admittedOffset = some a ∧
      ∀ o ∈ r.releasedOffset, o.toRat ≠ a.toRat := by
  constructor
  · intro hmem
    obtain ⟨b, hb, hevent⟩ := List.mem_map.mp hmem
    obtain ⟨k, r, a, hr, ha, hne, rfl | ⟨o, ho, rfl⟩⟩ := h.mem_boundaries.mp hb
    · exact ⟨k, r, a, (congrArg Prod.snd hevent).symm, hr, ha, hne⟩
    · cases hevent
  · rintro ⟨k, r, a, rfl, hr, ha, hne⟩
    exact List.mem_map.mpr ⟨_, h.mem_boundaries.mpr ⟨k, r, a, hr, ha, hne, .inl rfl⟩, rfl⟩

theorem mem_closed {k : ℕ} {r : TrialRecord A} {a : Finite64}
    (hr : (admittedRecords e)[k]? = some r) (ha : r.admittedOffset = some a) :
    (false, k + 1) ∈ (Run.boundaries e).map Run.event ↔
      ∃ o ∈ r.releasedOffset, o.toRat ≠ a.toRat := by
  constructor
  · intro hmem
    obtain ⟨b, hb, hevent⟩ := List.mem_map.mp hmem
    obtain ⟨k', r', a', hr', ha', hne, rfl | ⟨o, ho, rfl⟩⟩ := h.mem_boundaries.mp hb
    · cases hevent
    · obtain rfl : k' = k := Nat.succ.inj (congrArg Prod.snd hevent)
      obtain rfl : r' = r := Option.some.inj (hr'.symm.trans hr)
      obtain rfl : a' = a := Option.some.inj (ha'.symm.trans ha)
      exact ⟨o, ho, hne o ho⟩
  · rintro ⟨o, ho, hne⟩
    refine List.mem_map.mpr ⟨⟨o, false, k + 1, r⟩, h.mem_boundaries.mpr ⟨k, r, a, hr, ha, ?_,
      .inr ⟨o, ho, rfl⟩⟩, rfl⟩
    intro o' ho'
    obtain rfl : o = o' := Option.some.inj ((Option.mem_def.mp ho).symm.trans ho')
    exact hne

theorem nodup_events : ((Run.boundaries e).map Run.event).Nodup :=
  Run.nodup_events fun _ _ hr => h.admissionIndex hr

theorem sorted_events :
    ((Run.boundaries e).map Run.event).Pairwise (Limits.SweepOrder (timeAt e)) := by
  rw [List.pairwise_map]
  refine (Run.boundaries_sorted e).imp_of_mem fun {b b'} hb hb' hle => ?_
  rw [Limits.SweepOrder, h.timeAt_event hb, h.timeAt_event hb']
  rcases Run.boundaryLe_iff.mp hle with hlt | ⟨hle, hkind⟩
  · exact .inl hlt
  · rcases hle.lt_or_eq with hlt | heq
    · exact .inl hlt
    · refine .inr ⟨heq, fun hclosing => ?_⟩
      rcases hkind with hkind | ⟨hkind, -⟩
      · rw [show b'.opens = false from hclosing] at hkind
        exact absurd hkind (by simp)
      · exact hkind.trans hclosing

/-- A departure is that of an earlier arrival. -/
theorem opened_of_closed (number : ℕ) (hclosed : (false, number) ∈ (Run.boundaries e).map Run.event) :
    (true, number) ∈ (Run.boundaries e).map Run.event ∧
      timeAt e (true, number) < timeAt e (false, number) := by
  obtain ⟨b, hb, hevent⟩ := List.mem_map.mp hclosed
  obtain ⟨k, r, a, hr, ha, hne, rfl | ⟨o, ho, rfl⟩⟩ := h.mem_boundaries.mp hb
  · cases hevent
  · obtain rfl : k + 1 = number := congrArg Prod.snd hevent
    refine ⟨h.mem_opened.mpr ⟨k, r, a, rfl, hr, ha, hne⟩, ?_⟩
    have hle := Finite64.le_iff.mp (h.released r (List.mem_of_getElem? hr) a ha o ho)
    have hlt : a.toRat < o.toRat := lt_of_le_of_ne hle (hne o ho).symm
    simpa [timeAt, recordAt, hr, ha, Option.mem_def.mp ho] using hlt

/-- The holders of the sweep at an instant are the numbers of the records that occupy it. -/
theorem holdsAt_iff {t : ℚ} {number : ℕ} :
    Limits.HoldsAt (timeAt e) ((Run.boundaries e).map Run.event) t number ↔
      ∃ (k : ℕ) (r : TrialRecord A), number = k + 1 ∧ (admittedRecords e)[k]? = some r ∧
        r.Occupies t := by
  have hstarted : ∀ {k : ℕ} {r : TrialRecord A}, (admittedRecords e)[k]? = some r →
      r.status ≠ .notRun := by
    intro k r hr
    have hmem := List.mem_of_getElem? hr
    rw [admittedRecords, List.mem_insertionSort] at hmem
    simpa using (List.mem_filter.mp hmem).2
  constructor
  · rintro ⟨hopened, hearlier, hlater⟩
    obtain ⟨k, r, a, rfl, hr, ha, hne⟩ := h.mem_opened.mp hopened
    refine ⟨k, r, rfl, hr, hstarted hr, ⟨a, ha, ?_⟩, fun o ho => ?_⟩
    · simpa [timeAt, recordAt, hr, ha] using hearlier
    · have := hlater ((h.mem_closed hr ha).mpr ⟨o, ho, hne o ho⟩)
      simpa [timeAt, recordAt, hr, Option.mem_def.mp ho] using this
  · rintro ⟨k, r, rfl, hr, -, ⟨a, ha, hearlier⟩, hlater⟩
    refine ⟨h.mem_opened.mpr ⟨k, r, a, rfl, hr, ha, fun o ho heq => ?_⟩, ?_, fun hclosed => ?_⟩
    · exact absurd (heq ▸ hlater o ho) (not_lt.mpr hearlier)
    · simpa [timeAt, recordAt, hr, Option.mem_def.mp ha] using hearlier
    · obtain ⟨o, ho, -⟩ := (h.mem_closed hr ha).mp hclosed
      simpa [timeAt, recordAt, hr, Option.mem_def.mp ho] using hlater o ho

/-- The holders of the sweep fit when the records that occupy the instant do. -/
theorem fits_holders_iff (t : ℚ) :
    (numberedLimits e).Fits (Limits.holders (timeAt e) ((Run.boundaries e).map Run.event) t) ↔
      (e.policy.limits (A := A)).Fits (occupants e t) := by
  let placed := (admittedRecords e).zipIdx.filter fun p => decide (p.1.Occupies t)
  have hplaced : ∀ p ∈ placed, (admittedRecords e)[p.2]? = some p.1 ∧ p.1.Occupies t := by
    intro p hp
    obtain ⟨hmem, hoccupies⟩ := List.mem_filter.mp hp
    exact ⟨List.mem_zipIdx_iff_getElem?.mp hmem, of_decide_eq_true hoccupies⟩
  have hnumbers : (placed.map fun p => p.2 + 1).Perm
      (Limits.holders (timeAt e) ((Run.boundaries e).map Run.event) t) := by
    refine (List.perm_ext_iff_of_nodup ?_ (Limits.nodup_holders h.nodup_events t)).mpr fun n => ?_
    · refine List.Nodup.map_on ?_ ?_
      · intro p hp q hq hpq
        have hindex : p.2 = q.2 := Nat.succ.inj hpq
        have hp' := (hplaced p hp).1
        rw [hindex, (hplaced q hq).1] at hp'
        exact Prod.ext (Option.some.inj hp').symm hindex
      · refine List.Nodup.filter _ (List.Nodup.of_map Prod.snd ?_)
        rw [List.zipIdx_map_snd]
        exact List.nodup_range'
    · rw [Limits.mem_holders, h.holdsAt_iff]
      simp only [placed, List.mem_map, List.mem_filter, decide_eq_true_eq, Prod.exists,
        List.mem_zipIdx_iff_getElem?]
      constructor
      · rintro ⟨r, k, ⟨hr, hoccupies⟩, rfl⟩
        exact ⟨k, r, rfl, hr, hoccupies⟩
      · rintro ⟨k, r, rfl, hr, hoccupies⟩
        exact ⟨r, k, ⟨hr, hoccupies⟩, rfl⟩
  have hrecords : (placed.map Prod.fst).Perm (occupants e t) := by
    have hfilter : placed.map Prod.fst =
        (admittedRecords e).filter fun record => decide (record.Occupies t) := by
      conv_rhs => rw [← List.zipIdx_map_fst 0 (admittedRecords e), List.filter_map]
      rfl
    have hoccupants : occupants e t =
        (e.trials.filter fun record => decide (record.status ≠ .notRun)).filter
          fun record => decide (record.Occupies t) := by
      rw [List.filter_filter, occupants]
      refine List.filter_congr fun record _ => ?_
      by_cases hoccupies : record.Occupies t
      · simp [hoccupies, hoccupies.1]
      · simp [hoccupies]
    rw [hfilter, hoccupants]
    exact (List.perm_insertionSort _ _).filter _
  have hsame : (numberedLimits e).Fits (placed.map fun p => p.2 + 1) ↔
      (e.policy.limits (A := A)).Fits (placed.map Prod.fst) := by
    refine Limits.fits_map_iff rfl rfl fun p hp => ?_
    simp [numberedLimits, recordAt, (hplaced p hp).1, ConcurrentExecutionPolicy.limits]
  constructor
  · exact fun hfits => (hsame.mp (hfits.perm hnumbers.symm)).perm hrecords
  · exact fun hfits => (hsame.mpr (hfits.perm hrecords.symm)).perm hnumbers

end Admissions

/-! ## Exactness -/

/-- The validator of the reservations accepts exactly when at every instant the reservations that are
held respect the limits of workers, of the target rate and of the keys. -/
theorem validateReservations_exact (e : ConcurrentPlanResult A) (h : Admissions e)
    (htargets : ∀ record ∈ e.trials, 0 ≤ record.targetBps) :
    validateReservations e = .ok () ↔
      ∀ t : ℚ, (e.policy.limits (A := A)).Fits (occupants e t) := by
  obtain ⟨hworkers, hrate⟩ : 0 < e.policy.maxWorkers ∧ 0 < e.policy.maxActiveTargetBps := by
    have := h.policy
    simpa [ConcurrentExecutionPolicy.postInit, bind_unit_eq_ok, reject_eq_ok] using this
  have hadmitted : ∀ {k : ℕ} {r : TrialRecord A}, (admittedRecords e)[k]? = some r →
      r ∈ e.trials := by
    intro k r hr
    have hmem := List.mem_of_getElem? hr
    rw [admittedRecords, List.mem_insertionSort] at hmem
    exact List.mem_of_mem_filter hmem
  have hpos : ∀ number, 0 ≤ (numberedLimits e).weight number := by
    intro number
    unfold numberedLimits recordAt
    dsimp only
    cases hr : (admittedRecords e)[number - 1]? with
    | none => simp
    | some r => simpa using htargets r (hadmitted hr)
  have hnil : (numberedLimits e).Fits [] := .nil hworkers.le hrate.le
  have hrecord : ∀ b ∈ Run.boundaries e, b.record.resourceKeys = (numberedLimits e).keys b.index ∧
      b.record.targetBps = (numberedLimits e).weight b.index := by
    intro b hb
    obtain ⟨k, r, a, hr, -, -, rfl | ⟨o, -, rfl⟩⟩ := h.mem_boundaries.mp hb <;>
      simp [numberedLimits, recordAt, hr]
  have hsweep : validateReservations e = .ok () ↔
      sweep e.policy [] 0 [] (Run.boundaries e) = .ok () := by
    simp only [validateReservations, bind_unit_eq_ok, failIf_eq_ok, not_not]
    refine ⟨fun hall => hall.2.2.2, fun hsweep => ⟨h.contiguous, ?_, h.cells, hsweep⟩⟩
    rw [List.all_eq_true]
    exact fun p hp => decide_eq_true (forall_mem_zip_tail h.nondecreasing p hp)
  have hline := Limits.sweeps_iff_fits (c := numberedLimits e) h.nodup_events h.sorted_events
    h.opened_of_closed hnil hpos
  rw [hsweep]
  constructor
  · intro hok t
    refine (h.fits_holders_iff t).mp (hline.mp ?_ t)
    exact sweeps_of_sweep (c := numberedLimits e) rfl rfl hpos hrecord h.nodup_events (by simp) .nil
      hnil (by simp) hok
  · intro hfits
    have hsweeps := hline.mpr fun t => (h.fits_holders_iff t).mpr (hfits t)
    exact Run.sweep_ok (c := numberedLimits e) rfl rfl hrecord hsweeps .nil .nil (by simp)

/-- A record of the given target that holds its reservation from zero up to the release. -/
def heldRecord (index : ℕ) (target : ℤ) (cell : PyStr) (released : Option Finite64) :
    TrialRecord Unit where
  spec := { singleTrial with cellId := cell }
  status := if released.isSome then .native .completed else .cleanupFailed
  resourceKeys := [cell]
  targetBps := target
  admissionIndex := some index
  admittedOffset := some (.zero false)
  releasedOffset := released

/-- Two records of two cells within one second; the first one is released at its end. -/
def heldPair (first second : ℤ) : ConcurrentPlanResult Unit where
  plan := singlePlan none
  policy := ⟨2, 8⟩
  resources := (singleAdmission none).resources
  trials := [heldRecord 1 first "a" (some oneSecond), heldRecord 2 second "b" none]
  startedAt := .zero false
  completedAt := oneSecond
  elapsed := oneSecond
  stopReason := none
  stoppedOffset := none
  terminationReason := none
  terminationOffset := none
  timeout := none

theorem admissions_heldPair (first second : ℤ) : Admissions (heldPair first second) where
  policy := rfl
  contiguous := rfl
  offsets := by
    intro record hmem
    rw [admittedRecords, List.mem_insertionSort] at hmem
    rcases List.mem_cons.mp (List.mem_of_mem_filter hmem) with rfl | hmem
    · rfl
    · obtain rfl := List.mem_singleton.mp hmem
      rfl
  nondecreasing := by
    have hrecords : admittedRecords (heldPair first second) = (heldPair first second).trials := rfl
    rw [hrecords]
    simp [heldPair, heldRecord, TrialRecord.admittedOr]
  cells := rfl
  released := by
    intro record hmem admitted hadmitted released hreleased
    rw [admittedRecords, List.mem_insertionSort] at hmem
    rcases List.mem_cons.mp (List.mem_of_mem_filter hmem) with rfl | hmem
    · obtain rfl := Option.some.inj hadmitted
      obtain rfl := Option.some.inj hreleased
      decide +kernel
    · obtain rfl := List.mem_singleton.mp hmem
      cases hreleased

/-- With a negative target the sweep does not see that a release raises the rate: behind the release
of `-5` a target of 10 exceeds the limit of 8. -/
theorem reservations_negative_target : Admissions (heldPair (-5) 10) ∧
    validateReservations (heldPair (-5) 10) = .ok () ∧
    ¬ ((heldPair (-5) 10).policy.limits (A := Unit)).Fits (occupants (heldPair (-5) 10) 1) := by
  refine ⟨admissions_heldPair _ _, by decide +kernel, fun hfits => ?_⟩
  have hoccupants : ((occupants (heldPair (-5) 10) 1).map TrialRecord.targetBps).sum = 10 := by
    decide +kernel
  have hweight := hfits.weight
  rw [show (heldPair (-5) 10).policy.limits.weight = TrialRecord.targetBps from rfl,
    hoccupants] at hweight
  exact absurd hweight (by decide)

/-- The same records with targets of 5 and 3 fit at every instant. -/
theorem validateReservations_exact_pair :
    validateReservations (heldPair 5 3) = .ok () ∧
      ∀ t : ℚ, ((heldPair 5 3).policy.limits (A := Unit)).Fits (occupants (heldPair 5 3) t) := by
  have haccepted : validateReservations (heldPair 5 3) = .ok () := by decide +kernel
  refine ⟨haccepted, (validateReservations_exact _ (admissions_heldPair 5 3) ?_).mp haccepted⟩
  intro record hmem
  rcases List.mem_cons.mp hmem with rfl | hmem
  · decide
  · obtain rfl := List.mem_singleton.mp hmem
    decide

end Iperf3Lib
