import Iperf3Lib.Concurrent.Outcomes

/-!
# The validator accepts every run

What is left of the validator are the reservations: the numbering of the admissions, the order within
a cell, and the sweep over the intervals. The sweep looks at each admission for those who opened
before it and close behind it. The scheduler had them all in its set of active children, which fits
the limits.
-/

namespace Iperf3Lib

open Py Ipc

namespace Run

variable {A : Type} {x : Setup A} {s t : Run A} {parse : IpParser} {lower : PyStr → PyStr}
  {e : ConcurrentPlanResult A}

/-! ## The places of the records -/

/-- The record of a trial that was admitted as number `k`, counted from zero. -/
structure Placed (x : Setup A) (s : Run A) (i : ℕ) (r : TrialRecord A) (k : ℕ)
    (entry : Admitted) : Prop where
  log : s.admittedLog[k]? = some entry
  index : entry.index = i
  admissionIndex : r.admissionIndex = some (k + 1)
  admitted : r.admittedOffset = some entry.admitted
  keys : r.resourceKeys = x.keys i
  target : r.targetBps = x.target i
  released : ∀ o, r.releasedOffset = some o → entry.admitted ≤ o
  started : r.status ≠ .notRun
  spec : x.trials[i]? = some r.spec

theorem Written.started {index : ℕ} {r : TrialRecord A} {spec : TrialSpec} {owned : Owned A}
    {result : TaskResult A} (hw : Written x s index r t spec owned result) : r.status ≠ .notRun := by
  have hsound := settle_sound x t result
  have hstatus : r.status = (t.settle x result).status := hw.record ▸ rfl
  rw [hstatus]
  generalize t.settle x result = settled at hsound ⊢
  cases hsound with
  | native a => simp
  | exception => simp
  | interrupted status _ hinterrupted =>
    rintro rfl
    cases hinterrupted

/-- Every record has its place in the log of admissions. -/
theorem exists_placed (h : History x s) {index : ℕ} {r : TrialRecord A}
    (hr : (index, r) ∈ s.records) : ∃ k entry, Placed x s index r k entry := by
  obtain ⟨t, spec, owned, result, hw⟩ := h.records index r hr
  obtain ⟨k, entry, hk, hindex, hadmission, hadmitted, hpast⟩ := hw.log
  refine ⟨k, entry, hk, hindex, ?_, ?_, ?_, ?_, ?_, hw.started, ?_⟩
  · rw [hw.record, record, hadmission]
  · rw [hw.record, record, hadmitted]
  · rw [hw.record, record]
  · rw [hw.record, record]
  · intro o ho
    rw [hw.record, record] at ho
    dsimp only at ho
    split at ho
    · rw [← Option.some.inj ho]
      exact hpast.le_offset
    · cases ho
  · rw [hw.record, record]
    exact hw.spec

/-- The records that are not of unstarted trials are those that `consume` wrote. -/
theorem filter_trials_perm (h : History x s) (he : Assembled x s e) :
    (e.trials.filter fun r => r.status ≠ .notRun).Perm (s.records.map Prod.snd) := by
  have hperm := he.perm.filter fun r => decide (r.status ≠ .notRun)
  have hran : (s.records.map Prod.snd).filter (fun r => decide (r.status ≠ .notRun)) =
      s.records.map Prod.snd := by
    refine List.filter_eq_self.mpr fun r hr => ?_
    obtain ⟨⟨i, r⟩, hmem, rfl⟩ := List.mem_map.mp hr
    obtain ⟨k, entry, hplaced⟩ := exists_placed h hmem
    exact decide_eq_true hplaced.started
  have hpending : ∀ items : List (ℕ × TrialRecord A), (∀ item ∈ items, item.2.status = .notRun) →
      (items.map Prod.snd).filter (fun r => decide (r.status ≠ .notRun)) = [] := by
    intro items hitems
    refine List.filter_eq_nil_iff.mpr fun r hr => ?_
    obtain ⟨item, hmem, rfl⟩ := List.mem_map.mp hr
    simp [hitems item hmem]
  rw [allRecords, List.map_append, List.filter_append, hran, hpending, List.append_nil] at hperm
  · exact hperm
  · intro item hitem
    obtain ⟨i, -, hspec⟩ := List.mem_filterMap.mp hitem
    obtain ⟨spec, -, rfl⟩ := Option.map_eq_some_iff.mp hspec
    rfl

theorem mem_admittedRecords (h : History x s) (he : Assembled x s e) {r : TrialRecord A} :
    r ∈ admittedRecords e ↔ ∃ i, (i, r) ∈ s.records := by
  rw [admittedRecords, List.mem_insertionSort, (filter_trials_perm h he).mem_iff, List.mem_map]
  constructor
  · rintro ⟨⟨i, r⟩, hr, rfl⟩
    exact ⟨i, hr⟩
  · rintro ⟨i, hr⟩
    exact ⟨(i, r), hr, rfl⟩

/-- A record of the result is of the trial that is declared in its place. -/
theorem Assembled.spec (h : History x s) (he : Assembled x s e) {i : ℕ} {r : TrialRecord A}
    (hr : e.trials[i]? = some r) : x.trials[i]? = some r.spec := by
  rcases he.cases hr with hmem | ⟨-, spec, hspec, rfl⟩
  · obtain ⟨k, entry, hplaced⟩ := exists_placed h hmem
    exact hplaced.spec
  · exact hspec

/-- The sweep passes over a sequence of arrivals and departures that respects the limits. -/
theorem sweep_ok {c : Limits ℕ PyStr} {policy : ConcurrentExecutionPolicy}
    (hcount : c.maxCount = policy.maxWorkers) (hweight : c.maxWeight = policy.maxActiveTargetBps)
    {boundaries : List (Boundary A)}
    (hrecord : ∀ b ∈ boundaries, b.record.resourceKeys = c.keys b.index ∧
      b.record.targetBps = c.weight b.index) :
    ∀ {l : List ℕ} {keys : List PyStr}, c.Sweeps l (boundaries.map fun b => (b.opens, b.index)) →
      l.Nodup → (l.Pairwise fun i j => (c.keys i).Disjoint (c.keys j)) →
      (∀ key, key ∈ keys ↔ ∃ i ∈ l, key ∈ c.keys i) →
      sweep policy l (l.map c.weight).sum keys boundaries = .ok () := by
  induction boundaries with
  | nil => exact fun _ _ _ _ => rfl
  | cons b boundaries ih =>
    intro l keys hsweeps hnodup hdisjoint hkeys
    obtain ⟨hbkeys, hbweight⟩ := hrecord b List.mem_cons_self
    have hrest := @ih fun b' hb' => hrecord b' (List.mem_cons_of_mem _ hb')
    rw [List.map_cons] at hsweeps
    cases hopens : b.opens with
    | false =>
      rw [hopens] at hsweeps
      cases hsweeps with
      | leave hmem hsweeps =>
        have hsum : (l.map c.weight).sum - b.record.targetBps =
            ((l.erase b.index).map c.weight).sum := by
          have := List.sum_map_erase c.weight hmem
          omega
        rw [sweep_closing _ _ _ _ hopens, if_neg (not_not.mpr hmem), hsum]
        refine hrest hsweeps (hnodup.erase _) (hdisjoint.sublist List.erase_sublist) fun key => ?_
        rw [List.mem_filter, hkeys, hbkeys, decide_eq_true_eq]
        constructor
        · rintro ⟨⟨i, hi, hkey⟩, hnot⟩
          refine ⟨i, (hnodup.mem_erase_iff).mpr ⟨?_, hi⟩, hkey⟩
          rintro rfl
          exact hnot hkey
        · rintro ⟨i, hi, hkey⟩
          obtain ⟨hne, hi⟩ := hnodup.mem_erase_iff.mp hi
          refine ⟨⟨i, hi, hkey⟩, fun hkey' => ?_⟩
          have : Std.Symm fun i j => (c.keys i).Disjoint (c.keys j) :=
            ⟨fun _ _ hij _ hj hi => hij hi hj⟩
          exact hdisjoint.forall hi hmem hne hkey hkey'
    | true =>
      rw [hopens] at hsweeps
      cases hsweeps with
      | arrive hnew hfits hsweeps =>
        obtain ⟨hlength, hsum, hpairwise⟩ := hfits
        have happart := (List.pairwise_append.mp hpairwise).2.2
        rw [sweep_opening _ _ _ _ (by simp [hopens]), bind_unit_eq_ok, failIf_eq_ok]
        refine ⟨?_, ?_⟩
        · rintro ⟨key, hkey, hmem⟩
          obtain ⟨i, hi, hkey'⟩ := (hkeys key).mp hmem
          exact happart i hi b.index (by simp) hkey' (hbkeys ▸ hkey)
        · dsimp only
          rw [if_neg hnew, bind_unit_eq_ok, failIf_eq_ok, hbweight]
          rw [List.map_append, List.sum_append, List.map_singleton, List.sum_singleton] at hsum
          refine ⟨by omega, ?_⟩
          have hrate : (l.map c.weight).sum + c.weight b.index =
              ((l ++ [b.index]).map c.weight).sum := by simp
          rw [hrate, hbkeys]
          refine hrest hsweeps ?_ hpairwise fun key => ?_
          · exact List.nodup_append.mpr ⟨hnodup, List.nodup_singleton _, fun i hi j hj heq =>
              hnew (List.mem_singleton.mp hj ▸ heq ▸ hi)⟩
          · rw [List.mem_append, hkeys]
            simp [or_and_right, exists_or]

/-! ## The intervals -/

/-- The trial of an admission, by its number. -/
def trialAt (s : Run A) (number : ℕ) : ℕ :=
  ((s.admittedLog[number - 1]?).map Admitted.index).getD 0

/-- What each admission reserves, by its number. -/
def numbered (x : Setup A) (s : Run A) : Limits ℕ PyStr where
  keys number := x.keys (s.trialAt number)
  weight number := x.target (s.trialAt number)
  maxCount := x.admission.policy.maxWorkers
  maxWeight := x.admission.policy.maxActiveTargetBps

theorem Placed.trialAt {i k : ℕ} {r : TrialRecord A} {entry : Admitted}
    (hp : Placed x s i r k entry) : s.trialAt (k + 1) = i := by
  simp [Run.trialAt, hp.log, hp.index]

/-- The arrival and the departure of a boundary. -/
def event (b : Boundary A) : Bool × ℕ := (b.opens, b.index)

/-- The boundaries of a record that has its place. -/
theorem Placed.mem_boundaries {i k : ℕ} {r : TrialRecord A} {entry : Admitted}
    (hp : Placed x s i r k entry) {b : Boundary A} : b ∈ r.boundaries ↔
      (∀ o ∈ r.releasedOffset, o.toRat ≠ entry.admitted.toRat) ∧
        (b = ⟨entry.admitted, true, k + 1, r⟩ ∨
          ∃ o ∈ r.releasedOffset, b = ⟨o, false, k + 1, r⟩) :=
  TrialRecord.mem_boundaries hp.admitted hp.admissionIndex

/-- The sorted boundaries of the admitted records. -/
def boundaries (e : ConcurrentPlanResult A) : List (Boundary A) :=
  List.insertionSort Boundary.le ((admittedRecords e).flatMap TrialRecord.boundaries)

theorem boundaryLe_iff {b b' : Boundary A} : b.le b' ↔ b.offset.toRat < b'.offset.toRat ∨
    (b.offset.toRat ≤ b'.offset.toRat ∧
      (b.opens < b'.opens ∨ (b.opens = b'.opens ∧ b.index ≤ b'.index))) := by
  simp only [Boundary.le, Finite64.lt_iff, not_lt]

theorem boundaries_sorted (e : ConcurrentPlanResult A) : (boundaries e).Pairwise Boundary.le := by
  have htotal : Std.Total (Boundary.le (A := A)) := by
    refine ⟨fun b b' => ?_⟩
    rw [boundaryLe_iff, boundaryLe_iff]
    rcases lt_trichotomy b.offset.toRat b'.offset.toRat with hlt | heq | hlt
    · exact .inl (.inl hlt)
    · rcases lt_trichotomy b.opens b'.opens with ho | ho | ho
      · exact .inl (.inr ⟨heq.le, .inl ho⟩)
      · rcases le_total b.index b'.index with hi | hi
        · exact .inl (.inr ⟨heq.le, .inr ⟨ho, hi⟩⟩)
        · exact .inr (.inr ⟨heq.ge, .inr ⟨ho.symm, hi⟩⟩)
      · exact .inr (.inr ⟨heq.ge, .inl ho⟩)
    · exact .inr (.inl hlt)
  have htrans : IsTrans (Boundary A) Boundary.le := by
    refine ⟨fun b b' b'' h h' => ?_⟩
    rw [boundaryLe_iff] at h h' ⊢
    rcases h with h | ⟨hle, h⟩
    · rcases h' with h' | ⟨hle', -⟩
      · exact .inl (h.trans h')
      · exact .inl (h.trans_le hle')
    · rcases h' with h' | ⟨hle', h'⟩
      · exact .inl (hle.trans_lt h')
      · refine .inr ⟨hle.trans hle', ?_⟩
        rcases h with h | ⟨heq, h⟩
        · rcases h' with h' | ⟨heq', -⟩
          · exact .inl (h.trans h')
          · exact .inl (heq' ▸ h)
        · rcases h' with h' | ⟨heq', h'⟩
          · exact .inl (heq ▸ h')
          · exact .inr ⟨heq.trans heq', h.trans h'⟩
  exact List.pairwise_insertionSort _ _

theorem mem_boundaries (h : History x s) (he : Assembled x s e) {b : Boundary A} :
    b ∈ boundaries e ↔ ∃ i r, (i, r) ∈ s.records ∧ b ∈ r.boundaries := by
  rw [boundaries, List.mem_insertionSort, List.mem_flatMap]
  constructor
  · rintro ⟨r, hr, hb⟩
    obtain ⟨i, hi⟩ := (mem_admittedRecords h he).mp hr
    exact ⟨i, r, hi, hb⟩
  · rintro ⟨i, r, hr, hb⟩
    exact ⟨r, (mem_admittedRecords h he).mpr ⟨i, hr⟩, hb⟩

/-- The time of an arrival or a departure. -/
def timeOf (s : Run A) : Bool × ℕ → ℚ
  | (true, number) => ((s.admittedLog[number - 1]?).map fun entry => entry.admitted.toRat).getD 0
  | (false, number) => (((s.records.lookup (s.trialAt number)).bind
      TrialRecord.releasedOffset).map Finite64.toRat).getD 0

/-- Arrivals and departures are distinct when the admissions are numbered from one. -/
theorem nodup_events (hindex : ∀ k r, (admittedRecords e)[k]? = some r →
    r.admissionIndex = some (k + 1)) : ((boundaries e).map event).Nodup := by
  have hnumber : ∀ {r : TrialRecord A} {k : ℕ}, (admittedRecords e)[k]? = some r →
      ∀ a ∈ r.boundaries.map event, a.2 = k + 1 := by
    intro r k hr a ha
    obtain ⟨b, hb, rfl⟩ := List.mem_map.mp ha
    cases hadmitted : r.admittedOffset with
    | none => simp [TrialRecord.boundaries, hadmitted] at hb
    | some admitted =>
      rcases ((TrialRecord.mem_boundaries hadmitted (hindex k r hr)).mp hb).2 with rfl | ⟨o, -, rfl⟩
        <;> rfl
  have hperm : ((boundaries e).map event).Perm
      (((admittedRecords e).flatMap TrialRecord.boundaries).map event) :=
    (List.perm_insertionSort _ _).map event
  rw [hperm.nodup_iff, List.map_flatMap, List.nodup_flatMap]
  constructor
  · intro r _
    unfold TrialRecord.boundaries
    split
    · split
      · split <;> simp [event]
      · simp
    · simp
  · refine List.pairwise_iff_getElem.mpr fun k k' hk hk' hlt => ?_
    intro a ha ha'
    have := hnumber (List.getElem?_eq_getElem hk) a ha
    have := hnumber (List.getElem?_eq_getElem hk') a ha'
    omega

end Run

end Iperf3Lib
