import Iperf3Lib.General.Reservations
import Iperf3Lib.Concurrent.Invariant

/-!
# Safety and progress of the scheduler

`Accounts` holds at every await point of every run: the trials are partitioned, the active ones fit
the limits, predecessors are recorded, and each child was sent at most one cancellation.
-/

namespace Iperf3Lib

open Py

/-- What each trial reserves and the limits of the policy. -/
def Setup.limits {A : Type} (x : Setup A) : Limits ℕ PyStr where
  keys := x.keys
  weight := x.target
  maxCount := x.admission.policy.maxWorkers
  maxWeight := x.admission.policy.maxActiveTargetBps

namespace Run

variable {A : Type} {x : Setup A} {s : Run A} {parse : IpParser}

/-- The trials that were admitted, in their order. -/
def admittedIndices (s : Run A) : List ℕ := s.admittedLog.map Admitted.index

/-- The trials whose children were sent a cancellation. -/
def cancelledIndices (s : Run A) : List ℕ := s.cancelledLog.map Prod.fst

/-- The trials with a record. -/
def recordedIndices (s : Run A) : List ℕ := s.records.map Prod.fst

theorem recorded_iff {index : ℕ} : s.recorded index = true ↔ index ∈ s.recordedIndices := by
  simp [recorded, recordedIndices]

/-- What the scheduler keeps account of. -/
structure Accounts (x : Setup A) (s : Run A) : Prop where
  partition : (s.pending ++ (s.activeIndices ++ s.recordedIndices)).Perm
    (List.range x.trials.length)
  sorted : s.pending.Pairwise (· < ·)
  log : s.admittedIndices.Perm (s.activeIndices ++ s.recordedIndices)
  admissions : s.admissions = s.admittedLog.length
  unstopped : ∀ e ∈ s.admittedLog, e.stopReason = none
  fits : x.limits.Fits s.activeIndices
  predecessor : ∀ index ∈ s.admittedIndices, ∀ p ∈ x.predecessor index, p ∈ s.recordedIndices
  cancelled : s.cancelledIndices.Nodup
  sent : ∀ index ∈ s.cancelledIndices, index ∈ s.admittedIndices ∧
    ∀ owned, (index, owned) ∈ s.active → owned.cancellationSent = true

theorem target_nonneg (hf : x.admission.Facts parse) (index : ℕ) : 0 ≤ x.target index := by
  unfold Setup.target
  cases h : x.admission.targets[index]? with
  | none => exact le_rfl
  | some target => exact (hf.target_pos target (List.mem_of_getElem? h)).le

theorem target_le (hf : x.admission.Facts parse) (index : ℕ) :
    x.target index ≤ x.admission.policy.maxActiveTargetBps := by
  unfold Setup.target
  cases h : x.admission.targets[index]? with
  | none => exact hf.rate_pos.le
  | some target => exact hf.target_le target (List.mem_of_getElem? h)

namespace Accounts

theorem nodup (h : Accounts x s) : (s.pending ++ (s.activeIndices ++ s.recordedIndices)).Nodup :=
  h.partition.nodup_iff.mpr List.nodup_range

theorem active_nodup (h : Accounts x s) : s.activeIndices.Nodup :=
  (List.nodup_append.mp (List.nodup_append.mp h.nodup).2.1).1

theorem not_admitted (h : Accounts x s) {index : ℕ} (hp : index ∈ s.pending) :
    index ∉ s.admittedIndices := by
  intro hmem
  exact (List.nodup_append.mp h.nodup).2.2 index hp index (h.log.mem_iff.mp hmem) rfl

theorem lt_of_active (h : Accounts x s) {index : ℕ} (hi : index ∈ s.activeIndices) :
    index < x.trials.length := by
  have := h.partition.mem_iff (a := index)
  simpa [hi] using this

/-- Operations that only read clocks and decide to stop. -/
theorem quiet {s' : Run A} (h : Accounts x s) (hq : Quiet s s') : Accounts x s' := by
  obtain ⟨h1, h2, h3, h4, h5, h6, h7, h8, h9⟩ := h
  have hactive := hq.activeIndices
  have hrecorded : s'.recordedIndices = s.recordedIndices := by
    rw [recordedIndices, hq.records, recordedIndices]
  have hadmitted : s'.admittedIndices = s.admittedIndices := by
    rw [admittedIndices, hq.admittedLog, admittedIndices]
  have hcancelled : s'.cancelledIndices = s.cancelledIndices := by
    rw [cancelledIndices, hq.cancelledLog, cancelledIndices]
  refine ⟨?_, ?_, ?_, ?_, ?_, ?_, ?_, ?_, ?_⟩
  · rwa [hq.pending, hactive, hrecorded]
  · rwa [hq.pending]
  · rwa [hactive, hrecorded, hadmitted]
  · rwa [hq.admissions, hq.admittedLog]
  · rwa [hq.admittedLog]
  · rwa [hactive]
  · rwa [hadmitted, hrecorded]
  · rwa [hcancelled]
  · rwa [hcancelled, hadmitted, hq.active]

/-- What arrives from outside changes tasks and events of the active children. -/
theorem arrive (h : Accounts x s) (w : Wake A) : Accounts x (s.arrive x w) := by
  obtain ⟨h1, h2, h3, h4, h5, h6, h7, h8, h9⟩ := h
  have hactive : (s.arrive x w).activeIndices = s.activeIndices := by
    simp [activeIndices, Run.arrive, Function.comp_def]
  refine ⟨?_, h2, ?_, h4, h5, ?_, h7, h8, ?_⟩
  · rwa [hactive]
  · rwa [hactive]
  · rwa [hactive]
  · intro index hindex
    obtain ⟨hadmitted, hsent⟩ := h9 index hindex
    refine ⟨hadmitted, fun owned hmem => ?_⟩
    simp only [Run.arrive, List.mem_map, Prod.exists, Prod.mk.injEq] at hmem
    obtain ⟨i, o, hmem, rfl, rfl⟩ := hmem
    exact hsent o hmem

/-- A settlement moves one trial from the active to the recorded ones. -/
theorem settle (hf : x.admission.Facts parse) (h : Accounts x s) {index : ℕ} {owned : Owned A}
    {result : TaskResult A} (hmem : (index, owned) ∈ s.active) :
    Accounts x (s.settleChild x index owned result) := by
  have hindex : index ∈ s.activeIndices := List.mem_map_of_mem hmem
  have hspec := List.getElem?_eq_getElem (h.lt_of_active hindex)
  have hrecords := records_settleChild (s := s) hspec owned result
  have hquiet := Quiet.consume x s index owned result
  have hactive := activeIndices_settleChild x s index owned result
  have hrecorded : (s.settleChild x index owned result).recordedIndices =
      s.recordedIndices ++ [index] := by
    rw [recordedIndices, hrecords, List.map_append, recordedIndices]
    rfl
  have hadmitted : (s.settleChild x index owned result).admittedIndices = s.admittedIndices :=
    congrArg (List.map Admitted.index) hquiet.admittedLog
  have hcancelled : (s.settleChild x index owned result).cancelledIndices = s.cancelledIndices :=
    congrArg (List.map Prod.fst) hquiet.cancelledLog
  have hmove : (s.activeIndices.filter (· ≠ index) ++ (s.recordedIndices ++ [index])).Perm
      (s.activeIndices ++ s.recordedIndices) := by
    have herase : s.activeIndices.filter (· ≠ index) = s.activeIndices.erase index := by
      rw [h.active_nodup.erase_eq_filter]
      exact List.filter_congr fun i _ => by by_cases hi : i = index <;> simp [hi]
    rw [herase, ← List.append_assoc]
    refine List.perm_append_singleton .. |>.trans ?_
    exact ((List.perm_cons_erase hindex).append_right s.recordedIndices).symm
  have hadm := hquiet.admissions
  have hlog := hquiet.admittedLog
  dsimp only at hadm hlog
  refine ⟨?_, ?_, ?_, ?_, ?_, ?_, ?_, ?_, ?_⟩
  · rw [hactive, hrecorded, show (s.settleChild x index owned result).pending = s.pending from
      hquiet.pending]
    exact ((List.Perm.refl _).append hmove).trans h.partition
  · exact hquiet.pending ▸ h.sorted
  · rw [hactive, hrecorded, hadmitted]
    exact h.log.trans hmove.symm
  · exact hadm.trans (h.admissions.trans (congrArg List.length hlog.symm))
  · intro e he
    exact h.unstopped e (hlog ▸ he)
  · rw [hactive]
    exact h.fits.sublist List.filter_sublist fun i _ => target_nonneg hf i
  · rw [hadmitted, hrecorded]
    intro i hi p hp
    exact List.mem_append_left _ (h.predecessor i hi p hp)
  · rw [hcancelled]
    exact h.cancelled
  · rw [hcancelled, hadmitted, active_settleChild]
    intro i hi
    obtain ⟨hadmitted, hsent⟩ := h.sent i hi
    exact ⟨hadmitted, fun o ho => hsent o (List.mem_filter.mp ho).1⟩

/-- An admission moves one trial from the pending to the active ones. -/
theorem reserve (h : Accounts x s) {index : ℕ} (submission : Submission A)
    (hpending : index ∈ s.pending) (hadmissible : s.Admissible x index) :
    Accounts x (s.reserveChild x index submission) := by
  have hmove : (s.pending.erase index ++ (s.activeIndices ++ [index] ++ s.recordedIndices)).Perm
      (s.pending ++ (s.activeIndices ++ s.recordedIndices)) := by
    refine .trans ?_ (((List.perm_cons_erase hpending).append_right _).symm)
    rw [List.append_assoc, List.singleton_append]
    exact ((List.Perm.refl _).append List.perm_middle).trans List.perm_middle
  have hadmitted : (s.reserveChild x index submission).admittedIndices =
      s.admittedIndices ++ [index] := by
    simp [admittedIndices, reserveChild]
  refine ⟨?_, h.sorted.sublist List.erase_sublist, ?_, ?_, ?_, ?_, ?_, h.cancelled, ?_⟩
  · rw [activeIndices_reserveChild]
    exact hmove.trans h.partition
  · rw [hadmitted, activeIndices_reserveChild, List.append_assoc]
    refine (h.log.append_right _).trans ?_
    rw [List.append_assoc]
    exact (List.Perm.refl _).append List.perm_append_comm
  · simp [reserveChild, h.admissions]
  · intro e he
    rcases List.mem_append.mp he with hold | hnew
    · exact h.unstopped e hold
    · rw [List.mem_singleton.mp hnew]
      exact hadmissible.stopReason
  · rw [activeIndices_reserveChild]
    refine h.fits.concat ?_ hadmissible.target hadmissible.keys
    simpa [activeIndices, Setup.limits] using hadmissible.workers
  · rw [hadmitted]
    intro i hi p hp
    rcases List.mem_append.mp hi with hold | hnew
    · exact h.predecessor i hold p hp
    · rw [List.mem_singleton.mp hnew] at hp
      exact recorded_iff.mp (hadmissible.predecessor p hp)
  · intro i hi
    obtain ⟨hold, hsent⟩ := h.sent i hi
    refine ⟨hadmitted ▸ List.mem_append_left _ hold, fun owned hmem => ?_⟩
    rcases List.mem_append.mp hmem with hmem | hnew
    · exact hsent owned hmem
    · obtain ⟨rfl, -⟩ := Prod.mk.inj (List.mem_singleton.mp hnew)
      exact absurd hold (h.not_admitted hpending)

/-- A cancellation goes to children that were sent none. -/
theorem cancelActive (h : Accounts x s) : Accounts x s.cancelActive := by
  have hactive : s.cancelActive.activeIndices = s.activeIndices := by
    simp [activeIndices, Run.cancelActive, Function.comp_def]
  have hcancelled : s.cancelActive.cancelledIndices = s.cancelledIndices ++
      (s.active.filter fun item => Owned.cancellable item.2).map Prod.fst := by
    simp [cancelledIndices, Run.cancelActive, Function.comp_def]
  have hsub : ((s.active.filter fun item => Owned.cancellable item.2).map Prod.fst).Sublist
      s.activeIndices := List.filter_sublist.map _
  refine ⟨?_, h.sorted, ?_, h.admissions, h.unstopped, ?_, h.predecessor, ?_, ?_⟩
  · rw [hactive]
    exact h.partition
  · rw [hactive]
    exact h.log
  · rw [hactive]
    exact h.fits
  · rw [hcancelled, List.nodup_append]
    refine ⟨h.cancelled, h.active_nodup.sublist hsub, fun i hi j hj heq => ?_⟩
    subst heq
    obtain ⟨⟨index, owned⟩, hmem, rfl⟩ := List.mem_map.mp hj
    obtain ⟨hmem, hcancellable⟩ := List.mem_filter.mp hmem
    have := (h.sent index hi).2 owned hmem
    simp [Owned.cancellable, this] at hcancellable
  · intro i hi
    have hadmitted : i ∈ s.admittedIndices := by
      rw [hcancelled] at hi
      rcases List.mem_append.mp hi with hold | hnew
      · exact (h.sent i hold).1
      · exact h.log.mem_iff.mpr (List.mem_append_left _ (hsub.subset hnew))
    refine ⟨hadmitted, fun owned hmem => ?_⟩
    simp only [Run.cancelActive, List.mem_map, Prod.exists, Prod.mk.injEq] at hmem
    obtain ⟨_, o, hmem, rfl, rfl⟩ := hmem
    split
    · rfl
    · next hcancellable =>
      rw [hcancelled] at hi
      rcases List.mem_append.mp hi with hold | hnew
      · exact (h.sent _ hold).2 o hmem
      · obtain ⟨⟨j, o'⟩, hmem', hj⟩ := List.mem_map.mp hnew
        obtain ⟨hmem', hcancellable'⟩ := List.mem_filter.mp hmem'
        obtain rfl : j = _ := hj
        obtain rfl : o' = o := by
          have := h.active_nodup
          exact List.inj_on_of_nodup_map this hmem' hmem rfl |> Prod.mk.inj |>.2
        exact absurd hcancellable' hcancellable

theorem start (hf : x.admission.Facts parse) : Accounts x (start x) := by
  refine ⟨?_, List.pairwise_lt_range, .nil, rfl, by simp [Run.start], ?_, by simp [admittedIndices, Run.start], .nil,
    by simp [cancelledIndices, Run.start]⟩
  · simp [Run.start, activeIndices, recordedIndices]
  · exact Limits.Fits.nil hf.workers_pos.le hf.rate_pos.le

end Accounts

/-! ## Progress -/

end Run

/-! ## A plan of one trial -/

/-- One UDP trial at the default rate, and the elapsed seconds after which nothing is admitted. -/
def singleTrial : TrialSpec where
  trialId := "default:measured:0"
  cellId := "default"
  phase := .measured
  repetition := 0
  config := { server := .text "host", protocol := .udp }

def singlePlan (stopAfter : Option PyNum) : PreparedPlan where
  trials := [singleTrial]
  policy := { repetitions := 1 }
  budget := { maxActiveSeconds := none, maxPayloadBytes := none, stopAfterElapsedSeconds := stopAfter }
  estimate :=
    { runs := [{
        rate := {
          nativePerStreamBps := some 1048576
          aggregateBpsPerDirection := some 1048576
          aggregateBpsAllDirections := some 1048576
          unusedBpsPerDirection := some 0
          activeDirections := [.clientToServer]
          source := .protocolDefault }
        activeSeconds := some 10
        estimatedPayloadBits := some 10485760 }]
      activeSeconds := some 10
      estimatedPayloadBits := some 10485760
      estimatedPayloadBytes := some 1310720 }
  plannedPauseSeconds := .int 0

def singleAdmission (stopAfter : Option PyNum) : Admission where
  plan := singlePlan stopAfter
  policy := ⟨1, 1048576⟩
  resources := {}
  keys := [["endpoint:[\"host\",5201]"]]
  targets := [1048576]

/-- `1.0`. -/
def oneSecond : Finite64 :=
  ⟨false, 2 ^ 52, -52, by norm_num, by norm_num, by norm_num, .inl le_rfl⟩

end Iperf3Lib
