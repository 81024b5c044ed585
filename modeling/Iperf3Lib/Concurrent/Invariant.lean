import Iperf3Lib.Concurrent.Run

/-!
# Invariants of the scheduler

The loops of the scheduler, done once: a predicate that holds at the start and that each elementary
operation keeps holds at every await point (`Invariant.run`). The elementary operations are those
that read clocks and decide to stop, the settlement of one finished child, the creation of one child
that is admissible, and what happens to the children from outside.
-/

namespace Iperf3Lib

open Py

namespace Run

variable {A : Type} {x : Setup A} {s : Run A}

/-- What `admit_ready` has checked when it admits a trial. -/
structure Admissible (x : Setup A) (s : Run A) (index : ℕ) : Prop where
  cancelPending : s.cancelPending = false
  stopReason : s.stopReason = none
  workers : (s.active.length : ℤ) < x.admission.policy.maxWorkers
  predecessor : ∀ p ∈ x.predecessor index, s.recorded p = true
  keys : (x.keys index).Disjoint (s.reservedKeys x)
  target : s.reservedTarget x + x.target index ≤ x.admission.policy.maxActiveTargetBps

/-- The checks of the loop of `admit_ready`. -/
theorem admissible_of_not_blocked {index : ℕ} (hcancel : s.cancelPending = false)
    (hstop : s.stopReason = none)
    (hroom : (s.active.length : ℤ) < x.admission.policy.maxWorkers)
    (hfree : s.blocked x index (s.reservedKeys x) (s.reservedTarget x) = false) :
    s.Admissible x index := by
  simp only [blocked, Bool.or_eq_false_iff, decide_eq_false_iff_not, not_lt, gt_iff_lt] at hfree
  obtain ⟨⟨hpred, hkeys⟩, htarget⟩ := hfree
  refine ⟨hcancel, hstop, hroom, ?_, ?_, htarget⟩
  · intro p hp
    rw [Option.mem_def.mp hp] at hpred
    simpa using hpred
  · intro key hkey hreserved
    have hany : (x.keys index).any (s.reservedKeys x).contains = true :=
      List.any_eq_true.mpr ⟨key, hkey, by simpa using hreserved⟩
    rw [hkeys] at hany
    cases hany

/-- One finished child is consumed and released. -/
def settleChild (x : Setup A) (s : Run A) (index : ℕ) (owned : Owned A) (result : TaskResult A) :
    Run A := (s.consume x index owned result).release index

/-- The operations keep the predicate. -/
structure Invariant (x : Setup A) (P : Run A → Prop) : Prop where
  active_nodup : ∀ {s}, P s → s.activeIndices.Nodup
  pending_nodup : ∀ {s}, P s → s.pending.Nodup
  tick : ∀ {s}, P s → P s.tick
  stop : ∀ {s}, P s → x.admission.plan.budget.stopAfterElapsedSeconds.any
    (fun limit => limit.reachedBy (s.offset x)) = true → P (s.tick.stop x .elapsedAdmissionLimit)
  deadline : ∀ {s}, P s → x.timeout ≠ none → P (s.terminate x .timeout deadlineExceeded)
  interrupt : ∀ {s} error, P s → P (s.terminate x .cancelled (.cancelled error))
  arrive : ∀ {s} w, P s → P (s.arrive x w)
  settle : ∀ {s index owned result}, P s → (index, owned) ∈ s.active → owned.task = some result →
    P (s.settleChild x index owned result)
  reserve : ∀ {s index} submission, P s → index ∈ s.pending → s.Admissible x index →
    P (s.reserveChild x index submission)
  cancelActive : ∀ {s}, P s → P s.cancelActive

/-! ## What the operations leave alone -/

/-- Only the clock readings and the stop decisions differ. -/
structure Quiet (s s' : Run A) : Prop where
  records : s'.records = s.records
  active : s'.active = s.active
  pending : s'.pending = s.pending
  admissions : s'.admissions = s.admissions
  cancelPending : s'.cancelPending = s.cancelPending
  admittedLog : s'.admittedLog = s.admittedLog
  cancelledLog : s'.cancelledLog = s.cancelledLog

theorem Quiet.refl (s : Run A) : Quiet s s := ⟨rfl, rfl, rfl, rfl, rfl, rfl, rfl⟩

theorem Quiet.trans {s s' s'' : Run A} (h : Quiet s s') (h' : Quiet s' s'') : Quiet s s'' :=
  ⟨h'.records.trans h.records, h'.active.trans h.active, h'.pending.trans h.pending,
    h'.admissions.trans h.admissions, h'.cancelPending.trans h.cancelPending,
    h'.admittedLog.trans h.admittedLog, h'.cancelledLog.trans h.cancelledLog⟩

theorem Quiet.tick (s : Run A) : Quiet s s.tick := ⟨rfl, rfl, rfl, rfl, rfl, rfl, rfl⟩

theorem Quiet.stop (x : Setup A) (s : Run A) (reason : StopReason) : Quiet s (s.stop x reason) := by
  unfold Run.stop
  split
  · exact ⟨rfl, rfl, rfl, rfl, rfl, rfl, rfl⟩
  · exact .refl s

theorem Quiet.terminate (x : Setup A) (s : Run A) (reason : HardStop) (cause : Failure) :
    Quiet s (s.terminate x reason cause) := by
  unfold Run.terminate
  dsimp only
  split <;> split <;> exact ⟨rfl, rfl, rfl, rfl, rfl, rfl, rfl⟩

theorem Quiet.terminateFor (x : Setup A) (s : Run A) (result : TaskResult A) :
    Quiet s (s.terminateFor x result) := by
  have herrors : ∀ error, Quiet s { s with cleanupErrors := s.cleanupErrors ++ [error] } :=
    fun _ => ⟨rfl, rfl, rfl, rfl, rfl, rfl, rfl⟩
  rcases result with _ | _ | (⟨error, prior⟩ | error | error | error)
  · exact .refl s
  · exact .refl s
  · unfold Run.terminateFor
    refine (herrors error).trans ?_
    cases prior with
    | cancelled prior => exact (Quiet.terminate _ _ _ _).trans (.terminate _ _ _ _)
    | timeout prior =>
      dsimp only
      split
      · exact (Quiet.terminate _ _ _ _).trans (.terminate _ _ _ _)
      · exact .terminate _ _ _ _
    | other => exact .terminate _ _ _ _
  · exact .terminate _ _ _ _
  · unfold Run.terminateFor
    dsimp only
    split
    · exact .refl s
    · exact .terminate _ _ _ _
  · exact .refl s

theorem Quiet.checkLimits (x : Setup A) (s : Run A) : Quiet s (s.checkLimits x) := by
  have hdeadline : Quiet s (s.checkDeadline x) := by
    unfold Run.checkDeadline Run.expired
    cases x.timeout with
    | none => exact .refl s
    | some timeout =>
      dsimp only
      split
      · exact (Quiet.tick s).trans (.terminate _ _ _ _)
      · exact .tick s
  refine hdeadline.trans ?_
  unfold Run.checkLimits Run.checkElapsed
  split
  · exact .refl _
  · split
    · exact (Quiet.tick _).trans (.stop _ _ _)
    · exact .tick _

theorem Quiet.activeIndices {s s' : Run A} (h : Quiet s s') : s'.activeIndices = s.activeIndices := by
  rw [Run.activeIndices, h.active, Run.activeIndices]

theorem Quiet.reservedKeys {s s' : Run A} (h : Quiet s s') : s'.reservedKeys x = s.reservedKeys x := by
  rw [Run.reservedKeys, h.activeIndices, Run.reservedKeys]

theorem Quiet.reservedTarget {s s' : Run A} (h : Quiet s s') :
    s'.reservedTarget x = s.reservedTarget x := by
  rw [Run.reservedTarget, h.activeIndices, Run.reservedTarget]

/-- The state that `consume` leaves differs in the records, the clock readings and the stop
decisions only. -/
theorem Quiet.consume (x : Setup A) (s : Run A) (index : ℕ) (owned : Owned A)
    (result : TaskResult A) :
    Quiet s { s.consume x index owned result with records := s.records } := by
  have hq := Quiet.terminateFor x s result
  have hstop := fun s' : Run A => Quiet.stop x s' .stopOnError
  unfold Run.consume
  split
  · exact .refl s
  · dsimp only
    split
    · exact ⟨rfl, (hstop _).active.trans hq.active, (hstop _).pending.trans hq.pending,
        (hstop _).admissions.trans hq.admissions, (hstop _).cancelPending.trans hq.cancelPending,
        (hstop _).admittedLog.trans hq.admittedLog, (hstop _).cancelledLog.trans hq.cancelledLog⟩
    · exact ⟨rfl, hq.active, hq.pending, hq.admissions, hq.cancelPending, hq.admittedLog,
        hq.cancelledLog⟩

/-- A settlement adds one record. -/
theorem records_settleChild {index : ℕ} {spec : TrialSpec} (hspec : x.trials[index]? = some spec)
    (owned : Owned A) (result : TaskResult A) :
    (s.settleChild x index owned result).records = s.records ++
      [(index, (s.terminateFor x result).record x index spec owned result)] := by
  have hq := Quiet.terminateFor x s result
  simp only [settleChild, consume, release, hspec]
  split
  · rw [(Quiet.stop x _ .stopOnError).records, ← hq.records]
  · rw [← hq.records]

/-- A settlement removes one active child. -/
theorem active_settleChild (x : Setup A) (s : Run A) (index : ℕ) (owned : Owned A)
    (result : TaskResult A) :
    (s.settleChild x index owned result).active = s.active.filter fun item => item.1 ≠ index := by
  have hq : (s.consume x index owned result).active = s.active :=
    (Quiet.consume x s index owned result).active
  rw [settleChild, release, hq]

@[simp] theorem admittedLog_settleChild (x : Setup A) (s : Run A) (index : ℕ) (owned : Owned A)
    (result : TaskResult A) : (s.settleChild x index owned result).admittedLog = s.admittedLog :=
  (Quiet.consume x s index owned result).admittedLog

theorem activeIndices_settleChild (x : Setup A) (s : Run A) (index : ℕ) (owned : Owned A)
    (result : TaskResult A) :
    (s.settleChild x index owned result).activeIndices = s.activeIndices.filter (· ≠ index) := by
  rw [activeIndices, active_settleChild, activeIndices, List.filter_map]
  rfl

@[simp] theorem activeIndices_reserveChild (x : Setup A) (s : Run A) (index : ℕ)
    (submission : Submission A) :
    (s.reserveChild x index submission).activeIndices = s.activeIndices ++ [index] := by
  simp [activeIndices, reserveChild]

/-- What `admit` does to the pending and the active trials. -/
theorem admitTrial_frame (x : Setup A) (s : Run A) (index : ℕ) (submission : Submission A) :
    (s.admitTrial x index submission).pending = s.pending.erase index ∧
      (index ∈ (s.admitTrial x index submission).activeIndices →
        (s.admitTrial x index submission).activeIndices = s.activeIndices ++ [index]) := by
  unfold admitTrial
  dsimp only
  split
  · next result hresult =>
    split
    · exact ⟨rfl, fun _ => activeIndices_reserveChild ..⟩
    · rw [← settleChild]
      refine ⟨(Quiet.consume x (s.reserveChild x index submission) index _ result).pending,
        fun hmem => ?_⟩
      rw [activeIndices_settleChild] at hmem
      simpa using (List.mem_filter.mp hmem).2
  · exact ⟨rfl, fun _ => activeIndices_reserveChild ..⟩

/-- The loop goes on with what the active children reserve, whether or not the new one is among
them. -/
theorem admitLoop_admitTrial (x : Setup A) (submit : ℕ → Submission A) (indices : List ℕ) (s : Run A)
    (index : ℕ) :
    (if (s.admitTrial x index (submit index)).activeIndices.contains index then
        admitLoop x submit indices (s.reservedKeys x ++ x.keys index)
          (s.reservedTarget x + x.target index) (s.admitTrial x index (submit index))
      else admitLoop x submit indices ((s.admitTrial x index (submit index)).reservedKeys x)
        ((s.admitTrial x index (submit index)).reservedTarget x) (s.admitTrial x index (submit index))) =
    admitLoop x submit indices ((s.admitTrial x index (submit index)).reservedKeys x)
      ((s.admitTrial x index (submit index)).reservedTarget x) (s.admitTrial x index (submit index)) := by
  split
  · next hcontains =>
    have heq := (admitTrial_frame x s index (submit index)).2 (by simpa using hcontains)
    simp [reservedKeys, reservedTarget, heq]
  · rfl

/-! ## The first reason wins -/

section Fields

variable (x : Setup A) (s : Run A) (reason : StopReason) (hard : HardStop) (cause : Failure)

@[simp] theorem stopReason_terminate :
    (s.terminate x hard cause).stopReason = s.stopReason.or (some (.hard hard)) := by
  cases h : s.stopReason <;> cases h' : s.terminationReason <;> simp [Run.terminate, Run.tick, h, h']

@[simp] theorem stoppedOffset_terminate : (s.terminate x hard cause).stoppedOffset =
    if s.stopReason = none then some (s.offset x) else s.stoppedOffset := by
  cases h : s.stopReason <;> cases h' : s.terminationReason <;> simp [Run.terminate, Run.tick, h, h']

@[simp] theorem terminationReason_terminate :
    (s.terminate x hard cause).terminationReason = s.terminationReason.or (some hard) := by
  cases h : s.stopReason <;> cases h' : s.terminationReason <;> simp [Run.terminate, Run.tick, h, h']

@[simp] theorem terminationOffset_terminate : (s.terminate x hard cause).terminationOffset =
    if s.terminationReason = none then some (s.offset x) else s.terminationOffset := by
  cases h : s.stopReason <;> cases h' : s.terminationReason <;> simp [Run.terminate, Run.tick, h, h']

@[simp] theorem reads_terminate : (s.terminate x hard cause).reads = s.reads + 1 := by
  cases h : s.stopReason <;> cases h' : s.terminationReason <;> simp [Run.terminate, Run.tick, h, h']

@[simp] theorem stopReason_stop : (s.stop x reason).stopReason = s.stopReason.or (some reason) := by
  cases h : s.stopReason <;> simp [Run.stop, h]

@[simp] theorem stoppedOffset_stop : (s.stop x reason).stoppedOffset =
    if s.stopReason = none then some (s.offset x) else s.stoppedOffset := by
  cases h : s.stopReason <;> simp [Run.stop, h]

@[simp] theorem terminationReason_stop :
    (s.stop x reason).terminationReason = s.terminationReason := by
  cases h : s.stopReason <;> simp [Run.stop, Run.tick, h]

@[simp] theorem terminationOffset_stop :
    (s.stop x reason).terminationOffset = s.terminationOffset := by
  cases h : s.stopReason <;> simp [Run.stop, Run.tick, h]

theorem reads_stop : s.reads ≤ (s.stop x reason).reads := by
  cases h : s.stopReason <;> simp [Run.stop, Run.tick, h]

end Fields

/-- Decisions to stop and to terminate stay. -/
structure Keeps (s s' : Run A) : Prop where
  stop : ∀ reason, s.stopReason = some reason →
    s'.stopReason = some reason ∧ s'.stoppedOffset = s.stoppedOffset
  termination : ∀ reason, s.terminationReason = some reason →
    s'.terminationReason = some reason ∧ s'.terminationOffset = s.terminationOffset

theorem Keeps.refl (s : Run A) : Keeps s s := ⟨fun _ h => ⟨h, rfl⟩, fun _ h => ⟨h, rfl⟩⟩

theorem Keeps.trans {s s' s'' : Run A} (h : Keeps s s') (h' : Keeps s' s'') : Keeps s s'' where
  stop reason hreason := by
    obtain ⟨h1, h2⟩ := h.stop reason hreason
    obtain ⟨h3, h4⟩ := h'.stop reason h1
    exact ⟨h3, h4.trans h2⟩
  termination reason hreason := by
    obtain ⟨h1, h2⟩ := h.termination reason hreason
    obtain ⟨h3, h4⟩ := h'.termination reason h1
    exact ⟨h3, h4.trans h2⟩

theorem Keeps.stopReason (x : Setup A) (s : Run A) (reason : StopReason) :
    Keeps s (s.stop x reason) :=
  ⟨fun r hr => by simp [hr], fun r hr => by simp [hr]⟩

theorem Keeps.terminate (x : Setup A) (s : Run A) (reason : HardStop) (cause : Failure) :
    Keeps s (s.terminate x reason cause) :=
  ⟨fun r hr => by simp [hr], fun r hr => by simp [hr]⟩

theorem Keeps.terminateFor (x : Setup A) (s : Run A) (result : TaskResult A) :
    Keeps s (s.terminateFor x result) := by
  have herrors : ∀ error, Keeps s { s with cleanupErrors := s.cleanupErrors ++ [error] } :=
    fun _ => ⟨fun _ h => ⟨h, rfl⟩, fun _ h => ⟨h, rfl⟩⟩
  rcases result with _ | _ | (⟨error, prior⟩ | error | error | error)
  · exact .refl s
  · exact .refl s
  · unfold Run.terminateFor
    refine (herrors error).trans ?_
    cases prior with
    | cancelled prior => exact (Keeps.terminate _ _ _ _).trans (.terminate _ _ _ _)
    | timeout prior =>
      dsimp only
      split
      · exact (Keeps.terminate _ _ _ _).trans (.terminate _ _ _ _)
      · exact .terminate _ _ _ _
    | other => exact .terminate _ _ _ _
  · exact .terminate _ _ _ _
  · unfold Run.terminateFor
    dsimp only
    split
    · exact .refl s
    · exact .terminate _ _ _ _
  · exact .refl s

theorem Keeps.consume (x : Setup A) (s : Run A) (index : ℕ) (owned : Owned A)
    (result : TaskResult A) : Keeps s (s.consume x index owned result) := by
  have hfor := Keeps.terminateFor x s result
  unfold Run.consume
  split
  · exact .refl s
  · dsimp only
    have hwrite : ∀ records, Keeps (s.terminateFor x result)
        { (s.terminateFor x result).tick.tick with records := records } :=
      fun _ => ⟨fun _ h => ⟨h, rfl⟩, fun _ h => ⟨h, rfl⟩⟩
    split
    · exact (hfor.trans (hwrite _)).trans (Keeps.stopReason x _ .stopOnError)
    · exact hfor.trans (hwrite _)

theorem Keeps.settleChild (x : Setup A) (s : Run A) (index : ℕ) (owned : Owned A)
    (result : TaskResult A) : Keeps s (s.settleChild x index owned result) :=
  (Keeps.consume x s index owned result).trans ⟨fun _ h => ⟨h, rfl⟩, fun _ h => ⟨h, rfl⟩⟩

/-! ## The loops -/

namespace Invariant

variable {P : Run A → Prop}

theorem checkLimits (hP : Invariant x P) (h : P s) : P (s.checkLimits x) := by
  have hdeadline : P (s.checkDeadline x) := by
    unfold Run.checkDeadline Run.expired
    cases htimeout : x.timeout with
    | none => exact h
    | some timeout =>
      dsimp only
      split
      · exact hP.deadline (hP.tick h) (by simp [htimeout])
      · exact hP.tick h
  unfold Run.checkLimits Run.checkElapsed
  cases hlimit : x.admission.plan.budget.stopAfterElapsedSeconds with
  | none => exact hdeadline
  | some limit =>
    dsimp only
    split
    · next hreached => exact hP.stop hdeadline (by simpa [hlimit] using hreached)
    · exact hP.tick hdeadline

/-- Every finished child is settled. -/
theorem consumeDone (hP : Invariant x P) (h : P s) : P (s.consumeDone x) := by
  have hloop : ∀ (done : List (ℕ × Owned A × TaskResult A)) (s : Run A), P s →
      (done.map Prod.fst).Nodup →
      (∀ d ∈ done, (d.1, d.2.1) ∈ s.active ∧ d.2.1.task = some d.2.2) →
      P (done.foldl (fun s d => (s.consume x d.1 d.2.1 d.2.2).release d.1) s) := by
    intro done
    induction done with
    | nil => exact fun s hs _ _ => hs
    | cons d done ih =>
      intro s hs hnodup hdone
      rw [List.map_cons, List.nodup_cons] at hnodup
      obtain ⟨hmem, htask⟩ := hdone d List.mem_cons_self
      refine ih _ (hP.settle hs hmem htask) hnodup.2 fun e he => ?_
      obtain ⟨hmem', htask'⟩ := hdone e (List.mem_cons_of_mem _ he)
      refine ⟨?_, htask'⟩
      -- another child stays where it is
      have hne : e.1 ≠ d.1 := fun heq => hnodup.1 (heq ▸ List.mem_map_of_mem he)
      have hactive : (s.consume x d.1 d.2.1 d.2.2).active = s.active :=
        (Quiet.consume x s d.1 d.2.1 d.2.2).active
      simp only [release, hactive]
      exact List.mem_filter.mpr ⟨hmem', by simpa using hne⟩
  have hperm : s.doneChildren.Perm (s.active.filterMap fun item =>
      item.2.task.map fun result => (item.1, item.2, result)) := List.perm_insertionSort _ _
  refine hloop s.doneChildren s h ?_ fun d hd => ?_
  · rw [(hperm.map _).nodup_iff]
    refine List.Nodup.sublist ?_ (hP.active_nodup h)
    have hsub : ∀ active : List (ℕ × Owned A), ((active.filterMap fun item =>
        item.2.task.map fun result => (item.1, item.2, result)).map Prod.fst).Sublist
        (active.map Prod.fst) := by
      intro active
      induction active with
      | nil => exact .slnil
      | cons item active ih =>
        rw [List.filterMap_cons]
        cases item.2.task with
        | none => exact .cons _ ih
        | some result => exact .cons_cons _ ih
    exact hsub s.active
  · obtain ⟨⟨index, owned⟩, hmem, hd⟩ := List.mem_filterMap.mp (hperm.mem_iff.mp hd)
    obtain ⟨result, htask, rfl⟩ := Option.map_eq_some_iff.mp hd
    exact ⟨hmem, htask⟩

theorem admitTrial (hP : Invariant x P) {index : ℕ} (submission : Submission A) (h : P s)
    (hpending : index ∈ s.pending) (hadmissible : s.Admissible x index) :
    P (s.admitTrial x index submission) := by
  have hreserve := hP.reserve submission h hpending hadmissible
  unfold Run.admitTrial
  dsimp only
  split
  · next result hresult =>
    split
    · exact hreserve
    · refine hP.settle hreserve ?_ hresult
      simp [reserveChild]
  · exact hreserve

/-- The rest of the loop of `admit_ready` is over trials that are still pending. -/
theorem admitLoop (hP : Invariant x P) (submit : ℕ → Submission A) {indices : List ℕ} (h : P s)
    (hnodup : indices.Nodup) (hpending : ∀ i ∈ indices, i ∈ s.pending) :
    P (Run.admitLoop x submit indices (s.reservedKeys x) (s.reservedTarget x) s) := by
  induction indices generalizing s with
  | nil => exact h
  | cons index indices ih =>
    rw [List.nodup_cons] at hnodup
    have hq := Quiet.checkLimits x s
    have hchecked := hP.checkLimits h
    unfold Run.admitLoop
    split
    · exact h
    next hcancel =>
    dsimp only
    split
    · exact hchecked
    next hstop =>
    rw [not_or, not_not, ge_iff_le, not_le] at hstop
    have hpending' : ∀ i ∈ indices, i ∈ (s.checkLimits x).pending :=
      fun i hi => hq.pending ▸ hpending i (List.mem_cons_of_mem _ hi)
    rw [← hq.reservedKeys (x := x), ← hq.reservedTarget (x := x)]
    generalize s.checkLimits x = t at *
    split
    · exact ih hchecked hnodup.2 hpending'
    next hblocked =>
    have hadmissible : t.Admissible x index := admissible_of_not_blocked
      (hq.cancelPending.trans (by simpa using hcancel)) hstop.1 hstop.2 (by simpa using hblocked)
    have hmem : index ∈ t.pending := hq.pending ▸ hpending index List.mem_cons_self
    have hadmitted := hP.admitTrial (submit index) hchecked hmem hadmissible
    obtain ⟨hpend, -⟩ := admitTrial_frame x t index (submit index)
    have hrest : ∀ i ∈ indices, i ∈ (t.admitTrial x index (submit index)).pending := by
      intro i hi
      rw [hpend, (hP.pending_nodup hchecked).mem_erase_iff]
      exact ⟨fun heq => hnodup.1 (heq ▸ hi), hpending' i hi⟩
    rw [admitLoop_admitTrial]
    exact ih hadmitted hnodup.2 hrest

theorem admitReady (hP : Invariant x P) (submit : ℕ → Submission A) (h : P s) :
    P (s.admitReady x submit) :=
  hP.admitLoop submit h (hP.pending_nodup h) fun _ hi => hi

theorem interrupted (hP : Invariant x P) (w : Wake A) (h : P s) : P (s.interrupt x w) := by
  unfold Run.interrupt
  split
  · exact hP.interrupt _ h
  · exact h

theorem beforeAdmission (hP : Invariant x P) (w : Wake A) (h : P s) : P (s.beforeAdmission x w) :=
  hP.consumeDone (hP.checkLimits (hP.interrupted w (hP.arrive w h)))

theorem admission (hP : Invariant x P) (w : Wake A) (h : P s) : P (s.admission x w) := by
  have hbefore := hP.beforeAdmission w h
  have hadmitted : P (if (s.beforeAdmission x w).stopReason = none then
      (s.beforeAdmission x w).admitReady x w.submit else s.beforeAdmission x w) := by
    split
    · exact hP.admitReady _ hbefore
    · exact hbefore
  have hcancel : ∀ t, P t → P (if t.terminationReason ≠ none then t.cancelActive else t) := by
    intro t ht
    split
    · exact hP.cancelActive ht
    · exact ht
  exact hcancel _ hadmitted

theorem waitTimeout (hP : Invariant x P) (h : P s) : P (s.waitTimeout x).2 := by
  have hadmission : ∀ (remaining : Option PyFloat) (t : Run A), P t →
      P (t.admissionTimeout x remaining).2 := by
    intro remaining t ht
    unfold Run.admissionTimeout
    split
    · split
      · exact hP.tick ht
      · exact ht
    · exact ht
  unfold Run.waitTimeout
  split
  · exact h
  · refine hadmission _ _ ?_
    split
    · exact h
    · exact hP.tick h

/-- One stretch from await point to await point. -/
theorem resume (hP : Invariant x P) (w : Wake A) {state : Point × Run A} (h : P state.2) :
    P (Run.resume x w state).2 := by
  obtain ⟨point, s⟩ := state
  cases point with
  | sleeping =>
    have hadmission := hP.admission w h
    unfold Run.resume
    dsimp only
    split
    · split <;> exact hadmission
    · exact hP.waitTimeout hadmission
  | waiting =>
    have harrive := hP.arrive w h
    unfold Run.resume
    dsimp only
    split
    · exact hP.cancelActive (hP.interrupt _ harrive)
    · exact harrive
  | finished => exact h

/-- Every await point of a run. -/
theorem run (hP : Invariant x P) (hstart : P (start x)) (wakes : List (Wake A)) :
    P (Run.run x wakes).2 := by
  have hfold : ∀ state : Point × Run A, P state.2 →
      P (wakes.foldl (fun state w => Run.resume x w state) state).2 := by
    induction wakes with
    | nil => exact fun _ h => h
    | cons w wakes ih => exact fun state h => ih _ (hP.resume w h)
  exact hfold _ hstart

end Invariant

end Run

end Iperf3Lib
