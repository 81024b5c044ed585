import Iperf3Lib.Concurrent.Run
import Iperf3Lib.Py.Math
import Iperf3Lib.Reports.Checks
import Mathlib.Algebra.Order.Ring.Int

/-!
# The validator of concurrent reports

`_validate_history` checks a `ConcurrentPlanResult` without any knowledge of the scheduler: it admits
the plan again, looks at every record and at the stop decisions, and sweeps over the reservations in
the order of their offsets.
-/

namespace Iperf3Lib

open Py Ipc

/-! ## Numbers -/

/-- `x < 0`. -/
def Finite64.isNegative (x : Py.Finite64) : Bool := decide (x.toRat < 0)

/-- `math.isclose(x, y, rel_tol=0, abs_tol=1e-9)`. -/
def isClose (x y : PyFloat) : Bool :=
  (PyNum.float x).eq (.float y) ||
    (x.isFinite && y.isFinite && !(floatOfDecimal false 1 (-9)).lt (y.sub x).abs)

/-- `0 <= offset <= elapsed`. -/
def within (offset elapsed : Finite64) : Prop := 0 ≤ offset.toRat ∧ offset ≤ elapsed

instance (offset elapsed : Finite64) : Decidable (within offset elapsed) :=
  inferInstanceAs (Decidable (_ ∧ _))

/-! ## Partial events -/

variable {A : Type}

/-- `_events`. -/
def validateEvents (maxStrDigits : ℕ) (record : TrialRecord A) (path : String) :
    Except Exc Unit := do
  failIf (record.eventsObserved < 0 ∨ record.eventsDropped < 0) path
    "event delivery counts must be nonnegative"
  failIf (record.eventsObserved ≠ record.partialEvents.length + record.eventsDropped) path
    "observed events must equal retained events plus retention drops"
  if record.status.isPartial = false then
    failIf (record.partialEvents.length ≠ 0 ∨ record.eventsObserved ≠ 0 ∨ record.eventsDropped ≠ 0)
      path "only exception or interrupted trials retain partial event evidence"
  else do
    failIf (record.partialEvents.length > 64) s!"{path}/partial_events"
      "partial event retention exceeds 64 events"
    let total ← sumFrames maxStrDigits path 0 0 0 record.partialEvents
    failIf (total > 1024 * 1024) s!"{path}/partial_events" "partial event retention exceeds 1 MiB"

/-! ## Outcomes -/

/-- The checks of a trial that never started. -/
def validateUnstarted (record : TrialRecord A) (execution : ConcurrentPlanResult A) (path : String) :
    Except Exc Unit := do
  failIf (record.reason = none ∨ record.reason ≠ execution.stopReason) path
    "unstarted trial requires the first admission stop reason"
  failIf (record.cleanupConfirmed = false ∨ record.diagnostics ≠ [] ∨ record.artifact.isSome ∨
      record.exception.isSome ∨ record.startedAt.isSome ∨ record.completedAt.isSome ∨
      record.elapsed.isSome ∨ record.returnedResultEvidence.isSome ∨ record.admissionIndex.isSome ∨
      record.admittedOffset.isSome ∨ record.finishedOffset.isSome ∨ record.releasedOffset.isSome)
    path "unstarted trial cannot contain execution or reservation evidence"

/-- The checks of the release of an admitted trial. -/
def validateRelease (record : TrialRecord A) (path : String) (finished : Finite64) :
    Except Exc Unit :=
  if record.cleanupConfirmed = true then
    failIf (¬ ∃ released ∈ record.releasedOffset, released.toRat = finished.toRat) path
      "confirmed cleanup must release its reservation at observed completion"
  else failIf (record.releasedOffset.isSome) path "unconfirmed cleanup cannot release its reservation"

/-- The checks of the timing of an admitted trial. -/
def validateTiming (record : TrialRecord A) (execution : ConcurrentPlanResult A) (path : String)
    (admitted finished : Finite64) (elapsed : PyFloat) : Except Exc Unit := do
  failIf (¬ (0 ≤ admitted.toRat ∧ admitted ≤ finished ∧ finished ≤ execution.elapsed)) path
    "reservation offsets must be ordered within plan elapsed time"
  failIf (elapsed.lt (.finite (.zero false)) = true ∨
      isClose elapsed ((PyFloat.finite finished).sub (.finite admitted)) = false) path
    "trial elapsed time disagrees with its monotonic offsets"
  failIf (record.cleanupConfirmed ≠ decide (record.status ≠ .cleanupFailed)) path
    "cleanup confirmation disagrees with the trial status"
  validateRelease record path finished
  failIf (∃ stopped ∈ execution.stoppedOffset, stopped < admitted) path
    "trial was admitted after admission stopped"

/-- The checks of an interrupted trial. -/
def validateInterrupted (record : TrialRecord A) (execution : ConcurrentPlanResult A) (path : String)
    (finished : Finite64) : Except Exc Unit := do
  failIf (execution.terminationReason = none ∨
      record.reason ≠ execution.terminationReason.map .hard) path
    "interrupted trial requires the first hard termination reason"
  failIf (record.status = .timedOut ∧ record.reason ≠ some (.hard .timeout)) path
    "timed-out trial requires a deadline termination"
  failIf (record.status = .cancelled ∧ record.reason = some (.hard .timeout)) path
    "deadline interruption must retain a timed-out status"
  let terminated ← assertSome execution.terminationOffset
  failIf (finished < terminated) path "interrupted outcome precedes the hard termination"
  failIf (record.artifact.isSome ∨ record.returnedResultEvidence.isSome) path
    "interrupted trial cannot fabricate a final native result"
  failIf (record.status = .cleanupFailed ∧ record.exception.isNone) path
    "unconfirmed cleanup requires retained exception details"

/-- The checks of the evidence that a status requires. -/
def validateEvidence (executionStatus : A → NativeStatus) (record : TrialRecord A)
    (execution : ConcurrentPlanResult A) (path : String) (finished : Finite64) : Except Exc Unit :=
  if record.status.isInterrupted then validateInterrupted record execution path finished
  else if record.status = .exception then do
    failIf (record.reason.isSome) path "ordinary execution exceptions cannot claim a stop reason"
    failIf (record.artifact.isSome ∨ record.exception.isNone) path
      "exception requires retained details and no fabricated artifact"
    failIf (record.returnedResultEvidence.isSome ∧ record.diagnostics = []) path
      "partial returned evidence requires serialization diagnostics"
  else do
    failIf (record.artifact.isNone ∨ record.exception.isSome ∨ record.returnedResultEvidence.isSome ∨
        ∃ a ∈ record.artifact, TrialStatus.native (executionStatus a) ≠ record.status) path
      "native outcome requires a matching canonical artifact"
    failIf (record.reason.isSome) path "native outcome cannot claim an interruption reason"

/-- `_validate_outcome`. -/
def validateOutcome (maxStrDigits : ℕ) (executionStatus : A → NativeStatus) (record : TrialRecord A)
    (execution : ConcurrentPlanResult A) (path : String) : Except Exc Unit := do
  validateEvents maxStrDigits record path
  failIf (∃ e ∈ record.exception, e.typeName.hasText = false) s!"{path}/exception"
    "exception type must be nonempty"
  failIf (∃ item ∈ record.diagnostics, item.hasText = false) s!"{path}/diagnostics"
    "diagnostics must be nonempty strings"
  if record.status = .notRun then validateUnstarted record execution path
  else do
    failIf (record.admissionIndex.isNone ∨ record.startedAt.isNone ∨ record.completedAt.isNone) path
      "admitted trial requires observed timing and admission evidence"
    match record.admittedOffset, record.finishedOffset, record.elapsed with
    | some admitted, some finished, some elapsed => do
      validateTiming record execution path admitted finished elapsed
      validateEvidence executionStatus record execution path finished
    | _, _, _ => fail path "admitted trial requires observed timing and admission evidence"

/-! ## Stops -/

/-- The reason, when it is in `_HARD`. -/
def StopReason.hard? : StopReason → Option HardStop
  | .hard reason => some reason
  | _ => none

/-- The checks of one of the two pairs of a reason and an offset. -/
def validateStop (reason : Bool) (offset : Option Finite64) (elapsed : Finite64) (name : String) :
    Except Exc Unit := do
  failIf (reason ≠ offset.isSome) s!"/execution/{name}"
    "stop reason and offset must be present together"
  failIf (∃ o ∈ offset, ¬ within o elapsed) s!"/execution/{name}"
    "stop offset must lie within plan elapsed time"

/-- `record.status not in ("completed", "not_run") and record.finished_offset_seconds is not None`,
the offset. -/
def TrialRecord.failure (record : TrialRecord A) : Option Finite64 :=
  if record.status = .native .completed ∨ record.status = .notRun then none
  else record.finishedOffset

/-- `min(..., default=None)`. -/
def earliest : List Finite64 → Option Finite64
  | [] => none
  | x :: xs => some (xs.foldl (fun least y => if y < least then y else least) x)

/-- The checks of `_validate_stops` on the first unsuccessful trial. -/
def validateFirstFailure (execution : ConcurrentPlanResult A) : Except Exc Unit :=
  if execution.plan.policy.stopOnError = true then
    match earliest (execution.trials.filterMap TrialRecord.failure) with
    | none => .ok ()
    | some first => do
      failIf (execution.stopReason = none) "/execution/stop_reason"
        "unsuccessful execution must stop admission under stop_on_error"
      failIf (∃ record ∈ execution.trials, ∃ admitted ∈ record.admittedOffset, first < admitted)
        "/execution/trials" "trial was admitted after an observed failure under stop_on_error"
  else .ok ()

/-- The check of `_validate_stops` on the offset of a termination. -/
def validateTermination (execution : ConcurrentPlanResult A) : Except Exc Unit :=
  if execution.terminationReason.isSome = true then do
    let terminated ← assertSome execution.terminationOffset
    failIf (execution.stopReason = none ∨
        ¬ ∃ stopped ∈ execution.stoppedOffset, stopped ≤ terminated)
      "/execution/termination_reason" "hard termination cannot precede admission stop"
  else .ok ()

/-- The check of `_validate_stops` on the elapsed budget. -/
def validateElapsedStop (execution : ConcurrentPlanResult A) : Except Exc Unit :=
  if execution.stopReason = some .elapsedAdmissionLimit then do
    let stopped ← assertSome execution.stoppedOffset
    failIf (¬ ∃ limit ∈ execution.plan.budget.stopAfterElapsedSeconds,
        limit.reachedBy stopped = true)
      "/execution/stop_reason" "elapsed admission stop requires an elapsed explicit limit"
  else .ok ()

/-- `_validate_stops`. -/
def validateStops (execution : ConcurrentPlanResult A) : Except Exc Unit := do
  validateStop execution.stopReason.isSome execution.stoppedOffset execution.elapsed
    "stopped_offset_seconds"
  validateStop execution.terminationReason.isSome execution.terminationOffset execution.elapsed
    "termination_offset_seconds"
  validateTermination execution
  failIf (∃ reason ∈ execution.stopReason.bind StopReason.hard?,
      execution.terminationReason ≠ some reason ∨
        execution.terminationOffset.map Finite64.toRat ≠ execution.stoppedOffset.map Finite64.toRat)
    "/execution/termination_reason" "a first hard stop must also terminate execution"
  failIf ((execution.stopReason = some (.hard .timeout) ∨ execution.terminationReason = some .timeout) ∧
      execution.timeout = none)
    "/execution/timeout_seconds" "deadline termination requires an explicit timeout"
  validateElapsedStop execution
  failIf (execution.stopReason = some .stopOnError ∧
      (execution.plan.policy.stopOnError = false ∨
        ¬ ∃ record ∈ execution.trials, ∃ finished ∈ record.failure,
          ∃ stopped ∈ execution.stoppedOffset, finished ≤ stopped))
    "/execution/stop_reason" "error stop requires policy and observed unsuccessful execution"
  validateFirstFailure execution
  failIf ((execution.stopReason = some (.hard .cleanupFailed) ∨
        execution.terminationReason = some .cleanupFailed) ∧
      ∀ record ∈ execution.trials, record.cleanupConfirmed = true)
    "/execution/termination_reason" "cleanup failure requires an unreleased owner"

/-! ## Reservations -/

/-- The check of one declared trial against the last one of its cell. -/
def validatePrior (record : TrialRecord A) (prior : Option (TrialRecord A)) : Except Exc Unit :=
  match record.status, prior with
  | .notRun, _ => .ok ()
  | _, none => .ok ()
  | _, some prior => do
    let index ← assertSome record.admissionIndex
    let admitted ← assertSome record.admittedOffset
    failIf (¬ ((∃ priorIndex ∈ prior.admissionIndex, priorIndex < index) ∧
        ∃ released ∈ prior.releasedOffset, released ≤ admitted))
      "/execution/trials" "same-cell predecessors must finish and release before admission"

/-- The loop of `_validate_reservations` over the declared trials; `previous` holds the last record
of each cell. -/
def validateCells (previous : List (PyStr × TrialRecord A)) :
    List (TrialRecord A) → Except Exc Unit
  | [] => .ok ()
  | record :: records => do
    validatePrior record (previous.lookup record.spec.cellId)
    validateCells ((record.spec.cellId, record) :: previous) records

/-- An entry of `boundaries`. -/
structure Boundary (A : Type) where
  offset : Finite64
  opens : Bool
  index : ℕ
  record : TrialRecord A

/-- The order of `item[:3]`. -/
def Boundary.le (a b : Boundary A) : Prop :=
  a.offset < b.offset ∨ (¬ b.offset < a.offset ∧
    (a.opens < b.opens ∨ (a.opens = b.opens ∧ a.index ≤ b.index)))

instance (a b : Boundary A) : Decidable (a.le b) := by
  unfold Boundary.le
  infer_instance

/-- The boundaries of one admitted record. -/
def TrialRecord.boundaries (record : TrialRecord A) : List (Boundary A) :=
  match record.admittedOffset, record.admissionIndex with
  | some admitted, some index =>
    match record.releasedOffset with
    | some released =>
      if released.toRat = admitted.toRat then []
      else [⟨admitted, true, index, record⟩, ⟨released, false, index, record⟩]
    | none => [⟨admitted, true, index, record⟩]
  | _, _ => []

/-- The boundaries of a record with an admission offset and index. -/
theorem TrialRecord.mem_boundaries {record : TrialRecord A} {admitted : Finite64} {index : ℕ}
    (hadmitted : record.admittedOffset = some admitted) (hindex : record.admissionIndex = some index)
    {b : Boundary A} : b ∈ record.boundaries ↔
      (∀ o ∈ record.releasedOffset, o.toRat ≠ admitted.toRat) ∧
        (b = ⟨admitted, true, index, record⟩ ∨
          ∃ o ∈ record.releasedOffset, b = ⟨o, false, index, record⟩) := by
  unfold TrialRecord.boundaries
  rw [hadmitted, hindex]
  cases hreleased : record.releasedOffset with
  | none => simp
  | some o =>
    dsimp only
    split
    · next heq => simp [heq]
    · next hne => simp [hne]

/-- The sweep over the sorted boundaries. -/
def sweep (policy : ConcurrentExecutionPolicy) (active : List ℕ) (rate : ℤ) (keys : List PyStr) :
    List (Boundary A) → Except Exc Unit
  | [] => .ok ()
  | boundary :: boundaries =>
    if boundary.opens = false then do
      if boundary.index ∉ active then .error ⟨.keyError, ""⟩
      else
        sweep policy (active.erase boundary.index) (rate - boundary.record.targetBps)
          (keys.filter fun key => key ∉ boundary.record.resourceKeys) boundaries
    else do
      failIf (∃ key ∈ boundary.record.resourceKeys, key ∈ keys) "/execution/trials"
        "resource reservations overlap"
      let active := if boundary.index ∈ active then active else active ++ [boundary.index]
      let rate := rate + boundary.record.targetBps
      failIf ((active.length : ℤ) > policy.maxWorkers ∨ rate > policy.maxActiveTargetBps)
        "/execution/trials" "admission reservations exceed worker or target-rate limits"
      sweep policy active rate (keys ++ boundary.record.resourceKeys) boundaries

theorem sweep_closing (policy : ConcurrentExecutionPolicy) (active : List ℕ) (rate : ℤ)
    (keys : List PyStr) {boundary : Boundary A} (hopens : boundary.opens = false)
    (boundaries : List (Boundary A)) :
    sweep policy active rate keys (boundary :: boundaries) =
      if boundary.index ∉ active then .error ⟨.keyError, ""⟩
      else
        sweep policy (active.erase boundary.index) (rate - boundary.record.targetBps)
          (keys.filter fun key => key ∉ boundary.record.resourceKeys) boundaries :=
  if_pos hopens

theorem sweep_opening (policy : ConcurrentExecutionPolicy) (active : List ℕ) (rate : ℤ)
    (keys : List PyStr) {boundary : Boundary A} (hopens : ¬ boundary.opens = false)
    (boundaries : List (Boundary A)) :
    sweep policy active rate keys (boundary :: boundaries) = (do
      failIf (∃ key ∈ boundary.record.resourceKeys, key ∈ keys) "/execution/trials"
        "resource reservations overlap"
      let active := if boundary.index ∈ active then active else active ++ [boundary.index]
      let rate := rate + boundary.record.targetBps
      failIf ((active.length : ℤ) > policy.maxWorkers ∨ rate > policy.maxActiveTargetBps)
        "/execution/trials" "admission reservations exceed worker or target-rate limits"
      sweep policy active rate (keys ++ boundary.record.resourceKeys) boundaries) :=
  if_neg hopens

/-- `record.admitted_offset_seconds or 0`. -/
def TrialRecord.admittedOr (record : TrialRecord A) : ℚ :=
  (record.admittedOffset.map Finite64.toRat).getD 0

/-- The admitted records in the order of their admission. -/
def admittedRecords (execution : ConcurrentPlanResult A) : List (TrialRecord A) :=
  List.insertionSort (fun a b => a.admissionIndex.getD 0 ≤ b.admissionIndex.getD 0)
    (execution.trials.filter fun record => record.status ≠ .notRun)

/-- `_validate_reservations`. -/
def validateReservations (execution : ConcurrentPlanResult A) : Except Exc Unit := do
  let admitted := admittedRecords execution
  failIf (admitted.map TrialRecord.admissionIndex ≠
      (List.range admitted.length).map fun i => some (i + 1))
    "/execution/trials" "admission indices must be unique and contiguous from one"
  failIf (¬ (admitted.zip admitted.tail).all fun (left, right) =>
      decide (left.admittedOr ≤ right.admittedOr))
    "/execution/trials" "admission offsets must follow admission index order"
  validateCells [] execution.trials
  sweep execution.policy [] 0 []
    (List.insertionSort Boundary.le (admitted.flatMap TrialRecord.boundaries))

/-! ## The history -/

/-- The loop of `_validate_history` over the records. -/
def validateRecords (maxStrDigits : ℕ) (executionStatus : A → NativeStatus)
    (execution : ConcurrentPlanResult A) :
    ℕ → List (TrialRecord A × TrialSpec × List PyStr × ℤ) → Except Exc Unit
  | _, [] => .ok ()
  | index, (record, spec, keys, target) :: rest => do
    let path := s!"/execution/trials/{index}"
    failIf (record.spec.pyEq spec = false) path
      "trial settings or declared order disagree with the prepared plan"
    failIf (record.resourceKeys ≠ keys ∨ record.targetBps ≠ target) path
      "resource keys or rate reservation disagree with admission inputs"
    validateOutcome maxStrDigits executionStatus record execution path
    validateRecords maxStrDigits executionStatus execution (index + 1) rest

/-- The admission of the stored inputs. -/
def prepareStored (parse : IpParser) (lower : PyStr → PyStr) (execution : ConcurrentPlanResult A) :
    Except Exc Admission :=
  match prepareConcurrentPlan parse lower execution.plan execution.policy execution.resources with
  | .ok prepared => .ok prepared
  | .error e =>
    if e.cls = .valueError ∨ e.cls = .typeError then
      .error ⟨.reportValidationError, PyStr.ofString "/execution: " ++ e.message⟩
    else .error e

/-- `_validate_history`. -/
def validateHistory (parse : IpParser) (lower : PyStr → PyStr) (maxStrDigits : ℕ)
    (executionStatus : A → NativeStatus) (execution : ConcurrentPlanResult A) :
    Except Exc Unit := do
  let prepared ← prepareStored parse lower execution
  failIf (prepared.plan.pyEq execution.plan = false ∨ prepared.policy ≠ execution.policy ∨
      prepared.resources ≠ execution.resources) "/execution"
    "stored admission inputs disagree with the prepared plan"
  failIf (execution.trials.length ≠ prepared.plan.trials.length) "/execution/trials"
    "every declared trial must be retained"
  failIf (execution.elapsed.toRat < 0) "/execution/elapsed_seconds"
    "elapsed duration must be nonnegative"
  failIf (∃ timeout ∈ execution.timeout, timeout.isNeg = true ∨ timeout.eq (.int 0) = true)
    "/execution/timeout_seconds" "timeout must be positive or null"
  validateStops execution
  validateRecords maxStrDigits executionStatus execution 0
    (execution.trials.zip (prepared.plan.trials.zip (prepared.keys.zip prepared.targets)))
  validateReservations execution

end Iperf3Lib
