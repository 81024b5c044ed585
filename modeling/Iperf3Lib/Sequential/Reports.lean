import Iperf3Lib.Py.Sum
import Iperf3Lib.Reports.Checks
import Iperf3Lib.Sequential.Owned
import Iperf3Lib.Sequential.RunPlan

/-!
# The validators of sequential histories

`reports._validate_history` checks a `PlanResult`, `plan_reports._validate_history` a
`PlanExecutionResult`. Each admits the plan again and goes once over the records, remembering what it
has seen; the durations of all trials and the pauses must fit into the elapsed time.
-/

namespace Iperf3Lib

open Py Ipc

/-- The admission of the stored plan. -/
def prepareStoredPlan (parse : IpParser) (plan : PreparedPlan) (message : String) :
    Except Exc Unit := do
  let prepared ← match preparePlan parse plan.trials plan.policy plan.budget plan.orderSeed with
    | .ok prepared => .ok prepared
    | .error e =>
      if e.cls = .valueError ∨ e.cls = .typeError then
        .error ⟨.reportValidationError, PyStr.ofString "/execution/plan: " ++ e.message⟩
      else .error e
  failIf (prepared.pyEq plan = false) "/execution/plan" message

/-- `1e-9`. -/
def tolerance : PyFloat := floatOfDecimal false 1 (-9)

/-- `not text`, where `None` counts as no text. -/
def isBlank (text : Option PyStr) : Bool := (text.getD []).isEmpty

namespace Trials

variable {A : Type}

/-! ## `reports._validate_history` -/

/-- The variables of the loop. -/
structure Seen where
  stopped : Bool := false
  executionFailed : Bool := false

/-- The checks of a trial that never started. -/
def validateUnstarted (record : TrialRecord A) (execution : PlanResult A) (path : String) :
    Except Exc Unit := do
  failIf (isBlank record.reason = true ∨ record.reason ≠ execution.stopReason) path
    "unstarted trial requires the recorded plan stop reason"
  failIf (record.artifact.isSome ∨ record.exception.isSome ∨ record.startedAt.isSome ∨
      record.completedAt.isSome ∨ record.elapsed.isSome ∨ record.returnedResultEvidence.isSome) path
    "unstarted trial cannot contain execution or measurement evidence"

/-- The checks of the evidence that a status requires. -/
def validateEvidence (execution : A → Option NativeStatus) (record : TrialRecord A)
    (path : String) : Except Exc Unit :=
  if record.status = .exception then do
    failIf (record.artifact.isSome ∨ ¬ ∃ e ∈ record.exception, e.typeName ≠ []) path
      "exception requires an exception record and no fabricated artifact"
    failIf (record.returnedResultEvidence.isSome ∧ record.diagnostics = []) path
      "partial returned evidence requires serialization diagnostics"
  else do
    failIf (record.artifact.isNone ∨ record.exception.isSome ∨ record.returnedResultEvidence.isSome)
      path "native outcome requires exactly one retained artifact"
    failIf (¬ ∃ a ∈ record.artifact, ∃ status ∈ execution a, .native status = record.status) path
      "trial status disagrees with artifact execution status"

/-- The checks of a trial that was started. -/
def validateStarted (artifacts : A → Option NativeStatus) (seen : Seen) (record : TrialRecord A)
    (execution : PlanResult A) (path : String) : Except Exc Unit := do
  failIf (seen.stopped = true) path "executed trial follows a stopped/unstarted trial"
  failIf (seen.executionFailed = true ∧ execution.plan.policy.stopOnError = true) path
    "executed trial follows failed/incomplete execution under stop_on_error"
  failIf (record.startedAt.isNone ∨ record.completedAt.isNone ∨ record.elapsed.isNone ∨
      ∃ elapsed ∈ record.elapsed, elapsed.isNeg = true) path
    "executed trial requires observed timing and nonnegative elapsed duration"
  validateEvidence artifacts record path

/-- The variables of the loop behind a record. -/
def Seen.after (seen : Seen) (record : TrialRecord A) : Seen :=
  if record.status = .notRun then { seen with stopped := true }
  else { seen with executionFailed := seen.executionFailed || record.status ≠ .native .completed }

/-- The loop over the records. -/
def validateRecords (artifacts : A → Option NativeStatus) (execution : PlanResult A) :
    ℕ → Seen → List (TrialRecord A × TrialSpec) → Except Exc Unit
  | _, _, [] => .ok ()
  | index, seen, (record, spec) :: rest => do
    let path := s!"/execution/trials/{index}"
    failIf (record.spec.pyEq spec = false) path
      "trial settings/order disagree with the admitted plan"
    if record.status = .notRun then validateUnstarted record execution path
    else validateStarted artifacts seen record execution path
    validateRecords artifacts execution (index + 1) (seen.after record) rest

/-- `record.elapsed_seconds or 0`. -/
def TrialRecord.work (record : TrialRecord A) : PyFloat :=
  (record.elapsed.map PyNum.toFloat).getD (.finite (.zero false))

/-- The checks of the durations. -/
def validateDurations (execution : PlanResult A) : Except Exc Unit := do
  failIf (execution.elapsed.isNeg = true ∨ execution.observedPause.isNeg = true) "/execution"
    "elapsed and pause durations must be nonnegative"
  let work ← fsum (execution.trials.map TrialRecord.work)
  failIf ((execution.elapsed.toFloat.add tolerance).lt (work.add execution.observedPause.toFloat) =
      true)
    "/execution/elapsed_seconds" "recorded work and pauses exceed total monotonic elapsed time"

/-- The checks of the stop reason. -/
def validateStop (execution : PlanResult A) : Except Exc Unit := do
  failIf (¬ ∀ reason ∈ execution.stopReason,
      reason = stopOnError ∨ reason = elapsedAdmissionLimit) "/execution/stop_reason"
    "unknown execution stop reason"
  failIf (execution.stopReason = some elapsedAdmissionLimit ∧
      execution.plan.budget.stopAfterElapsedSeconds = none)
    "/execution/stop_reason" "elapsed stop requires an explicit policy"
  failIf (execution.stopReason = some stopOnError ∧
      (execution.plan.policy.stopOnError = false ∨
        ∀ record ∈ execution.trials,
          record.status = .native .completed ∨ record.status = .notRun))
    "/execution/stop_reason" "error stop requires policy and failed/incomplete execution evidence"

/-- `_validate_history`. -/
def validateHistory (parse : IpParser) (artifacts : A → Option NativeStatus)
    (execution : PlanResult A) : Except Exc Unit := do
  prepareStoredPlan parse execution.plan
    "stored admission estimates or settings disagree with the finite plan"
  failIf (execution.trials.length ≠ execution.plan.trials.length) "/execution/trials"
    "every planned trial must be retained"
  validateRecords artifacts execution 0 {} (execution.trials.zip execution.plan.trials)
  validateDurations execution
  validateStop execution

end Trials

namespace AsyncTrials

variable {A : Type}

/-! ## `plan_reports._validate_history` -/

/-- `_events`. -/
def validateEvents (maxStrDigits : ℕ) (record : PlanTrialRecord A) (path : String) :
    Except Exc Unit := do
  failIf (record.eventsObserved < 0 ∨ record.eventsDropped < 0) path
    "event delivery counts must be nonnegative"
  failIf (record.eventsObserved ≠ record.partialEvents.length + record.eventsDropped) path
    "observed events must equal retained events plus retention drops"
  if record.status.isPartial = false then
    failIf (record.partialEvents.length ≠ 0 ∨ record.eventsObserved ≠ 0 ∨ record.eventsDropped ≠ 0)
      path "only exception or interrupted trials retain partial event evidence"
  else do
    failIf (record.partialEvents.length > 64) s!"{path}/partial_events"
      "partial event retention exceeds 64 events"
    let total ← sumFrames maxStrDigits path 0 0 0 record.partialEvents
    failIf (total > 1024 * 1024) s!"{path}/partial_events" "partial event retention exceeds 1 MiB"

/-- The variables of the loop. -/
structure Seen where
  stopped : Bool := false
  failed : Bool := false
  interrupted : Bool := false

/-- The checks of a trial that never started. -/
def validateUnstarted (record : PlanTrialRecord A) (execution : PlanExecutionResult A)
    (path : String) : Except Exc Unit := do
  failIf (isBlank record.reason = true ∨
      record.reason ≠ execution.stopReason.map StopReason.text) path
    "unstarted trial requires the recorded plan stop reason"
  failIf (record.cleanupConfirmed = false ∨ record.diagnostics ≠ [] ∨ record.artifact.isSome ∨
      record.exception.isSome ∨ record.startedAt.isSome ∨ record.completedAt.isSome ∨
      record.elapsed.isSome ∨ record.returnedResultEvidence.isSome) path
    "unstarted trial cannot contain execution evidence or pending cleanup"

/-- The stop reasons that an interrupted status expects. -/
def expected : TrialStatus → List HardStop
  | .cancelled => [.cancelled]
  | .timedOut => [.timeout]
  | .cleanupFailed => [.cleanupFailed, .cancelled, .timeout]
  | _ => []

/-- The checks of the evidence that a status requires. -/
def validateEvidence (artifacts : A → Option NativeStatus) (record : PlanTrialRecord A)
    (execution : PlanExecutionResult A) (path : String) : Except Exc Unit :=
  if record.status.isInterrupted then do
    failIf ((¬ ∃ reason ∈ expected record.status, execution.stopReason = some (.hard reason)) ∨
        record.reason ≠ execution.stopReason.map StopReason.text) path
      "interrupted trial requires a matching plan stop reason"
    failIf (record.artifact.isSome ∨ record.returnedResultEvidence.isSome) path
      "interrupted trial cannot fabricate a final native result"
    failIf (record.status = .cleanupFailed ∧ record.exception.isNone) path
      "unconfirmed cleanup requires retained exception details"
  else if record.status = .exception then do
    failIf (record.artifact.isSome ∨ record.exception.isNone) path
      "exception requires retained error details and no fabricated artifact"
    failIf (record.returnedResultEvidence.isSome ∧ record.diagnostics = []) path
      "partial returned evidence requires serialization diagnostics"
  else
    failIf (record.exception.isSome ∨ record.returnedResultEvidence.isSome ∨
        ¬ ∃ a ∈ record.artifact, ∃ status ∈ artifacts a, .native status = record.status) path
      "native outcome requires a matching canonical artifact"

/-- The checks of a trial that was started. -/
def validateStarted (artifacts : A → Option NativeStatus) (seen : Seen)
    (record : PlanTrialRecord A) (execution : PlanExecutionResult A) (path : String) :
    Except Exc Unit := do
  failIf (seen.stopped = true ∨ seen.interrupted = true) path
    "executed trial follows a stopped or interrupted trial"
  failIf (seen.failed = true ∧ execution.plan.policy.stopOnError = true) path
    "executed trial follows unsuccessful execution under stop_on_error"
  failIf (record.startedAt.isNone ∨ record.completedAt.isNone ∨ record.elapsed.isNone ∨
      ∃ elapsed ∈ record.elapsed, elapsed.isNeg = true) path
    "executed trial requires observed timing and nonnegative elapsed duration"
  failIf (record.cleanupConfirmed ≠ decide (record.status ≠ .cleanupFailed)) path
    "cleanup confirmation disagrees with the trial status"
  validateEvidence artifacts record execution path

/-- The variables of the loop behind a record. -/
def Seen.after (seen : Seen) (record : PlanTrialRecord A) : Seen :=
  if record.status = .notRun then { seen with stopped := true }
  else
    { seen with
      failed := seen.failed || record.status ≠ .native .completed
      interrupted := seen.interrupted || record.status.isInterrupted }

/-- The loop over the records: what it has seen. -/
def validateRecords (maxStrDigits : ℕ) (artifacts : A → Option NativeStatus)
    (execution : PlanExecutionResult A) :
    ℕ → Seen → List (PlanTrialRecord A × TrialSpec) → Except Exc Seen
  | _, seen, [] => .ok seen
  | index, seen, (record, spec) :: rest => do
    let path := s!"/execution/trials/{index}"
    failIf (record.spec.pyEq spec = false) path
      "trial settings/order disagree with the admitted plan"
    validateEvents maxStrDigits record path
    failIf (∃ e ∈ record.exception, e.typeName.hasText = false) s!"{path}/exception"
      "exception type must be nonempty"
    failIf (∃ item ∈ record.diagnostics, item.hasText = false) s!"{path}/diagnostics"
      "diagnostics must be nonempty strings"
    if record.status = .notRun then validateUnstarted record execution path
    else validateStarted artifacts seen record execution path
    validateRecords maxStrDigits artifacts execution (index + 1) (seen.after record) rest

/-- `record.elapsed_seconds or 0`. -/
def PlanTrialRecord.work (record : PlanTrialRecord A) : PyFloat :=
  (record.elapsed.map PyNum.toFloat).getD (.finite (.zero false))

/-- The duration of all trials and pauses. -/
def duration (execution : PlanExecutionResult A) : Except Exc PyFloat :=
  match fsum (execution.trials.map PlanTrialRecord.work) with
  | .ok work => .ok (work.add execution.observedPause.toFloat)
  | .error e =>
    if e.cls = .overflowError then fail "/execution" "recorded sequential duration is not finite"
    else .error e

/-- The checks of the durations. -/
def validateDurations (execution : PlanExecutionResult A) : Except Exc Unit := do
  let duration ← duration execution
  failIf (duration.isFinite = false ∨
      (execution.elapsed.toFloat.add tolerance).lt duration = true)
    "/execution/elapsed_seconds" "recorded work and pauses exceed sequential elapsed time"

/-- The checks of the stop reason. -/
def validateStop (execution : PlanExecutionResult A) (failed : Bool) : Except Exc Unit := do
  failIf (execution.stopReason = some .elapsedAdmissionLimit ∧
      execution.plan.budget.stopAfterElapsedSeconds = none)
    "/execution/stop_reason" "elapsed admission stop requires an explicit limit"
  failIf (execution.stopReason = some (.hard .timeout) ∧ execution.timeout = none)
    "/execution/stop_reason" "deadline interruption requires an explicit timeout"
  failIf (execution.stopReason = some .stopOnError ∧
      (execution.plan.policy.stopOnError = false ∨ failed = false))
    "/execution/stop_reason" "error stop requires policy and unsuccessful execution"
  failIf (execution.stopReason = some (.hard .cleanupFailed) ∧ execution.cleanupConfirmed = true)
    "/execution/stop_reason" "cleanup failure requires unconfirmed cleanup evidence"

/-- `_validate_history`. -/
def validateHistory (parse : IpParser) (maxStrDigits : ℕ) (artifacts : A → Option NativeStatus)
    (execution : PlanExecutionResult A) : Except Exc Unit := do
  prepareStoredPlan parse execution.plan
    "admission estimates or settings disagree with the finite plan"
  failIf (execution.trials.length ≠ execution.plan.trials.length) "/execution/trials"
    "every declared trial must be retained"
  failIf (execution.elapsed.isNeg = true ∨ execution.observedPause.isNeg = true) "/execution"
    "elapsed and pause durations must be nonnegative"
  failIf (∃ timeout ∈ execution.timeout, timeout.isNeg = true ∨ timeout.eq (.int 0) = true)
    "/execution/timeout_seconds" "timeout must be positive or null"
  let seen ← validateRecords maxStrDigits artifacts execution 0 {}
    (execution.trials.zip execution.plan.trials)
  validateDurations execution
  validateStop execution seen.failed

end AsyncTrials

end Iperf3Lib
