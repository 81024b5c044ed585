import Iperf3Lib.Execution
import Iperf3Lib.PartialEvents
import Iperf3Lib.Trials

/-!
# Plans with an owned child

`async_trials._Run` runs the trials of a plan one behind the other, each in a child that it owns. The
parent can be cancelled at every await: in front of a trial, in a pause, while it waits for the child
and while it waits for the cleanup of the child. What happens at the awaits of one trial is a `Turn`.
The first stop decision wins and leaves the rest of the plan unstarted.
-/

namespace Iperf3Lib

open Py

/-- The reason as it is recorded. -/
def StopReason.text : StopReason → PyStr
  | .stopOnError => "stop_on_error"
  | .elapsedAdmissionLimit => "elapsed_admission_limit"
  | .hard .cancelled => "cancelled"
  | .hard .timeout => "timeout"
  | .hard .cleanupFailed => "cleanup_failed"

namespace AsyncTrials

/-! ## Records -/

/-- A `PlanTrialRecord`. -/
structure PlanTrialRecord (A : Type) where
  spec : TrialSpec
  status : TrialStatus
  artifact : Option A := none
  exception : Option TrialException := none
  reason : Option PyStr := none
  startedAt : Option PyNum := none
  completedAt : Option PyNum := none
  elapsed : Option PyNum := none
  returnedResultEvidence : Option PyDict := none
  diagnostics : List PyStr := []
  cleanupConfirmed : Bool := true
  partialEvents : List NativeEvent := []
  eventsObserved : ℤ := 0
  eventsDropped : ℤ := 0

/-- A `PlanExecutionResult`. -/
structure PlanExecutionResult (A : Type) where
  plan : PreparedPlan
  trials : List (PlanTrialRecord A)
  startedAt : PyNum
  completedAt : PyNum
  elapsed : PyNum
  observedPause : PyNum
  stopReason : Option StopReason := none
  timeout : Option PyNum := none

namespace PlanExecutionResult

variable {A : Type}

/-- `cleanup_confirmed`. -/
def cleanupConfirmed (result : PlanExecutionResult A) : Bool :=
  result.trials.all PlanTrialRecord.cleanupConfirmed

/-- `execution_success`. -/
def executionSuccess (result : PlanExecutionResult A) : Bool :=
  result.stopReason.isNone && !result.trials.isEmpty && result.cleanupConfirmed &&
    result.trials.all fun record => record.status = .native .completed

end PlanExecutionResult

/-! ## The awaits -/

/-- How `asyncio.wait((child,), timeout=...)` ends. Without a timeout it does not expire. -/
inductive Waited where
  | done
  | expired
  | cancelled (error : Raised) (childDone : Bool)

/-- What happens at the awaits of one trial. A submission that is refused is a child that is done. -/
structure Turn (A : Type) where
  /-- The `CancelledError` that `asyncio.sleep(0)` raises. -/
  cancelledBefore : Option Raised := none
  /-- The `CancelledError` that the pause raises. -/
  cancelledPause : Option Raised := none
  waited : Waited := .done
  /-- The `CancelledError`s that `drain` meets before the child is done. -/
  draining : List Raised := []
  events : List DeliveredEvent := []
  /-- What `child.result()` does. -/
  result : TaskResult A

/-! ## The state -/

/-- What a run is given. -/
structure Setup (A : Type) where
  plan : PreparedPlan
  timeout : Option PyNum
  clock : Clock
  maxStrDigits : ℕ
  artifacts : Artifacts A

/-- The fields of a `_Run` that change. -/
structure Run (A : Type) where
  /-- The number of clock readings so far. -/
  reads : ℕ
  records : List (PlanTrialRecord A)
  pauseElapsed : PyFloat
  stopReason : Option StopReason
  cause : Option Failure
  cleanupErrors : List Raised
  /-- The delays of the pauses. -/
  sleeps : List PyNum
  /-- The trials whose child was cancelled, with the message. -/
  cancelledLog : List (ℕ × Option PyVal)
  /-- The readings at which the trials began and ended. -/
  work : List (ℕ × ℕ)
  /-- The readings at which the pauses began and ended. -/
  pauses : List (ℕ × ℕ)

namespace Run

variable {A : Type}

/-- `__init__`; the first readings are `started` and `started_at`. -/
def start : Run A where
  reads := 1
  records := []
  pauseElapsed := .finite (.zero false)
  stopReason := none
  cause := none
  cleanupErrors := []
  sleeps := []
  cancelledLog := []
  work := []
  pauses := []

/-- The reading of a clock is behind. -/
def tick (s : Run A) : Run A := { s with reads := s.reads + 1 }

/-- `stop`. -/
def stop (reason : StopReason) (cause : Option Failure) (s : Run A) : Run A :=
  if s.stopReason = none then { s with stopReason := some reason, cause := cause } else s

/-- `remaining()`, to be followed by `tick` when there is a deadline. -/
def remaining (x : Setup A) (s : Run A) : Option PyFloat :=
  x.timeout.map fun timeout =>
    let deadline := (PyFloat.finite (x.clock.monotonic 0)).add timeout.toFloat
    let left := deadline.sub (.finite (x.clock.monotonic s.reads))
    if (PyFloat.finite (.zero false)).lt left then left else .finite (.zero false)

/-- The state behind `remaining()`. -/
def readRemaining (x : Setup A) (s : Run A) : Run A := if x.timeout = none then s else s.tick

/-- `remaining() == 0`. -/
def expired (x : Setup A) (s : Run A) : Bool :=
  (s.remaining x).any fun left => (PyNum.float left).eq (.int 0)

/-- `TimeoutError("Plan execution exceeded its deadline")`. -/
def deadlineExceeded : Failure :=
  .timeout ⟨"builtins", "TimeoutError", "Plan execution exceeded its deadline",
    [.str "Plan execution exceeded its deadline"]⟩

/-- `if self.remaining() == 0: self.stop("timeout", ...)`. -/
def checkDeadline (x : Setup A) (s : Run A) : Run A :=
  if s.expired x then (s.readRemaining x).stop (.hard .timeout) (some deadlineExceeded)
  else s.readRemaining x

/-- The second check of `check_limits`. -/
def checkElapsed (x : Setup A) (s : Run A) : Run A :=
  match x.plan.budget.stopAfterElapsedSeconds with
  | none => s
  | some limit =>
    if limit.reachedBy (x.clock.offset s.reads) then s.tick.stop .elapsedAdmissionLimit none
    else s.tick

/-- `check_limits`. -/
def checkLimits (x : Setup A) (s : Run A) : Run A := (s.checkDeadline x).checkElapsed x

/-- `self.stop("cancelled", error)`. -/
def interrupt (s : Run A) (error : Raised) : Run A :=
  s.stop (.hard .cancelled) (some (.cancelled error))

/-! ## In front of a trial -/

/-- The delay of a pause; `offset` is that of its begin and `s` the state behind that reading. -/
def pauseSeconds (x : Setup A) (s : Run A) (offset : Finite64) : PyNum :=
  let pause := match s.remaining x with
    | none => x.plan.policy.pauseSeconds
    | some remaining => x.plan.policy.pauseSeconds.min (.float remaining)
  match x.plan.budget.stopAfterElapsedSeconds with
  | none => pause
  | some limit => pause.min (.float (left limit offset))

/-- The pause, to the end of the `finally` clause. -/
def pause (x : Setup A) (s : Run A) : Run A :=
  let slept := s.tick.readRemaining x
  let readings := (s.reads, slept.reads)
  { slept.tick with
    sleeps := s.sleeps ++ [s.tick.pauseSeconds x (x.clock.offset s.reads)]
    pauseElapsed := s.pauseElapsed.add (x.clock.span readings)
    pauses := s.pauses ++ [readings] }

/-- The part of `before_trial` behind `asyncio.sleep(0)`. -/
def afterSleep (x : Setup A) (index : ℕ) (turn : Turn A) (s : Run A) : Run A :=
  let s := s.checkLimits x
  if s.stopReason ≠ none ∨ index = 0 ∨ x.plan.policy.pauseSeconds.eq (.int 0) = true then s
  else
    match turn.cancelledPause with
    | some error => (s.pause x).interrupt error
    | none => (s.pause x).checkLimits x

/-- `before_trial`, with the `CancelledError` that `run` catches. -/
def beforeTrial (x : Setup A) (index : ℕ) (turn : Turn A) (s : Run A) : Run A :=
  match turn.cancelledBefore with
  | some error => s.interrupt error
  | none => s.afterSleep x index turn

/-! ## A trial -/

/-- The message of `child.cancel(message)`. -/
def cancelMessage (s : Run A) : Option PyVal :=
  match s.cause with
  | some (.cancelled error) => error.args.head?
  | _ => none

/-- `drain` of a child that is not done. -/
def drain (index : ℕ) (draining : List Raised) (s : Run A) : Run A :=
  draining.foldl interrupt { s with cancelledLog := s.cancelledLog ++ [(index, s.cancelMessage)] }

/-- The `try` statement around `asyncio.wait`. -/
def await (x : Setup A) (index : ℕ) (turn : Turn A) (s : Run A) : Run A :=
  let s := s.readRemaining x
  match turn.waited with
  | .done => s.checkDeadline x
  | .expired =>
    if x.timeout = none then s.checkDeadline x
    else (s.stop (.hard .timeout) (some deadlineExceeded)).drain index turn.draining
  | .cancelled error childDone =>
    if childDone then s.interrupt error else (s.interrupt error).drain index turn.draining

/-- The calls of `stop` for an outcome. -/
def stopFor (x : Setup A) (s : Run A) : TaskResult A → Run A
  | .raised (.cleanup error prior) =>
    let s := { s with cleanupErrors := s.cleanupErrors ++ [error] }
    let s := match prior with
      | .cancelled prior => s.stop (.hard .cancelled) (some (.cancelled prior))
      | .timeout prior =>
        if x.timeout ≠ none then s.stop (.hard .timeout) (some (.timeout prior)) else s
      | .other => s
    s.stop (.hard .cleanupFailed) (some (.cleanup error prior))
  | .raised (.cancelled error) => s.interrupt error
  | .raised (.timeout error) =>
    if x.timeout = none then s else s.stop (.hard .timeout) (some (.timeout error))
  | _ => s

/-- What the `try` statement around `child.result()` computes. -/
structure Settled (A : Type) where
  status : TrialStatus
  artifact : Option A := none
  exception : Option TrialException := none
  reason : Option PyStr := none
  evidence : Option PyDict := none
  diagnostics : List PyStr := []
  cleanupConfirmed : Bool := true

/-- The `try` statement, behind its calls of `stop`. -/
def settle (x : Setup A) (s : Run A) : TaskResult A → Settled A
  | .artifact a => { status := .native (x.artifacts.status a), artifact := some a }
  | .unencodable fields error =>
    { status := .exception
      exception := some error.toTrialException
      evidence := some (retainUnencodableResult fields).1
      diagnostics := (retainUnencodableResult fields).2 }
  | .raised (.cleanup error _) =>
    { status := .cleanupFailed
      exception := some error.toTrialException
      reason := s.stopReason.map StopReason.text
      cleanupConfirmed := false }
  | .raised (.cancelled error) =>
    { status := if s.stopReason = some (.hard .timeout) then .timedOut else .cancelled
      exception := some error.toTrialException
      reason := s.stopReason.map StopReason.text }
  | .raised (.timeout error) =>
    if x.timeout = none then { status := .exception, exception := some error.toTrialException }
    else
      { status := if s.stopReason = some (.hard .cancelled) then .cancelled else .timedOut
        exception := some error.toTrialException
        reason := s.stopReason.map StopReason.text }
  | .raised (.exception error) =>
    { status := .exception, exception := some error.toTrialException }

/-- The record of a trial that began at the reading `began`; `s` is the state behind the calls of
`stop`. -/
def record (x : Setup A) (s : Run A) (began : ℕ) (spec : TrialSpec) (turn : Turn A) :
    PlanTrialRecord A :=
  let settled := s.settle x turn.result
  let retained := Events.deliver x.maxStrDigits {} turn.events
  let events := if settled.status.isPartial then retained.events else []
  let observed : ℤ := if settled.status.isPartial then retained.observed else 0
  { spec := spec
    status := settled.status
    artifact := settled.artifact
    exception := settled.exception
    reason := settled.reason
    startedAt := some (.float (.finite (x.clock.wall began)))
    completedAt := some (.float (.finite (x.clock.wall s.reads)))
    elapsed := some (.float (x.clock.span (began, s.reads)))
    returnedResultEvidence := settled.evidence
    diagnostics := settled.diagnostics
    cleanupConfirmed := settled.cleanupConfirmed
    partialEvents := events
    eventsObserved := observed
    eventsDropped := observed - events.length }

/-- `self.records.append(...)`, and the stop behind an unsuccessful trial. -/
def append (x : Setup A) (began : ℕ) (record : PlanTrialRecord A) (s : Run A) : Run A :=
  let next := { s.tick with
    records := s.records ++ [record]
    work := s.work ++ [(began, s.reads)] }
  if record.status ≠ .native .completed ∧ x.plan.policy.stopOnError = true then
    next.stop .stopOnError none
  else next

/-- `trial`. -/
def trial (x : Setup A) (index : ℕ) (spec : TrialSpec) (turn : Turn A) (s : Run A) : Run A :=
  let settled := (s.tick.await x index turn).stopFor x turn.result
  settled.append x s.reads (settled.record x s.reads spec turn)

/-! ## The loop -/

/-- `PlanTrialRecord(spec, "not_run", reason=self.stop_reason)`. -/
def unstarted (spec : TrialSpec) (s : Run A) : PlanTrialRecord A :=
  { spec, status := .notRun, reason := s.stopReason.map StopReason.text }

/-- A trial that is left out. -/
def skip (spec : TrialSpec) (s : Run A) : Run A :=
  { s with records := s.records ++ [s.unstarted spec] }

/-- The body of the loop of `run`. -/
def step (x : Setup A) (turns : ℕ → Turn A) (s : Run A) (item : TrialSpec × ℕ) : Run A :=
  let turn := turns item.2
  let s := if s.stopReason = none then s.beforeTrial x item.2 turn else s
  if s.stopReason ≠ none then s.skip item.1 else s.trial x item.2 item.1 turn

/-- The loop of `run`. -/
def run (x : Setup A) (turns : ℕ → Turn A) : Run A :=
  x.plan.trials.zipIdx.foldl (step x turns) start

/-- The `PlanExecutionResult` behind the loop. -/
def result (x : Setup A) (s : Run A) : PlanExecutionResult A where
  plan := x.plan
  trials := s.records
  startedAt := .float (.finite (x.clock.wall 0))
  completedAt := .float (.finite (x.clock.wall s.reads))
  elapsed := .float (x.clock.span (0, s.reads))
  observedPause := .float s.pauseElapsed
  stopReason := s.stopReason
  timeout := x.timeout

end Run

end AsyncTrials

end Iperf3Lib
