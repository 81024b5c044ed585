import Iperf3Lib.Concurrent.Plan
import Iperf3Lib.Execution
import Iperf3Lib.PartialEvents

/-!
# The concurrent scheduler

`_Run` as a state machine. Its coroutine stands at one of two await points, at `asyncio.sleep(0)` or
at `asyncio.wait`; `Run.resume` is everything it does from one await point to the next. What the
outside does meanwhile is a `Wake`: events and outcomes of children, cancellation of the parent, and
the answers of the task factory to the submissions that follow. Children that run eagerly and task
factories that refuse end inside `Run.admitTrial`.
-/

namespace Iperf3Lib

open Py

/-! ## Records -/

/-- A `ConcurrentTrialRecord`. -/
structure TrialRecord (A : Type) where
  spec : TrialSpec
  status : TrialStatus
  resourceKeys : List PyStr
  targetBps : ℤ
  admissionIndex : Option ℕ := none
  admittedOffset : Option Finite64 := none
  finishedOffset : Option Finite64 := none
  releasedOffset : Option Finite64 := none
  artifact : Option A := none
  exception : Option TrialException := none
  reason : Option StopReason := none
  startedAt : Option Finite64 := none
  completedAt : Option Finite64 := none
  elapsed : Option PyFloat := none
  returnedResultEvidence : Option PyDict := none
  diagnostics : List PyStr := []
  cleanupConfirmed : Bool := true
  partialEvents : List NativeEvent := []
  eventsObserved : ℤ := 0
  eventsDropped : ℤ := 0

/-- A `ConcurrentPlanResult`. -/
structure ConcurrentPlanResult (A : Type) where
  plan : PreparedPlan
  policy : ConcurrentExecutionPolicy
  resources : Resources
  trials : List (TrialRecord A)
  startedAt : Finite64
  completedAt : Finite64
  elapsed : Finite64
  stopReason : Option StopReason
  stoppedOffset : Option Finite64
  terminationReason : Option HardStop
  terminationOffset : Option Finite64
  timeout : Option PyNum

/-! ## The state -/

/-- An `_Owned` child; its task has a result once it is done. -/
structure Owned (A : Type) where
  task : Option (TaskResult A)
  events : Events
  admissionIndex : ℕ
  admitted : Finite64
  startedAt : Finite64
  cancellationSent : Bool := false

/-- What a run is given: the admitted plan, the timeout, and the surroundings of the process. -/
structure Setup (A : Type) where
  admission : Admission
  timeout : Option PyNum
  clock : Clock
  maxStrDigits : ℕ
  executionStatus : A → NativeStatus

namespace Setup

variable {A : Type} (x : Setup A)

/-- The trials of the plan. -/
def trials : List TrialSpec := x.admission.plan.trials

/-- `self.keys[index]`. -/
def keys (index : ℕ) : List PyStr := (x.admission.keys[index]?).getD []

/-- `self.targets[index]`. -/
def target (index : ℕ) : ℤ := (x.admission.targets[index]?).getD 0

/-- The cell of a trial. -/
def cell (index : ℕ) : Option PyStr := (x.trials[index]?).map TrialSpec.cellId

/-- `self.predecessors.get(index)`: the last earlier trial of the same cell. -/
def predecessor (index : ℕ) : Option ℕ :=
  ((List.range index).filter fun i => x.cell i = x.cell index).getLast?

end Setup

/-- What the run has done, for the statements about it: the admissions in their order with the stop
reason they met and the children that were active behind them, and the cancellations it sent. -/
structure Admitted where
  index : ℕ
  admitted : Finite64
  stopReason : Option StopReason
  active : List ℕ

/-- The fields of a `_Run` that change. Dictionaries are lists of their items. -/
structure Run (A : Type) where
  /-- The number of clock readings so far. -/
  reads : ℕ
  records : List (ℕ × TrialRecord A)
  active : List (ℕ × Owned A)
  /-- The pending trials in ascending order. -/
  pending : List ℕ
  admissions : ℕ
  stopReason : Option StopReason
  stoppedOffset : Option Finite64
  terminationReason : Option HardStop
  terminationOffset : Option Finite64
  cause : Option (Failure)
  cleanupErrors : List Raised
  /-- `self.owner.cancelling() > self.cancellations`. -/
  cancelPending : Bool
  admittedLog : List Admitted
  cancelledLog : List (ℕ × Option PyVal)

/-- The outcome of one submission to the task factory: the task, with its result when it ran eagerly
to its end, or the exception in the place of a task; and whether a cancellation of the parent is
pending behind it. -/
structure Submission (A : Type) where
  events : List DeliveredEvent := []
  result : Option (TaskResult A) := none
  cancelPending : Bool := false

/-- What happens while the coroutine awaits, and how the submissions behind the await go. -/
structure Wake (A : Type) where
  events : ℕ → List DeliveredEvent := fun _ => []
  results : ℕ → Option (TaskResult A) := fun _ => none
  cancelPending : Bool := false
  /-- The `CancelledError` that the await raises. -/
  cancelled : Option Raised := none
  submit : ℕ → Submission A := fun _ => {}

namespace Run

variable {A : Type}

/-- `__init__`; the first readings of the clocks are `started` and `started_at`. -/
def start (x : Setup A) : Run A where
  reads := 1
  records := []
  active := []
  pending := List.range x.trials.length
  admissions := 0
  stopReason := none
  stoppedOffset := none
  terminationReason := none
  terminationOffset := none
  cause := none
  cleanupErrors := []
  cancelPending := false
  admittedLog := []
  cancelledLog := []

/-- The keys of `self.active`. -/
def activeIndices (s : Run A) : List ℕ := s.active.map Prod.fst

/-- `index in self.records`. -/
def recorded (s : Run A) (index : ℕ) : Bool := (s.records.map Prod.fst).contains index

/-- The reading of a clock is behind. -/
def tick (s : Run A) : Run A := { s with reads := s.reads + 1 }

/-- The value of `offset()`, to be followed by `tick`. -/
def offset (x : Setup A) (s : Run A) : Finite64 := x.clock.offset s.reads

/-- The value of `time.time()`, to be followed by `tick`. -/
def time (x : Setup A) (s : Run A) : Finite64 := x.clock.wall s.reads

/-- `stop`. -/
def stop (x : Setup A) (s : Run A) (reason : StopReason) : Run A :=
  if s.stopReason = none then
    { s.tick with stopReason := some reason, stoppedOffset := some (s.offset x) }
  else s

/-- `terminate`. -/
def terminate (x : Setup A) (s : Run A) (reason : HardStop) (cause : Failure) : Run A :=
  let offset := s.offset x
  let s := s.tick
  let s := if s.stopReason = none then
      { s with stopReason := some (.hard reason), stoppedOffset := some offset }
    else s
  if s.terminationReason = none then
    { s with
      terminationReason := some reason
      terminationOffset := some offset
      cause := some cause }
  else s

/-- `remaining() == 0`, and the state behind the reading. -/
def expired (x : Setup A) (s : Run A) : Bool × Run A :=
  match x.timeout with
  | none => (false, s)
  | some timeout => ((PyNum.float (left timeout (s.offset x))).eq (.int 0), s.tick)

/-- `TimeoutError("Concurrent plan exceeded its deadline")`. -/
def deadlineExceeded : Failure :=
  .timeout ⟨"builtins", "TimeoutError", "Concurrent plan exceeded its deadline",
    [.str "Concurrent plan exceeded its deadline"]⟩

/-- The first check of `check_limits`. -/
def checkDeadline (x : Setup A) (s : Run A) : Run A :=
  if (s.expired x).1 then (s.expired x).2.terminate x .timeout deadlineExceeded else (s.expired x).2

/-- The second check of `check_limits`. -/
def checkElapsed (x : Setup A) (s : Run A) : Run A :=
  match x.admission.plan.budget.stopAfterElapsedSeconds with
  | none => s
  | some limit =>
    if limit.reachedBy (s.offset x) then s.tick.stop x .elapsedAdmissionLimit else s.tick

/-- `check_limits`. -/
def checkLimits (x : Setup A) (s : Run A) : Run A := (s.checkDeadline x).checkElapsed x

/-- The part of `wait_timeout` behind its first reading. -/
def admissionTimeout (x : Setup A) (s : Run A) (remaining : Option PyFloat) :
    Option PyFloat × Run A :=
  match x.admission.plan.budget.stopAfterElapsedSeconds with
  | some limit =>
    if s.stopReason = none then
      let admissionRemaining := left limit (s.offset x)
      (some (match remaining with
        | none => admissionRemaining
        | some remaining =>
          if admissionRemaining.lt remaining then admissionRemaining else remaining), s.tick)
    else (remaining, s)
  | none => (remaining, s)

/-- `wait_timeout`, and the state behind its readings. -/
def waitTimeout (x : Setup A) (s : Run A) : Option PyFloat × Run A :=
  if s.terminationReason ≠ none then (none, s)
  else
    admissionTimeout x (if x.timeout = none then s else s.tick)
      (x.timeout.map fun timeout => left timeout (s.offset x))

/-- The message of `task.cancel(message)`. -/
def cancelMessage (s : Run A) : Option PyVal :=
  match s.cause with
  | some (.cancelled error) => error.args.head?
  | _ => none

/-- The children that `cancel_active` cancels. -/
def Owned.cancellable (owned : Owned A) : Bool := owned.task.isNone && !owned.cancellationSent

/-- `cancel_active`. -/
def cancelActive (s : Run A) : Run A :=
  { s with
    active := s.active.map fun (index, owned) =>
      (index, if Owned.cancellable owned then { owned with cancellationSent := true } else owned)
    cancelledLog := s.cancelledLog ++ (s.active.filter fun item => Owned.cancellable item.2).map
      fun item => (item.1, s.cancelMessage) }

/-! ## Outcomes -/

/-- What the `try` statement of `consume` computes. -/
structure Settled (A : Type) where
  status : TrialStatus
  artifact : Option A := none
  exception : Option TrialException := none
  reason : Option StopReason := none
  evidence : Option PyDict := none
  diagnostics : List PyStr := []
  cleanupConfirmed : Bool := true

/-- `"timed_out" if self.termination_reason == "timeout" else "cancelled"`. -/
def interruption (s : Run A) : TrialStatus :=
  if s.terminationReason = some .timeout then .timedOut else .cancelled

/-- The calls of `terminate` for one outcome. -/
def terminateFor (x : Setup A) (s : Run A) : TaskResult A → Run A
  | .raised (.cleanup error prior) =>
    let s := { s with cleanupErrors := s.cleanupErrors ++ [error] }
    let s := match prior with
      | .cancelled prior => s.terminate x .cancelled (.cancelled prior)
      | .timeout prior => if x.timeout ≠ none then s.terminate x .timeout (.timeout prior) else s
      | .other => s
    s.terminate x .cleanupFailed (.cleanup error prior)
  | .raised (.cancelled error) => s.terminate x .cancelled (.cancelled error)
  | .raised (.timeout error) =>
    if x.timeout = none then s else s.terminate x .timeout (.timeout error)
  | _ => s

/-- The `try` statement of `consume`, behind its calls of `terminate`. -/
def settle (x : Setup A) (s : Run A) : TaskResult A → Settled A
  | .artifact a => { status := .native (x.executionStatus a), artifact := some a }
  | .unencodable fields error =>
    { status := .exception
      exception := some error.toTrialException
      evidence := some (retainUnencodableResult fields).1
      diagnostics := (retainUnencodableResult fields).2 }
  | .raised (.cleanup error _) =>
    { status := .cleanupFailed
      exception := some error.toTrialException
      reason := s.terminationReason.map .hard
      cleanupConfirmed := false }
  | .raised (.cancelled error) =>
    { status := s.interruption
      exception := some error.toTrialException
      reason := s.terminationReason.map .hard }
  | .raised (.timeout error) =>
    if x.timeout = none then { status := .exception, exception := some error.toTrialException }
    else
      { status := s.interruption
        exception := some error.toTrialException
        reason := s.terminationReason.map .hard }
  | .raised (.exception error) =>
    { status := .exception, exception := some error.toTrialException }

/-- The record that `consume` writes; `s` is the state behind its calls of `terminate`. -/
def record (x : Setup A) (s : Run A) (index : ℕ) (spec : TrialSpec) (owned : Owned A)
    (result : TaskResult A) : TrialRecord A :=
  let settled := s.settle x result
  let finished := s.offset x
  let events := if settled.status.isPartial then owned.events.events else []
  let observed : ℤ := if settled.status.isPartial then owned.events.observed else 0
  { spec := spec
    status := settled.status
    resourceKeys := x.keys index
    targetBps := x.target index
    admissionIndex := some owned.admissionIndex
    admittedOffset := some owned.admitted
    finishedOffset := some finished
    releasedOffset := if settled.cleanupConfirmed then some finished else none
    artifact := settled.artifact
    exception := settled.exception
    reason := settled.reason
    startedAt := some owned.startedAt
    completedAt := some (s.tick.time x)
    elapsed := some ((PyFloat.finite finished).sub (.finite owned.admitted))
    returnedResultEvidence := settled.evidence
    diagnostics := settled.diagnostics
    cleanupConfirmed := settled.cleanupConfirmed
    partialEvents := events
    eventsObserved := observed
    eventsDropped := observed - events.length }

/-- `consume`, given what the task's `result()` does. -/
def consume (x : Setup A) (s : Run A) (index : ℕ) (owned : Owned A) (result : TaskResult A) :
    Run A :=
  match x.trials[index]? with
  | none => s
  | some spec =>
    let s := s.terminateFor x result
    let record := s.record x index spec owned result
    let s := { s.tick.tick with records := s.records ++ [(index, record)] }
    if record.status ≠ .native .completed ∧ x.admission.plan.policy.stopOnError = true then
      s.stop x .stopOnError
    else s

/-- `del self.active[index]`. -/
def release (s : Run A) (index : ℕ) : Run A :=
  { s with active := s.active.filter fun item => item.1 ≠ index }

/-- The children that are done, with their results, in the order of their admission. -/
def doneChildren (s : Run A) : List (ℕ × Owned A × TaskResult A) :=
  List.insertionSort (fun a b => a.2.1.admissionIndex ≤ b.2.1.admissionIndex)
    (s.active.filterMap fun (index, owned) => owned.task.map fun result => (index, owned, result))

/-- `consume_done`. -/
def consumeDone (x : Setup A) (s : Run A) : Run A :=
  s.doneChildren.foldl (fun s (index, owned, result) =>
    (s.consume x index owned result).release index) s

/-! ## Admission -/

/-- The `_Owned` child that `admit` creates. -/
def newChild (x : Setup A) (s : Run A) (submission : Submission A) : Owned A where
  task := submission.result
  events := Events.deliver x.maxStrDigits {} submission.events
  admissionIndex := s.admissions + 1
  admitted := s.offset x
  startedAt := s.tick.time x

/-- The part of `admit` in front of its look at the finished task. -/
def reserveChild (x : Setup A) (s : Run A) (index : ℕ) (submission : Submission A) : Run A :=
  { s.tick.tick with
    admissions := s.admissions + 1
    cancelPending := submission.cancelPending
    active := s.active ++ [(index, s.newChild x submission)]
    pending := s.pending.erase index
    admittedLog := s.admittedLog ++
      [⟨index, s.offset x, s.stopReason, s.activeIndices ++ [index]⟩] }

/-- `admit`. -/
def admitTrial (x : Setup A) (s : Run A) (index : ℕ) (submission : Submission A) : Run A :=
  let owned := s.newChild x submission
  let s := s.reserveChild x index submission
  match submission.result with
  | some result =>
    if s.cancelPending then s else (s.consume x index owned result).release index
  | none => s

/-- `{key for index in self.active for key in self.keys[index]}`. -/
def reservedKeys (x : Setup A) (s : Run A) : List PyStr := s.activeIndices.flatMap x.keys

/-- `sum(self.targets[index] for index in self.active)`. -/
def reservedTarget (x : Setup A) (s : Run A) : ℤ := (s.activeIndices.map x.target).sum

/-- The trial is blocked by its predecessor, by a resource or by the target rate. -/
def blocked (x : Setup A) (s : Run A) (index : ℕ) (reserved : List PyStr) (target : ℤ) : Bool :=
  (x.predecessor index).any (fun predecessor => !s.recorded predecessor) ||
    (x.keys index).any reserved.contains ||
    decide (target + x.target index > x.admission.policy.maxActiveTargetBps)

/-- The loop of `admit_ready` over the trials that were pending at its start. -/
def admitLoop (x : Setup A) (submit : ℕ → Submission A) :
    List ℕ → List PyStr → ℤ → Run A → Run A
  | [], _, _, s => s
  | index :: indices, reserved, target, s =>
    if s.cancelPending then s
    else
      let s := s.checkLimits x
      if s.stopReason ≠ none ∨ (s.active.length : ℤ) ≥ x.admission.policy.maxWorkers then s
      else if s.blocked x index reserved target then admitLoop x submit indices reserved target s
      else
        let s := s.admitTrial x index (submit index)
        if s.activeIndices.contains index then
          admitLoop x submit indices (reserved ++ x.keys index) (target + x.target index) s
        else admitLoop x submit indices (s.reservedKeys x) (s.reservedTarget x) s

/-- `admit_ready`. -/
def admitReady (x : Setup A) (submit : ℕ → Submission A) (s : Run A) : Run A :=
  admitLoop x submit s.pending (s.reservedKeys x) (s.reservedTarget x) s

/-! ## The coroutine -/

/-- Where the coroutine stands. -/
inductive Point where
  /-- At `asyncio.sleep(0)`. -/
  | sleeping
  /-- At `asyncio.wait`. -/
  | waiting
  /-- Behind the loop. -/
  | finished
deriving DecidableEq, Repr

/-- What happened to a child during an await. -/
def Owned.arrive (x : Setup A) (w : Wake A) (index : ℕ) (owned : Owned A) : Owned A :=
  { owned with
    task := owned.task.or (w.results index)
    events := owned.events.deliver x.maxStrDigits (w.events index) }

/-- What happened to the children and to the parent during an await. -/
def arrive (x : Setup A) (w : Wake A) (s : Run A) : Run A :=
  { s with
    active := s.active.map fun (index, owned) => (index, Owned.arrive x w index owned)
    cancelPending := w.cancelPending }

/-- `except asyncio.CancelledError as error: self.terminate("cancelled", error)`. -/
def interrupt (x : Setup A) (w : Wake A) (s : Run A) : Run A :=
  match w.cancelled with
  | some error => s.terminate x .cancelled (.cancelled error)
  | none => s

/-- From `asyncio.sleep(0)` to the call of `admit_ready`. -/
def beforeAdmission (x : Setup A) (w : Wake A) (s : Run A) : Run A :=
  (((s.arrive x w).interrupt x w).checkLimits x).consumeDone x

/-- From `asyncio.sleep(0)` to the look at the active children. -/
def admission (x : Setup A) (w : Wake A) (s : Run A) : Run A :=
  let s := s.beforeAdmission x w
  let s := if s.stopReason = none then s.admitReady x w.submit else s
  if s.terminationReason ≠ none then s.cancelActive else s

/-- `while self.pending or self.active`. -/
def loopHead (s : Run A) : Point :=
  if s.pending = [] ∧ s.activeIndices = [] then .finished else .sleeping

/-- From one await point to the next. -/
def resume (x : Setup A) (w : Wake A) : Point × Run A → Point × Run A
  | (.sleeping, s) =>
    let s := s.admission x w
    if s.activeIndices = [] then
      if s.stopReason = none ∧ s.pending ≠ [] then (.sleeping, s) else (.finished, s)
    else (.waiting, (s.waitTimeout x).2)
  | (.waiting, s) =>
    let s := s.arrive x w
    let s := match w.cancelled with
      | some error => (s.terminate x .cancelled (.cancelled error)).cancelActive
      | none => s
    (s.loopHead, s)
  | (.finished, s) => (.finished, s)

/-- The state at the await point behind a sequence of wakes. -/
def run (x : Setup A) (wakes : List (Wake A)) : Point × Run A :=
  wakes.foldl (fun state w => resume x w state) ((start x).loopHead, start x)

/-! ## The result -/

/-- The record of a trial that never started. -/
def unstarted (x : Setup A) (s : Run A) (index : ℕ) (spec : TrialSpec) : TrialRecord A :=
  { spec := spec
    status := .notRun
    resourceKeys := x.keys index
    targetBps := x.target index
    reason := s.stopReason }

/-- `self.records` with the trials that never started. -/
def allRecords (x : Setup A) (s : Run A) : List (ℕ × TrialRecord A) :=
  s.records ++ s.pending.filterMap fun index =>
    (x.trials[index]?).map fun spec => (index, s.unstarted x index spec)

/-- The `ConcurrentPlanResult` behind the loop; no record is missing in a list of records. -/
def result (x : Setup A) (s : Run A) : Option (ConcurrentPlanResult A) := do
  let trials ← (List.range x.trials.length).mapM fun index => (s.allRecords x).lookup index
  return {
    plan := x.admission.plan
    policy := x.admission.policy
    resources := x.admission.resources
    trials := trials
    startedAt := x.clock.wall 0
    completedAt := s.time x
    elapsed := s.tick.offset x
    stopReason := s.stopReason
    stoppedOffset := s.stoppedOffset
    terminationReason := s.terminationReason
    terminationOffset := s.terminationOffset
    timeout := x.timeout }

end Run

end Iperf3Lib
