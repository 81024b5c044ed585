import Iperf3Lib.Execution
import Iperf3Lib.Trials

/-!
# Plans in one thread

`run_plan` runs the trials of a plan one behind the other and hands each to its executor. A stop
decision leaves the rest of the plan unstarted. The readings of the clock at which trials and pauses
begin and end are kept beside the state, for the statements about the recorded durations.
-/

namespace Iperf3Lib.Trials

open Py

/-! ## Records -/

/-- The `status` of a `TrialRecord`. -/
inductive TrialStatus where
  | native (status : NativeStatus)
  | exception
  | notRun
deriving DecidableEq, Repr

/-- A `TrialRecord`. -/
structure TrialRecord (A : Type) where
  spec : TrialSpec
  status : TrialStatus
  artifact : Option A := none
  exception : Option TrialException := none
  reason : Option PyStr := none
  startedAt : Option PyNum := none
  completedAt : Option PyNum := none
  elapsed : Option PyNum := none
  returnedResultEvidence : Option PyDict := none
  diagnostics : List PyStr := []

/-- A `PlanResult`. -/
structure PlanResult (A : Type) where
  plan : PreparedPlan
  trials : List (TrialRecord A)
  startedAt : PyNum
  completedAt : PyNum
  elapsed : PyNum
  observedPause : PyNum
  stopReason : Option PyStr := none

/-- `execution_success`. -/
def PlanResult.executionSuccess {A : Type} (result : PlanResult A) : Bool :=
  !result.trials.isEmpty && result.trials.all fun trial => trial.status = .native .completed

/-! ## Outcomes -/

/-- What a call of the executor does. A value that is no result counts as the `TypeError` raised for
it. -/
inductive Outcome (A : Type) where
  /-- A result with a canonical artifact. -/
  | artifact (a : A)
  /-- A result that `artifact_from_result` refuses. -/
  | unencodable (fields : ReturnedFields) (error : Raised)
  | raised (error : Raised)

/-- What the `try` statement of `run_plan` computes. -/
structure Settled (A : Type) where
  status : TrialStatus
  artifact : Option A := none
  exception : Option TrialException := none
  reason : Option PyStr := none
  evidence : Option PyDict := none
  diagnostics : List PyStr := []

variable {A : Type}

/-- The `try` statement of `run_plan`. -/
def settle (artifacts : Artifacts A) : Outcome A → Settled A
  | .artifact a =>
    match artifacts.execution a with
    | some status => { status := .native status, artifact := some a }
    | none =>
      { status := .native .incomplete
        artifact := some a
        reason := some (PyStr.ofString "execution_metadata_unavailable") }
  | .unencodable fields error =>
    { status := .exception
      exception := some error.toTrialException
      evidence := some (retainUnencodableResult fields).1
      diagnostics := (retainUnencodableResult fields).2 }
  | .raised error => { status := .exception, exception := some error.toTrialException }

/-! ## The loop -/

/-- What a run is given behind the admission of its plan. -/
structure Setup (A : Type) where
  plan : PreparedPlan
  clock : Clock
  artifacts : Artifacts A

/-- The variables of `run_plan`. -/
structure Run (A : Type) where
  /-- The number of clock readings so far. -/
  reads : ℕ
  records : List (TrialRecord A)
  pauseElapsed : PyFloat
  stopReason : Option PyStr
  /-- The arguments of `time.sleep`. -/
  sleeps : List PyNum
  /-- The readings at which the trials began and ended. -/
  work : List (ℕ × ℕ)
  /-- The readings at which the pauses began and ended. -/
  pauses : List (ℕ × ℕ)

/-- `"stop_on_error"`. -/
def stopOnError : PyStr := "stop_on_error"

/-- `"elapsed_admission_limit"`. -/
def elapsedAdmissionLimit : PyStr := "elapsed_admission_limit"

namespace Run

/-- In front of the loop; the first readings are `started` and `started_at`. -/
def start : Run A where
  reads := 1
  records := []
  pauseElapsed := .finite (.zero false)
  stopReason := none
  sleeps := []
  work := []
  pauses := []

/-- The reading of a clock is behind. -/
def tick (s : Run A) : Run A := { s with reads := s.reads + 1 }

/-- `if limit is not None and time.monotonic() - started >= limit: stop_reason = ...`. -/
def checkLimit (x : Setup A) (s : Run A) : Run A :=
  match x.plan.budget.stopAfterElapsedSeconds with
  | none => s
  | some limit =>
    if limit.reachedBy (x.clock.offset s.reads) then
      { s.tick with stopReason := some elapsedAdmissionLimit }
    else s.tick

/-- The argument of `time.sleep` for a pause that begins now. -/
def pauseSeconds (x : Setup A) (s : Run A) : PyNum :=
  match x.plan.budget.stopAfterElapsedSeconds with
  | none => x.plan.policy.pauseSeconds
  | some limit => x.plan.policy.pauseSeconds.min (.float (left limit (x.clock.offset s.reads)))

/-- The pause in front of a trial. -/
def pause (x : Setup A) (s : Run A) : Run A :=
  let readings := (s.reads, s.reads + 1)
  { s.tick.tick with
    sleeps := s.sleeps ++ [s.pauseSeconds x]
    pauseElapsed := s.pauseElapsed.add (x.clock.span readings)
    pauses := s.pauses ++ [readings] }

/-- The stop decisions in front of a trial. -/
def beforeTrial (x : Setup A) (index : ℕ) (s : Run A) : Run A :=
  let s := if s.stopReason = none then s.checkLimit x else s
  if s.stopReason = none ∧ index ≠ 0 ∧ x.plan.policy.pauseSeconds.eq (.int 0) = false then
    (s.pause x).checkLimit x
  else s

/-- The record of a trial that began at the last reading. -/
def record (x : Setup A) (s : Run A) (spec : TrialSpec) (outcome : Outcome A) : TrialRecord A :=
  let settled := settle x.artifacts outcome
  { spec := spec
    status := settled.status
    artifact := settled.artifact
    exception := settled.exception
    reason := settled.reason
    startedAt := some (.float (.finite (x.clock.wall s.reads)))
    completedAt := some (.float (.finite (x.clock.wall (s.reads + 1))))
    elapsed := some (.float (x.clock.span (s.reads, s.reads + 1)))
    returnedResultEvidence := settled.evidence
    diagnostics := settled.diagnostics }

/-- A trial that is started. -/
def trial (x : Setup A) (spec : TrialSpec) (outcome : Outcome A) (s : Run A) : Run A :=
  let record := s.record x spec outcome
  let next := { s.tick.tick with
    records := s.records ++ [record]
    work := s.work ++ [(s.reads, s.reads + 1)] }
  if record.status ≠ .native .completed ∧ x.plan.policy.stopOnError = true then
    { next with stopReason := some stopOnError }
  else next

/-- `TrialRecord(spec, "not_run", reason=stop_reason)`. -/
def unstarted (spec : TrialSpec) (s : Run A) : TrialRecord A :=
  { spec, status := .notRun, reason := s.stopReason }

/-- A trial that is left out. -/
def skip (spec : TrialSpec) (s : Run A) : Run A :=
  { s with records := s.records ++ [s.unstarted spec] }

/-- The body of the loop. -/
def step (x : Setup A) (execute : ℕ → Outcome A) (s : Run A) (item : TrialSpec × ℕ) : Run A :=
  let s := s.beforeTrial x item.2
  if s.stopReason ≠ none then s.skip item.1 else s.trial x item.1 (execute item.2)

/-- The loop, where `execute` says what the executor does with the copy of each trial. -/
def run (x : Setup A) (execute : ℕ → Outcome A) : Run A :=
  x.plan.trials.zipIdx.foldl (step x execute) start

/-- The `PlanResult` behind the loop. -/
def result (x : Setup A) (s : Run A) : PlanResult A where
  plan := x.plan
  trials := s.records
  startedAt := .float (.finite (x.clock.wall 0))
  completedAt := .float (.finite (x.clock.wall s.reads))
  elapsed := .float (x.clock.span (0, s.reads))
  observedPause := .float s.pauseElapsed
  stopReason := s.stopReason

end Run

end Iperf3Lib.Trials
