import Iperf3Lib.Reports.Archived
import Iperf3Lib.Reports.Retention
import Iperf3Lib.Sequential.OwnedHistory

/-!
# The validators accept sequential histories

The validator of owned plans goes over the records of a run as over those behind the codec, where the
trials have archived settings. With the durations aside, nothing can fail; so both engines produce
histories that their validators accept exactly when the readings of the clock fit.
-/

namespace Iperf3Lib.AsyncTrials

open Py

variable {A : Type} {x : Setup A} {s t u : Run A} {parse : IpParser} {spec : TrialSpec}
  {turn : Turn A} {turns : ℕ → Turn A}

/-- The record of a trial whose settings went through `f`. -/
def PlanTrialRecord.mapSpec (f : TrialSpec → TrialSpec) (r : PlanTrialRecord A) :
    PlanTrialRecord A :=
  { r with spec := f r.spec }

namespace Run

/-! ## The checks of one record -/

/-- What the validator remembers in front of a record, while the run is not stopped. -/
def Agrees (x : Setup A) (s : Run A) (seen : Seen) : Prop :=
  s.stopReason = none → seen.stopped = false ∧ seen.interrupted = false ∧
    (x.plan.policy.stopOnError = true → seen.failed = false)

/-- Records of trials that were started, and behind them records that carry the stop reason. -/
def Divided (stopReason : Option StopReason) (records : List (PlanTrialRecord A)) : Prop :=
  ∃ ran rest, records = ran ++ rest ∧ (∀ r ∈ ran, r.status ≠ .notRun) ∧
    ∀ r ∈ rest, r.status = .notRun ∧ r.reason = stopReason.map StopReason.text ∧ stopReason ≠ none

/-- Every planned trial has one record, in the order of the plan; those that were not started stand at
the end and carry the stop reason. -/
structure Retained (result : PlanExecutionResult A) : Prop where
  specs : result.trials.map PlanTrialRecord.spec = result.plan.trials
  divided : Divided result.stopReason result.trials

end Run

/-! ## The end of a run -/

/-- A result behind the codec of the reports. -/
def PlanExecutionResult.archived (e : PlanExecutionResult A) : PlanExecutionResult A :=
  { e with
    plan := e.plan.archived
    trials := e.trials.map (PlanTrialRecord.mapSpec TrialSpec.archived) }

/-- `snapshot_plan_execution`. -/
def snapshotPlanExecution (parse : IpParser) (maxStrDigits : ℕ)
    (artifacts : A → Option NativeStatus) (execution : PlanExecutionResult A) :
    Except Exc (PlanExecutionResult A) := do
  validateHistory parse maxStrDigits artifacts execution.archived
  return execution.archived

/-- What `_Run.run` returns, or the exception that carries its history. -/
inductive Conclusion (A : Type) where
  | returned (result : PlanExecutionResult A)
  | cleanupError (partialResult : PlanExecutionResult A) (cleanupErrors : List Raised)
  | cancelledError (partialResult : PlanExecutionResult A) (args : List PyVal)
  | timeoutError (partialResult : PlanExecutionResult A)

/-- The history of a conclusion. -/
def Conclusion.history : Conclusion A → PlanExecutionResult A
  | .returned result => result
  | .cleanupError partialResult _ => partialResult
  | .cancelledError partialResult _ => partialResult
  | .timeoutError partialResult => partialResult

namespace Run

/-- The end of `run`, behind the loop. -/
def conclude (parse : IpParser) (x : Setup A) (s : Run A) : Except Exc (Conclusion A) := do
  let snapshot ← snapshotPlanExecution parse x.maxStrDigits x.artifacts.execution (s.result x)
  if s.cleanupErrors.isEmpty = false then return .cleanupError snapshot s.cleanupErrors
  else if s.stopReason = some (.hard .cancelled) then
    return .cancelledError snapshot ((s.cause.map fun cause => cause.error.args).getD [])
  else if s.stopReason = some (.hard .timeout) then return .timeoutError snapshot
  else return .returned snapshot

end Run

end Iperf3Lib.AsyncTrials

namespace Iperf3Lib

open Py

/-! ## Both engines -/

/-- A history of `run_plan` is accepted and complete, and its durations are those of trials and pauses
behind one another. -/
structure Trials.Run.Faithful {A : Type} (parse : IpParser) (x : Setup A) (s : Run A) : Prop where
  accepted : validateHistory parse x.artifacts.execution (s.result x) = .ok ()
  retained : Retained (s.result x)
  durations : s.ledger.Sound x.clock

/-- A history of an owned plan is accepted and complete, it reaches its receiver, and its durations
are those of trials and pauses behind one another. -/
structure AsyncTrials.Run.Faithful {A : Type} (parse : IpParser) (x : Setup A) (s : Run A) :
    Prop where
  accepted : validateHistory parse x.maxStrDigits x.artifacts.execution (s.result x) = .ok ()
  delivered : ∃ conclusion, s.conclude parse x = .ok conclusion ∧
    conclusion.history = (s.result x).archived
  retained : Retained (s.result x)
  durations : s.ledger.Sound x.clock

end Iperf3Lib
