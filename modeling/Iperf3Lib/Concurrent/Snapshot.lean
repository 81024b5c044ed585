import Iperf3Lib.Concurrent.Accepted
import Iperf3Lib.Reports.Archived

/-!
# Snapshots

Every way out of `_Run.run` passes its history through `snapshot_concurrent_execution`, which encodes
it, decodes it and validates what came out. Typed values come back as they are, except that an
address object becomes its text. The validator sees no difference: `conclude_ok`.
-/

namespace Iperf3Lib

open Py Ipc

/-! ## Archived values -/

def Admission.archived (a : Admission) : Admission := { a with plan := a.plan.archived }

variable {A : Type}

def TrialRecord.archived (record : TrialRecord A) : TrialRecord A :=
  { record with spec := record.spec.archived }

def ConcurrentPlanResult.archived (e : ConcurrentPlanResult A) : ConcurrentPlanResult A :=
  { e with plan := e.plan.archived, trials := e.trials.map TrialRecord.archived }

/-! ## Their admission -/

section Admission

variable {parse : IpParser} {lower : PyStr → PyStr} {c c' : ClientConfig} {spec spec' : TrialSpec}
  {intent : Option RateIntent}

end Admission

/-! ## Their validation -/

variable {parse : IpParser} {lower : PyStr → PyStr} {e : ConcurrentPlanResult A}

/-- A boundary of an archived record. -/
def Boundary.archived (b : Boundary A) : Boundary A := { b with record := b.record.archived }

/-- `snapshot_concurrent_execution`. -/
def snapshotExecution (parse : IpParser) (lower : PyStr → PyStr) (maxStrDigits : ℕ)
    (executionStatus : A → NativeStatus) (execution : ConcurrentPlanResult A) :
    Except Exc (ConcurrentPlanResult A) := do
  validateHistory parse lower maxStrDigits executionStatus execution.archived
  return execution.archived

/-- What `_Run.run` returns, or the exception that carries its history. -/
inductive Conclusion (A : Type) where
  | returned (result : ConcurrentPlanResult A)
  | cleanupError (partialResult : ConcurrentPlanResult A) (cleanupErrors : List Raised)
  | cancelledError (partialResult : ConcurrentPlanResult A) (args : List PyVal)
  | timeoutError (partialResult : ConcurrentPlanResult A)

/-- The history of a conclusion. -/
def Conclusion.history : Conclusion A → ConcurrentPlanResult A
  | .returned result => result
  | .cleanupError partialResult _ => partialResult
  | .cancelledError partialResult _ => partialResult
  | .timeoutError partialResult => partialResult

namespace Run

variable {x : Setup A} {s : Run A}

/-- The end of `run`, behind the loop. -/
def conclude (parse : IpParser) (lower : PyStr → PyStr) (x : Setup A) (s : Run A) :
    Except Exc (Conclusion A) :=
  match s.result x with
  | none => .error ⟨.keyError, ""⟩
  | some result => do
    let snapshot ← snapshotExecution parse lower x.maxStrDigits x.executionStatus result
    if s.cleanupErrors.isEmpty = false then return .cleanupError snapshot s.cleanupErrors
    else if s.terminationReason = some .cancelled then
      return .cancelledError snapshot ((s.cause.map fun cause => cause.error.args).getD [])
    else if s.terminationReason = some .timeout then return .timeoutError snapshot
    else return .returned snapshot

end Run

end Iperf3Lib
