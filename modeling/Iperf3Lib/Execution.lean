import Iperf3Lib.Exceptions
import Iperf3Lib.Py.FloatOrder
import Iperf3Lib.Py.Num
import Iperf3Lib.Py.Value
import Iperf3Lib.Result.Observations

/-!
# Executing trials

What the engines share: the readings of the clocks, how a trial ends, what its record keeps of an
exception, and the partial evidence of a result that has no canonical artifact.
-/

namespace Iperf3Lib

open Py

/-! ## Time -/

/-- The readings of the two clocks of the process, in the order in which they are taken. -/
structure Clock where
  monotonic : ℕ → Finite64
  wall : ℕ → Finite64
  monotone : Monotone monotonic
  finite : ∀ k, ∃ d, (PyFloat.finite (monotonic k)).sub (.finite (monotonic 0)) = .finite d

/-- A finite number. -/
def Py.PyFloat.toFinite : PyFloat → Finite64
  | .finite x => x
  | _ => .zero false

/-- `time.monotonic() - self.started` at the reading `k`. -/
def Clock.offset (clock : Clock) (k : ℕ) : Finite64 :=
  ((PyFloat.finite (clock.monotonic k)).sub (.finite (clock.monotonic 0))).toFinite

/-- The difference of two readings, the earlier one first. -/
def Clock.span (clock : Clock) (readings : ℕ × ℕ) : PyFloat :=
  (PyFloat.finite (clock.monotonic readings.2)).sub (.finite (clock.monotonic readings.1))

/-- `float(x)`. -/
def Py.PyNum.toFloat : PyNum → PyFloat
  | .int n => .ofInt n
  | .float x => x

/-- `max(0.0, x - offset)`. -/
def left (x : PyNum) (offset : Finite64) : PyFloat :=
  let d := x.toFloat.sub (.finite offset)
  if (PyFloat.finite (.zero false)).lt d then d else .finite (.zero false)

/-- `offset >= limit`. -/
def Py.PyNum.reachedBy (limit : PyNum) (offset : Finite64) : Bool :=
  match limit.value? with
  | some q => decide (q ≤ offset.toRat)
  | none => false

/-! ## Outcomes -/

inductive TrialStatus where
  | native (status : NativeStatus)
  | exception
  | notRun
  | cancelled
  | timedOut
  | cleanupFailed
deriving DecidableEq, Repr

/-- `status in ("exception", "cancelled", "timed_out", "cleanup_failed")`. -/
def TrialStatus.isPartial : TrialStatus → Bool
  | .native _ => false
  | .notRun => false
  | _ => true

/-- The reasons of `terminate`. -/
inductive HardStop where
  | cancelled
  | timeout
  | cleanupFailed
deriving DecidableEq, Repr

inductive StopReason where
  | stopOnError
  | elapsedAdmissionLimit
  | hard (reason : HardStop)
deriving DecidableEq, Repr

/-- A raised exception as a record describes it: the names of its type, its text, its arguments. -/
structure Raised where
  module : PyStr
  qualname : PyStr
  message : PyStr
  args : List PyVal := []

/-- A `TrialException`. -/
structure TrialException where
  typeName : PyStr
  message : PyStr
deriving DecidableEq

/-- `_exception`. -/
def Raised.toTrialException (error : Raised) : TrialException :=
  ⟨error.module ++ PyChar.scalar '.' :: error.qualname, error.message⟩

/-- Canonical artifacts, as far as an engine looks at them. Their conversion adds execution metadata
to a result that has none. -/
structure Artifacts (A : Type) where
  execution : A → Option NativeStatus
  canonical : ∀ a, (execution a).isSome

/-- `metadata.status`, behind `assert metadata is not None`. -/
def Artifacts.status {A : Type} (artifacts : Artifacts A) (a : A) : NativeStatus :=
  (artifacts.execution a).get (artifacts.canonical a)

@[simp] theorem Artifacts.execution_eq {A : Type} (artifacts : Artifacts A) (a : A) :
    artifacts.execution a = some (artifacts.status a) := (Option.some_get _).symm

/-- What a cleanup error was raised from. -/
inductive Prior where
  | cancelled (error : Raised)
  | timeout (error : Raised)
  | other

/-- The snapshot of a result without a canonical artifact: `to_dict()`, or the three fields that are
read when it fails, with the text that describes the failure. -/
structure ReturnedFields where
  candidate : PyDict
  snapshotFailure : Option PyStr

/-- What a child raised, by the `except` clause of `consume` that handles it. -/
inductive Failure where
  | cleanup (error : Raised) (prior : Prior)
  | cancelled (error : Raised)
  | timeout (error : Raised)
  /-- Any other exception. -/
  | exception (error : Raised)

/-- The exception itself. -/
def Failure.error : Failure → Raised
  | .cleanup error _ => error
  | .cancelled error => error
  | .timeout error => error
  | .exception error => error

/-- What `task.result()` does. A value that is no result counts as the `TypeError` raised for it. -/
inductive TaskResult (A : Type) where
  /-- A result with a canonical artifact. -/
  | artifact (a : A)
  /-- A result that `artifact_from_result` refuses. -/
  | unencodable (fields : ReturnedFields) (error : Raised)
  | raised (failure : Failure)

mutual

/-- `_json_evidence`. -/
def jsonEvidence : PyVal → Option PyVal
  | .float x => if x.isFinite then some (.float x) else Option.none
  | .list xs => (jsonEvidenceItems xs).map .list
  | .dict kvs => (jsonEvidencePairs kvs).map .dict
  | .tuple _ => Option.none
  | .obj _ _ => Option.none
  | v => some v

def jsonEvidenceItems : List PyVal → Option (List PyVal)
  | [] => some []
  | x :: xs => do return (← jsonEvidence x) :: (← jsonEvidenceItems xs)

def jsonEvidencePairs : List (PyStr × PyVal) → Option (List (PyStr × PyVal))
  | [] => some []
  | (k, v) :: kvs => do return (k, ← jsonEvidence v) :: (← jsonEvidencePairs kvs)

end

/-- The body of the loop of `_retain_unencodable_result` over the members of the snapshot. -/
def retainField (retained : PyDict × List PyStr) (kv : PyStr × PyVal) : PyDict × List PyStr :=
  match jsonEvidence kv.2 with
  | some value => (retained.1.set kv.1 value, retained.2)
  | none => (retained.1, retained.2 ++ [PyStr.ofString "Returned result field " ++ kv.1 ++
      PyStr.ofString " is not JSON-safe and was not retained."])

/-- `_retain_unencodable_result`. -/
def retainUnencodableResult (fields : ReturnedFields) : PyDict × List PyStr :=
  let diagnostics : List PyStr :=
    (("Returned result could not be encoded as a canonical artifact; JSON-safe fields are retained separately." : String) : PyStr) ::
      (fields.snapshotFailure.map fun text => PyStr.ofString "Result snapshot failed: " ++ text).toList
  fields.candidate.foldl retainField ([], diagnostics)

end Iperf3Lib
