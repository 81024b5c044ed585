import Iperf3Lib.General.Except
import Iperf3Lib.Py.Math
import Iperf3Lib.Result.Observations

/-!
# Measurements

What the analysis reads from a statistics record. The fields of a result are not checked when it is
built, so that each of them is any value; a number that was read is finite. A `Selection` names one
population of the intervals, and an `IntervalPolicy` records the decisions about missing data.
-/

namespace Iperf3Lib.Analysis

open Py

/-! ## Numbers -/

/-- `_number` of a converted value. -/
def checkNumber (name : PyStr) (signed : Bool) (x : Finite64) : Except Exc Finite64 :=
  if signed = false ∧ x.toRat < 0 then valueError (name ++ (" must be finite and nonnegative" : String))
  else .ok x

/-- `_number`. -/
def number (name : PyStr) (signed : Bool) : PyVal → Except Exc Finite64
  | .int n =>
    match PyFloat.ofInt n with
    | .finite x => checkNumber name signed x
    | _ => valueError (name ++ (" is outside the finite numeric range" : String))
  | .float (.finite x) => checkNumber name signed x
  | .float _ =>
    valueError (name ++ ((" must be finite" ++ if signed then "" else " and nonnegative") : String))
  | _ => valueError (name ++ (" must be a finite number" : String))

/-- `_count`. -/
def count (name : PyStr) : PyVal → Except Exc ℕ
  | .int n =>
    if n < 0 then valueError (name ++ (" must be a nonnegative integer" : String)) else .ok n.toNat
  | _ => valueError (name ++ (" must be a nonnegative integer" : String))

/-- `None if value is None else read(value)`. -/
def optional {α : Type} (read : PyVal → Except Exc α) : PyVal → Except Exc (Option α)
  | .none => .ok none
  | value => (read value).map some

/-- `_divide_bytes`. -/
def divideBytes (count : ℕ) (duration : Finite64) : Except Exc Finite64 :=
  match PyFloat.ofInt (8 * count) with
  | .finite bits => do
    let rate ← bits.div duration
    number "derived throughput" false (.float rate)
  | _ => valueError "derived throughput is outside the finite numeric range"

/-! ## Records -/

/-- `type(value) is str and value == text`. -/
def isText (text : String) : PyVal → Bool
  | .str s => s = text
  | _ => false

/-- `value is None`. -/
def isNone : PyVal → Bool
  | .none => true
  | _ => false

/-- The fields of an `IntervalStats` that the analysis of intervals reads. -/
structure IntervalStats where
  startSeconds : PyVal
  endSeconds : PyVal
  bitsPerSecond : PyVal := .none
  direction : PyVal := .str "unknown"
  observation : PyVal := .none
  streamId : PyVal := .none
  scope : PyVal := .str "unknown"
  bytes : PyVal := .none
  durationSeconds : PyVal := .none
  omitted : PyVal := .none

/-- A member of `result.intervals`. -/
inductive Item where
  | interval (stats : IntervalStats)
  | other

/-- `_measurement`. -/
def measurement (stats : IntervalStats) (path : PyStr) : Except Exc (Option ℕ × Option Finite64) := do
  let bytes ← optional (count (path ++ ("/bytes" : String))) stats.bytes
  let duration ← optional (number (path ++ ("/duration_seconds" : String)) false) stats.durationSeconds
  let _ ← optional (number (path ++ ("/bits_per_second" : String)) false) stats.bitsPerSecond
  match stats.omitted with
  | .none | .bool _ => return (bytes, duration)
  | _ => valueError (path ++ ("/omitted must be boolean or None" : String))

/-! ## Selections and policies -/

/-- `Direction`. -/
inductive Direction where
  | clientToServer
  | serverToClient
deriving DecidableEq, Repr

def Direction.text : Direction → String
  | .clientToServer => "client_to_server"
  | .serverToClient => "server_to_client"

/-- `scope` and `stream_id` of a selection. -/
inductive Population where
  | aggregate
  | stream (id : ℕ)
deriving DecidableEq, Repr

def Population.text : Population → String
  | .aggregate => "aggregate"
  | .stream _ => "stream"

/-- A `Selection`. -/
structure Selection where
  direction : Direction
  observation : ObservationPoint
  population : Population := .aggregate
deriving DecidableEq

/-- `unknown_omission`. -/
inductive UnknownOmission where
  | exclude
  | include
deriving DecidableEq, Repr

def UnknownOmission.text : UnknownOmission → String
  | .exclude => "exclude"
  | .include => "include"

/-- An `IntervalPolicy`, whose tolerance has been read. -/
structure IntervalPolicy where
  unknownOmission : UnknownOmission := .exclude
  deriveDurationFromBounds : Bool := false
  timeToleranceSeconds : PyVal
  tolerance : Finite64
  tolerance_eq : number "time_tolerance_seconds" false timeToleranceSeconds = .ok tolerance
  minimumIntervals : ℕ := 2
  minimum_pos : 0 < minimumIntervals := by decide

/-- `EvidenceRef`. -/
structure EvidenceRef where
  path : PyStr
deriving DecidableEq

/-- An `AnalysisDiagnostic`. -/
structure AnalysisDiagnostic where
  code : String
  message : String
  evidence : List EvidenceRef
deriving DecidableEq

/-- `_diagnostic`. -/
def diagnostic (code message : String) (paths : List PyStr) : AnalysisDiagnostic :=
  ⟨code, message, paths.map EvidenceRef.mk⟩

/-! ## What was read -/

theorem checkNumber_eq_ok {name : PyStr} {signed : Bool} {x y : Finite64}
    (h : checkNumber name signed x = .ok y) : y = x ∧ (signed = false → 0 ≤ y.toRat) := by
  unfold checkNumber at h
  split at h
  · cases h
  · next hcheck =>
    obtain rfl := Except.ok.inj h
    exact ⟨rfl, fun hsigned => not_lt.mp fun hneg => hcheck ⟨hsigned, hneg⟩⟩

/-- A number that need not be signed is nonnegative. -/
theorem number_nonneg {name : PyStr} {value : PyVal} {x : Finite64}
    (h : number name false value = .ok x) : 0 ≤ x.toRat := by
  unfold number at h
  split at h
  · split at h
    · exact (checkNumber_eq_ok h).2 rfl
    · cases h
  · exact (checkNumber_eq_ok h).2 rfl
  · cases h
  · cases h

/-- A finite float is read as itself. -/
theorem number_float_eq_ok {name : PyStr} {signed : Bool} {y : PyFloat} {x : Finite64}
    (h : number name signed (.float y) = .ok x) : y = .finite x := by
  cases y with
  | finite y => rw [(checkNumber_eq_ok h).1]
  | inf b => cases h
  | nan => cases h

end Iperf3Lib.Analysis
