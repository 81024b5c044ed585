import Iperf3Lib.Analysis.Intervals
import Iperf3Lib.Analysis.Stability
import Mathlib.Data.Rat.Cast.Order

/-!
# The loop over the intervals in exact arithmetic

`_interval_samples` reads the fields of the intervals as it does in floats, and computes with what it
has read exactly. A number that was read as nonnegative carries the proof, so that a sample can be
built only from a positive duration and a rate that its bytes decide.
-/

namespace Iperf3Lib.Stability

open Py Analysis

variable {K : Type} [Field K] [LinearOrder K] [IsStrictOrderedRing K]

/-! ## Numbers -/

/-- The value of a float. -/
def exact (x : Finite64) : K := x.toRat

/-- `_number` of a field that must not be negative. -/
def quantity (name : PyStr) (value : PyVal) : Except Exc {x : K // 0 ≤ x} :=
  match h : Analysis.number name false value with
  | .ok x => .ok ⟨exact x, Rat.cast_nonneg.mpr (number_nonneg h)⟩
  | .error e => .error e

/-- `math.isclose`. -/
def isclose (a b relTol absTol : K) : Bool :=
  a = b || |b - a| ≤ |relTol * b| || |b - a| ≤ |relTol * a| || |b - a| ≤ absTol

/-- The fields of a statistics record that `_measurement` reads. -/
structure Measured where
  bytes : PyVal
  durationSeconds : PyVal
  bitsPerSecond : PyVal
  omitted : PyVal

/-- `_measurement`. -/
def measurement (stats : Measured) (path : PyStr) :
    Except Exc (Option ℕ × Option {x : K // 0 ≤ x}) := do
  let bytes ← optional (count (path ++ ("/bytes" : String))) stats.bytes
  let duration ← optional (quantity (path ++ ("/duration_seconds" : String))) stats.durationSeconds
  let _ ← optional (quantity (K := K) (path ++ ("/bits_per_second" : String))) stats.bitsPerSecond
  match stats.omitted with
  | .none | .bool _ => return (bytes, duration)
  | _ => valueError (path ++ ("/omitted must be boolean or None" : String))

theorem divideBytes_nonneg (count : ℕ) {duration : K} (h : 0 < duration) :
    0 ≤ divideBytes count duration :=
  div_nonneg (mul_nonneg (by norm_num) (Nat.cast_nonneg count)) h.le

/-! ## One pass -/

/-- The accumulators after what a pass adds. -/
def Tally.add (t d : Tally K) : Tally K where
  samples := t.samples ++ d.samples
  diagnostics := t.diagnostics ++ d.diagnostics
  selected := t.selected + d.selected
  omitted := t.omitted + d.omitted
  unknown := t.unknown + d.unknown
  missing := t.missing + d.missing
  bounds := t.bounds ++ d.bounds
  coverageUnknown := t.coverageUnknown || d.coverageUnknown

/-- `missing += 1` with its diagnostic. -/
def miss (coverageUnknown : Bool) (code message : String) (path : PyStr) : Tally K :=
  { missing := 1, coverageUnknown, diagnostics := [diagnostic code message [path]] }

/-- The end of a pass: the rate, by which the interval becomes a sample. -/
def rated (interval : IntervalStats) (path : PyStr) (bytes : Option ℕ) (bounds : Bounds K)
    (duration : {x : K // 0 < x}) : Except Exc (Tally K) := do
  let reported ← optional (quantity (path ++ ("/bits_per_second" : String))) interval.bitsPerSecond
  match bytes, reported with
  | some count, reported =>
    let rate := divideBytes count duration.1
    let differs := reported.any fun reported => !isclose rate reported.1 (1 / 1000000) 1
    return {
      diagnostics := if differs then [diagnostic "measurement.rate_difference"
        "Native reported rate differs from bytes/time; bytes/time is used."
        [path ++ ("/bits_per_second" : String), path ++ ("/bytes" : String),
          path ++ ("/duration_seconds" : String)]] else []
      samples := [{
        start := bounds.start, stop := bounds.stop, duration := duration.1, rate, bytes := some count, path
        duration_pos := duration.2
        rate_nonneg := divideBytes_nonneg count duration.2
        rate_eq := fun _ h => Option.some.inj h ▸ rfl }] }
  | none, some rate =>
    return {
      diagnostics := [diagnostic "measurement.reported_rate"
        "Reported rate supports stability; missing bytes prevent complete bytes/time throughput."
        [path]]
      samples := [{
        start := bounds.start, stop := bounds.stop, duration := duration.1, rate := rate.1, bytes := none, path
        duration_pos := duration.2
        rate_nonneg := rate.2
        rate_eq := fun _ h => nomatch h }] }
  | none, none =>
    return miss false "measurement.missing_rate" "Neither bytes/time nor reported rate is available."
      path

/-- The duration of the interval agrees with its bounds. -/
def timed (policy : Policy K) (interval : IntervalStats) (path : PyStr) (bytes : Option ℕ)
    (bounds : Bounds K) (duration : Option {x : K // 0 ≤ x}) : Except Exc (Tally K) :=
  match duration with
  | none => .ok (miss false "measurement.missing_duration" "Positive measured duration is required."
      path)
  | some duration =>
    if h : duration.1 = 0 then
      .ok (miss false "measurement.missing_duration" "Positive measured duration is required." path)
    else if !isclose duration.1 (bounds.stop - bounds.start) (1 / 1000000000)
        policy.timeToleranceSeconds then
      .ok (miss true "interval.duration_conflict" "Measured duration conflicts with interval bounds."
        path)
    else rated interval path bytes bounds ⟨duration.1, lt_of_le_of_ne duration.2 (Ne.symm h)⟩

/-- An interval of positive width, whose duration may be taken from its bounds. -/
def bounded (policy : Policy K) (interval : IntervalStats) (path : PyStr) (bytes : Option ℕ)
    (bounds : Bounds K) (duration : Option {x : K // 0 ≤ x}) : Except Exc (Tally K) := do
  if duration.isNone = true ∧ policy.deriveDurationFromBounds = true then
    let derived := ⟨bounds.stop - bounds.start, sub_nonneg.mpr bounds.lt.le⟩
    let rest ← timed policy interval path bytes bounds (some derived)
    return Tally.add
      { bounds := [bounds]
        diagnostics := [diagnostic "duration.derived"
          "Duration was derived from interval boundaries by explicit policy."
          [path ++ ("/start_seconds" : String), path ++ ("/end_seconds" : String)]] } rest
  else
    let rest ← timed policy interval path bytes bounds duration
    return Tally.add { bounds := [bounds] } rest

/-- An interval that is not left out: it has to establish its population and to have bounds. -/
def admitInterval (selection : Selection) (policy : Policy K) (interval : IntervalStats) (path : PyStr)
    (bytes : Option ℕ) (duration : Option {x : K // 0 ≤ x}) (start stop : Option Finite64) :
    Except Exc (Tally K) :=
  if selection.establishes interval = false then
    .ok (miss true "provenance.unknown"
      "Interval provenance does not establish the selected population." path)
  else if selection.population = .aggregate ∧ isNone interval.streamId = false then
    valueError "aggregate interval cannot carry a component stream ID"
  else
    match start, stop with
    | some start, some stop =>
      if h : (exact start : K) < exact stop then
        bounded policy interval path bytes ⟨exact start, exact stop, h⟩ duration
      else if (exact stop : K) < exact start then
        valueError (path ++ (" end must not precede start" : String))
      else
        .ok (miss true "interval.zero_width" "A zero-width interval supplies no measured time." path)
    | _, _ =>
      .ok (miss true "interval.missing_bounds" "Bounds are required to establish temporal coverage."
        path)

/-- The omission of a selected interval decides whether it is looked at. -/
def screened (selection : Selection) (policy : Policy K) (interval : IntervalStats) (path : PyStr)
    (bytes : Option ℕ) (duration : Option {x : K // 0 ≤ x}) (start stop : Option Finite64) :
    Except Exc (Tally K) :=
  match interval.omitted with
  | .bool true =>
    .ok { omitted := 1
          diagnostics := [diagnostic "interval.omitted" "Explicit warm-up interval excluded." [path]] }
  | .none =>
    let note : Tally K :=
      { unknown := 1
        coverageUnknown := true
        diagnostics := [diagnostic "interval.unknown_omission"
          s!"Unknown omission state {policy.unknownOmission.text}d by recorded policy." [path]] }
    match policy.unknownOmission with
    | .exclude => .ok note
    | .include => (admitInterval selection policy interval path bytes duration start stop).map note.add
  | _ => admitInterval selection policy interval path bytes duration start stop

/-- The fields of an interval that are measured. -/
def measuredInterval (interval : IntervalStats) : Measured :=
  ⟨interval.bytes, interval.durationSeconds, interval.bitsPerSecond, interval.omitted⟩

/-- One pass of the loop: what it adds to the accumulators. -/
def pass (selection : Selection) (policy : Policy K) (path : PyStr) : Item → Except Exc (Tally K)
  | .other => valueError (path ++ (" must be an IntervalStats" : String))
  | .interval interval =>
    if interval.wellKnown = false then
      valueError (path ++ (" has invalid direction, observation or scope" : String))
    else if selection.selects interval = false then .ok {}
    else do
      let (bytes, duration) ← measurement (measuredInterval interval) path
      let _ ← optional (count (path ++ ("/stream_id" : String))) interval.streamId
      let start ← optional (Analysis.number (path ++ ("/start_seconds" : String)) true) interval.startSeconds
      let stop ← optional (Analysis.number (path ++ ("/end_seconds" : String)) true) interval.endSeconds
      let rest ← screened selection policy interval path bytes duration start stop
      return Tally.add { selected := 1 } rest

/-- The loop of `_interval_samples`. -/
def tally (selection : Selection) (policy : Policy K) (items : List Item) : Except Exc (Tally K) :=
  items.zipIdx.foldlM (fun t item => do return t.add (← pass selection policy (itemPath item.2) item.1))
    {}

end Iperf3Lib.Stability
