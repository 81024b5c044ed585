import Iperf3Lib.Analysis.Measurements
import Iperf3Lib.General.Intervals
import Iperf3Lib.Py.Sum
import Mathlib.Data.List.Sort

/-!
# Interval samples

`_interval_samples` goes over the intervals of a result once. Each pass either leaves the selection
alone or adds one to `selected` and charges the interval to one counter, or adds a sample; a `Tally`
is what passes add up to. The samples are then sorted by their bounds, and neighbours are compared.
-/

namespace Iperf3Lib.Analysis

open Py

/-! ## One pass of the loop -/

/-- A `_Sample`. -/
structure Sample where
  start : Finite64
  stop : Finite64
  duration : Finite64
  rate : Finite64
  bytes : Option ℕ
  path : PyStr
deriving DecidableEq

/-- The accumulators of the loop. -/
structure Tally where
  samples : List Sample := []
  diagnostics : List AnalysisDiagnostic := []
  selected : ℕ := 0
  omitted : ℕ := 0
  unknown : ℕ := 0
  missing : ℕ := 0
  bounds : List (Finite64 × Finite64) := []
  coverageUnknown : Bool := false

/-- The accumulators after what a pass adds. -/
def Tally.add (t d : Tally) : Tally where
  samples := t.samples ++ d.samples
  diagnostics := t.diagnostics ++ d.diagnostics
  selected := t.selected + d.selected
  omitted := t.omitted + d.omitted
  unknown := t.unknown + d.unknown
  missing := t.missing + d.missing
  bounds := t.bounds ++ d.bounds
  coverageUnknown := t.coverageUnknown || d.coverageUnknown

/-- `path`. -/
def itemPath (index : ℕ) : PyStr := (s!"/intervals/{index}" : String)

/-- The first check of a pass: direction, observation and scope are of the known ones. -/
def IntervalStats.wellKnown (interval : IntervalStats) : Bool :=
  (isText "client_to_server" interval.direction || isText "server_to_client" interval.direction ||
      isText "unknown" interval.direction) &&
    (isText "sender" interval.observation || isText "receiver" interval.observation ||
      isNone interval.observation) &&
    (isText "aggregate" interval.scope || isText "stream" interval.scope ||
      isText "unknown" interval.scope)

namespace Selection

/-- The interval may belong to the population, where it says so or says nothing. -/
def selects (selection : Selection) (interval : IntervalStats) : Bool :=
  (isText selection.direction.text interval.direction || isText "unknown" interval.direction) &&
    (isText selection.observation.text interval.observation || isNone interval.observation) &&
    (isText selection.population.text interval.scope || isText "unknown" interval.scope) &&
    match selection.population with
    | .aggregate => true
    | .stream id => equalsInt id interval.streamId || isNone interval.streamId

/-- The interval says that it belongs to the population. -/
def establishes (selection : Selection) (interval : IntervalStats) : Bool :=
  isText selection.direction.text interval.direction &&
    isText selection.observation.text interval.observation &&
    isText selection.population.text interval.scope &&
    match selection.population with
    | .aggregate => true
    | .stream id => equalsInt id interval.streamId

end Selection

/-- `missing += 1` with its diagnostic. -/
def miss (coverageUnknown : Bool) (code message : String) (path : PyStr) : Tally :=
  { missing := 1, coverageUnknown, diagnostics := [diagnostic code message [path]] }

/-- The end of a pass: the rate, by which the interval becomes a sample. -/
def rated (interval : IntervalStats) (path : PyStr) (bytes : Option ℕ) (start stop duration : Finite64) :
    Except Exc Tally := do
  let reported ←
    optional (number (path ++ ("/bits_per_second" : String)) false) interval.bitsPerSecond
  match bytes, reported with
  | some count, reported =>
    let rate ← divideBytes count duration
    let differs := reported.any fun reported =>
      !(PyFloat.finite rate).isclose (.finite reported) (floatOfDecimal false 1 (-6)) (.ofInt 1)
    return {
      diagnostics := if differs then [diagnostic "measurement.rate_difference"
        "Native reported rate differs from bytes/time; bytes/time is used."
        [path ++ ("/bits_per_second" : String), path ++ ("/bytes" : String),
          path ++ ("/duration_seconds" : String)]] else []
      samples := [⟨start, stop, duration, rate, bytes, path⟩] }
  | none, some rate =>
    return {
      diagnostics := [diagnostic "measurement.reported_rate"
        "Reported rate supports stability; missing bytes prevent complete bytes/time throughput."
        [path]]
      samples := [⟨start, stop, duration, rate, bytes, path⟩] }
  | none, none =>
    return miss false "measurement.missing_rate" "Neither bytes/time nor reported rate is available."
      path

/-- The duration of the interval agrees with its bounds. -/
def timed (policy : IntervalPolicy) (interval : IntervalStats) (path : PyStr) (bytes : Option ℕ)
    (start stop : Finite64) (duration : Option Finite64) : Except Exc Tally :=
  match duration with
  | none => .ok (miss false "measurement.missing_duration" "Positive measured duration is required."
      path)
  | some duration =>
    if duration.m = 0 then
      .ok (miss false "measurement.missing_duration" "Positive measured duration is required." path)
    else if !(PyFloat.finite duration).isclose ((PyFloat.finite stop).sub (.finite start))
        (floatOfDecimal false 1 (-9)) (.finite policy.tolerance) then
      .ok (miss true "interval.duration_conflict" "Measured duration conflicts with interval bounds."
        path)
    else rated interval path bytes start stop duration

/-- An interval of positive width, whose duration may be taken from its bounds. -/
def bounded (policy : IntervalPolicy) (interval : IntervalStats) (path : PyStr) (bytes : Option ℕ)
    (start stop : Finite64) (duration : Option Finite64) : Except Exc Tally := do
  if duration = none ∧ policy.deriveDurationFromBounds = true then
    let derived ← number "derived duration" false (.float ((PyFloat.finite stop).sub (.finite start)))
    let rest ← timed policy interval path bytes start stop (some derived)
    return Tally.add
      { bounds := [(start, stop)]
        diagnostics := [diagnostic "duration.derived"
          "Duration was derived from interval boundaries by explicit policy."
          [path ++ ("/start_seconds" : String), path ++ ("/end_seconds" : String)]] } rest
  else
    let rest ← timed policy interval path bytes start stop duration
    return Tally.add { bounds := [(start, stop)] } rest

/-- An interval that is not left out: it has to establish its population and to have bounds. -/
def admitInterval (selection : Selection) (policy : IntervalPolicy) (interval : IntervalStats) (path : PyStr)
    (bytes : Option ℕ) (duration start stop : Option Finite64) : Except Exc Tally :=
  if selection.establishes interval = false then
    .ok (miss true "provenance.unknown"
      "Interval provenance does not establish the selected population." path)
  else if selection.population = .aggregate ∧ isNone interval.streamId = false then
    valueError "aggregate interval cannot carry a component stream ID"
  else
    match start, stop with
    | some start, some stop =>
      if stop < start then valueError (path ++ (" end must not precede start" : String))
      else if stop.toRat = start.toRat then
        .ok (miss true "interval.zero_width" "A zero-width interval supplies no measured time." path)
      else bounded policy interval path bytes start stop duration
    | _, _ =>
      .ok (miss true "interval.missing_bounds" "Bounds are required to establish temporal coverage."
        path)

/-- The omission of a selected interval decides whether it is looked at. -/
def screened (selection : Selection) (policy : IntervalPolicy) (interval : IntervalStats)
    (path : PyStr) (bytes : Option ℕ) (duration start stop : Option Finite64) : Except Exc Tally :=
  match interval.omitted with
  | .bool true =>
    .ok { omitted := 1
          diagnostics := [diagnostic "interval.omitted" "Explicit warm-up interval excluded." [path]] }
  | .none =>
    let note : Tally :=
      { unknown := 1
        coverageUnknown := true
        diagnostics := [diagnostic "interval.unknown_omission"
          s!"Unknown omission state {policy.unknownOmission.text}d by recorded policy." [path]] }
    match policy.unknownOmission with
    | .exclude => .ok note
    | .include => (admitInterval selection policy interval path bytes duration start stop).map note.add
  | _ => admitInterval selection policy interval path bytes duration start stop

/-- One pass of the loop: what it adds to the accumulators. -/
def pass (selection : Selection) (policy : IntervalPolicy) (path : PyStr) : Item → Except Exc Tally
  | .other => valueError (path ++ (" must be an IntervalStats" : String))
  | .interval interval =>
    if interval.wellKnown = false then
      valueError (path ++ (" has invalid direction, observation or scope" : String))
    else if selection.selects interval = false then .ok {}
    else do
      let (bytes, duration) ← measurement interval path
      let _ ← optional (count (path ++ ("/stream_id" : String))) interval.streamId
      let start ← optional (number (path ++ ("/start_seconds" : String)) true) interval.startSeconds
      let stop ← optional (number (path ++ ("/end_seconds" : String)) true) interval.endSeconds
      let rest ← screened selection policy interval path bytes duration start stop
      return Tally.add { selected := 1 } rest

/-- The loop of `_interval_samples`. -/
def tally (selection : Selection) (policy : IntervalPolicy) (items : List Item) : Except Exc Tally :=
  items.zipIdx.foldlM (fun t item => do return t.add (← pass selection policy (itemPath item.2) item.1))
    {}

/-! ## The samples together -/

/-- The order of `sort(key=lambda sample: (sample.start, sample.end))`. -/
def Sample.le (a b : Sample) : Bool :=
  a.start < b.start || (a.start ≤ b.start && a.stop ≤ b.stop)

/-- The samples in this order, those with the same bounds in the order in which they were found. -/
def sortSamples (samples : List Sample) : List Sample :=
  samples.insertionSort fun a b => a.le b = true

/-- `right.start < left.end - policy.time_tolerance_seconds`. -/
def overlaps (policy : IntervalPolicy) (left right : Sample) : Bool :=
  (PyFloat.finite right.start).lt ((PyFloat.finite left.stop).sub (.finite policy.tolerance))

/-- `right.start > left.end + policy.time_tolerance_seconds`. -/
def leavesGap (policy : IntervalPolicy) (left right : Sample) : Bool :=
  ((PyFloat.finite left.stop).add (.finite policy.tolerance)).lt (.finite right.start)

/-- A `Coverage`. -/
structure Coverage where
  selectedCount : ℕ
  includedCount : ℕ
  omittedCount : ℕ
  unknownOmissionCount : ℕ
  invalidOrMissingCount : ℕ
  measuredSeconds : Finite64
  byteCoveredSeconds : Finite64
  observedSpanSeconds : Option Finite64
  measuredTimeFraction : Option PyFloat
deriving DecidableEq

/-- What `_interval_samples` returns. -/
structure IntervalSamples where
  samples : List Sample
  coverage : Coverage
  diagnostics : List AnalysisDiagnostic
  overlap : Bool
  gaps : Bool

/-- `_number(math.fsum(…), name)` of some of the durations. -/
def totalDuration (name : PyStr) (samples : List Sample) : Except Exc Finite64 :=
  match fsum (samples.map fun sample => .finite sample.duration) with
  | .ok total => number name false (.float total)
  | .error _ => valueError "combined durations exceed finite numeric range"

/-- `span`. -/
def observedSpan (t : Tally) : Except Exc (Option Finite64) :=
  match t.bounds, t.coverageUnknown with
  | bound :: bounds, false => do
    let last := Finite64.maximum bound.2 (bounds.map Prod.snd)
    let first := Finite64.minimum bound.1 (bounds.map Prod.fst)
    let span ← number "observed span" false (.float ((PyFloat.finite last).sub (.finite first)))
    return some span
  | _, _ => .ok none

/-- `fraction`. -/
def measuredFraction (overlap : Bool) (duration : Finite64) : Option Finite64 → Except Exc (Option PyFloat)
  | some span =>
    if 0 < span.toRat ∧ overlap = false then do
      let share ← duration.div span
      return some (if share.lt (.ofInt 1) then share else .ofInt 1)
    else .ok none
  | none => .ok none

/-- What `_interval_samples` does behind its loop. -/
def summarize (policy : IntervalPolicy) (t : Tally) : Except Exc IntervalSamples := do
  let samples := sortSamples t.samples
  let overlap := anyAdjacent (overlaps policy) samples
  let gaps := anyAdjacent (leavesGap policy) samples
  let paths := samples.map Sample.path
  let duration ← totalDuration "total duration" samples
  let byteDuration ← totalDuration "byte-covered duration"
    (samples.filter fun sample => sample.bytes.isSome)
  let span ← observedSpan t
  let fraction ← measuredFraction overlap duration span
  return {
    samples
    coverage := ⟨t.selected, samples.length, t.omitted, t.unknown, t.missing, duration, byteDuration,
      span, fraction⟩
    diagnostics := t.diagnostics ++
      (if overlap then [diagnostic "interval.overlap"
        "Overlapping or duplicate intervals cannot be counted as independent measured time." paths]
      else []) ++
      (if gaps then [diagnostic "interval.gaps"
        "Unmeasured gaps are excluded; no zero rates were inserted." paths] else [])
    overlap
    gaps }

/-- `_interval_samples`. -/
def intervalSamples (selection : Selection) (policy : IntervalPolicy) (items : List Item) :
    Except Exc IntervalSamples := do
  let t ← tally selection policy items
  summarize policy t

end Iperf3Lib.Analysis
