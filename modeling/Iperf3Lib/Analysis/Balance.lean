import Iperf3Lib.Analysis.ExactIntervals
import Iperf3Lib.General.Dispersion
import Mathlib.Data.List.Dedup

/-!
# Stream balance

`stream_balance` in exact arithmetic. The rates of the streams are taken from the summaries of one
endpoint, one for each local identity, or from the intervals of each identity. Rates that are known
are divided by the greatest one and compared: the least of them, their coefficient of variation and
Jain's index. The count of the streams is held against the number of streams that the run is known to
have used.
-/

namespace Iperf3Lib.Stability

open Py Analysis Dispersion

/-! ## Results -/

/-- The fields of a `SumStats` that the balance reads. -/
structure SumStats where
  bitsPerSecond : PyVal := .none
  direction : PyVal := .none
  observation : PyVal := .none
  bytes : PyVal := .none
  durationSeconds : PyVal := .none
  omitted : PyVal := .none

/-- A `StreamStats`. -/
structure StreamStats where
  direction : PyVal := .str "unknown"
  streamId : PyVal := .none
  sender : Option SumStats := none
  receiver : Option SumStats := none

/-- `getattr(stream, observation)`. -/
def StreamStats.summary (stream : StreamStats) : ObservationPoint → Option SumStats
  | .sender => stream.sender
  | .receiver => stream.receiver

/-- A member of `configuration.effective`. -/
structure EffectiveSetting where
  state : PyVal
  value : PyVal
  evidencePaths : PyVal

/-- The status of an execution and its setting `parallel`. -/
structure ExecutionMetadata where
  status : PyVal
  parallel : Option EffectiveSetting

/-- What the balance reads of a `Result`, whose evidence is looked up by `observed`. -/
structure Result where
  ok : PyVal
  error : PyVal
  execution : Option ExecutionMetadata
  streams : List StreamStats
  intervals : List IntervalStats
  observed : PyVal → Except Exc Bool

/-- `_completed`. -/
def completed (result : Result) : Except Exc Bool :=
  match result.ok with
  | .bool ok =>
    match result.execution with
    | none => .ok (ok && isNone result.error)
    | some execution =>
      if isText "completed" execution.status || isText "failed" execution.status ||
          isText "incomplete" execution.status then
        .ok (ok && isNone result.error && isText "completed" execution.status)
      else valueError "unknown execution status"
  | _ => valueError "result must be a Result with boolean ok"

/-- `_effective(result, "parallel")`. -/
def effectiveParallel (result : Result) : Except Exc (Option ℕ) :=
  match result.execution.bind ExecutionMetadata.parallel with
  | none => .ok none
  | some setting =>
    if isText "verified" setting.state then do
      let found ← result.observed setting.evidencePaths
      if found then
        let observed ← count "effective parallel" setting.value
        reject (observed < 1 ∨ 128 < observed) "effective parallel must be between 1 and 128"
        return some observed
      else return none
    else if isText "unavailable" setting.state || isText "unsupported" setting.state then .ok none
    else valueError "unknown effective-setting state"

variable {K : Type} [Field K] [LinearOrder K]

/-! ## Rates of the streams -/

/-- A `StreamRate`. -/
structure StreamRate (K : Type) where
  streamId : ℕ
  throughputBps : Option K
  measuredSeconds : Option K
  evidence : List EvidenceRef

/-- The accumulators of the loop over the streams. -/
structure Summaries (K : Type) where
  seen : List ℕ := []
  rates : List (StreamRate K) := []
  diagnostics : List AnalysisDiagnostic := []

/-- The summary belongs to the direction and the observation in which it was found. -/
def SumStats.belongs (stats : SumStats) (direction : Analysis.Direction) (observation : ObservationPoint) : Bool :=
  (isNone stats.direction || isText direction.text stats.direction) &&
    (isNone stats.observation || isText observation.text stats.observation)

/-- The fields of a summary that are measured. -/
def measuredSummary (stats : SumStats) : Measured :=
  ⟨stats.bytes, stats.durationSeconds, stats.bitsPerSecond, stats.omitted⟩

/-- `value is True`. -/
def isTrue : PyVal → Bool
  | .bool true => true
  | _ => false

/-- `path` of a summary. -/
def summaryPath (observation : ObservationPoint) (index : ℕ) : PyStr :=
  (s!"/streams/{index}/{observation.text}" : String)

/-- The diagnostic of a stream that has no identity. -/
def unknownIdentity (index : ℕ) : AnalysisDiagnostic :=
  diagnostic "stream.unknown_identity" "A selected stream has no local socket identity."
    [(s!"/streams/{index}" : String)]

variable [IsStrictOrderedRing K]

/-- `rate` and `duration` of a stream. -/
def summaryRate (direction : Analysis.Direction) (observation : ObservationPoint) (path : PyStr) :
    Option SumStats → Except Exc (Option K × Option K)
  | none => .ok (none, none)
  | some stats => do
    reject (stats.belongs direction observation = false)
      "stream summary provenance conflicts with its container"
    let (bytes, duration) ← measurement (K := K) (measuredSummary stats) path
    let rate := match bytes, duration with
      | some bytes, some duration =>
        if 0 < duration.1 ∧ isTrue stats.omitted = false then some (divideBytes bytes duration.1) else none
      | _, _ => none
    return (rate, duration.map Subtype.val)

/-- A pass of the loop over the streams. -/
def summaryPass (direction : Analysis.Direction) (observation : ObservationPoint) (found : Summaries K)
    (item : StreamStats × ℕ) : Except Exc (Summaries K) :=
  if isText direction.text item.1.direction = false then .ok found
  else if isNone item.1.streamId then
    .ok { found with diagnostics := found.diagnostics ++ [unknownIdentity item.2] }
  else do
    let identity ← count "stream_id" item.1.streamId
    reject (identity ∈ found.seen) "duplicate local stream identity"
    let path := summaryPath observation item.2
    let (rate, duration) ← summaryRate direction observation path (item.1.summary observation)
    return {
      seen := found.seen ++ [identity]
      rates := found.rates ++ [⟨identity, rate, duration, [⟨path⟩]⟩]
      diagnostics := found.diagnostics }

/-- The loop over the streams. -/
def fromSummaries (direction : Analysis.Direction) (observation : ObservationPoint) (streams : List StreamStats) :
    Except Exc (List (StreamRate K) × List AnalysisDiagnostic) := do
  let found ← streams.zipIdx.foldlM (summaryPass direction observation) {}
  return (found.rates, found.diagnostics)

/-- The interval is one of an identified stream. -/
def identifies (direction : Analysis.Direction) (observation : ObservationPoint) (interval : IntervalStats) : Bool :=
  isText "stream" interval.scope && isText direction.text interval.direction &&
    isText observation.text interval.observation && !isNone interval.streamId

/-- `sorted(identities)`. -/
def identities (direction : Analysis.Direction) (observation : ObservationPoint) (intervals : List IntervalStats) :
    Except Exc (List ℕ) := do
  let ids ← (intervals.filter (identifies direction observation)).mapM fun interval =>
    count "stream_id" interval.streamId
  return ids.dedup.insertionSort (· ≤ ·)

/-- A pass of the loop over the identities: the rate of a stream, with its diagnostics. -/
def intervalRate (sqrt : K → K) (direction : Analysis.Direction) (observation : ObservationPoint)
    (policy : Policy K) (intervals : List IntervalStats) (identity : ℕ) :
    Except Exc (StreamRate K × List AnalysisDiagnostic) := do
  let selection : Selection := ⟨direction, observation, .stream identity⟩
  let policy := { policy with minimumIntervals := 1, minimum_pos := Nat.one_pos }
  let analysis ← intervalStability sqrt true selection policy none [0.5, 0.95]
    (tally selection policy (intervals.map Item.interval))
  return (⟨identity, analysis.intervalBytesThroughputBps, some analysis.coverage.measuredSeconds,
    analysis.evidence⟩, analysis.diagnostics)

/-- The loop over the identities. -/
def fromIntervals (sqrt : K → K) (direction : Analysis.Direction) (observation : ObservationPoint)
    (policy : Policy K) (intervals : List IntervalStats) :
    Except Exc (List (StreamRate K) × List AnalysisDiagnostic) := do
  let identities ← identities direction observation intervals
  let found ← identities.mapM (intervalRate sqrt direction observation policy intervals)
  return (found.map Prod.fst, (found.map Prod.snd).flatten)

/-! ## Measures -/

/-- `ratio`, `cv` and `fairness`. -/
structure Measures (K : Type) where
  minOverMaxRate : K
  populationRateCv : K
  jainFairnessIndex : K
deriving DecidableEq

omit [IsStrictOrderedRing K] in
/-- The measures of rates that were divided by the greatest one. -/
def relativeMeasures (sqrt : K → K) (scaled : List K) (hne : scaled ≠ []) : Measures K :=
  ⟨scaled.min hne, sqrt (pvariance scaled) / mean scaled, jain scaled⟩

omit [IsStrictOrderedRing K] in
/-- The measures of known rates, unless all of them are zero. -/
def measures (sqrt : K → K) (valid : List K) (hne : valid ≠ []) : Option (Measures K) :=
  let maximum := valid.max hne
  if 0 < maximum then
    some (relativeMeasures sqrt (valid.map fun rate => rate / maximum) (by simpa using hne))
  else none

/-! ## The analysis -/

/-- `source`. -/
inductive Source where
  | summaries
  | intervals
deriving DecidableEq, Repr

/-- `per_stream` of the chosen source, with the diagnostics found on the way. -/
def streamRates (sqrt : K → K) (result : Result) (direction : Analysis.Direction)
    (observation : ObservationPoint) (source : Source) (policy : Policy K) :
    Except Exc (List (StreamRate K) × List AnalysisDiagnostic) :=
  match source with
  | .summaries => fromSummaries direction observation result.streams
  | .intervals => fromIntervals sqrt direction observation policy result.intervals

/-- A `StreamBalanceAnalysis`. -/
structure StreamBalanceAnalysis (K : Type) where
  quality : Quality
  direction : Analysis.Direction
  observation : ObservationPoint
  source : Source
  perStream : List (StreamRate K)
  expectedStreams : Option ℕ
  validStreams : ℕ
  streamCoverageFraction : Option K
  minOverMaxRate : Option K := none
  populationRateCv : Option K := none
  jainFairnessIndex : Option K := none
  diagnostics : List AnalysisDiagnostic := []

/-- The known rates. -/
def validRates (rates : List (StreamRate K)) : List K := rates.filterMap StreamRate.throughputBps

/-- Some stream is missing, is not measured or is not known to be expected. -/
def incomplete (rates : List (StreamRate K)) (expected : Option ℕ)
    (diagnostics : List AnalysisDiagnostic) : Bool :=
  expected ≠ some (validRates rates).length || (validRates rates).length ≠ rates.length ||
    diagnostics.any fun item => item.code ≠ "interval.omitted"

/-- `quality`. -/
def balanceQuality (rates : List (StreamRate K)) (expected : Option ℕ)
    (diagnostics : List AnalysisDiagnostic) : Quality :=
  if (validRates rates).isEmpty || expected.any (fun expected => expected < rates.length) then
    .insufficientData
  else if incomplete rates expected diagnostics then .partly else .complete

/-- The end of `stream_balance`. -/
def assess (sqrt : K → K) (direction : Analysis.Direction) (observation : ObservationPoint) (source : Source)
    (expected : Option ℕ) (rates : List (StreamRate K)) (diagnostics : List AnalysisDiagnostic) :
    StreamBalanceAnalysis K :=
  let valid := validRates rates
  let quality := balanceQuality rates expected diagnostics
  let found : Option (Option (Measures K)) :=
    if h : valid ≠ [] ∧ quality ≠ .insufficientData then some (measures sqrt valid h.1) else none
  { quality
    direction
    observation
    source
    perStream := rates
    expectedStreams := expected
    validStreams := valid.length
    streamCoverageFraction := expected.map fun expected => (valid.length : K) / expected
    minOverMaxRate := found.join.map Measures.minOverMaxRate
    populationRateCv := found.join.map Measures.populationRateCv
    jainFairnessIndex := found.join.map Measures.jainFairnessIndex
    diagnostics := diagnostics ++
      (if incomplete rates expected diagnostics then [diagnostic "stream.incomplete_coverage"
        "Stream coverage is incomplete or its expected count is unknown."
        ["/streams", "/execution/configuration/effective/parallel"]] else []) ++
      match found with
      | some none => [diagnostic "ratio.zero_mean"
          "All stream rates are zero; relative balance measures are undefined." ["/streams"]]
      | _ => [] }

/-- `stream_balance`. -/
def streamBalance (sqrt : K → K) (result : Result) (direction : Analysis.Direction)
    (observation : ObservationPoint) (source : Source) (policy : Policy K) :
    Except Exc (StreamBalanceAnalysis K) := do
  let expected ← effectiveParallel result
  reject (expected = some 0) "effective parallel must be positive"
  let done ← completed result
  if done then
    let (rates, diagnostics) ← streamRates sqrt result direction observation source policy
    return assess sqrt direction observation source expected rates diagnostics
  else
    return {
      quality := .insufficientData
      direction
      observation
      source
      perStream := []
      expectedStreams := expected
      validStreams := 0
      streamCoverageFraction := none
      diagnostics := [diagnostic "execution.not_completed" "Run did not complete successfully."
        ["/execution/status"]] }

end Iperf3Lib.Stability
