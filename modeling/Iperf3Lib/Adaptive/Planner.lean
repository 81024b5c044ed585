import Iperf3Lib.Adaptive.Observations
import Iperf3Lib.Sequential.Reports

/-!
# The adaptive planner

`_rate_summaries_v1` groups the observations by offered rate, `_choose_v1` decides about the next batch,
and `_history_with_observations_v1` replays a history: each of its batches must be the one that was
decided behind the batches in front of it.
-/

namespace Iperf3Lib.Adaptive

open Py Json

/-! ## Rates -/

/-- `status` of an `AdaptiveRateSummary`. -/
inductive RateStatus where
  | eligible
  | provisional
  | rejected
  | inconclusive
deriving DecidableEq, Repr

/-- An `AdaptiveRateSummary`. -/
structure AdaptiveRateSummary where
  rateBps : ℤ
  observations : List AdaptiveObservation
  status : RateStatus
  validTrials : ℕ
  confirmationBatches : ℕ
  reasons : List String

/-- `confirmations.get(rate, 0)`. -/
def confirmationsOf (history : List AdaptiveBatchResult) (rate : ℤ) : ℕ :=
  (history.map fun item =>
    if item.batch.reason = .confirmPromisingRate then item.batch.rates.count rate else 0).sum

/-- `measured`. -/
def measuredOf (observations : List AdaptiveObservation) : List AdaptiveObservation :=
  observations.filter fun value => value.phase = .measured

/-- `valid`. -/
def validOf (observations : List AdaptiveObservation) : ℕ :=
  (measuredOf observations).countP AdaptiveObservation.valid

/-- `status` and `reasons` of a rate with its observations and the number of its confirmations. -/
def assess (policy : AdaptiveUDPPolicy) (observations : List AdaptiveObservation) (confirmations : ℕ) :
    RateStatus × List String :=
  let measured := measuredOf observations
  if measured.any (fun value => value.valid && !value.acceptable) = true then
    (.rejected, ["observed_receiver_loss_exceeded"])
  else if measured.isEmpty = true ∨ measured.all AdaptiveObservation.valid = false ∨
      validOf observations < policy.minimumValidTrials then
    (.inconclusive, ["insufficient_valid_measurements"])
  else if confirmations < policy.confirmationBatches then (.provisional, ["confirmation_required"])
  else (.eligible, [])

/-- `grouped[rate]`. -/
def observationsOf (observations : List AdaptiveObservation) (rate : ℤ) : List AdaptiveObservation :=
  observations.filter fun value => value.requestedRateBps = rate

/-- The summary of a rate. -/
def summarizeRate (prepared : PreparedAdaptiveUDP) (history : List AdaptiveBatchResult)
    (observations : List AdaptiveObservation) (rate : ℤ) : AdaptiveRateSummary :=
  let own := observationsOf observations rate
  let confirmations := confirmationsOf history rate
  let assessed := assess prepared.adaptivePolicy own confirmations
  ⟨rate, own, assessed.1, validOf own, confirmations, assessed.2⟩

/-- `sorted(grouped)`. -/
def observedRates (observations : List AdaptiveObservation) : List ℤ :=
  (observations.map AdaptiveObservation.requestedRateBps).dedup.insertionSort (· ≤ ·)

/-- The summaries of all rates. -/
def rateSummaries (prepared : PreparedAdaptiveUDP) (history : List AdaptiveBatchResult)
    (observations : List AdaptiveObservation) : List AdaptiveRateSummary :=
  (observedRates observations).map (summarizeRate prepared history observations)

section Planner

variable (parse : IpParser) (maxStrDigits : ℕ)

/-- The observations of a batch. -/
def observe (prepared : PreparedAdaptiveUDP) (execution : Trials.PlanResult PyVal) :
    Except Exc (List AdaptiveObservation) :=
  execution.trials.mapM (observationV1 parse maxStrDigits prepared)

/-- The observations of a batch, as they were kept or made again. -/
def recalled (prepared : PreparedAdaptiveUDP) (batchObservations : Option (List (List AdaptiveObservation)))
    (item : AdaptiveBatchResult × ℕ) : Except Exc (List AdaptiveObservation) :=
  match batchObservations.bind fun kept => kept[item.2]? with
  | some observations => .ok observations
  | none => observe parse maxStrDigits prepared item.1.execution

/-- `_rate_summaries_v1`. -/
def rateSummariesV1 (prepared : PreparedAdaptiveUDP) (history : List AdaptiveBatchResult)
    (batchObservations : Option (List (List AdaptiveObservation))) :
    Except Exc (List AdaptiveRateSummary) := do
  let observations ← history.zipIdx.mapM (recalled parse maxStrDigits prepared batchObservations)
  return rateSummaries prepared history observations.flatten

/-! ## Decisions -/

/-- `depths[rate]`. -/
def depthOf (history : List AdaptiveBatchResult) (rate : ℤ) : Except Exc ℤ :=
  match (history.filter fun item =>
    item.batch.reason ≠ .confirmPromisingRate ∧ rate ∈ item.batch.rates).getLast? with
  | some item => .ok item.batch.depth
  | none => .error ⟨.keyError, intText rate⟩

/-- The rates of the summaries with a status. -/
def ratesWith (status : RateStatus) (summaries : List AdaptiveRateSummary) : List ℤ :=
  (summaries.filter fun item => item.status = status).map AdaptiveRateSummary.rateBps

/-- `highest_eligible`. -/
def highestEligible (summaries : List AdaptiveRateSummary) : ℤ :=
  ((ratesWith .eligible summaries).max?).getD 0

/-- `promising`. -/
def promising (summaries : List AdaptiveRateSummary) : List ℤ :=
  (ratesWith .provisional summaries).filter fun rate => highestEligible summaries < rate

/-- `observed_status`. -/
def RateStatus.observed : RateStatus → String
  | .eligible | .provisional => "acceptable"
  | .rejected => "rejected"
  | .inconclusive => "inconclusive"

/-- Two neighbouring rates. -/
abbrev RateInterval := AdaptiveRateSummary × AdaptiveRateSummary

/-- `differing`. -/
def differing (summaries : List AdaptiveRateSummary) : List RateInterval :=
  (summaries.zip summaries.tail).filter fun pair => pair.1.status.observed ≠ pair.2.status.observed

/-- `integer_intervals`. -/
def integerIntervals (summaries : List AdaptiveRateSummary) : List RateInterval :=
  (differing summaries).filter fun pair => pair.2.rateBps - pair.1.rateBps > 1

/-- The depth of the deeper one of two rates. -/
def depthOfInterval (history : List AdaptiveBatchResult) (pair : RateInterval) : Except Exc ℤ := do
  return max (← depthOf history pair.1.rateBps) (← depthOf history pair.2.rateBps)

/-- `intervals`, with their depths. -/
def intervals (prepared : PreparedAdaptiveUDP) (history : List AdaptiveBatchResult)
    (summaries : List AdaptiveRateSummary) : Except Exc (List (RateInterval × ℤ)) := do
  let depths ← (integerIntervals summaries).mapM (depthOfInterval history)
  return ((integerIntervals summaries).zip depths).filter fun interval =>
    interval.2 < prepared.adaptivePolicy.maxRefinementDepth

/-- A candidate, or the reason why there is none. -/
inductive Proposal where
  | candidate (rate : ℤ) (reason : Reason) (depth : ℤ)
  | terminal (reason : Reason)
deriving DecidableEq

/-- Why no interval can be refined. -/
def exhausted (summaries : List AdaptiveRateSummary) : Reason :=
  if (integerIntervals summaries).isEmpty = false then .refinementDepthLimit
  else if (differing summaries).isEmpty = false then .integerGridExhausted
  else .noDifferingAdjacentOutcomes

/-- The refinement of the highest interval. -/
def refinement (prepared : PreparedAdaptiveUDP) (history : List AdaptiveBatchResult)
    (summaries : List AdaptiveRateSummary) : Except Exc Proposal :=
  (intervals prepared history summaries).map fun intervals =>
    match intervals.getLast? with
    | none => .terminal (exhausted summaries)
    | some (pair, depth) =>
      if summaries.length ≥ prepared.adaptivePolicy.maxDistinctRates then .terminal .distinctRateLimit
      else .candidate ((pair.1.rateBps + pair.2.rateBps) / 2) .refineDifferingOutcomes (depth + 1)

/-- The candidate of `_choose_v1`. -/
def propose (prepared : PreparedAdaptiveUDP) (history : List AdaptiveBatchResult)
    (summaries : List AdaptiveRateSummary) : Except Exc Proposal :=
  match (promising summaries).max? with
  | some rate => (depthOf history rate).map fun depth => .candidate rate .confirmPromisingRate depth
  | none => refinement prepared history summaries

/-- The limit that a refusal names. -/
def limitOf (e : Exc) : Option Reason :=
  if e.cls = .valueError then
    [Reason.trialCountLimit, .activeTimeLimit, .payloadLimit].find? fun reason =>
      PyStr.ofString reason.text = e.message
  else none

/-- The admission of a candidate. -/
def admitProposal (prepared : PreparedAdaptiveUDP) (history : List AdaptiveBatchResult) :
    Proposal → Except Exc AdaptiveDecision
  | .terminal reason => .ok ⟨none, reason⟩
  | .candidate rate reason depth =>
    match batchV1 parse prepared history [rate] reason depth with
    | .ok batch => .ok ⟨some batch, batch.reason⟩
    | .error e =>
      match limitOf e with
      | some reason => .ok ⟨none, reason⟩
      | none => .error e

/-- The summaries, as they were given or made again. -/
def currentSummaries (prepared : PreparedAdaptiveUDP) (history : List AdaptiveBatchResult)
    (batchObservations : Option (List (List AdaptiveObservation)))
    (summaries : Option (List AdaptiveRateSummary)) : Except Exc (List AdaptiveRateSummary) :=
  match summaries with
  | some summaries => .ok summaries
  | none => rateSummariesV1 parse maxStrDigits prepared history batchObservations

/-- `_choose_v1`. -/
def chooseV1 (prepared : PreparedAdaptiveUDP) (history : List AdaptiveBatchResult)
    (batchObservations : Option (List (List AdaptiveObservation)))
    (summaries : Option (List AdaptiveRateSummary)) : Except Exc AdaptiveDecision :=
  if history.isEmpty = true then
    (batchV1 parse prepared history prepared.initialRates .initialGrid 0).map fun batch =>
      ⟨some batch, .initialGrid⟩
  else if history.any (fun item => item.execution.stopReason.isSome) = true then
    .ok ⟨none, .executionStopped⟩
  else do
    let summaries ← currentSummaries parse maxStrDigits prepared history batchObservations summaries
    let proposal ← propose prepared history summaries
    admitProposal parse prepared history proposal

/-! ## Executions behind the codec -/

/-- A `float` behind the codec. -/
def codecNumber (path : String) (value : PyNum) : Except Exc Unit :=
  failIf (value.isFinite = false) path "expected a finite number"

/-- An artifact behind the codec. -/
def codecArtifact (path : String) (artifact : PyVal) : Except Exc PyVal :=
  match Artifacts.artifactToDict parse maxStrDigits artifact >>=
    Artifacts.artifactFromDict parse maxStrDigits with
  | .ok artifact => .ok artifact
  | .error e =>
    if e.cls ∈ [.valueError, .typeError, .artifactValidationError, .unsupportedArtifactVersion] then
      .error ⟨.reportValidationError,
        PyStr.ofString (path ++ ": invalid retained result artifact: ") ++ e.message⟩
    else .error e

/-- A member of the partial evidence behind the codec. -/
def codecEvidence (path : String) (kv : PyStr × PyVal) : Except Exc (PyStr × PyVal) :=
  match jsonEvidence kv.2 with
  | some value => .ok (kv.1, value)
  | none => .error ⟨.reportValidationError, Artifacts.child (PyStr.ofString path) kv.1 ++
      PyStr.ofString ": evidence is not strict JSON"⟩

/-- A `TrialRecord` behind the codec. -/
def codecRecord (record : Trials.TrialRecord PyVal × ℕ) : Except Exc (Trials.TrialRecord PyVal) := do
  let path := s!"/execution/trials/{record.2}"
  let _ ← resolvedConfig parse record.1.spec
  let artifact ← record.1.artifact.mapM (codecArtifact parse maxStrDigits (path ++ "/artifact"))
  record.1.startedAt.forM (codecNumber (path ++ "/started_at_seconds"))
  record.1.completedAt.forM (codecNumber (path ++ "/completed_at_seconds"))
  record.1.elapsed.forM (codecNumber (path ++ "/elapsed_seconds"))
  let evidence ← record.1.returnedResultEvidence.mapM fun evidence =>
    evidence.mapM (codecEvidence (path ++ "/returned_result_evidence"))
  return { record.1 with
    spec := record.1.spec.archived
    artifact := artifact
    returnedResultEvidence := evidence }

/-- `record.artifact.result.execution.status`. -/
def executionStatus (artifact : PyVal) : Option NativeStatus :=
  match (do (← (← artifact.attr "result").attr "execution").attr "status") with
  | .ok (.str s) => [NativeStatus.completed, .failed, .incomplete].find? fun status =>
      PyStr.ofString status.text = s
  | _ => none

/-- `plan_result_from_dict(plan_result_to_dict(execution))`. -/
def codecExecution (execution : Trials.PlanResult PyVal) : Except Exc (Trials.PlanResult PyVal) := do
  let trials ← execution.trials.zipIdx.mapM (codecRecord parse maxStrDigits)
  codecNumber "/execution/started_at_seconds" execution.startedAt
  codecNumber "/execution/completed_at_seconds" execution.completedAt
  codecNumber "/execution/elapsed_seconds" execution.elapsed
  codecNumber "/execution/observed_pause_seconds" execution.observedPause
  let decoded := { execution with plan := execution.plan.archived, trials := trials }
  Trials.validateHistory parse executionStatus decoded
  return decoded

/-! ## Histories -/

/-- `value < limit and not math.isclose(value, limit, rel_tol=1e-9, abs_tol=1e-9)`. -/
def isShort (value limit : PyNum) : Bool :=
  value.lt limit && !value.toFloat.isclose limit.toFloat tolerance tolerance

/-- The checks of the cooldowns. -/
def checkCooldowns (prepared : PreparedAdaptiveUDP) (first : Bool) (execution : Trials.PlanResult PyVal)
    (pause : PyNum) : Except Exc Unit := do
  let started := execution.trials.countP fun record => record.status ≠ .notRun
  reject (isShort execution.observedPause (prepared.policy.pauseSeconds.mulNat (started - 1)) = true)
    "within-batch cooldown is shorter than the declared pauses"
  checkFinite pause "pause_before_seconds"
  reject (first = true ∧ pause.eq (.int 0) = false) "the initial batch cannot have a preceding cooldown"
  reject (first = false ∧ isShort pause prepared.policy.pauseSeconds = true)
    "between-batch cooldown is shorter than the declared pause"

/-- `retained` and `batch_observations`. -/
structure Replay where
  retained : List AdaptiveBatchResult := []
  observed : List (List AdaptiveObservation) := []

/-- The body of the loop over a history. -/
def replayItem (prepared : PreparedAdaptiveUDP) (s : Replay) (item : AdaptiveBatchResult) :
    Except Exc Replay := do
  let decision ← chooseV1 parse maxStrDigits prepared s.retained (some s.observed) none
  reject (decision.batch ≠ some item.batch)
    "recorded batch disagrees with the deterministic admission decision"
  let execution ← codecExecution parse maxStrDigits item.execution
  reject (item.batch.plan ≠ execution.plan) "execution does not match its admitted adaptive batch"
  checkCooldowns prepared s.retained.isEmpty execution item.pauseBeforeSeconds
  let observations ← observe parse maxStrDigits prepared execution
  return {
    retained := s.retained ++ [⟨item.batch, execution, item.pauseBeforeSeconds⟩]
    observed := s.observed ++ [observations] }

/-- `_history_with_observations_v1`. -/
def historyWithObservations (prepared : PreparedAdaptiveUDP) (history : List AdaptiveBatchResult) :
    Except Exc Replay :=
  history.foldlM (replayItem parse maxStrDigits prepared) {}

/-- `outcome` of an `AdaptiveResult`. -/
inductive Outcome where
  | acceptableTestedRates
  | noAcceptableTestedRate
  | inconclusive
deriving DecidableEq, Repr

end Planner

end Iperf3Lib.Adaptive
