import Iperf3Lib.Py.Dynamic
import Iperf3Lib.Py.Json.Number
import Iperf3Lib.Reports.Archived
import Iperf3Lib.Sequential.RunPlan

/-!
# Adaptive experiments

A `PreparedAdaptiveUDP` fixes the configuration, the initial grid of offered rates and the limits of
an exploration. Every round is a finite batch, admitted like any plan and charged together with all
earlier batches against the limits of the whole experiment.
-/

namespace Iperf3Lib.Adaptive

open Py

/-! ## The policy -/


/-- `_finite`. -/
def checkFinite (value : PyNum) (name : String) : Except Exc Unit :=
  reject (value.isFinite = false ∨ value.isNeg = true)
    (s!"{name} must be finite and nonnegative" : String)

/-- An `AdaptiveUDPPolicy`. -/
structure AdaptiveUDPPolicy where
  minRateBps : ℤ
  maxRateBps : ℤ
  maxDistinctRates : ℤ
  maxRefinementDepth : ℤ
  receiverLossPercent : PyNum
  minimumValidTrials : ℤ
  minimumSenderFraction : PyNum
  confirmationBatches : ℤ := 1
deriving DecidableEq

/-- `__post_init__`. -/
def AdaptiveUDPPolicy.postInit (policy : AdaptiveUDPPolicy) : Except Exc Unit := do
  checkCount policy.minRateBps "min_rate_bps" 1
  checkCount policy.maxRateBps "max_rate_bps" 1
  checkCount policy.maxDistinctRates "max_distinct_rates" 1
  checkCount policy.minimumValidTrials "minimum_valid_trials" 1
  checkCount policy.confirmationBatches "confirmation_batches" 1
  checkCount policy.maxRefinementDepth "max_refinement_depth" 0
  reject (¬ (policy.minRateBps ≤ policy.maxRateBps ∧ policy.maxRateBps ≤ maxRate))
    "rate limits must be ordered positive uint64 values"
  checkFinite policy.receiverLossPercent "receiver_loss_percent"
  checkFinite policy.minimumSenderFraction "minimum_sender_fraction"
  reject (policy.receiverLossPercent.isNeg = true ∨
      (PyNum.int 100).lt policy.receiverLossPercent = true)
    "receiver_loss_percent must lie between zero and 100"
  reject ((PyNum.int 0).lt policy.minimumSenderFraction = false ∨
      (PyNum.int 1).lt policy.minimumSenderFraction = true)
    "minimum_sender_fraction must lie above zero and at most one"

/-- A `PreparedAdaptiveUDP`. -/
structure PreparedAdaptiveUDP where
  config : ClientConfig
  initialRates : List ℤ
  policy : TrialPolicy
  budget : PlanBudget
  adaptivePolicy : AdaptiveUDPPolicy
deriving DecidableEq

/-! ## Rounds -/

/-- The reasons of a decision: why a batch was selected, or why there is none. -/
inductive Reason where
  | initialGrid
  | confirmPromisingRate
  | refineDifferingOutcomes
  | executionStopped
  | refinementDepthLimit
  | integerGridExhausted
  | noDifferingAdjacentOutcomes
  | distinctRateLimit
  | trialCountLimit
  | activeTimeLimit
  | payloadLimit
deriving DecidableEq, Repr

def Reason.text : Reason → String
  | .initialGrid => "initial_grid"
  | .confirmPromisingRate => "confirm_promising_rate"
  | .refineDifferingOutcomes => "refine_differing_outcomes"
  | .executionStopped => "execution_stopped"
  | .refinementDepthLimit => "refinement_depth_limit"
  | .integerGridExhausted => "integer_grid_exhausted"
  | .noDifferingAdjacentOutcomes => "no_differing_adjacent_outcomes"
  | .distinctRateLimit => "distinct_rate_limit"
  | .trialCountLimit => "trial_count_limit"
  | .activeTimeLimit => "active_time_limit"
  | .payloadLimit => "payload_limit"

/-- An `AdaptiveBatch`. -/
structure AdaptiveBatch where
  index : ℕ
  rates : List ℤ
  reason : Reason
  depth : ℤ
  plan : PreparedPlan
deriving DecidableEq

/-- An `AdaptiveBatchResult`; an artifact is an instance of its dataclass. -/
structure AdaptiveBatchResult where
  batch : AdaptiveBatch
  execution : Trials.PlanResult PyVal
  pauseBeforeSeconds : PyNum := .float (.finite (.zero false))

/-- An `AdaptiveDecision`. -/
structure AdaptiveDecision where
  batch : Option AdaptiveBatch
  reason : Reason

/-! ## Admission of a round -/

/-- `str(n)` of an integer. -/
def intText (n : ℤ) : PyStr := (Json.intRepr n).map .scalar

/-- `f"{index:04d}"`. -/
def paddedText (index : ℕ) : PyStr :=
  List.replicate (4 - (natText index).length) (.scalar '0') ++ natText index

/-- `f"batch-{index:04d}:rate-{rate}"`. -/
def cellText (index : ℕ) (rate : ℤ) : PyStr :=
  PyStr.ofString "batch-" ++ paddedText index ++ PyStr.ofString ":rate-" ++ intText rate

def Phase.text : Phase → String
  | .warmup => "warmup"
  | .measured => "measured"

/-- The intent of an offered rate. -/
def offered (rate : ℤ) : RateIntent := { aggregateBpsPerDirection := some rate }

/-- The trials of one rate. -/
def rateSpecs (prepared : PreparedAdaptiveUDP) (index : ℕ) (rate : ℤ) : List TrialSpec :=
  prepared.policy.expected.map fun run =>
    { trialId := cellText index rate ++ .scalar ':' :: PyStr.ofString (Phase.text run.1) ++
        .scalar ':' :: intText run.2
      cellId := cellText index rate
      phase := run.1
      repetition := run.2
      config := prepared.config
      rateIntent := some (offered rate) }

/-- `"active-time" in str(exc)`. -/
def mentions (text : String) (message : PyStr) : Bool :=
  message.tails.any (PyStr.ofString text).isPrefixOf

/-- `prepare_plan` of a round, whose refusals name the limit they are about. -/
def admitRound (parse : IpParser) (prepared : PreparedAdaptiveUDP) (specs : List TrialSpec) :
    Except Exc PreparedPlan :=
  match preparePlan parse specs prepared.policy prepared.budget none with
  | .ok plan => .ok plan
  | .error e =>
    if e.cls = .valueError ∧ mentions "active-time" e.message = true then
      valueError (PyStr.ofString Reason.activeTimeLimit.text)
    else if e.cls = .valueError ∧ mentions "payload" e.message = true then
      valueError (PyStr.ofString Reason.payloadLimit.text)
    else .error e

/-- An estimate or a limit that takes part in arithmetic. -/
def known (value : Option ℤ) : Except Exc ℤ :=
  match value with
  | some n => .ok n
  | none => typeError "unsupported operand type(s) for +: 'int' and 'NoneType'"

/-- `_batch_v1`. -/
def batchV1 (parse : IpParser) (prepared : PreparedAdaptiveUDP) (history : List AdaptiveBatchResult)
    (rates : List ℤ) (reason : Reason) (depth : ℤ) : Except Exc AdaptiveBatch := do
  let count := (prepared.policy.repetitions + prepared.policy.warmupRuns) * rates.length
  let usedCount := (history.map fun item => item.batch.plan.trials.length).sum
  reject (usedCount + count > prepared.policy.maxTrials) (PyStr.ofString Reason.trialCountLimit.text)
  let specs := rates.flatMap (rateSpecs prepared history.length)
  let usedActive ← history.mapM fun item => known item.batch.plan.estimate.activeSeconds
  let usedBits ← history.mapM fun item => known item.batch.plan.estimate.estimatedPayloadBits
  let plan ← admitRound parse prepared specs
  let active ← known plan.estimate.activeSeconds
  let maxActive ← known prepared.budget.maxActiveSeconds
  reject (usedActive.sum + active > maxActive) (PyStr.ofString Reason.activeTimeLimit.text)
  let bits ← known plan.estimate.estimatedPayloadBits
  let maxPayload ← known prepared.budget.maxPayloadBytes
  reject ((usedBits.sum + bits + 7) / 8 > maxPayload) (PyStr.ofString Reason.payloadLimit.text)
  return ⟨history.length, rates, reason, depth, plan⟩

/-! ## Preparation -/

/-- The checks of the initial grid. -/
def checkGrid (parse : IpParser) (config : ClientConfig) (initialRates : List ℤ)
    (policy : TrialPolicy) (adaptive : AdaptiveUDPPolicy) : Except Exc Unit := do
  reject (¬ (1 ≤ initialRates.length ∧ initialRates.length ≤ adaptive.maxDistinctRates))
    "initial grid exceeds the distinct-rate budget"
  reject (initialRates.length * (policy.repetitions + policy.warmupRuns) > policy.maxTrials)
    (PyStr.ofString Reason.trialCountLimit.text)
  initialRates.forM fun rate => do
    checkCount rate "initial rate" 1
    reject (¬ (adaptive.minRateBps ≤ rate ∧ rate ≤ adaptive.maxRateBps))
      "initial rate lies outside the offered-rate limits"
    (offered rate).postInit
    let _ ← resolveRate parse config (some (offered rate))
  reject (¬ initialRates.Nodup) "initial rates must be distinct"
  reject (initialRates.min? ≠ some adaptive.minRateBps ∨ initialRates.max? ≠ some adaptive.maxRateBps)
    "initial grid must include both offered-rate endpoints"

end Iperf3Lib.Adaptive
