import Iperf3Lib.Config

/-!
# Rate intent and admission estimates

`resolve_rate` turns a rate intent into the uniform native rate of each stream; `estimate_plan` adds
up requested time and payload of sequential runs and compares the sums with the admission budgets.
-/

namespace Iperf3Lib

open Py

def maxRate : ℤ := 2 ^ 64 - 1
def defaultUdpRate : ℤ := 1024 * 1024

/-- `_integer` without an upper bound. -/
def checkInteger (name : String) (value minimum : ℤ) : Except Exc Unit :=
  reject (value < minimum) (s!"{name} must be >= {minimum}" : String)

/-- `_integer` with an upper bound. -/
def checkIntegerMax (name : String) (value minimum maximum : ℤ) : Except Exc Unit :=
  reject (value < minimum ∨ value > maximum) (s!"{name} must be >= {minimum} and <= {maximum}" : String)

/-- A `RateIntent`. -/
structure RateIntent where
  perStreamBps : Option ℤ := none
  aggregateBpsPerDirection : Option ℤ := none
deriving DecidableEq, Repr

/-- `RateIntent.__post_init__`. -/
def RateIntent.postInit (intent : RateIntent) : Except Exc Unit := do
  reject (intent.perStreamBps.isNone = intent.aggregateBpsPerDirection.isNone)
    "specify exactly one rate intent"
  intent.perStreamBps.forM fun value => checkIntegerMax "per_stream_bps" value 0 maxRate
  intent.aggregateBpsPerDirection.forM fun value =>
    checkIntegerMax "aggregate_bps_per_direction" value 1 maxRate

inductive Direction where
  | clientToServer
  | serverToClient
deriving DecidableEq, Repr

inductive RateSource where
  | legacy
  | perStream
  | aggregate
  | protocolDefault
deriving DecidableEq, Repr

/-- A `ResolvedRate`. -/
structure ResolvedRate where
  nativePerStreamBps : Option ℤ
  aggregateBpsPerDirection : Option ℤ
  aggregateBpsAllDirections : Option ℤ
  unusedBpsPerDirection : Option ℤ
  activeDirections : List Direction
  source : RateSource
deriving DecidableEq, Repr

/-- The directions of the traffic. -/
def ClientConfig.directions (c : ClientConfig) : List Direction :=
  if c.bidirectional then [.clientToServer, .serverToClient]
  else if c.reverse then [.serverToClient]
  else [.clientToServer]

/-- The native rate of a stream, the remainder of the division and the source of the rate. -/
def nativeRate (cfg : ClientConfig) (intent : Option RateIntent) :
    Except Exc (Option ℤ × ℤ × RateSource) :=
  match intent with
  | some ⟨_, some aggregate⟩ =>
    if aggregate / cfg.parallel = 0 then
      valueError "aggregate rate must be at least the number of parallel streams"
    else .ok (some (aggregate / cfg.parallel), aggregate % cfg.parallel, .aggregate)
  | some ⟨perStream, none⟩ => .ok (perStream, 0, .perStream)
  | none =>
    match cfg.rate with
    | some rate => .ok (some rate, 0, .legacy)
    | none =>
      .ok (if cfg.protocol = .udp then some defaultUdpRate else none, 0, .protocolDefault)

/-- `resolve_rate`. -/
def resolveRate (parse : IpParser) (config : ClientConfig) (intent : Option RateIntent) :
    Except Exc ResolvedRate := do
  let cfg ← config.postInit parse
  intent.forM RateIntent.postInit
  reject (intent ≠ none ∧ cfg.rate ≠ none) "ClientConfig.rate and RateIntent cannot both be specified"
  let (rate, remainder, source) ← nativeRate cfg intent
  let aggregate := (rate.filter (· ≠ 0)).map (· * cfg.parallel)
  return {
    nativePerStreamBps := rate
    aggregateBpsPerDirection := aggregate
    aggregateBpsAllDirections := aggregate.map (· * cfg.directions.length)
    unusedBpsPerDirection := aggregate.map fun _ => remainder
    activeDirections := cfg.directions
    source := source }

/-- A `RunEstimate`. -/
structure RunEstimate where
  rate : ResolvedRate
  activeSeconds : Option ℤ
  estimatedPayloadBits : Option ℤ
deriving DecidableEq, Repr

/-- A `PlanEstimate`. -/
structure PlanEstimate where
  runs : List RunEstimate
  activeSeconds : Option ℤ
  estimatedPayloadBits : Option ℤ
  estimatedPayloadBytes : Option ℤ
deriving DecidableEq, Repr

/-- The sum of values all of which are known. -/
def sumKnown (values : List (Option ℤ)) : Option ℤ :=
  if values.all Option.isSome then some (values.filterMap id).sum else none

/-- `cfg.duration + cfg.omit if cfg.duration else None`. -/
def ClientConfig.activeSeconds (cfg : ClientConfig) : Option ℤ :=
  (cfg.duration.filter (· ≠ 0)).map (· + cfg.omit')

/-- The estimate of one run. -/
def estimateRun (parse : IpParser) (config : ClientConfig) (intent : Option RateIntent) :
    Except Exc RunEstimate := do
  let cfg ← config.postInit parse
  let rate ← resolveRate parse cfg intent
  return {
    rate := rate
    activeSeconds := cfg.activeSeconds
    estimatedPayloadBits := match rate.aggregateBpsAllDirections, cfg.activeSeconds with
      | some bits, some active => some (bits * active)
      | _, _ => none }

/-- The comparison of an estimate with its budget. -/
def checkBudget (estimate budget : Option ℤ) (unknown exceeded : PyStr) : Except Exc Unit :=
  budget.forM fun maximum =>
    match estimate with
    | none => valueError unknown
    | some value => reject (value > maximum) exceeded

/-- `estimate_plan` of configurations with their intents. -/
def estimatePlan (parse : IpParser) (configs : List (ClientConfig × Option RateIntent))
    (maxPayloadBytes maxActiveSeconds : Option ℤ) : Except Exc PlanEstimate := do
  maxPayloadBytes.forM fun value => checkInteger "max_payload_bytes" value 0
  maxActiveSeconds.forM fun value => checkInteger "max_active_seconds" value 0
  let runs ← configs.mapM fun (config, intent) => estimateRun parse config intent
  let activeSeconds := sumKnown (runs.map RunEstimate.activeSeconds)
  let payloadBits := sumKnown (runs.map RunEstimate.estimatedPayloadBits)
  let payloadBytes := payloadBits.map fun bits => (bits + 7) / 8
  checkBudget activeSeconds maxActiveSeconds
    "plan active-time estimate is unknown; finite budget cannot be admitted"
    "plan exceeds the active-time admission budget"
  checkBudget payloadBytes maxPayloadBytes
    "plan payload estimate is unbounded; finite budget cannot be admitted"
    "plan exceeds the payload admission budget"
  return ⟨runs, activeSeconds, payloadBits, payloadBytes⟩

end Iperf3Lib
