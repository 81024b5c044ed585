import Iperf3Lib.Adaptive.Policy
import Iperf3Lib.Artifacts.Envelope
import Iperf3Lib.Py.Json.Exact
import Iperf3Lib.Py.Math
import Iperf3Lib.Reports.Checks

/-!
# Observations

An observation is what the exploration makes of one trial record: the allocation of the offered rate,
the evidence of both endpoints, and the reasons for which the trial does not count. It is valid
without such a reason, and acceptable if its loss keeps the limit as well.
-/

namespace Iperf3Lib.Adaptive

open Py Json Artifacts

/-! ## Verified settings -/

/-- `_EXPANDED_DEFAULTS_V1`. -/
def expandedDefaults : List (String × PyVal) :=
  [("mptcp", .bool false), ("json_stream", .bool false), ("bind_address", .none),
    ("bind_device", .none), ("client_port", .none), ("address_family", .str "auto"),
    ("socket_buffer_bytes", .none), ("congestion_control", .none), ("no_delay", .bool false),
    ("mss", .none), ("connect_timeout_ms", .none), ("bytes_to_send", .none),
    ("blocks_to_send", .none), ("interval_seconds", .none), ("pacing_timer_us", .none),
    ("fq_rate_bps", .none), ("burst_packets", .none), ("zerocopy", .bool false),
    ("skip_rx_copy", .bool false), ("udp_counters_64bit", .bool false),
    ("dont_fragment", .bool false), ("flow_label", .none), ("sctp_streams", .none),
    ("sctp_bind_addresses", .list []), ("payload_file", .none), ("repeating_payload", .bool false),
    ("affinity", .none), ("server_affinity", .none), ("get_server_output", .bool false),
    ("title", .none), ("extra_data", .none), ("receive_timeout_ms", .none),
    ("send_timeout_ms", .none), ("control_keepalive", .none), ("gsro", .bool false),
    ("username", .none), ("rsa_public_key_path", .none), ("use_pkcs1_padding", .bool false)]

/-- `result.execution.configuration.effective.get(name) if result.execution else None`. -/
def effectiveSetting (result : PyVal) (name : String) : Except Exc (Option PyVal) := do
  let execution ← result.attr "execution"
  if execution.isNone then
    return none
  let effective ← (← (← execution.attr "configuration").attr "effective").entries
  return PyDict.get? effective (PyStr.ofString name)

/-- A nonempty text without NUL. -/
def isPlainText : PyVal → Bool
  | .str s => s.hasText && !hasNul (.str s)
  | _ => false

/-- A boolean. -/
def isBool : PyVal → Bool
  | .bool _ => true
  | _ => false

/-- The checks of `_expanded_effective_v1` on a verified value, with what they demand. The bounds on
the integers are those of `_extended_setting`. -/
def expandedDemand (name : String) (default value : PyVal) : Bool × String :=
  if isBool default then (isBool value, "a boolean")
  else if name ∈ textSettings then (isPlainText value, "a nonempty NUL-free string")
  else if name = "address_family" then
    (value.isStr "auto" || value.isStr "ipv4" || value.isStr "ipv6", "auto, ipv4, or ipv6")
  else if name = "interval_seconds" then
    (!isBool value && isInterval value, "zero or between 0.1 and 60")
  else if name = "sctp_bind_addresses" then
    match value with
    | .list xs => (xs.all isPlainText, "an array of address strings")
    | _ => (false, "an array of address strings")
  else if name = "control_keepalive" then
    match value with
    | .list xs =>
      (xs.length = 3 && xs.all (withinBounds 0 (2 ^ 31 - 1)), "three nonnegative integers")
    | _ => (false, "three nonnegative integers")
  else
    match extendedBounds.lookup name with
    | some bounds => (withinBounds bounds.1 bounds.2 value, "an integer within its bounds")
    | none => (false, "an integer within its bounds")

/-- `_expanded_effective_v1`, absent as `None`. -/
def expandedEffective (maxStrDigits : ℕ) (result : PyVal) (name : String) (default : PyVal) :
    Except Exc PyVal := do
  match ← effectiveSetting result name with
  | none => return .none
  | some setting =>
    let state ← setting.attr "state"
    reject (state.isStr "verified" = false ∧ state.isStr "unavailable" = false ∧
      state.isStr "unsupported" = false) "unknown effective-setting state"
    if state.isStr "verified" = false then
      return .none
    let found ← hasObservedEvidence maxStrDigits result (← setting.attr "evidence_paths")
    let value ← setting.attr "value"
    if found = false ∨ value.isNone = true then
      return .none
    let (meets, text) := expandedDemand name default value
    reject (meets = false) (s!"effective {name} must be {text}" : String)
    return value

inductive CheckState where
  | matched
  | nativeDefault
  | mismatch
  | unknown
deriving DecidableEq, Repr

/-- A `SettingCheck`. -/
structure SettingCheck where
  name : String
  expected : PyVal
  observed : PyVal
  state : CheckState
  evidencePaths : List PyVal

/-- The settings that every trial is checked for. -/
def baseSettings : List String :=
  ["server", "port", "protocol", "duration", "parallel", "omit", "blksize", "reverse",
    "bidirectional", "rate", "tos"]

/-- `getattr(config, name)`. -/
def configValue (config : ClientConfig) (name : String) : PyVal :=
  (PyDict.get? config.attributes (PyStr.ofString name)).getD .none

/-- `result.execution.configuration.requested if result.execution else None`. -/
def requestedSettings (result : PyVal) : Except Exc PyVal := do
  let execution ← result.attr "execution"
  if execution.isNone then
    return .none
  (← execution.attr "configuration").attr "requested"

/-- An additional setting is checked where it is wanted or was requested off its default. -/
def isExpected (maxStrDigits : ℕ) (requested wanted : PyVal) (field : String × PyVal) :
    Except Exc Bool := do
  if (← exactEqual maxStrDigits wanted field.2) = false then
    return true
  match requested with
  | .dict d =>
    match PyDict.get? d (PyStr.ofString field.1) with
    | some value => return !(← exactEqual maxStrDigits value field.2)
    | none => return false
  | _ => return false

/-- The names that a trial is checked for, in their order. -/
def expectedNames (maxStrDigits : ℕ) (config : ClientConfig) (requested : PyVal) :
    Except Exc (List String) := do
  let extended ← expandedDefaults.filterM fun field =>
    isExpected maxStrDigits requested (configValue config field.1) field
  return (baseSettings ++ extended.map Prod.fst).insertionSort fun a b =>
    !(PyStr.ofString b).lt (PyStr.ofString a)

/-- The value that was verified for one of the base settings, absent as `None`. -/
def baseEffective (maxStrDigits : ℕ) (result : PyVal) (name : String) : Except Exc PyVal := do
  match ← effectiveSetting result name with
  | none => return .none
  | some setting =>
    let state ← setting.attr "state"
    let value ← setting.attr "value"
    if state.isStr "verified" = false ∨ value.isNone = true then
      return .none
    let found ← hasObservedEvidence maxStrDigits result (← setting.attr "evidence_paths")
    return if found then value else .none

/-- One of the checks. -/
def settingCheck (maxStrDigits : ℕ) (result : PyVal) (config : ClientConfig) (name : String) :
    Except Exc SettingCheck := do
  let wanted := configValue config name
  let observed ← match expandedDefaults.lookup name with
    | some default => expandedEffective maxStrDigits result name default
    | none => baseEffective maxStrDigits result name
  let same ← exactEqual maxStrDigits wanted observed
  let paths ← match ← effectiveSetting result name with
    | some setting => (← setting.attr "evidence_paths").items
    | none => .ok []
  let state : CheckState :=
    if observed.isNone then .unknown
    else if wanted.isNone ∨ (name = "address_family" ∧ wanted.isStr "auto" = true ∧
        (observed.isStr "ipv4" = true ∨ observed.isStr "ipv6" = true)) then .nativeDefault
    else if same then .matched else .mismatch
  return ⟨name, wanted, observed, state, paths⟩

/-- `spec.resolved_config`. -/
def resolvedConfig (parse : IpParser) (spec : TrialSpec) : Except Exc ClientConfig := do
  let resolution ← resolveRate parse spec.config spec.rateIntent
  { spec.config with rate := resolution.nativePerStreamBps }.postInit parse

/-- `_setting_checks_v1`. -/
def settingChecks (parse : IpParser) (maxStrDigits : ℕ) (result : PyVal) (spec : TrialSpec) :
    Except Exc (List SettingCheck) := do
  let config ← resolvedConfig parse spec
  let requested ← requestedSettings result
  let names ← expectedNames maxStrDigits config requested
  names.mapM (settingCheck maxStrDigits result config)

/-! ## Endpoint evidence -/

/-- `bytes * 8 / duration`, `none` where it overflows. -/
def deriveRate (bytes duration : PyVal) : Except Exc (Option Finite64) :=
  let finite : PyFloat → Option Finite64
    | .finite x => some x
    | _ => none
  match bytes, duration with
  | .int b, .int d => .ok (finite (PyFloat.ofRat ((b * 8 : ℤ) / (d : ℚ)) false))
  | .int b, .float (.finite d) =>
    match PyFloat.ofInt (b * 8) with
    | .finite bits => (bits.div d).map finite
    | _ => .ok none
  | _, _ => typeError "unsupported operand type(s) for /"

/-- The flows of a direction. -/
def flowsOf (result : PyVal) (direction : String) : Except Exc (List PyVal) := do
  (← (← result.attr "flows").items).filterM fun flow =>
    return (← flow.attr "direction").isStr direction

/-- The result is of a completed run. -/
def isCompletedRun (result : PyVal) : Except Exc Bool := do
  let ok ← result.attr "ok"
  let error ← result.attr "error"
  let execution ← result.attr "execution"
  if ok.isTrue = false ∨ error.isNone = false ∨ execution.isNone = true then
    return false
  return (← execution.attr "status").isStr "completed"

/-- The summary holds a measurement. -/
def isMeasured (stats : PyVal) : Except Exc Bool := do
  if stats.isNone then
    return false
  let omitted ← stats.attr "omitted"
  let bytes ← stats.attr "bytes"
  let duration ← stats.attr "duration_seconds"
  if omitted.isTrue = true ∨ bytes.isNone = true ∨ duration.isNone = true then
    return false
  PyVal.lessThan (.int 0) duration

/-- `reports._summary_selection_v1`, as far as the rate is read from it. -/
def summarySelection (result : PyVal) (direction observation path : String) :
    Except Exc (Option Finite64) := do
  if (← isCompletedRun result) = false then
    return none
  match ← flowsOf result direction with
  | [flow] =>
    let stats ← flow.attr observation
    if (← isMeasured stats) = false then
      return none
    let known ← stats.attr "direction"
    let observer ← stats.attr "observation"
    Iperf3Lib.failIf ((known.isNone = false ∧ known.isStr direction = false) ∨
        (observer.isNone = false ∧ observer.isStr observation = false)) path
      "summary provenance conflicts with its selected container"
    match ← deriveRate (← stats.attr "bytes") (← stats.attr "duration_seconds") with
    | some rate => return some rate
    | none => Iperf3Lib.fail path "measured throughput exceeds finite numeric range"
  | _ => return none

/-- What an endpoint contributes: its summary or `None`, its rate and a reason against it. -/
structure EndpointEvidence where
  stats : PyVal
  bps : Option Finite64
  reasons : List String

/-- `_endpoint_evidence_v1`. -/
def endpointEvidence (result : PyVal) (direction observation : String) :
    Except Exc EndpointEvidence := do
  let stats ← match ← flowsOf result direction with
    | [flow] => flow.attr observation
    | _ => .ok .none
  match summarySelection result direction observation s!"/adaptive/{observation}" with
  | .ok (some bps) => return ⟨stats, some bps, []⟩
  | .ok none => return ⟨stats, none, [s!"{observation}_measurement_unavailable"]⟩
  | .error e =>
    if e.cls = .reportValidationError then
      return ⟨stats, none, [s!"{observation}_measurement_invalid"]⟩
    else .error e

/-! ## Observations -/

/-- An `AdaptiveObservation`; the fields that are copied from a summary are its values. -/
structure AdaptiveObservation where
  trialId : PyStr
  phase : Phase
  executionStatus : Trials.TrialStatus
  requestedRateBps : ℤ
  nativePerStreamBps : ℤ
  allocatedRateBps : ℤ
  unusedRateBps : ℤ
  senderBytes : PyVal
  senderSeconds : PyVal
  senderBps : Option Finite64
  senderFraction : Option PyFloat
  receiverBytes : PyVal
  receiverSeconds : PyVal
  receiverBps : Option Finite64
  receiverLostPackets : PyVal
  receiverPackets : PyVal
  countLossPercent : Option PyFloat
  nativeLossPercent : PyVal
  valid : Bool
  acceptable : Bool
  reasons : List String
  settingChecks : List SettingCheck

/-- The text of a status. -/
def statusText : Trials.TrialStatus → String
  | .native status => status.text
  | .exception => "exception"
  | .notRun => "not_run"

/-- What the artifact of a trial contributes. -/
structure TrialEvidence where
  checks : List SettingCheck
  sent : EndpointEvidence
  received : EndpointEvidence
  reasons : List String

/-- The evidence of a trial without an artifact. -/
def noEvidence : TrialEvidence where
  checks := []
  sent := ⟨.none, none, []⟩
  received := ⟨.none, none, []⟩
  reasons := ["sender_measurement_unavailable", "receiver_measurement_unavailable"]

/-- The evidence of an artifact. -/
def artifactEvidence (parse : IpParser) (maxStrDigits : ℕ) (prepared : PreparedAdaptiveUDP)
    (spec : TrialSpec) (artifact : PyVal) : Except Exc TrialEvidence := do
  let result ← artifact.attr "result"
  let checks ← settingChecks parse maxStrDigits result spec
  let method := if prepared.config.reverse then "reverse" else "forward"
  let protocol ← result.attr "protocol"
  let execution ← result.attr "execution"
  let asPlanned ←
    if protocol.isStr "udp" = false ∨ execution.isNone = true then .ok false
    else (execution.attr "method").map (PyVal.isStr method)
  let direction := if prepared.config.reverse then "server_to_client" else "client_to_server"
  let sent ← endpointEvidence result direction "sender"
  let received ← endpointEvidence result direction "receiver"
  let settled := checks.all fun check => check.state = .matched ∨ check.state = .nativeDefault
  return {
    checks, sent, received
    reasons := (if settled then [] else ["settings_unverified_or_mismatched"]) ++
      (if asPlanned then [] else ["method_or_protocol_mismatch"]) ++ sent.reasons ++ received.reasons }

/-- A field of a summary, `None` without one. -/
def statsValue (stats : PyVal) (name : String) : Except Exc PyVal :=
  if stats.isNone then .ok .none else stats.attr name

/-- `100 * lost / packets` of valid counts. -/
def countLoss (lost packets : PyVal) : Option PyFloat :=
  match lost, packets with
  | .int lost, .int packets =>
    if 0 < packets ∧ 0 ≤ lost ∧ lost ≤ packets then
      some (PyFloat.ofRat ((100 * lost : ℤ) / (packets : ℚ)) false)
    else none
  | _, _ => none

/-- `sender_bps / requested`. -/
def senderFraction (bps : Finite64) (requested : ℤ) : Except Exc PyFloat :=
  match PyFloat.ofInt requested with
  | .finite x => bps.div x
  | _ => .error ⟨.overflowError, "int too large to convert to float"⟩

/-- The evidence of a trial. -/
def trialEvidence (parse : IpParser) (maxStrDigits : ℕ) (prepared : PreparedAdaptiveUDP)
    (record : Trials.TrialRecord PyVal) : Except Exc TrialEvidence :=
  match record.artifact with
  | some artifact => artifactEvidence parse maxStrDigits prepared record.spec artifact
  | none => .ok noEvidence

/-- `loss <= limit`. -/
def withinLoss (limit : PyNum) (loss : PyFloat) : Bool :=
  (PyNum.float loss).lt limit || (PyNum.float loss).eq limit

/-- `_observation_v1`. -/
def observationV1 (parse : IpParser) (maxStrDigits : ℕ) (prepared : PreparedAdaptiveUDP)
    (record : Trials.TrialRecord PyVal) : Except Exc AdaptiveObservation := do
  let requested ← assertSome (record.spec.rateIntent.bind RateIntent.aggregateBpsPerDirection)
  let resolution ← resolveRate parse record.spec.config record.spec.rateIntent
  let native ← assertSome resolution.nativePerStreamBps
  let allocated ← assertSome resolution.aggregateBpsPerDirection
  let unused ← assertSome resolution.unusedBpsPerDirection
  let evidence ← trialEvidence parse maxStrDigits prepared record
  let fraction ← evidence.sent.bps.mapM fun bps => senderFraction bps requested
  let packets ← statsValue evidence.received.stats "packets"
  let lost ← statsValue evidence.received.stats "lost_packets"
  let loss := countLoss lost packets
  let underdriven := fraction.any fun fraction =>
    (PyNum.float fraction).lt prepared.adaptivePolicy.minimumSenderFraction
  let reasons := (if record.spec.phase = .warmup then ["warmup_run"] else []) ++
    (if record.status = .native .completed then [] else [statusText record.status]) ++
    evidence.reasons ++ (if underdriven then ["sender_underdriven"] else []) ++
    (if loss.isNone then ["receiver_packet_counts_unavailable"] else [])
  let valid := reasons.isEmpty
  let acceptable := valid && loss.any (withinLoss prepared.adaptivePolicy.receiverLossPercent)
  return {
    trialId := record.spec.trialId
    phase := record.spec.phase
    executionStatus := record.status
    requestedRateBps := requested
    nativePerStreamBps := native
    allocatedRateBps := allocated
    unusedRateBps := unused
    senderBytes := ← statsValue evidence.sent.stats "bytes"
    senderSeconds := ← statsValue evidence.sent.stats "duration_seconds"
    senderBps := evidence.sent.bps
    senderFraction := fraction
    receiverBytes := ← statsValue evidence.received.stats "bytes"
    receiverSeconds := ← statsValue evidence.received.stats "duration_seconds"
    receiverBps := evidence.received.bps
    receiverLostPackets := lost
    receiverPackets := packets
    countLossPercent := loss
    nativeLossPercent := ← statsValue evidence.received.stats "lost_percent"
    valid, acceptable
    reasons := reasons ++ if valid && !acceptable then ["receiver_loss_exceeded"] else []
    settingChecks := evidence.checks }

end Iperf3Lib.Adaptive
