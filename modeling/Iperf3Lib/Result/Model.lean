import Iperf3Lib.ConfigDict
import Iperf3Lib.Result.Observations

/-!
# Results

The dataclasses of a normalized result. A field annotated `float` may be an `int`; what a document
gives for a version or for a setting is kept as it stands.
-/

namespace Iperf3Lib.Results

open Py

/-- `severity` of a diagnostic. -/
inductive Severity where
  | info
  | warning
  | error
deriving DecidableEq, Repr

/-- A `Diagnostic`. -/
structure Diagnostic where
  message : PyStr
  severity : Severity := .warning
  code : String
  path : Option PyStr := none
  evidencePaths : List PyStr := []
deriving DecidableEq

/-- `state` of a `FieldAvailability`. -/
inductive AvailabilityState where
  | absent
  | unsupported
  | malformed
  | unknown
deriving DecidableEq, Repr

def AvailabilityState.text : AvailabilityState → String
  | .absent => "absent"
  | .unsupported => "unsupported"
  | .malformed => "malformed"
  | .unknown => "unknown"

/-- A `FieldAvailability`. -/
structure FieldAvailability where
  state : AvailabilityState
  evidencePaths : List PyStr
deriving DecidableEq

/-- `state` of a `VerifiedSetting`. -/
inductive SettingState where
  | verified
  | unavailable
  | unsupported
deriving DecidableEq, Repr

/-- A `VerifiedSetting`. -/
structure VerifiedSetting where
  value : PyVal := .none
  state : SettingState := .unavailable
  evidencePaths : List PyStr := []

/-- A `RunTiming`. -/
structure RunTiming where
  startedAtSeconds : Option PyNum := none
  completedAtSeconds : Option PyNum := none
  elapsedSeconds : Option PyNum := none
  nativeStartedAtSeconds : Option PyNum := none
  requestedDurationSeconds : Option PyNum := none
  estimatedCompletedAtSeconds : Option PyNum := none

/-- A `ConfigurationSnapshot`. -/
structure ConfigurationSnapshot where
  requested : Option PyDict := none
  effective : List (String × VerifiedSetting) := []

/-- An `ExecutionMetadata`. -/
structure ExecutionMetadata where
  status : NativeStatus
  method : Method := .unknown
  timing : RunTiming := {}
  configuration : ConfigurationSnapshot := {}
  nativeVersion : PyVal := .none
  nativeSystemInfo : PyVal := .none
  pythonVersion : Option PyStr := none
  platform : Option PyStr := none

/-- A `TcpIntervalEvidence`. -/
structure TcpIntervalEvidence where
  smoothedRttSeconds : Option PyFloat := none
  rttVariationSeconds : Option PyFloat := none
  sendCongestionWindowBytes : Option ℤ := none
  advertisedSendWindowBytes : Option ℤ := none
  pathMtuBytes : Option ℤ := none
  evidencePaths : List (String × PyStr) := []
deriving DecidableEq

/-- A `TcpSummaryEvidence`. -/
structure TcpSummaryEvidence where
  minimumSampledRttSeconds : Option PyFloat := none
  maximumSampledRttSeconds : Option PyFloat := none
  nativeMeanSampledRttSeconds : Option PyFloat := none
  maximumSendCongestionWindowBytes : Option ℤ := none
  maximumAdvertisedSendWindowBytes : Option ℤ := none
  evidencePaths : List (String × PyStr) := []
deriving DecidableEq

/-- `locality` of an `EndpointCpuEvidence`. -/
inductive Locality where
  | localHost
  | remoteHost
deriving DecidableEq, Repr

/-- An `EndpointCpuEvidence`; an endpoint that is not known is `none`. -/
structure EndpointCpuEvidence where
  endpoint : Option ReportingRole
  locality : Locality
  totalPercent : Option PyNum := none
  userPercent : Option PyNum := none
  systemPercent : Option PyNum := none
  evidencePaths : List (String × PyStr) := []
deriving DecidableEq

/-- A `SumStats`. -/
structure SumStats where
  bitsPerSecond : Option PyNum := none
  retransmits : Option ℤ := none
  lostPercent : Option PyNum := none
  jitterMs : Option PyNum := none
  direction : Option FlowDirection := none
  observation : Option ObservationPoint := none
  bytes : Option ℤ := none
  durationSeconds : Option PyNum := none
  startSeconds : Option PyNum := none
  endSeconds : Option PyNum := none
  packets : Option ℤ := none
  lostPackets : Option ℤ := none
  omitted : Option Bool := none
  tcp : Option TcpSummaryEvidence := none
deriving DecidableEq

/-- A `StreamStats`. -/
structure StreamStats where
  direction : FlowDirection := .unknown
  streamId : Option ℤ := none
  sender : Option SumStats := none
  receiver : Option SumStats := none
  unattributed : Option SumStats := none
deriving DecidableEq

/-- A `FlowStats`. -/
structure FlowStats where
  direction : FlowDirection
  sender : Option SumStats := none
  receiver : Option SumStats := none
deriving DecidableEq

/-- An `EndStats`. -/
structure EndStats where
  sumSent : Option SumStats := none
  sumReceived : Option SumStats := none
deriving DecidableEq

/-- An `IntervalStats`. -/
structure IntervalStats where
  startSeconds : Option PyNum
  endSeconds : Option PyNum
  bitsPerSecond : Option PyNum := none
  direction : FlowDirection := .unknown
  observation : Option ObservationPoint := none
  streamId : Option ℤ := none
  scope : Scope := .unknown
  bytes : Option ℤ := none
  durationSeconds : Option PyNum := none
  omitted : Option Bool := none
  packets : Option ℤ := none
  lostPackets : Option ℤ := none
  retransmits : Option ℤ := none
  lostPercent : Option PyNum := none
  jitterMs : Option PyNum := none
  tcp : Option TcpIntervalEvidence := none
deriving DecidableEq

/-- A `Result`. -/
structure Result where
  ok : Bool
  error : Option PyStr := none
  raw : PyDict := []
  endStats : Option EndStats := none
  protocol : Option Protocol := none
  bidirectional : Bool := false
  flows : List FlowStats := []
  intervals : List IntervalStats := []
  diagnostics : List Diagnostic := []
  startedAtSeconds : Option PyNum := none
  durationSeconds : Option PyNum := none
  completedAtSeconds : Option PyNum := none
  reportingRole : Option ReportingRole := none
  execution : Option ExecutionMetadata := none
  streams : List StreamStats := []
  availability : List (PyStr × FieldAvailability) := []
  extensions : PyDict := []
  cpu : List EndpointCpuEvidence := []

end Iperf3Lib.Results
