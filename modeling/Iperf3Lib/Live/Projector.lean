import Iperf3Lib.Live.Events
import Iperf3Lib.Result.Normalize

/-!
# The live projector

A worker sends fragments of its document as they come. `LiveProjector.project` turns a frame into a
typed event: it puts the fragment into a document of its own, behind the start of the run, and takes
the measurements from the normalizer that also reads the whole document. What the normalizer refuses
is a malformed event; an event that cannot be framed is refused itself.
-/

namespace Iperf3Lib

open Py Json Ipc Results

/-- `type(error).__name__`. -/
def ExcClass.name : ExcClass → String
  | .ipcError => "IPCError"
  | .typeError => "TypeError"
  | .valueError => "ValueError"
  | .eofError => "EOFError"
  | .queueEmpty => "Empty"
  | .keyError => "KeyError"
  | .assertionError => "AssertionError"
  | .overflowError => "OverflowError"
  | .reportValidationError => "ReportValidationError"
  | .iperfLibraryError => "IperfLibraryError"
  | .zeroDivisionError => "ZeroDivisionError"
  | .attributeError => "AttributeError"
  | .artifactValidationError => "ArtifactValidationError"
  | .unsupportedArtifactVersion => "UnsupportedArtifactVersion"
  | .unsupportedFeatureError => "UnsupportedFeatureError"

/-! ## Measurements -/

/-- `asdict` of the paths of an evidence. -/
def evidencePathsVal (paths : List (String × PyStr)) : PyVal :=
  .dict (paths.map fun path => (PyStr.ofString path.1, .str path.2))

/-- `asdict` of a `TcpIntervalEvidence`. -/
def intervalTcpVal (tcp : TcpIntervalEvidence) : PyVal :=
  .dict [("smoothed_rtt_seconds", .ofOption .float tcp.smoothedRttSeconds),
    ("rtt_variation_seconds", .ofOption .float tcp.rttVariationSeconds),
    ("send_congestion_window_bytes", .ofOption .int tcp.sendCongestionWindowBytes),
    ("advertised_send_window_bytes", .ofOption .int tcp.advertisedSendWindowBytes),
    ("path_mtu_bytes", .ofOption .int tcp.pathMtuBytes),
    ("evidence_paths", evidencePathsVal tcp.evidencePaths)]

/-- `asdict` of a `TcpSummaryEvidence`. -/
def summaryTcpVal (tcp : TcpSummaryEvidence) : PyVal :=
  .dict [("minimum_sampled_rtt_seconds", .ofOption .float tcp.minimumSampledRttSeconds),
    ("maximum_sampled_rtt_seconds", .ofOption .float tcp.maximumSampledRttSeconds),
    ("native_mean_sampled_rtt_seconds", .ofOption .float tcp.nativeMeanSampledRttSeconds),
    ("maximum_send_congestion_window_bytes", .ofOption .int tcp.maximumSendCongestionWindowBytes),
    ("maximum_advertised_send_window_bytes", .ofOption .int tcp.maximumAdvertisedSendWindowBytes),
    ("evidence_paths", evidencePathsVal tcp.evidencePaths)]

/-- `_measurement(value)` of an interval. -/
def intervalMeasurement (v : IntervalStats) : Measurement where
  direction := v.direction
  observation := v.observation
  scope := v.scope
  streamId := v.streamId
  startSeconds := v.startSeconds
  endSeconds := v.endSeconds
  durationSeconds := v.durationSeconds
  bytes := v.bytes
  bitsPerSecond := v.bitsPerSecond
  packets := v.packets
  lostPackets := v.lostPackets
  lostPercent := v.lostPercent
  retransmits := v.retransmits
  jitterMs := v.jitterMs
  omitted := v.omitted
  tcp := .ofOption intervalTcpVal v.tcp

/-- `_measurement(value, scope=..., direction=..., stream_id=...)` of a summary. -/
def sumMeasurement (v : SumStats) (scope : Scope) (direction : FlowDirection) (streamId : Option ℤ) :
    Measurement where
  direction := direction
  observation := v.observation
  scope := scope
  streamId := streamId
  startSeconds := v.startSeconds
  endSeconds := v.endSeconds
  durationSeconds := v.durationSeconds
  bytes := v.bytes
  bitsPerSecond := v.bitsPerSecond
  packets := v.packets
  lostPackets := v.lostPackets
  lostPercent := v.lostPercent
  retransmits := v.retransmits
  jitterMs := v.jitterMs
  omitted := v.omitted
  tcp := .ofOption summaryTcpVal v.tcp

/-- The summaries of a flow. -/
def flowMeasurements (flow : FlowStats) : List Measurement :=
  ([flow.sender, flow.receiver].reduceOption).map
    (sumMeasurement · .aggregate flow.direction none)

/-- The summaries of a stream. -/
def streamMeasurements (stream : StreamStats) : List Measurement :=
  ([stream.sender, stream.receiver, stream.unattributed].reduceOption).map
    (sumMeasurement · .stream stream.direction stream.streamId)

/-- `_summaries`. -/
def summaries (result : Result) : List Measurement :=
  result.flows.flatMap flowMeasurements ++ result.streams.flatMap streamMeasurements

/-! ## Projection -/

/-- A `LiveProjector`. -/
structure LiveProjector where
  role : ReportingRole
  start : PyVal := .dict []

namespace LiveProjector

/-- The codes of the diagnostics, except that the document is incomplete. -/
def diagnosticCodes (result : Result) : List PyStr :=
  (((result.diagnostics.map Diagnostic.code).filter (· ≠ "native.incomplete")).take 8).map
    PyStr.ofString

/-- `normalized.execution.method if normalized.execution else "unknown"`. -/
def methodOf (result : Result) : Method := (result.execution.map ExecutionMetadata.method).getD .unknown

/-- `normalized.protocol`. -/
def protocolOf (result : Result) : Option PyStr :=
  result.protocol.map fun protocol => PyStr.ofString protocol.text

/-- `data[key]`. -/
def subscript (data : PyVal) (key : PyStr) : Except Exc PyVal :=
  match data with
  | .dict data =>
    match PyDict.get? data key with
    | some value => .ok value
    | none => .error ⟨.keyError, key⟩
  | _ => typeError "object is not subscriptable by a string"

/-- `data.get(key)` behind a subscript of `data`. -/
def member (data : PyVal) (key : PyStr) : PyVal :=
  match data with
  | .dict data => (PyDict.get? data key).getD .none
  | _ => .none

/-- The document of a fragment, behind the start of the run. -/
def fragment (start : PyVal) (kind : PyStr) (data : PyVal) : PyVal :=
  if kind = ("native_document" : String) then data
  else if kind = ("native_start" : String) then .dict [("start", data)]
  else if kind = ("interval" : String) then .dict [("start", start), ("intervals", .list [data])]
  else .dict [("start", start), ("end", data)]

/-- The payload of a fragment that was normalized. -/
def nativePayload (role : ReportingRole) (kind : PyStr) (data : PyVal) (result : Result) :
    LivePayload :=
  if kind = ("native_start" : String) then
    .nativeStart data (protocolOf result) (methodOf result) role
  else if kind = ("interval" : String) then
    .interval data (result.intervals.map intervalMeasurement) (diagnosticCodes result)
  else if kind = ("native_end" : String) then
    .nativeEnd data (summaries result) (diagnosticCodes result)
  else
    .nativeDocument data (protocolOf result) (methodOf result) (summaries result)
      (result.intervals.map intervalMeasurement) (diagnosticCodes result)

/-- The message of a native error. -/
def errorMessage : PyVal → Option PyStr
  | .str message => some message
  | .dict data => PyDict.str? data "error"
  | _ => none

/-- The kinds whose data is a fragment of the document. -/
def fragmentKinds : List PyStr :=
  [("native_start" : String), "interval", "native_end", "native_document"]

/-- `payload` and the kind of the event. -/
def payloadOf (p : LiveProjector) (kind : PyStr) (data : PyVal) :
    Except Exc (LiveEventKind × LivePayload) :=
  if kind ∈ fragmentKinds then do
    let result ← resultFromIperfJson (fragment p.start kind data) (some p.role)
    return (if kind = ("native_start" : String) then .nativeStart
      else if kind = ("interval" : String) then .interval
      else if kind = ("native_end" : String) then .nativeEnd
      else .nativeDocument, nativePayload p.role kind data result)
  else if kind = ("native_error" : String) then
    .ok (.nativeError, .nativeError data (errorMessage data))
  else if kind = ("server_output" : String) then do
    let nativeKind ← subscript data "native_kind"
    let payload ← subscript data "payload"
    return (.serverOutput, .serverOutput nativeKind payload)
  else if kind = ("unknown" : String) then do
    let nativeKind ← subscript data "native_kind"
    let payload ← subscript data "payload"
    return (.unknown, .unknown nativeKind payload)
  else if kind = ("malformed" : String) then do
    let reason ← subscript data "reason"
    return (.malformed, .malformed reason (member data "error_type") (member data "sample"))
  else if kind = ("delivery_gap" : String) then do
    let stage ← subscript data "stage"
    let dropped ← subscript data "dropped"
    return (.deliveryGap, .deliveryGap stage dropped)
  else ipcError "Unrecognized typed worker event"

/-- A number of the frame that may be `None`. -/
def number? (message : PyDict) (key : PyStr) : Option PyNum :=
  match message.get? key with
  | some (.int n) => some (.int n)
  | some (.float x) => some (.float x)
  | _ => none

/-- The envelope of a frame around a payload. -/
def envelope (message : PyDict) (deliverySequence : ℕ) (payload : LiveEventKind × LivePayload) :
    LiveEvent where
  kind := payload.1
  payload := payload.2
  requestId := message.str? "request_id"
  workerId := message.str? "worker_id"
  runIndex := message.int? "run_index"
  deliverySequence := deliverySequence
  captureSequence := message.int? "capture_sequence"
  arrivalOffsetSeconds := number? message "arrival_offset_seconds"
  receivedAtSeconds := number? message "time"

/-- `message["kind"]`, a text in every accepted frame. -/
def kindOf (message : PyDict) : PyStr := (message.str? "kind").getD []

/-- `message["data"]`, present in every accepted frame. -/
def dataOf (message : PyDict) : PyVal := (message.get? "data").getD .none

/-- The start that the projector remembers behind a frame, whether it is normalized or not. -/
def remember (p : LiveProjector) (message : PyDict) : LiveProjector :=
  if kindOf message = ("native_start" : String) then { p with start := dataOf message } else p

/-- `_project` for a projector that remembers the frame. -/
def projected (F : Faults Exc) (p : LiveProjector) (message : PyDict) (deliverySequence : ℕ) :
    Except Exc LiveEvent := do
  let payload ← p.payloadOf (kindOf message) (dataOf message)
  let event := envelope message deliverySequence payload
  let _ ← liveEventSize F event
  return event

/-- The event of a frame whose fields have wrong shapes. -/
def malformedEvent (message : PyDict) (deliverySequence : ℕ) (e : Exc) : LiveEvent :=
  envelope message deliverySequence
    (.malformed, .malformed (.lit "invalid_native_shape") (.lit e.cls.name) .none)

/-- `project`. -/
def project (F : Faults Exc) (p : LiveProjector) (message : PyDict) (deliverySequence : ℕ) :
    Except Exc LiveEvent × LiveProjector :=
  let p := p.remember message
  match p.projected F message deliverySequence with
  | .ok event => (.ok event, p)
  | .error e =>
    if e.cls ∈ caughtClasses then (.ok (malformedEvent message deliverySequence e), p)
    else (.error e, p)

/-! ## What a projected event keeps -/

variable {F : Faults Exc} {p : LiveProjector} {message : PyDict} {n : ℕ} {event : LiveEvent}

theorem projected_ok (h : p.projected F message n = .ok event) :
    ∃ payload, p.payloadOf (kindOf message) (dataOf message) = .ok payload ∧
      event = envelope message n payload := by
  unfold projected at h
  obtain ⟨payload, hpayload, h⟩ := bind_eq_ok.mp h
  obtain ⟨_, -, h⟩ := bind_eq_ok.mp h
  exact ⟨payload, hpayload, (Except.ok.inj h).symm⟩

/-- Whatever becomes of the payload, the envelope is that of the frame. -/
theorem project_envelope (h : (p.project F message n).1 = .ok event) :
    ∃ payload, event = envelope message n payload := by
  unfold project at h
  dsimp only at h
  split at h
  · next event' hprojected =>
    obtain ⟨payload, -, henvelope⟩ := projected_ok hprojected
    exact ⟨payload, (Except.ok.inj h).symm.trans henvelope⟩
  · split at h
    · exact ⟨_, (Except.ok.inj h).symm⟩
    · cases h

end LiveProjector

end Iperf3Lib
