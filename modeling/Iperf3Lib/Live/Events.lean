import Iperf3Lib.PartialEvents
import Iperf3Lib.Result.Observations

/-!
# Live events

The typed envelope in which an observation reaches the application. `LiveEvent.asdict` is what
`dataclasses.asdict` makes of it, and `liveEventSize` the length of the frame that it would fill.
-/

namespace Iperf3Lib

open Py Json Ipc

/-- `Measurement`. -/
structure Measurement where
  direction : FlowDirection := .unknown
  observation : Option ObservationPoint := none
  scope : Scope := .unknown
  streamId : Option ℤ := none
  startSeconds : Option PyNum := none
  endSeconds : Option PyNum := none
  durationSeconds : Option PyNum := none
  bytes : Option ℤ := none
  bitsPerSecond : Option PyNum := none
  packets : Option ℤ := none
  lostPackets : Option ℤ := none
  lostPercent : Option PyNum := none
  retransmits : Option ℤ := none
  jitterMs : Option PyNum := none
  omitted : Option Bool := none
  tcp : PyVal := .none

def Measurement.asdict (m : Measurement) : PyVal :=
  .dict [("direction", .lit m.direction.text), ("observation", .ofOption (.lit ·.text) m.observation),
    ("scope", .lit m.scope.text), ("stream_id", .ofOption .int m.streamId),
    ("start_seconds", .ofOption PyNum.toVal m.startSeconds),
    ("end_seconds", .ofOption PyNum.toVal m.endSeconds),
    ("duration_seconds", .ofOption PyNum.toVal m.durationSeconds),
    ("bytes", .ofOption .int m.bytes), ("bits_per_second", .ofOption PyNum.toVal m.bitsPerSecond),
    ("packets", .ofOption .int m.packets), ("lost_packets", .ofOption .int m.lostPackets),
    ("lost_percent", .ofOption PyNum.toVal m.lostPercent),
    ("retransmits", .ofOption .int m.retransmits), ("jitter_ms", .ofOption PyNum.toVal m.jitterMs),
    ("omitted", .ofOption .bool m.omitted), ("tcp", m.tcp)]

/-! ## Payloads -/

inductive WorkerState where
  | starting
  | ready
deriving DecidableEq, Repr

def WorkerState.text : WorkerState → String
  | .starting => "starting"
  | .ready => "ready"

/-- `outcome` of a `TerminalPayload`. -/
inductive Outcome where
  | completed
  | error
  | cancelled
deriving DecidableEq, Repr

def Outcome.text : Outcome → String
  | .completed => "completed"
  | .error => "error"
  | .cancelled => "cancelled"

/-- `TerminalPayload`. -/
structure TerminalPayload where
  outcome : Outcome
  resultAvailable : Bool
  nativeStatus : Option NativeStatus
  cleanupConfirmed : Bool
  consumerDropped : ℕ := 0
  capture : PyVal := .none
  delivery : PyVal := .none
  errorType : Option PyStr := none
  errorMessage : Option PyStr := none

def TerminalPayload.asdict (p : TerminalPayload) : PyVal :=
  .dict [("outcome", .lit p.outcome.text), ("result_available", .bool p.resultAvailable),
    ("native_status", .ofOption (.lit ·.text) p.nativeStatus),
    ("cleanup_confirmed", .bool p.cleanupConfirmed), ("consumer_dropped", .int p.consumerDropped),
    ("capture", p.capture), ("delivery", p.delivery), ("error_type", .ofOption .str p.errorType),
    ("error_message", .ofOption .str p.errorMessage)]

/-- `LivePayload`. -/
inductive LivePayload where
  | workerState (state : WorkerState) (role : ReportingRole)
  | nativeStart (raw : PyVal) (protocol : Option PyStr) (method : Method)
      (reportingRole : ReportingRole)
  | interval (raw : PyVal) (measurements : List Measurement) (diagnostics : List PyStr)
  | nativeError (raw : PyVal) (message : Option PyStr)
  | nativeEnd (raw : PyVal) (measurements : List Measurement) (diagnostics : List PyStr)
  | nativeDocument (raw : PyVal) (protocol : Option PyStr) (method : Method)
      (measurements intervals : List Measurement) (diagnostics : List PyStr)
  | serverOutput (nativeKind : PyVal) (raw : PyVal)
  | unknown (nativeKind : PyVal) (raw : PyVal)
  | malformed (reason : PyVal) (errorType sample : PyVal)
  | deliveryGap (stage : PyVal) (dropped : PyVal)
  | terminal (payload : TerminalPayload)

namespace LivePayload

/-- A tuple of measurements. -/
def measurementsVal (ms : List Measurement) : PyVal := .tuple (ms.map Measurement.asdict)

def asdict : LivePayload → PyVal
  | workerState state role => .dict [("state", .lit state.text), ("role", .lit role.text)]
  | nativeStart raw protocol method role =>
    .dict [("raw", raw), ("protocol", .ofOption .str protocol), ("method", .lit method.text),
      ("reporting_role", .lit role.text)]
  | interval raw ms diagnostics =>
    .dict [("raw", raw), ("measurements", measurementsVal ms),
      ("diagnostics", .tuple (diagnostics.map .str))]
  | nativeError raw message => .dict [("raw", raw), ("message", .ofOption .str message)]
  | nativeEnd raw ms diagnostics =>
    .dict [("raw", raw), ("measurements", measurementsVal ms),
      ("diagnostics", .tuple (diagnostics.map .str))]
  | nativeDocument raw protocol method ms intervals diagnostics =>
    .dict [("raw", raw), ("protocol", .ofOption .str protocol), ("method", .lit method.text),
      ("measurements", measurementsVal ms), ("intervals", measurementsVal intervals),
      ("diagnostics", .tuple (diagnostics.map .str))]
  | serverOutput nativeKind raw => .dict [("native_kind", nativeKind), ("raw", raw)]
  | unknown nativeKind raw => .dict [("native_kind", nativeKind), ("raw", raw)]
  | malformed reason errorType sample =>
    .dict [("reason", reason), ("error_type", errorType), ("sample", sample)]
  | deliveryGap stage dropped => .dict [("stage", stage), ("dropped", dropped)]
  | terminal payload => payload.asdict

end LivePayload

/-! ## The envelope -/

/-- `LiveEventKind`. -/
inductive LiveEventKind where
  | workerState
  | nativeStart
  | interval
  | nativeError
  | nativeEnd
  | nativeDocument
  | serverOutput
  | unknown
  | malformed
  | deliveryGap
  | terminal
deriving DecidableEq, Repr

def LiveEventKind.text : LiveEventKind → String
  | .workerState => "worker_state"
  | .nativeStart => "native_start"
  | .interval => "interval"
  | .nativeError => "native_error"
  | .nativeEnd => "native_end"
  | .nativeDocument => "native_document"
  | .serverOutput => "server_output"
  | .unknown => "unknown"
  | .malformed => "malformed"
  | .deliveryGap => "delivery_gap"
  | .terminal => "terminal"

/-- `LiveEvent`. -/
structure LiveEvent where
  kind : LiveEventKind
  payload : LivePayload
  requestId : Option PyStr := none
  workerId : Option PyStr := none
  runIndex : Option ℤ := none
  deliverySequence : ℕ := 0
  captureSequence : Option ℤ := none
  arrivalOffsetSeconds : Option PyNum := none
  receivedAtSeconds : Option PyNum := none

namespace LiveEvent

/-- `asdict(event)`. -/
def asdict (e : LiveEvent) : PyVal :=
  .dict [("kind", .lit e.kind.text), ("payload", e.payload.asdict),
    ("request_id", .ofOption .str e.requestId), ("worker_id", .ofOption .str e.workerId),
    ("run_index", .ofOption .int e.runIndex), ("delivery_sequence", .int e.deliverySequence),
    ("capture_sequence", .ofOption .int e.captureSequence),
    ("arrival_offset_seconds", .ofOption PyNum.toVal e.arrivalOffsetSeconds),
    ("received_at_seconds", .ofOption PyNum.toVal e.receivedAtSeconds)]

/-- `clone_live_event(event, delivery_sequence=n)`. -/
def withSequence (e : LiveEvent) (n : ℕ) : LiveEvent := { e with deliverySequence := n }

@[simp] theorem deliverySequence_withSequence (e : LiveEvent) (n : ℕ) :
    (e.withSequence n).deliverySequence = n := rfl

@[simp] theorem payload_withSequence (e : LiveEvent) (n : ℕ) :
    (e.withSequence n).payload = e.payload := rfl

@[simp] theorem withSequence_withSequence (e : LiveEvent) (m n : ℕ) :
    (e.withSequence m).withSequence n = e.withSequence n := rfl

end LiveEvent

/-- `event_identity`. -/
def eventIdentity (e : LiveEvent) : LiveEvent where
  kind := .deliveryGap
  payload := .deliveryGap (.lit "identity") (.int 0)
  requestId := e.requestId
  workerId := e.workerId
  runIndex := e.runIndex
  deliverySequence := e.deliverySequence

/-- `live_event_size`. -/
def liveEventSize (F : Faults Exc) (e : LiveEvent) : Except Exc ℕ :=
  (encodeFrame F (.dict [("type", .lit "live_event"), ("event", e.asdict)]) maxFrameBytes).map
    List.length

/-- An event without a frame is refused with an `IPCError`. -/
theorem raisesIpc_liveEventSize (F : Faults Exc) (e : LiveEvent) : RaisesIpc (liveEventSize F e) := by
  intro x hx
  have hframe : RaisesIpc (encodeFrame F (.dict [("type", .lit "live_event"), ("event", e.asdict)])
      maxFrameBytes) := raisesIpc_encodeFrame rfl (by decide)
  unfold liveEventSize at hx
  revert hx
  cases hencode : encodeFrame F (.dict [("type", .lit "live_event"), ("event", e.asdict)])
      maxFrameBytes with
  | ok bytes => exact fun hx => by cases hx
  | error y => exact fun hx => hframe x (hencode.trans (by cases hx; rfl))

/-! ## Synthetic events -/

/-- `make_delivery_gap_event` for a positive count. -/
def makeDeliveryGapEvent (stage : String) (dropped : ℕ) (deliverySequence : ℕ)
    (identity : Option LiveEvent) : LiveEvent where
  kind := .deliveryGap
  payload := .deliveryGap (.lit stage) (.int dropped)
  requestId := identity.bind LiveEvent.requestId
  workerId := identity.bind LiveEvent.workerId
  runIndex := identity.bind LiveEvent.runIndex
  deliverySequence := deliverySequence

/-- How the owner of an operation ended: its `Result`, as far as the terminal reports it, or the
exception. -/
inductive Settlement where
  | value (extensions : PyDict) (status : Option NativeStatus)
  | error (errorType message : PyStr) (cancelled cleanup : Bool)

namespace Settlement

/-- `result.extensions`, empty without a result. -/
def extensions : Settlement → PyDict
  | value extensions _ => extensions
  | error .. => []

/-- The identity that the result itself carries. -/
def identity (s : Settlement) : Option LiveEvent :=
  match s.extensions.get? "iperf3_lib.worker" with
  | some (.dict worker) => some {
      kind := .deliveryGap
      payload := .deliveryGap (.lit "identity") (.int 0)
      requestId := PyDict.str? worker "request_id"
      workerId := PyDict.str? worker "worker_id"
      runIndex := PyDict.int? worker "run_index" }
  | _ => none

end Settlement

/-- `make_terminal_event`. -/
def makeTerminalEvent (s : Settlement) (deliverySequence : ℕ) (identity : Option LiveEvent)
    (consumerDropped : ℕ) : LiveEvent :=
  let identity := identity <|> s.identity
  { kind := .terminal
    payload := .terminal {
      outcome := match s with
        | .value .. => .completed
        | .error _ _ cancelled _ => if cancelled then .cancelled else .error
      resultAvailable := match s with
        | .value .. => true
        | .error .. => false
      nativeStatus := match s with
        | .value _ status => status
        | .error .. => none
      cleanupConfirmed := match s with
        | .value .. => true
        | .error _ _ _ cleanup => !cleanup
      consumerDropped := consumerDropped
      capture := (s.extensions.get? "iperf3_lib.event_capture").getD .none
      delivery := (s.extensions.get? "iperf3_lib.live_delivery").getD .none
      errorType := match s with
        | .value .. => none
        | .error errorType .. => some errorType
      errorMessage := match s with
        | .value .. => none
        | .error _ message .. => some (message.take 1024) }
    requestId := identity.bind LiveEvent.requestId
    workerId := identity.bind LiveEvent.workerId
    runIndex := identity.bind LiveEvent.runIndex
    deliverySequence := deliverySequence }

end Iperf3Lib
