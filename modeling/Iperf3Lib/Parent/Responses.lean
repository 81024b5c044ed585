import Iperf3Lib.Parent.Receipt
import Iperf3Lib.Result.Observations

/-!
# The frames of a worker

`Responses` is what the parent knows of its worker. `accept` takes an untrusted frame, which is any
dictionary, and rejects what does not belong at this point of the session; `continueRun` authorizes the
next run. Both hold a lock, so that they follow one another.
-/

namespace Iperf3Lib.Parent

open Py Ipc

/-! ## Fields -/

/-- `_finite_number`, of a field that may be absent. -/
def finiteNumber : Option PyVal → Bool
  | some (.int n) => (PyNum.int n).isFinite && !(PyNum.int n).isNeg
  | some (.float x) => (PyNum.float x).isFinite && !(PyNum.float x).isNeg
  | _ => false

/-- `d[key]` when it is an `int` or a `float`. -/
def number? (d : PyDict) (key : PyStr) : Option PyNum :=
  match d.get? key with
  | some (.int n) => some (.int n)
  | some (.float x) => some (.float x)
  | _ => none

/-- `d[key]` when it is a dictionary. -/
def dict? (d : PyDict) (key : PyStr) : Option PyDict :=
  match d.get? key with
  | some (.dict kvs) => some kvs
  | _ => none

/-- `item.get(key) is None`. -/
def isAbsent (item : PyDict) (key : PyStr) : Bool :=
  match item.get? key with
  | none => true
  | some .none => true
  | some _ => false

/-! ## Live frames -/

/-- `sequence is not None and (type(sequence) is not int or not 0 < sequence <= (1 << 63) - 1)`,
negated. -/
def isSequence (item : PyDict) : Bool :=
  isAbsent item "capture_sequence" ||
    ((item.int? "capture_sequence").map fun n => decide (0 < n ∧ n ≤ 2 ^ 63 - 1)).getD false

/-- The first check of `_validate_live_frame`. -/
def hasProvenance (item : PyDict) : Bool :=
  (item.str? "kind").isSome &&
    ([("data" : String), "capture_sequence", "arrival_offset_seconds", "time"] : List PyStr).all
      (fun key => (item.get? key).isSome) &&
    (item.str? "kind" = some ("delivery_gap" : String) ||
      finiteNumber (item.get? "arrival_offset_seconds")) &&
    (item.str? "kind" = some ("delivery_gap" : String) || finiteNumber (item.get? "time")) &&
    isSequence item

/-- The payload of a `delivery_gap`. -/
def isGap (item : PyDict) : Bool :=
  isAbsent item "capture_sequence" && isAbsent item "arrival_offset_seconds" &&
    isAbsent item "time" &&
    match item.get? "data" with
    | some (.dict data) =>
      hasKeys data [("stage" : String), "dropped"] &&
        (PyDict.str? data "stage" = some ("capture" : String) ||
          PyDict.str? data "stage" = some ("retention" : String)) &&
        ((PyDict.int? data "dropped").map fun n => decide (0 < n)).getD false
    | _ => false

/-- The payload of a `malformed`. -/
def isMalformed : Option PyVal → Bool
  | some (.dict data) =>
    hasKeys data [("reason" : String), "error_type", "sample"] &&
      PyDict.str? data "reason" = some ("invalid_native_json" : String) &&
      ((PyDict.get? data "error_type").map (isShortText 256)).getD false &&
      ((PyDict.get? data "sample").map (isShortText 256)).getD false
  | _ => false

/-- The payload of an `unknown` or a `server_output`. -/
def isForeign : Option PyVal → Bool
  | some (.dict data) =>
    hasKeys data [("native_kind" : String), "payload"] && (PyDict.str? data "native_kind").isSome
  | _ => false

/-- `valid` of `_validate_live_frame`. -/
def validPayload (item : PyDict) (kind : PyStr) : Bool :=
  if kind = ("delivery_gap" : String) then isGap item
  else if isAbsent item "capture_sequence" then false
  else if ([("native_start" : String), "interval", "native_end", "native_document"] :
      List PyStr).contains kind then (dict? item "data").isSome
  else if kind = ("native_error" : String) then
    (item.str? "data").isSome || (dict? item "data").isSome
  else if ([("unknown" : String), "server_output"] : List PyStr).contains kind then
    isForeign (item.get? "data")
  else if kind = ("malformed" : String) then isMalformed (item.get? "data")
  else false

/-- `_validate_live_frame`. -/
def validateLiveFrame (item : PyDict) : Except Exc Unit :=
  if ¬ hasProvenance item then ipcError "Invalid typed native event provenance"
  else if ¬ validPayload item ((item.str? "kind").getD []) then
    ipcError "Invalid typed native event payload"
  else .ok ()

/-! ## The state -/

inductive ResponsePhase where
  | startup
  | running
  | continuation
  | ending
  | terminal
deriving DecidableEq, Repr

/-- The fields of `_Responses`, up to the time of the terminal receipt. -/
structure Responses where
  session : Session
  role : ReportingRole
  pid : ℤ
  liveEvents : Bool
  run : ℕ := 1
  runs : ℕ := 0
  phase : ResponsePhase := .startup
  producer : Option PyDict := none
  failed : Bool := false
  eventSequence : ℤ := 0
  liveReceived : ℕ := 0
  captureSequence : ℤ := 0
  arrivalOffset : PyNum := .float (.finite (.zero false))
  captureGaps : List (PyStr × ℤ) := []

namespace Responses

/-- `_Responses(session, role, pid, live_events=live_events)`. -/
def initial (session : Session) (role : ReportingRole) (pid : ℤ) (liveEvents : Bool) : Responses :=
  { session := session, role := role, pid := pid, liveEvents := liveEvents }

/-- A text of the producer that is not empty. -/
def isProducerText (producer : PyDict) (key : PyStr) : Bool :=
  ((producer.str? key).map fun text => !text.isEmpty).getD false

/-- The branch of a `ready`. -/
def acceptReady (s : Responses) (item : PyDict) : Except Exc Responses :=
  match dict? item "producer" with
  | some producer =>
    if s.phase = .startup ∧ item.int? "pid" = some s.pid ∧
        ([("package_version" : String), "python_version", "native_version"] : List PyStr).all
          (isProducerText producer) ∧ (dict? producer "library_selector").isSome then
      .ok { s with producer := some producer, phase := .running }
    else ipcError "Invalid native worker readiness receipt"
  | none => ipcError "Invalid native worker readiness receipt"

/-- The branch of an `event`. -/
def acceptEvent (s : Responses) (item : PyDict) : Except Exc Responses :=
  match item.int? "sequence" with
  | some sequence =>
    if s.phase = .running ∧ (item.str? "kind").isSome ∧ (item.get? "data").isSome ∧
        s.eventSequence < sequence ∧ finiteNumber (item.get? "time") then
      .ok { s with eventSequence := sequence }
    else ipcError "Invalid or out-of-order native worker event"
  | none => ipcError "Invalid or out-of-order native worker event"

/-- `item["data"]["stage"]` and `item["data"]["dropped"]`. -/
def gap (item : PyDict) : PyStr × ℤ :=
  let data := (dict? item "data").getD []
  ((data.str? "stage").getD [], (data.int? "dropped").getD 0)

/-- `item["arrival_offset_seconds"]`. -/
def arrivalOf (item : PyDict) : PyNum :=
  (number? item "arrival_offset_seconds").getD (.float (.finite (.zero false)))

/-- The branch of a `live_event`. -/
def acceptLive (s : Responses) (item : PyDict) : Except Exc Responses := do
  if s.phase ≠ .running ∨ ¬ s.liveEvents then ipcError "Unexpected typed native worker event"
  else
    validateLiveFrame item
    match item.int? "capture_sequence" with
    | some sequence =>
      if sequence ≤ s.captureSequence ∨ s.captureGaps ≠ [] ∨
          (arrivalOf item).lt s.arrivalOffset then
        ipcError "Out-of-order typed native worker event"
      else
        return { s with
          captureSequence := sequence
          arrivalOffset := arrivalOf item
          liveReceived := s.liveReceived + 1 }
    | none =>
      if (gap item).1 ∈ s.captureGaps.map Prod.fst then ipcError "Duplicate native capture gap"
      else
        return { s with
          captureGaps := s.captureGaps ++ [gap item]
          liveReceived := s.liveReceived + 1 }

/-- `item.get(key, 0)` where it is an `int` that is not negative. -/
def count? (item : PyDict) (key : PyStr) : Option ℤ :=
  match item.get? key with
  | none => some 0
  | some (.int n) => if 0 ≤ n then some n else none
  | some _ => none

/-- The first check of a `result`. -/
def isResult (s : Responses) (item : PyDict) : Bool :=
  match s.producer, count? item "events_emitted", count? item "events_dropped" with
  | some producer, some emitted, some dropped =>
    s.phase = .running && (dict? item "raw").isSome &&
      ((item.get? "evidence").isNone || (dict? item "evidence").isSome) &&
      (isAbsent item "error" || (item.str? "error").isSome) &&
      ([("started_at" : String), "completed_at", "elapsed"] : List PyStr).all
        (fun key => finiteNumber (item.get? key)) &&
      dropped ≤ emitted && s.eventSequence ≤ emitted &&
      (match item.get? "native_events" with
        | none => true
        | some (.list _) => true
        | some _ => false) &&
      ((item.get? "native_returncode").isNone || (item.int? "native_returncode").isSome) &&
      (item.str? "native_version").isSome &&
      item.str? "native_version" = producer.str? "native_version"
  | _, _, _ => false

/-- The counters of the capture agree with what was delivered. -/
def agrees (s : Responses) (capture : PyDict) : Bool :=
  counter capture "live_emitted" = s.liveReceived + counter capture "live_dropped" &&
    s.captureSequence ≤ counter capture "callbacks" &&
    (s.liveEvents || counter capture "live_emitted" = 0) &&
    s.captureGaps.all fun gap =>
      counter capture (gap.1 ++ ("_dropped" : String)) = gap.2

/-- `"continuation" if self.role == "server" else "ending"`. -/
def settledPhase : ReportingRole → ResponsePhase
  | .server => .continuation
  | .client => .ending

/-- The branch of a `result`. -/
def acceptResult (s : Responses) (item : PyDict) : Except Exc Responses := do
  if ¬ s.isResult item then ipcError "Invalid or out-of-order native worker result"
  else
    if (item.get? "capture").isSome ∨ s.liveEvents then
      validateCapture ((item.get? "capture").getD .none)
      if ¬ s.agrees ((dict? item "capture").getD []) then
        ipcError "Native capture counters contradict typed delivery"
    return { s with runs := s.runs + 1, phase := settledPhase s.role }

/-- The branch of an `error`. -/
def acceptError (s : Responses) (item : PyDict) : Except Exc Responses :=
  if s.failed ∨ (item.str? "class").isNone ∨ (item.str? "message").isNone then
    ipcError "Invalid native worker error receipt"
  else .ok { s with failed := true, phase := .ending }

/-- `"failed" if self.failed else "completed"`. -/
def statusText (failed : Bool) : PyStr :=
  if failed then ("failed" : String) else ("completed" : String)

/-- The branch of a `terminal`. -/
def acceptTerminal (s : Responses) (item : PyDict) : Except Exc Responses :=
  if s.phase ≠ .ending ∨ item.int? "runs" ≠ some (s.runs : ℤ) ∨
      item.str? "status" ≠ some (statusText s.failed) then
    ipcError "Invalid or premature native worker terminal receipt"
  else .ok { s with phase := .terminal }

/-- `accept` behind the check of the session. -/
def admitItem (s : Responses) (item : PyDict) : Except Exc Responses :=
  if s.phase = .terminal then ipcError "Native worker sent data after its terminal receipt"
  else if item.int? "run_index" ≠ some (s.run : ℤ) then
    ipcError "Native worker sent an unexpected run index"
  else
    let kind := (item.str? "type").getD []
    if kind = ("ready" : String) then s.acceptReady item
    else if kind = ("event" : String) then s.acceptEvent item
    else if kind = ("live_event" : String) then s.acceptLive item
    else if kind = ("result" : String) then s.acceptResult item
    else if kind = ("error" : String) then s.acceptError item
    else if kind = ("terminal" : String) then s.acceptTerminal item
    else ipcError "Unexpected native worker message type"

/-- `accept`: its outcome, and the state behind it. -/
def accept (s : Responses) (item : PyDict) : Except Exc Unit × Responses :=
  match s.session.validate item with
  | (.error e, session) => (.error e, { s with session := session })
  | (.ok (), session) =>
    match ({ s with session := session } : Responses).admitItem item with
    | .ok s' => (.ok (), s')
    | .error e => (.error e, { s with session := session })

/-- `continue_run`: the completed run, and the state behind it. -/
def continueRun (s : Responses) (keepRunning : Bool) : Except Exc (ℕ × Responses) :=
  if s.phase ≠ .continuation then ipcError "Native worker is not waiting for a continuation"
  else if keepRunning then
    .ok (s.run, { s with
      run := s.run + 1
      eventSequence := 0
      liveReceived := 0
      captureSequence := 0
      arrivalOffset := .float (.finite (.zero false))
      captureGaps := []
      phase := .running })
  else .ok (s.run, { s with phase := .ending })

end Responses

end Iperf3Lib.Parent
