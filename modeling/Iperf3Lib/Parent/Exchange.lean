import Iperf3Lib.Live.Projector
import Iperf3Lib.Parent.Decode
import Iperf3Lib.Parent.Inbox

/-!
# The exchange with a worker

`run_worker` has two threads. The reading thread checks the frames of the worker and puts them into the
inbox; the invoking thread takes them out, hands them to the callbacks of the application and
authorizes the next run. `Exchange.step` interleaves them where the locks allow it: a frame that was
accepted is not yet in the inbox. `log` records what became of every frame and what every callback got.
-/

namespace Iperf3Lib.Parent

open Py Json Ipc Results

/-! ## The threads -/

/-- A `NativeEvent`. -/
structure NativeEvent where
  kind : PyVal
  data : PyVal
  sequence : PyVal
  receivedAtSeconds : PyVal

/-- What the arguments of `run_worker` mean to its loop. -/
structure Invocation where
  role : ReportingRole
  options : PyVal
  onEvent : Bool
  onResult : Bool
  onLiveEvent : Bool
  maxRuns : Option ℕ
  maxStrDigits : ℕ
  faults : Faults Exc
  /-- Whether the n-th call of a callback raises. -/
  raises : ℕ → Bool

/-- Where the reading thread stands. -/
inductive Reading where
  | reading
  /-- Behind `responses.accept(item)`, in front of `messages.put(item, size)`. -/
  | holding (item : PyDict) (size : ℕ)
  /-- In front of `messages.finish(failure)`. -/
  | failing (failure : Exc)
  | finished

/-- Where the invoking thread stands. -/
inductive Serving where
  | polling
  /-- Behind the result of a serving run, in front of `responses.continue_run`. -/
  | deciding (completed : Bool)
  /-- `run_worker` has returned a result or raised. -/
  | left (returned : Option Result)

/-- What became of a frame, or what a callback got. -/
inductive Note where
  | accepted (item : PyDict)
  | lost (item : PyDict)
  /-- Taken for a callback that is not there or has raised. -/
  | ignored (item : PyDict)
  /-- Refused by the projector. -/
  | unprojected (item : PyDict)
  | live (item : PyDict) (event : LiveEvent)
  | native (item : PyDict) (event : NativeEvent)
  | result (item : PyDict) (result : Result)
  /-- A result that raised when it was read. -/
  | unreadable (item : PyDict)
  /-- A control frame other than a result was taken. -/
  | control (item : PyDict)
  | state (event : LiveEvent)
  | gap (event : LiveEvent)

/-- What the threads share, what the invoking thread knows, and what happened. -/
structure Exchange where
  responses : Responses
  inbox : Inbox := {}
  reader : Reading := .reading
  serving : Serving := .polling
  projector : LiveProjector
  deliverySequence : ℕ := 0
  projectionDropped : ℕ := 0
  projectionMalformed : ℕ := 0
  count : ℕ := 0
  calls : ℕ := 0
  callbackError : Bool := false
  workerError : Option (PyStr × PyStr) := none
  lastResult : Option Result := none
  log : List Note := []

/-! ## Callbacks -/

namespace Exchange

/-- A callback is called. -/
def call (c : Invocation) (x : Exchange) (note : Note) : Exchange :=
  { x with log := x.log ++ [note], calls := x.calls + 1, callbackError := c.raises x.calls }

/-- `deliver_live`. -/
def deliverLive (c : Invocation) (x : Exchange) (note : Note) : Exchange :=
  if c.onLiveEvent ∧ ¬ x.callbackError then x.call c note else x

/-- `state_event` of the next delivery. -/
def stateEvent (c : Invocation) (x : Exchange) (state : WorkerState) : LiveEvent where
  kind := .workerState
  payload := .workerState state c.role
  requestId := some x.responses.session.requestId
  workerId := some x.responses.session.workerId
  runIndex := some 1
  deliverySequence := x.deliverySequence + 1

/-- `delivery_sequence += 1`. -/
def advance (x : Exchange) : Exchange := { x with deliverySequence := x.deliverySequence + 1 }

/-- `deliver_live(state_event(state))`. -/
def deliverState (c : Invocation) (x : Exchange) (state : WorkerState) : Exchange :=
  x.advance.deliverLive c (.state (x.stateEvent c state))

/-- `message[key]`, present in every accepted frame of its type. -/
def field (message : PyDict) (key : String) : PyVal := (message.get? key).getD .none

/-- The branch of an `event`. -/
def handleEvent (c : Invocation) (x : Exchange) (message : PyDict) : Exchange :=
  if c.onEvent ∧ ¬ x.callbackError then
    x.call c (.native message ⟨field message "kind", field message "data", field message "sequence",
      field message "time"⟩)
  else { x with log := x.log ++ [.ignored message] }

/-- A malformed event of a frame that is not one. -/
def isMalformedProjection (message : PyDict) (event : LiveEvent) : Bool :=
  event.kind = .malformed && message.str? "kind" ≠ some (PyStr.ofString "malformed")

/-- The branch of a `live_event`. -/
def handleLive (c : Invocation) (x : Exchange) (message : PyDict) : Exchange :=
  if c.onLiveEvent ∧ ¬ x.callbackError then
    let x := x.advance
    match x.projector.project c.faults message x.deliverySequence with
    | (.ok event, projector) =>
      let malformed := if isMalformedProjection message event then 1 else 0
      ({ x with
        projector := projector
        projectionMalformed := x.projectionMalformed + malformed }).deliverLive c (.live message event)
    | (.error _, projector) =>
      { x with
        projector := projector
        projectionDropped := x.projectionDropped + 1
        log := x.log ++ [.unprojected message] }
  else { x with log := x.log ++ [.ignored message] }

/-! ## Results -/

/-- `extensions["iperf3_lib.worker"]`. -/
def workerExtension (x : Exchange) (message : PyDict) (producer : PyVal) : PyVal :=
  .dict [("protocol_version", .int protocolVersion), ("request_id", field message "request_id"),
    ("worker_id", field message "worker_id"), ("pid", .int x.responses.pid),
    ("run_index", field message "run_index"), ("producer", producer)]

/-- `extensions["iperf3_lib.server_config"]` of a server. -/
def addServerConfig (c : Invocation) (result : Result) : Except Exc Result :=
  match c.role with
  | .client => .ok result
  | .server => do
    let options ← copy c.maxStrDigits c.options
    return extend "iperf3_lib.server_config" options result

/-- `delivery["dropped"]`. -/
def addDropped (message : PyDict) (result : Result) : Except Exc Result :=
  match result.extensions.get? "iperf3_lib.event_delivery" with
  | some (.dict delivery) =>
    .ok (extend "iperf3_lib.event_delivery" (.dict (PyDict.set delivery "dropped"
      (.int ((Responses.count? message "events_dropped").getD 0 + counter message "_parent_dropped"))))
      result)
  | some _ => .error ⟨.assertionError, ""⟩
  | none => .error ⟨.keyError, "iperf3_lib.event_delivery"⟩

/-- `extensions["iperf3_lib.live_delivery"]`. -/
def liveDelivery (x : Exchange) (message : PyDict) : PyDict :=
  let capture := (dict? message "capture").getD []
  [("emitted", .int (counter capture "live_emitted")),
    ("worker_dropped", .int (counter capture "live_dropped")),
    ("parent_dropped", .int (counter message "_parent_live_dropped")),
    ("projection_dropped", .int x.projectionDropped),
    ("projection_malformed", .int x.projectionMalformed),
    ("queue_capacity", .int maxPendingEvents), ("queue_bytes", .int maxPendingEventBytes),
    ("event_bytes", .int maxEventBytes)]

/-- The note of malformed live events. -/
def malformedNote : Diagnostic where
  message := PyStr.ofString "Some live native measurements could not be projected; malformed event diagnostics retain their capture provenance."
  code := "execution.malformed_live_event"
  evidencePaths := [PyStr.ofString "/extensions/iperf3_lib.live_delivery/projection_malformed"]

/-- What a result tells about its live events. -/
def addLiveDelivery (c : Invocation) (x : Exchange) (message : PyDict) (result : Result) : Result :=
  if c.onLiveEvent then
    let result := extend "iperf3_lib.live_delivery" (.dict (x.liveDelivery message)) result
    if x.projectionMalformed = 0 then result else note malformedNote result
  else result

/-- `last_result`. -/
def readResult (c : Invocation) (x : Exchange) (message : PyDict) : Except Exc Result := do
  let result ← decodeResult c.maxStrDigits message c.role
  let producer ← copy c.maxStrDigits (.ofOption .dict x.responses.producer)
  let result ← addServerConfig c (extend "iperf3_lib.worker" (x.workerExtension message producer) result)
  let result ← addDropped message result
  return x.addLiveDelivery c message result

/-- The stages at which live events of the run were dropped, with their numbers. -/
def stages (x : Exchange) (message : PyDict) : List (String × ℤ) :=
  [("worker_delivery", counter ((dict? message "capture").getD []) "live_dropped"),
    ("parent_delivery", counter message "_parent_live_dropped"),
    ("projection", x.projectionDropped)]

/-- The identity of the gaps behind a result. -/
def identity (c : Invocation) (x : Exchange) (message : PyDict) : LiveEvent where
  kind := .workerState
  payload := .workerState .ready c.role
  requestId := some x.responses.session.requestId
  workerId := some x.responses.session.workerId
  runIndex := message.int? "run_index"

/-- The body of the loop over the stages. -/
def deliverGap (c : Invocation) (identity : LiveEvent) (x : Exchange) (stage : String × ℤ) : Exchange :=
  if stage.2 = 0 then x
  else
    x.advance.deliverLive c (.gap (makeDeliveryGapEvent stage.1 stage.2.toNat
      (x.deliverySequence + 1) (some identity)))

/-- The gaps behind a result. -/
def deliverGaps (c : Invocation) (x : Exchange) (message : PyDict) : Exchange :=
  if c.onLiveEvent then
    { (x.stages message).foldl (deliverGap c (x.identity c message)) x with
      projectionDropped := 0
      projectionMalformed := 0 }
  else x

/-- `on_result`. -/
def deliverResult (c : Invocation) (x : Exchange) : Exchange :=
  if c.onResult ∧ ¬ x.callbackError then
    { x with calls := x.calls + 1, callbackError := c.raises x.calls }
  else x

/-- Where the loop stands behind a result. -/
def servingBehind (c : Invocation) (result : Result) : Serving :=
  match c.role with
  | .client => .polling
  | .server => .deciding result.ok

/-- The branch of a `result`, once it is read. -/
def handleResult (c : Invocation) (x : Exchange) (message : PyDict) (result : Result) : Exchange :=
  let x : Exchange := { x with lastResult := some result, log := x.log ++ [.result message result] }
  let x := x.deliverGaps c message
  ({ x with count := x.count + 1, serving := servingBehind c result } : Exchange).deliverResult c

/-! ## The loop -/

/-- The branches of the loop over the messages. -/
def handle (c : Invocation) (x : Exchange) (message : PyDict) : Exchange :=
  let kind := (message.str? "type").getD []
  if kind = ("ready" : String) then
    ({ x with log := x.log ++ [.control message] } : Exchange).deliverState c .ready
  else if kind = ("event" : String) then x.handleEvent c message
  else if kind = ("live_event" : String) then x.handleLive c message
  else if kind = ("result" : String) then
    match x.readResult c message with
    | .ok result => x.handleResult c message result
    | .error _ => { x with serving := .left none, log := x.log ++ [.unreadable message] }
  else if kind = ("error" : String) then
    { x with
      workerError := some ((message.str? "class").getD [], (message.str? "message").getD [])
      log := x.log ++ [.control message] }
  else { x with log := x.log ++ [.control message] }

/-- The branch of an `eof`, when the worker has exited with a code. -/
def handleEof (x : Exchange) (returncode : ℤ) : Exchange :=
  if x.workerError.isSome ∨ returncode ≠ 0 ∨ x.callbackError then { x with serving := .left none }
  else { x with serving := .left x.lastResult }

/-- One pass of the loop: `messages.get`, and what follows from it. -/
def poll (c : Invocation) (x : Exchange) (returncode : ℤ) : Exchange :=
  match x.inbox.get with
  | (.item message, inbox) => ({ x with inbox := inbox }).handle c message
  | (.failed _, inbox) => { x with inbox := inbox, serving := .left none }
  | (.eof, inbox) => ({ x with inbox := inbox }).handleEof returncode
  | (.empty, inbox) => { x with inbox := inbox }

/-- `keep_running`. -/
def keepRunning (c : Invocation) (x : Exchange) (completed stop : Bool) : Bool :=
  !x.callbackError && completed && (c.maxRuns.all fun n => decide (x.count < n)) && !stop

/-- `continue_run` and the new projector. -/
def continueRun (c : Invocation) (x : Exchange) (completed stop : Bool) : Exchange :=
  match x.responses.continueRun (x.keepRunning c completed stop) with
  | .ok (_, responses) =>
    { x with
      responses := responses
      serving := .polling
      projector := if x.keepRunning c completed stop then { role := c.role } else x.projector }
  | .error _ => { x with serving := .left none }

/-! ## The reading thread -/

/-- `responses.accept(item)`. -/
def accept (x : Exchange) (item : PyDict) (size : ℕ) : Exchange :=
  match x.responses.accept item with
  | (.ok (), responses) =>
    { x with responses := responses, reader := .holding item size, log := x.log ++ [.accepted item] }
  | (.error e, responses) => { x with responses := responses, reader := .failing e }

/-- An event that finds no room. -/
def overflows (x : Exchange) (item : PyDict) (size : ℕ) : Bool := isEvent item && x.inbox.full size

/-- `messages.put(item, size)`. -/
def put (x : Exchange) (item : PyDict) (size : ℕ) : Exchange :=
  match x.inbox.put item size with
  | .ok inbox =>
    { x with
      inbox := inbox
      reader := .reading
      log := if x.overflows item size then x.log ++ [.lost item] else x.log }
  | .error e => { x with reader := .failing e }

/-- `messages.finish`: behind a failure, behind the terminal receipt, or once the loop is left. -/
def finish (x : Exchange) : Exchange :=
  match x.reader, x.serving with
  | .failing e, _ => { x with inbox := x.inbox.finish (some e), reader := .finished }
  | .reading, .left _ => { x with inbox := x.inbox.finish none, reader := .finished }
  | .reading, _ =>
    if x.responses.phase = .terminal then
      { x with inbox := x.inbox.finish none, reader := .finished }
    else x
  | _, _ => x

/-! ## Interleavings -/

/-- What happens next. -/
inductive Action where
  /-- The reading thread decodes a frame of a size and accepts it. -/
  | accept (item : PyDict) (size : ℕ)
  | put
  /-- The transport breaks. -/
  | fail (failure : Exc)
  | finish
  /-- The invoking thread polls; at the end of the frames the worker exits with a code. -/
  | poll (returncode : ℤ)
  /-- It decides about the next run; `should_stop` may want none. -/
  | decide (stop : Bool)
  /-- It is cancelled or runs out of time. -/
  | leave

/-- One step of one thread. What cannot happen leaves the exchange as it is. -/
def step (c : Invocation) (x : Exchange) : Action → Exchange
  | .accept item size =>
    match x.reader with
    | .reading => x.accept item size
    | _ => x
  | .put =>
    match x.reader with
    | .holding item size => x.put item size
    | _ => x
  | .fail failure =>
    match x.reader with
    | .reading => { x with reader := .failing failure }
    | _ => x
  | .finish => x.finish
  | .poll returncode =>
    match x.serving with
    | .polling => x.poll c returncode
    | _ => x
  | .decide stop =>
    match x.serving with
    | .deciding completed => x.continueRun c completed stop
    | _ => x
  | .leave =>
    match x.serving with
    | .left _ => x
    | _ => { x with serving := .left none }

/-- The exchange in front of the first frame. A worker is started unless a callback has raised. -/
def initial (c : Invocation) (session : Session) (pid : ℤ) : Exchange :=
  let x := ({
    responses := .initial session c.role pid c.onLiveEvent
    projector := { role := c.role } } : Exchange).deliverState c .starting
  if x.callbackError then { x with reader := .finished, serving := .left none } else x

/-- An interleaving. -/
def run (c : Invocation) (x : Exchange) (actions : List Action) : Exchange :=
  actions.foldl (step c) x

end Exchange

end Iperf3Lib.Parent
