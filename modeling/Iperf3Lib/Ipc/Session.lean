import Iperf3Lib.Ipc.Accept
import Iperf3Lib.Ipc.Frames

/-!
# Sessions and the bounded queue

A `Session` numbers the frames it emits and checks the numbers of those it receives. A
`BoundedFrameQueue` holds admitted frames under separate budgets for events and controls. Threads
emit into one queue while another takes frames out of it: `Link.step` interleaves them where the
two locks allow it, so that a frame may leave the queue before its number is counted.
-/

namespace Iperf3Lib.Ipc

open Py

def protocolVersion : ℤ := 1
def maxPendingEventBytes : ℕ := 8 * 1024 * 1024
def maxPendingEvents : ℕ := 256
def maxPendingControls : ℕ := 4
def maxPendingControlBytes : ℕ := 2 * maxFrameBytes + 64 * 1024
def maxCounter : ℤ := 2 ^ 63 - 1

/-- `_TYPES`. -/
def messageTypes : List PyStr :=
  ["request", "continue", "ready", "event", "live_event", "result", "error", "terminal"]

/-- `_METADATA`. -/
def metadata : List PyStr :=
  ["protocol_version", "request_id", "worker_id", "transport_sequence", "run_index"]

/-- `_NONCE.fullmatch(value)`. -/
def isNonce (value : PyStr) : Bool :=
  value.length = 32 && value.all fun
    | .scalar c => c.isDigit || ('a' ≤ c && c ≤ 'f')
    | .surrogate _ => false

/-- The check of a `request_id` or a `worker_id`. -/
def checkNonce (message : PyDict) (name : PyStr) : Except Exc Unit :=
  if ((message.str? name).map isNonce).getD false then .ok ()
  else ipcError (("Worker " : String) ++ name ++
    (" must be a 32-character hexadecimal nonce" : String))

/-- The check of a `transport_sequence` or a `run_index`. -/
def checkCounter (message : PyDict) (name : PyStr) : Except Exc Unit :=
  if ((message.int? name).map fun n => decide (0 < n ∧ n ≤ maxCounter)).getD false then .ok ()
  else ipcError (("Worker " : String) ++ name ++ (" must be a positive protocol integer" : String))

/-- `_headers`. -/
def headers (message : PyDict) : Except Exc Unit := do
  if ¬ metadata.all fun key => (message.get? key).isSome then
    ipcError "Worker message is missing its session envelope"
  if message.int? "protocol_version" ≠ some protocolVersion then
    ipcError "Worker IPC protocol version is unsupported"
  checkNonce message "request_id"
  checkNonce message "worker_id"
  checkCounter message "transport_sequence"
  checkCounter message "run_index"
  if ¬ ((message.str? "type").map messageTypes.contains).getD false then
    ipcError "Worker message type is unsupported"

/-! ## Sessions -/

/-- A `Session`: two nonces and a counter for each direction. -/
structure Session where
  requestId : PyStr
  workerId : PyStr
  outgoing : ℕ := 0
  incoming : ℕ := 0
  requestId_nonce : isNonce requestId = true
  workerId_nonce : isNonce workerId = true

namespace Session

/-- `Session(request_id, worker_id)` with the identities of `s`. -/
def fresh (s : Session) : Session := { s with outgoing := 0, incoming := 0 }

/-- The envelope fields of the next frame. -/
def envelopeFields (s : Session) (runIndex : ℤ) : PyDict :=
  [("protocol_version", .int protocolVersion), ("request_id", .str s.requestId),
    ("worker_id", .str s.workerId), ("transport_sequence", .int (s.outgoing + 1)),
    ("run_index", .int runIndex)]

/-- `{**message, ...}`. -/
def envelope (s : Session) (message : PyDict) (runIndex : ℤ) : PyDict :=
  message.update (s.envelopeFields runIndex)

/-- The part of `emit` in front of the lock. -/
def checkMessage (message : PyVal) : Except Exc PyDict :=
  match message with
  | .dict m =>
    if metadata.any fun key => (PyDict.get? m key).isSome then
      ipcError "Application message cannot override session envelope fields"
    else .ok m
  | _ => ipcError "Application message cannot override session envelope fields"

/-- The part of `emit` under the lock up to its call of `admit`. -/
def nextFrame (F : Json.Faults Exc) (s : Session) (message : PyDict) (runIndex : ℤ) :
    Except Exc (List UInt8) := do
  headers (s.envelope message runIndex)
  encodeFrame F (.dict (s.envelope message runIndex)) maxFrameBytes

/-- `self._outgoing += 1`. -/
def advance (s : Session) : Session := { s with outgoing := s.outgoing + 1 }

/-- `validate`. -/
def validate (s : Session) (message : PyDict) : Except Exc Unit × Session :=
  match headers message with
  | .error e => (.error e, s)
  | .ok () =>
    if message.str? "request_id" ≠ some s.requestId ∨ message.str? "worker_id" ≠ some s.workerId then
      (ipcError "Worker message belongs to another session", s)
    else if message.int? "transport_sequence" ≠ some (s.incoming + 1 : ℤ) then
      (ipcError "Worker transport sequence is replayed, missing or out of order", s)
    else (.ok (), { s with incoming := s.incoming + 1 })

/-- The messages that `validate` lets through, one delivered after the other. -/
def accept (s : Session) : List PyDict → List PyDict × Session
  | [] => ([], s)
  | m :: ms =>
    match s.validate m with
    | (.ok (), s') => (m :: (accept s' ms).1, (accept s' ms).2)
    | (.error _, s') => accept s' ms

end Session

/-! ## The queue -/

/-- A `BoundedFrameQueue`. -/
structure BoundedFrameQueue where
  frames : List (List UInt8 × Bool) := []
  eventBytes : ℕ := 0
  controlBytes : ℕ := 0
  events : ℕ := 0
  controls : ℕ := 0
  closed : Bool := false

namespace BoundedFrameQueue

/-- The check of `put` on the frame alone. -/
def checkFrame (frame : List UInt8) (event : Bool) : Except Exc Unit := do
  if frame.length < headerSize then
    ipcError "Worker queue requires an immutable encoded frame"
  let length := unpackLength (frame.take headerSize)
  if length ≠ frame.length - headerSize ∨ ¬ (0 < length ∧ length ≤ maxFrameBytes) then
    ipcError "Worker queue frame has an invalid byte length"
  if event ∧ length > maxEventBytes then ipcError "Worker event exceeds its byte limit"

/-- `put`: whether the frame was admitted, or the exception, and the queue behind the call. -/
def put (q : BoundedFrameQueue) (frame : List UInt8) (event : Bool) :
    Except Exc Bool × BoundedFrameQueue :=
  match checkFrame frame event with
  | .error e => (.error e, q)
  | .ok () =>
    if q.closed then (ipcError "Worker frame queue is closed", q)
    else if event then
      if q.events ≥ maxPendingEvents ∨ q.eventBytes + frame.length > maxPendingEventBytes then
        (.ok false, q)
      else
        (.ok true, { q with
          events := q.events + 1
          eventBytes := q.eventBytes + frame.length
          frames := q.frames ++ [(frame, event)] })
    else if q.controls ≥ maxPendingControls ∨
        q.controlBytes + frame.length > maxPendingControlBytes then
      (ipcError "Worker control queue capacity was exceeded", q)
    else
      (.ok true, { q with
        controls := q.controls + 1
        controlBytes := q.controlBytes + frame.length
        frames := q.frames ++ [(frame, event)] })

/-- One attempt of `get` under the lock. -/
def get (q : BoundedFrameQueue) : Except Exc (List UInt8) × BoundedFrameQueue :=
  match q.frames with
  | [] => (.error (if q.closed then ⟨.eofError, "Worker frame queue is drained"⟩ else ⟨.queueEmpty, ""⟩), q)
  | (frame, event) :: frames =>
    (.ok frame,
      if event then
        { q with frames := frames, events := q.events - 1, eventBytes := q.eventBytes - frame.length }
      else
        { q with
          frames := frames
          controls := q.controls - 1
          controlBytes := q.controlBytes - frame.length })

/-- `close`. -/
def close (q : BoundedFrameQueue) : BoundedFrameQueue := { q with closed := true }

end BoundedFrameQueue

/-! ## Threads on one session and one queue -/

/-- Where the thread that holds the session's lock stands in `emit`. -/
inductive Emission where
  /-- In front of `admit(frame)`. -/
  | encoded (frame : List UInt8) (event : Bool)
  /-- Behind it, in front of `self._outgoing += 1`. -/
  | admitted (frame : List UInt8)

/-- The lock behind `admit(frame)`: released unless the frame was admitted. -/
def Emission.behind (frame : List UInt8) : Except Exc Bool → Option Emission
  | .ok true => some (.admitted frame)
  | _ => none

/-- The session, its lock, the queue, and the frames taken from the queue so far. -/
structure Link where
  session : Session
  lock : Option Emission := none
  queue : BoundedFrameQueue := {}
  taken : List (List UInt8) := []

/-- What some thread does next. -/
inductive LinkAction where
  /-- Call `emit(message, run_index=..., admit=...)`, take the lock and encode. -/
  | emit (message : PyVal) (distinct : message.All DistinctKeys) (runIndex : ℤ) (event : Bool)
  /-- The thread with the lock calls `queue.put`. -/
  | put
  /-- The thread with the lock counts its frame and returns. -/
  | count
  | get
  | close

namespace Link

/-- One step of one thread. A thread that waits for the lock leaves the state as it is, and so does
one that raises. -/
def step (F : Json.Faults Exc) (l : Link) : LinkAction → Link
  | .emit message _ runIndex event =>
    match l.lock with
    | some _ => l
    | none =>
      match Session.checkMessage message >>= fun m => l.session.nextFrame F m runIndex with
      | .ok frame => { l with lock := some (.encoded frame event) }
      | .error _ => l
  | .put =>
    match l.lock with
    | some (.encoded frame event) =>
      { l with
        queue := (l.queue.put frame event).2
        lock := Emission.behind frame (l.queue.put frame event).1 }
    | _ => l
  | .count =>
    match l.lock with
    | some (.admitted _) => { l with session := l.session.advance, lock := none }
    | _ => l
  | .get =>
    match l.queue.get with
    | (.ok frame, queue) => { l with queue := queue, taken := l.taken ++ [frame] }
    | (.error _, queue) => { l with queue := queue }
  | .close => { l with queue := l.queue.close }

/-- A whole call of `emit` while no other thread holds the lock, with `queue.put` as `admit`. -/
def emit (F : Json.Faults Exc) (l : Link) (message : PyVal) (runIndex : ℤ) (event : Bool) :
    Except Exc (Option (List UInt8)) × Link :=
  match Session.checkMessage message >>= fun m => l.session.nextFrame F m runIndex with
  | .error e => (.error e, l)
  | .ok frame =>
    match l.queue.put frame event with
    | (.error e, queue) => (.error e, { l with queue := queue })
    | (.ok false, queue) => (.ok none, { l with queue := queue })
    | (.ok true, queue) => (.ok (some frame), { l with queue := queue, session := l.session.advance })

/-- An interleaving. -/
def run (F : Json.Faults Exc) (l : Link) (actions : List LinkAction) : Link :=
  actions.foldl (step F) l

end Link

end Iperf3Lib.Ipc
