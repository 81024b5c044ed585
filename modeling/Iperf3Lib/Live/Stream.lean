import Iperf3Lib.Live.Events

/-!
# The event stream

`EventStream` hands observations from the thread that runs an operation to one consumer on the event
loop. `put` runs on the execution thread, everything else on the loop; both take the lock, so that
`World.step` interleaves whole lock sections. Only `_wake` does something behind its lock section:
between its two statements the execution thread may put, but nothing else of the loop can run.
-/

namespace Iperf3Lib

open Py Json Ipc

def maxStreamEvents : ℕ := 128
def maxStreamBytes : ℕ := 2 * 1024 * 1024

/-- What the threads share. -/
structure EventStream where
  available : Bool := false
  queue : List (LiveEvent × ℕ) := []
  bytes : ℕ := 0
  wakePending : Bool := false
  dropped : ℕ := 0
  reportedDropped : ℕ := 0
  sequence : ℕ := 0
  identity : Option LiveEvent := none
  terminal : Option LiveEvent := none
  terminalDelivered : Bool := false

/-- Where a delivered event comes from. -/
inductive Origin where
  | queue
  | bridge
  | terminal
deriving DecidableEq, Repr

/-- The outcome of the lock section of `__anext__`. -/
inductive Polled where
  | event (origin : Origin) (event : LiveEvent)
  /-- `raise StopAsyncIteration`. -/
  | ended
  /-- `event = None`. -/
  | empty

namespace EventStream

/-- The size of an event, beyond the limit for one that cannot be framed. -/
def putSize (F : Faults Exc) (event : LiveEvent) : ℕ :=
  match liveEventSize F event with
  | .ok size => size
  | .error _ => maxStreamBytes + 1

/-- `_put`. -/
def put (F : Faults Exc) (s : EventStream) (event : LiveEvent) : EventStream :=
  let size := putSize F event
  let s := { s with identity := some (eventIdentity event), wakePending := true }
  if s.queue.length ≥ maxStreamEvents ∨ s.bytes + size > maxStreamBytes then
    { s with dropped := s.dropped + 1 }
  else
    { s with queue := s.queue ++ [(event, size)], bytes := s.bytes + size }

/-- The lock section of `__anext__`. -/
def poll (s : EventStream) : Polled × EventStream :=
  match s.queue with
  | (event, size) :: queue =>
    (.event .queue event, { s with queue := queue, bytes := s.bytes - size })
  | [] =>
    if s.reportedDropped ≠ s.dropped then
      (.event .bridge (makeDeliveryGapEvent "consumer_bridge" (s.dropped - s.reportedDropped) 0
        s.identity), { s with reportedDropped := s.dropped })
    else
      match s.terminal with
      | some terminal =>
        if s.terminalDelivered then (.ended, s)
        else (.event .terminal terminal, { s with terminalDelivered := true })
      | none => (.empty, { s with available := false })

/-- `_settled`. -/
def settled (s : EventStream) (settlement : Settlement) : EventStream :=
  match s.terminal with
  | some _ => s
  | none =>
    { s with
      terminal := some (makeTerminalEvent settlement 0 s.identity s.dropped)
      available := true }

/-- A read would not have to wait. -/
def Readable (s : EventStream) : Prop :=
  s.queue ≠ [] ∨ s.reportedDropped ≠ s.dropped ∨ s.terminal.isSome

end EventStream

/-! ## Threads -/

/-- Where the consumer stands. `_reading` holds unless it is idle. -/
inductive Reader where
  | idle
  /-- At `await self._available.wait()`. -/
  | waiting
  /-- At `await self.aclose()`, behind the cancellation of a read. -/
  | closing
deriving DecidableEq, Repr

/-- What a call of `__anext__` came to. -/
inductive Read where
  | event (origin : Origin) (event : LiveEvent)
  | ended
  | cancelled

/-- The stream, the callbacks of the loop, the consumer, and what went in and came out. -/
structure World where
  stream : EventStream := {}
  /-- The `_wake` callbacks that the loop has not begun. -/
  scheduled : ℕ := 0
  /-- `_wake` has released the lock. -/
  waking : Bool := false
  consumer : Option ℕ := none
  reader : Reader := .idle
  puts : List LiveEvent := []
  reads : List Read := []

/-- What happens on the event loop. -/
inductive LoopAction where
  /-- `_wake`, up to the end of its lock section. -/
  | beginWake
  /-- `_settled`, by whoever observes first that the owner is done. -/
  | settle (settlement : Settlement)
  /-- A task calls `__anext__`. -/
  | read (task : ℕ)
  /-- `wait()` returns. -/
  | resume
  /-- The waiting task is cancelled. -/
  | cancel
  /-- `aclose()` of the cancelled read returns. -/
  | close

inductive StreamAction where
  /-- `_put` on the execution thread. -/
  | put (event : LiveEvent)
  /-- `self._available.set()` of `_wake`. -/
  | endWake
  | loop (action : LoopAction)

namespace World

/-- One pass of the loop of `__anext__`. -/
def advance (w : World) : World :=
  match w.stream.poll with
  | (.event origin event, s) =>
    { w with
      stream := { s with sequence := s.sequence + 1 }
      reader := .idle
      reads := w.reads ++ [.event origin (event.withSequence (s.sequence + 1))] }
  | (.ended, s) => { w with stream := s, reader := .idle, reads := w.reads ++ [.ended] }
  | (.empty, s) => { w with stream := s, reader := .waiting }

/-- One step of the event loop. What cannot happen leaves the world as it is, and so does a read that
is refused because it is the second consumer's. -/
def loopStep (w : World) : LoopAction → World
  | .beginWake =>
    if w.scheduled = 0 then w
    else
      { w with
        stream := { w.stream with wakePending := false }
        scheduled := w.scheduled - 1
        waking := true }
  | .settle settlement => { w with stream := w.stream.settled settlement }
  | .read task =>
    if w.consumer.getD task ≠ task ∨ w.reader ≠ .idle then w
    else { w with consumer := some task }.advance
  | .resume => if w.reader = .waiting ∧ w.stream.available then w.advance else w
  | .cancel => if w.reader = .waiting then { w with reader := .closing } else w
  | .close =>
    if w.reader = .closing ∧ w.stream.terminal.isSome then
      { w with reader := .idle, reads := w.reads ++ [.cancelled] }
    else w

/-- One step of one thread. -/
def step (F : Faults Exc) (w : World) : StreamAction → World
  | .put event =>
    -- The owner joins the execution thread before it is done.
    if w.stream.terminal.isSome then w
    else
      { w with
        stream := w.stream.put F event
        scheduled := if w.stream.wakePending then w.scheduled else w.scheduled + 1
        puts := w.puts ++ [event] }
  | .endWake =>
    if w.waking then { w with stream := { w.stream with available := true }, waking := false }
    else w
  | .loop action => if w.waking then w else w.loopStep action

/-- An interleaving. -/
def run (F : Faults Exc) (w : World) (actions : List StreamAction) : World :=
  actions.foldl (step F) w

end World

end Iperf3Lib
