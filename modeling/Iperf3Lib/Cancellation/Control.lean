import Mathlib.Data.List.Perm.Basic
import Mathlib.Tactic.Common

/-!
# Execution control

`_ExecutionControl` is shared by the event loop, the executor, the reader, the watchdog and the
supervisor of one operation. Each of its methods enters the lock once, except `request_cancel`, which
aborts and then asks in a second critical section whether the work has started. Callbacks are called
outside of the lock by the thread that took them out.
-/

namespace Iperf3Lib.Cancellation

variable {E P C : Type}

/-- An `_ExecutionControl`. -/
structure Control (E P C : Type) where
  stop : Bool := false
  reaped : Bool := false
  cause : Option E := none
  completed : Bool := false
  started : Bool := false
  process : Option P := none
  reapCallbacks : List C := []

namespace Control

/-- `begin`. -/
def begin (c : Control E P C) : Bool × Control E P C :=
  if c.cause.isSome then (false, c) else (true, { c with started := true })

/-- `abort`. -/
def abort (c : Control E P C) (error : E) : Control E P C :=
  if c.completed = false ∧ c.cause = none then { c with cause := some error, stop := true } else c

/-- `check`, with what it raises. -/
def check (c : Control E P C) : Except E Unit :=
  match c.cause with
  | some cause => .error cause
  | none => .ok ()

/-- `complete`, with what it raises. -/
def complete (c : Control E P C) : Except E (Control E P C) :=
  match c.cause with
  | some cause => .error cause
  | none => .ok { c with completed := true }

/-- `cleanup_confirmed`. -/
def cleanupConfirmed (c : Control E P C) : Bool := c.process.isNone || c.reaped

/-- The critical section of `when_reaped`: whether the caller has to call the callback itself. -/
def whenReaped (c : Control E P C) (callback : C) : Bool × Control E P C :=
  if c.process.isSome ∧ c.reaped = false then
    (false, { c with reapCallbacks := c.reapCallbacks ++ [callback] })
  else (true, c)

/-- The critical section of `register`, refused where a process is owned. -/
def register (c : Control E P C) (process : P) : Option (Control E P C) :=
  if c.process.isSome then none else some { c with process := some process }

/-- The critical section of `_mark_reaped`: the callbacks that the caller has to call. -/
def markReaped (c : Control E P C) : List C × Control E P C :=
  (c.reapCallbacks, { c with reaped := true, reapCallbacks := [] })

end Control

/-! ## Interleavings -/

/-- One critical section, or the call of a callback that some thread has taken out. -/
inductive Op (E P C : Type) where
  | begin
  | abort (error : E)
  /-- The second critical section of `request_cancel`. -/
  | isStarted
  | check
  | complete
  | register (process : P)
  | whenReaped (callback : C)
  | markReaped
  /-- The thread with the given batch calls its next callback, which may raise. -/
  | call (batch : ℕ) (raises : Bool)

/-- What a critical section returns or raises. -/
inductive Answer (E : Type) where
  | none
  | bool (b : Bool)
  | raised (error : E)
  | runtimeError
deriving DecidableEq

/-- The control, the callbacks that threads have taken out of it, and what became of them. -/
structure System (E P C : Type) where
  control : Control E P C := {}
  /-- What each thread that took callbacks out has yet to call. -/
  due : List (List C) := []
  ran : List C := []
  /-- Callbacks that are never called, because one in front of them raised. -/
  dropped : List C := []

namespace System

/-- One step of some thread. -/
def step (s : System E P C) : Op E P C → Answer E × System E P C
  | .begin => (.bool s.control.begin.1, { s with control := s.control.begin.2 })
  | .abort error => (.none, { s with control := s.control.abort error })
  | .isStarted => (.bool s.control.started, s)
  | .check =>
    match s.control.check with
    | .ok () => (.none, s)
    | .error cause => (.raised cause, s)
  | .complete =>
    match s.control.complete with
    | .ok control => (.none, { s with control })
    | .error cause => (.raised cause, s)
  | .register process =>
    match s.control.register process with
    | some control => (.none, { s with control })
    | none => (.runtimeError, s)
  | .whenReaped callback =>
    let (immediate, control) := s.control.whenReaped callback
    (.none, { s with control, due := if immediate then s.due ++ [[callback]] else s.due })
  | .markReaped =>
    let (callbacks, control) := s.control.markReaped
    (.none, { s with control, due := s.due ++ [callbacks] })
  | .call batch raises =>
    match s.due[batch]? with
    | some (callback :: callbacks) =>
      (.none, { s with
        due := s.due.set batch (if raises then [] else callbacks)
        ran := s.ran ++ [callback]
        dropped := if raises then s.dropped ++ callbacks else s.dropped })
    | _ => (.none, s)

/-- The answer to a step. -/
def answer (s : System E P C) (op : Op E P C) : Answer E := (s.step op).1

/-- The system after the steps, in the order in which the lock was taken. -/
def run (s : System E P C) (ops : List (Op E P C)) : System E P C :=
  ops.foldl (fun s op => (s.step op).2) s

@[simp] theorem run_nil (s : System E P C) : s.run [] = s := rfl

@[simp] theorem run_cons (s : System E P C) (op : Op E P C) (ops : List (Op E P C)) :
    s.run (op :: ops) = (s.step op).2.run ops := rfl

theorem run_append (s : System E P C) (ops ops' : List (Op E P C)) :
    s.run (ops ++ ops') = (s.run ops).run ops' := List.foldl_append

theorem run_concat (s : System E P C) (ops : List (Op E P C)) (op : Op E P C) :
    s.run (ops ++ [op]) = ((s.run ops).step op).2 := run_append s ops [op]

end System

end Iperf3Lib.Cancellation
