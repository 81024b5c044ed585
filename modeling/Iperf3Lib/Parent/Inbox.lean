import Iperf3Lib.Parent.Sessions

/-!
# The inbox of the parent

The reading thread decodes frames faster than the invoking thread hands them on. `Inbox` is the queue
between them: events are dropped when it is full, control frames have an allowance of their own, and a
result takes along how many events were dropped in front of it. `Inbox.Balanced` says that its
counters are those of its frames and within their limits.
-/

namespace Iperf3Lib.Parent

open Py Ipc

/-- `item["type"] in {"event", "live_event"}`. -/
def isEvent (item : PyDict) : Bool := isKind "event" item || isKind "live_event" item

/-- A result with `_parent_dropped` and `_parent_live_dropped`. -/
def stampDropped (item : PyDict) (dropped liveDropped : ℕ) : PyDict :=
  (item.set "_parent_dropped" (.int dropped)).set "_parent_live_dropped" (.int liveDropped)

/-- An `_Inbox`. -/
structure Inbox where
  items : List (PyDict × ℕ × Bool) := []
  eventBytes : ℕ := 0
  events : ℕ := 0
  controlBytes : ℕ := 0
  controls : ℕ := 0
  dropped : ℕ := 0
  liveDropped : ℕ := 0
  finished : Bool := false
  failure : Option Exc := none

/-- What a call of `get` comes to. -/
inductive Got where
  | item (item : PyDict)
  | failed (failure : Exc)
  | eof
  /-- `raise queue.Empty`. -/
  | empty

namespace Inbox

/-- There is no room for an event. -/
def full (q : Inbox) (size : ℕ) : Bool :=
  maxEventBytes + 4 < size || maxPendingEvents ≤ q.events || maxPendingEventBytes < q.eventBytes + size

/-- An event is counted as dropped. -/
def drop (q : Inbox) (item : PyDict) : Inbox :=
  if isKind "live_event" item then { q with liveDropped := q.liveDropped + 1 }
  else { q with dropped := q.dropped + 1 }

/-- An event is queued. -/
def pushEvent (q : Inbox) (item : PyDict) (size : ℕ) : Inbox :=
  { q with
    events := q.events + 1
    eventBytes := q.eventBytes + size
    items := q.items ++ [(item, size, true)] }

/-- A control frame is queued; a result takes the dropped events along. -/
def pushControl (q : Inbox) (item : PyDict) (size : ℕ) : Inbox :=
  if isKind "result" item then
    { q with
      controls := q.controls + 1
      controlBytes := q.controlBytes + size
      dropped := 0
      liveDropped := 0
      items := q.items ++ [(stampDropped item q.dropped q.liveDropped, size, false)] }
  else
    { q with
      controls := q.controls + 1
      controlBytes := q.controlBytes + size
      items := q.items ++ [(item, size, false)] }

/-- `put`. -/
def put (q : Inbox) (item : PyDict) (size : ℕ) : Except Exc Inbox :=
  if isEvent item then .ok (if q.full size then q.drop item else q.pushEvent item size)
  else if maxPendingControls ≤ q.controls ∨ maxPendingControlBytes < q.controlBytes + size then
    ipcError "Native worker exceeded the control queue allowance"
  else .ok (q.pushControl item size)

/-- `finish`. -/
def finish (q : Inbox) (failure : Option Exc) : Inbox := { q with failure := failure, finished := true }

/-- The inbox behind its oldest frame. -/
def pop (q : Inbox) (size : ℕ) (event : Bool) (items : List (PyDict × ℕ × Bool)) : Inbox :=
  if event then { q with items := items, events := q.events - 1, eventBytes := q.eventBytes - size }
  else { q with items := items, controls := q.controls - 1, controlBytes := q.controlBytes - size }

/-- `get`, once there is something to get or the time is up. -/
def get (q : Inbox) : Got × Inbox :=
  match q.failure with
  | some failure => (.failed failure, q)
  | none =>
    match q.items with
    | (item, size, event) :: items => (.item item, q.pop size event items)
    | [] => if q.finished then (.eof, q) else (.empty, q)

/-! ## What the counters count -/

/-- The bytes of the events or of the control frames. -/
def bytesOf (event : Bool) (items : List (PyDict × ℕ × Bool)) : ℕ :=
  ((items.filter fun entry => entry.2.2 = event).map fun entry => entry.2.1).sum

/-- The number of the events or of the control frames. -/
def countOf (event : Bool) (items : List (PyDict × ℕ × Bool)) : ℕ :=
  items.countP fun entry => entry.2.2 = event

theorem bytesOf_append (event : Bool) (items : List (PyDict × ℕ × Bool)) (entry : PyDict × ℕ × Bool) :
    bytesOf event (items ++ [entry]) =
      bytesOf event items + if entry.2.2 = event then entry.2.1 else 0 := by
  rw [bytesOf, List.filter_append, List.map_append, List.sum_append]
  by_cases h : entry.2.2 = event <;> simp [bytesOf, h]

theorem bytesOf_cons (event : Bool) (entry : PyDict × ℕ × Bool) (items : List (PyDict × ℕ × Bool)) :
    bytesOf event (entry :: items) =
      (if entry.2.2 = event then entry.2.1 else 0) + bytesOf event items := by
  by_cases h : entry.2.2 = event <;> simp [bytesOf, h]

theorem countOf_append (event : Bool) (items : List (PyDict × ℕ × Bool)) (entry : PyDict × ℕ × Bool) :
    countOf event (items ++ [entry]) = countOf event items + if entry.2.2 = event then 1 else 0 := by
  rw [countOf, List.countP_append, List.countP_singleton, countOf]
  simp

theorem countOf_cons (event : Bool) (entry : PyDict × ℕ × Bool) (items : List (PyDict × ℕ × Bool)) :
    countOf event (entry :: items) = countOf event items + if entry.2.2 = event then 1 else 0 := by
  rw [countOf, List.countP_cons, countOf]
  simp

/-- The counters are those of the frames and within their limits, and a frame is marked as an event
when it is one. -/
structure Balanced (q : Inbox) : Prop where
  events : q.events = countOf true q.items
  eventBytes : q.eventBytes = bytesOf true q.items
  controls : q.controls = countOf false q.items
  controlBytes : q.controlBytes = bytesOf false q.items
  events_le : q.events ≤ maxPendingEvents
  eventBytes_le : q.eventBytes ≤ maxPendingEventBytes
  controls_le : q.controls ≤ maxPendingControls
  controlBytes_le : q.controlBytes ≤ maxPendingControlBytes
  marked : ∀ entry ∈ q.items, entry.2.2 = isEvent entry.1

/-! ## What a stamp keeps -/

theorem str?_set {d : PyDict} {k key : PyStr} {v : PyVal} (h : k ≠ key) :
    PyDict.str? (d.set k v) key = d.str? key := by
  unfold PyDict.str?
  rw [PyDict.get?_set, if_neg h]

theorem int?_set {d : PyDict} {k key : PyStr} {v : PyVal} (h : k ≠ key) :
    PyDict.int? (d.set k v) key = d.int? key := by
  unfold PyDict.int?
  rw [PyDict.get?_set, if_neg h]

theorem isKind_stampDropped (kind : String) (item : PyDict) (m n : ℕ) :
    isKind kind (stampDropped item m n) = isKind kind item := by
  unfold isKind stampDropped
  rw [str?_set (PyStr.ofString_injective.ne (by decide)),
    str?_set (PyStr.ofString_injective.ne (by decide))]

theorem isEvent_stampDropped (item : PyDict) (m n : ℕ) :
    isEvent (stampDropped item m n) = isEvent item := by
  rw [isEvent, isKind_stampDropped, isKind_stampDropped, isEvent]

theorem get?_stampDropped {item : PyDict} {key : PyStr} (m n : ℕ)
    (h : key ≠ PyStr.ofString "_parent_dropped") (h' : key ≠ PyStr.ofString "_parent_live_dropped") :
    (stampDropped item m n).get? key = item.get? key := by
  rw [stampDropped, PyDict.get?_set, if_neg h'.symm, PyDict.get?_set, if_neg h.symm]

theorem parentDropped_stampDropped (item : PyDict) (m n : ℕ) :
    counter (stampDropped item m n) "_parent_dropped" = m := by
  rw [counter, stampDropped, int?_set (PyStr.ofString_injective.ne (by decide)), PyDict.int?,
    PyDict.get?_set, if_pos rfl]
  rfl

theorem parentLiveDropped_stampDropped (item : PyDict) (m n : ℕ) :
    counter (stampDropped item m n) "_parent_live_dropped" = n := by
  rw [counter, stampDropped, PyDict.int?, PyDict.get?_set, if_pos rfl]
  rfl

/-! ## What the operations keep -/

namespace Balanced

variable {q q' : Inbox} {item : PyDict} {size : ℕ}

theorem empty : Balanced {} :=
  ⟨rfl, rfl, rfl, rfl, by decide, by decide, by decide, by decide, by simp⟩

theorem drop (h : Balanced q) (item : PyDict) : Balanced (q.drop item) := by
  unfold Inbox.drop
  split <;> exact ⟨h.events, h.eventBytes, h.controls, h.controlBytes, h.events_le, h.eventBytes_le,
    h.controls_le, h.controlBytes_le, h.marked⟩

theorem pushEvent (h : Balanced q) (hevent : isEvent item = true) (hroom : q.full size = false) :
    Balanced (q.pushEvent item size) := by
  simp only [full, Bool.or_eq_false_iff, decide_eq_false_iff_not, not_lt, not_le] at hroom
  obtain ⟨⟨-, hcount⟩, hbytes⟩ := hroom
  exact {
    events := by
      simp only [Inbox.pushEvent]
      rw [countOf_append, if_pos rfl, h.events]
    eventBytes := by
      simp only [Inbox.pushEvent]
      rw [bytesOf_append, if_pos rfl, h.eventBytes]
    controls := by
      simp only [Inbox.pushEvent]
      rw [countOf_append, if_neg (by simp), h.controls, Nat.add_zero]
    controlBytes := by
      simp only [Inbox.pushEvent]
      rw [bytesOf_append, if_neg (by simp), h.controlBytes, Nat.add_zero]
    events_le := hcount
    eventBytes_le := hbytes
    controls_le := h.controls_le
    controlBytes_le := h.controlBytes_le
    marked := by
      refine List.forall_mem_append.mpr ⟨h.marked, fun entry hentry => ?_⟩
      rw [List.mem_singleton.mp hentry, hevent] }

theorem pushControl (h : Balanced q) (hevent : isEvent item = false)
    (hcount : q.controls < maxPendingControls)
    (hbytes : q.controlBytes + size ≤ maxPendingControlBytes) : Balanced (q.pushControl item size) := by
  -- the frame that is queued is the item itself or its stamped copy
  have hpush : ∀ queued : PyDict, isEvent queued = false → ∀ dropped liveDropped,
      Balanced { q with
        controls := q.controls + 1
        controlBytes := q.controlBytes + size
        dropped := dropped
        liveDropped := liveDropped
        items := q.items ++ [(queued, size, false)] } := by
    intro queued hqueued dropped liveDropped
    exact {
      events := by
        rw [countOf_append, if_neg (by simp)]
        exact h.events
      eventBytes := by
        rw [bytesOf_append, if_neg (by simp)]
        exact h.eventBytes
      controls := by
        rw [countOf_append, if_pos rfl]
        exact congrArg (· + 1) h.controls
      controlBytes := by
        rw [bytesOf_append, if_pos rfl]
        exact congrArg (· + size) h.controlBytes
      events_le := h.events_le
      eventBytes_le := h.eventBytes_le
      controls_le := hcount
      controlBytes_le := hbytes
      marked := by
        refine List.forall_mem_append.mpr ⟨h.marked, fun entry hentry => ?_⟩
        rw [List.mem_singleton.mp hentry, hqueued] }
  unfold Inbox.pushControl
  split
  · exact hpush _ ((isEvent_stampDropped item _ _).trans hevent) 0 0
  · exact hpush item hevent q.dropped q.liveDropped

/-- A frame that is put leaves the counters right and within their limits. -/
theorem put (h : Balanced q) (hput : q.put item size = .ok q') : Balanced q' := by
  unfold Inbox.put at hput
  split at hput
  · next hevent =>
    obtain rfl := Except.ok.inj hput
    split
    · exact h.drop item
    · next hroom => exact h.pushEvent hevent (Bool.not_eq_true _ ▸ hroom)
  · next hevent =>
    split at hput
    · cases hput
    · next hallowed =>
      obtain rfl := Except.ok.inj hput
      rw [not_or, not_le, not_lt] at hallowed
      exact h.pushControl (Bool.not_eq_true _ ▸ hevent) hallowed.1 hallowed.2

theorem finish (h : Balanced q) (failure : Option Exc) : Balanced (q.finish failure) :=
  ⟨h.events, h.eventBytes, h.controls, h.controlBytes, h.events_le, h.eventBytes_le, h.controls_le,
    h.controlBytes_le, h.marked⟩

/-- A frame that is taken leaves the counters right: what is subtracted was counted. -/
theorem pop (h : Balanced q) {event : Bool} {items : List (PyDict × ℕ × Bool)}
    (hitems : q.items = (item, size, event) :: items) : Balanced (q.pop size event items) := by
  have hevents := h.events
  have heventBytes := h.eventBytes
  have hcontrols := h.controls
  have hcontrolBytes := h.controlBytes
  rw [hitems, countOf_cons] at hevents hcontrols
  rw [hitems, bytesOf_cons] at heventBytes hcontrolBytes
  have hmarked : ∀ entry ∈ items, entry.2.2 = isEvent entry.1 := fun entry hentry =>
    h.marked entry (hitems ▸ List.mem_cons_of_mem _ hentry)
  have hevents_le := h.events_le
  have heventBytes_le := h.eventBytes_le
  have hcontrols_le := h.controls_le
  have hcontrolBytes_le := h.controlBytes_le
  cases event <;> simp only [Inbox.pop, Bool.false_eq_true, if_false, if_true, reduceCtorEq] at * <;>
    constructor <;> first | exact hmarked | (dsimp only; omega)

end Balanced

end Inbox

end Iperf3Lib.Parent
