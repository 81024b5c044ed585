import Iperf3Lib.Ipc.Session

/-!
# Gap-free delivery

Every interleaving keeps `Link.Inv`: the frames taken from the queue and those still in it carry the
transport sequences 1, 2, 3, … in this order, and the counters of the queue are those of its
contents. A peer session then accepts exactly the prefixes of that sequence.
-/

namespace Iperf3Lib.Ipc

open Py Json

/-! ## The queue's accounts -/

namespace BoundedFrameQueue

/-- The frames of one lane. -/
def lane (event : Bool) (frames : List (List UInt8 × Bool)) : List (List UInt8 × Bool) :=
  frames.filter fun f => f.2 == event

/-- The bytes of a list of frames. -/
def bytes (frames : List (List UInt8 × Bool)) : ℕ := (frames.map fun f => f.1.length).sum

/-- The counters are those of the contents and within their budgets. -/
structure Inv (q : BoundedFrameQueue) : Prop where
  events : q.events = (lane true q.frames).length
  controls : q.controls = (lane false q.frames).length
  eventBytes : q.eventBytes = bytes (lane true q.frames)
  controlBytes : q.controlBytes = bytes (lane false q.frames)
  events_le : q.events ≤ maxPendingEvents
  controls_le : q.controls ≤ maxPendingControls
  eventBytes_le : q.eventBytes ≤ maxPendingEventBytes
  controlBytes_le : q.controlBytes ≤ maxPendingControlBytes

@[simp] theorem lane_append (event : Bool) (a b : List (List UInt8 × Bool)) :
    lane event (a ++ b) = lane event a ++ lane event b := List.filter_append a b

@[simp] theorem lane_cons (event : Bool) (f : List UInt8 × Bool) (b : List (List UInt8 × Bool)) :
    lane event (f :: b) = if f.2 = event then f :: lane event b else lane event b := by
  simp [lane, List.filter_cons]

@[simp] theorem lane_nil (event : Bool) : lane event [] = [] := rfl

theorem Inv.empty : Inv {} := by constructor <;> decide

theorem Inv.close {q : BoundedFrameQueue} (h : q.Inv) : q.close.Inv := by
  obtain ⟨h1, h2, h3, h4, h5, h6, h7, h8⟩ := h
  exact ⟨h1, h2, h3, h4, h5, h6, h7, h8⟩

@[simp] theorem bytes_append (a b : List (List UInt8 × Bool)) : bytes (a ++ b) = bytes a + bytes b := by
  simp [bytes]

@[simp] theorem bytes_cons (f : List UInt8 × Bool) (b : List (List UInt8 × Bool)) :
    bytes (f :: b) = f.1.length + bytes b := by simp [bytes]

@[simp] theorem bytes_nil : bytes [] = 0 := rfl

/-- Everything a call of `put` can do: refuse and change nothing, or append within the budgets. -/
theorem put_cases (q : BoundedFrameQueue) (frame : List UInt8) (event : Bool) :
    ((q.put frame event).1 ≠ .ok true ∧ (q.put frame event).2 = q) ∨
    ((q.put frame event).1 = .ok true ∧ event = true ∧ q.events < maxPendingEvents ∧
      q.eventBytes + frame.length ≤ maxPendingEventBytes ∧
      (q.put frame event).2 = { q with
        events := q.events + 1
        eventBytes := q.eventBytes + frame.length
        frames := q.frames ++ [(frame, event)] }) ∨
    ((q.put frame event).1 = .ok true ∧ event = false ∧ q.controls < maxPendingControls ∧
      q.controlBytes + frame.length ≤ maxPendingControlBytes ∧
      (q.put frame event).2 = { q with
        controls := q.controls + 1
        controlBytes := q.controlBytes + frame.length
        frames := q.frames ++ [(frame, event)] }) := by
  unfold put
  split
  · exact .inl ⟨by simp, rfl⟩
  · by_cases hclosed : q.closed = true
    · rw [if_pos hclosed]
      exact .inl ⟨by simp [ipcError], rfl⟩
    rw [if_neg hclosed]
    cases event with
    | true =>
      rw [if_pos rfl]
      split
      · exact .inl ⟨by simp, rfl⟩
      · exact .inr (.inl ⟨rfl, rfl, by omega, by omega, rfl⟩)
    | false =>
      rw [if_neg Bool.false_ne_true]
      split
      · exact .inl ⟨by simp [ipcError], rfl⟩
      · exact .inr (.inr ⟨rfl, rfl, by omega, by omega, rfl⟩)

/-- A frame that is not admitted changes nothing. -/
theorem put_refused {q : BoundedFrameQueue} {frame : List UInt8} {event : Bool}
    (h : (q.put frame event).1 ≠ .ok true) : (q.put frame event).2 = q := by
  rcases q.put_cases frame event with ⟨-, hq⟩ | ⟨hok, -⟩ | ⟨hok, -⟩
  · exact hq
  · exact absurd hok h
  · exact absurd hok h

theorem Inv.put {q : BoundedFrameQueue} (h : q.Inv) (frame : List UInt8) (event : Bool) :
    (q.put frame event).2.Inv := by
  obtain ⟨h1, h2, h3, h4, h5, h6, h7, h8⟩ := h
  rcases q.put_cases frame event with ⟨-, hq⟩ | ⟨-, rfl, he, hb, hq⟩ | ⟨-, rfl, he, hb, hq⟩ <;> rw [hq]
  · exact ⟨h1, h2, h3, h4, h5, h6, h7, h8⟩
  all_goals
    constructor <;> simp only [lane_append, lane_cons, lane_nil, bytes_append, bytes_cons, bytes_nil,
      List.length_append, List.length_cons, List.length_nil, if_true, if_false,
      Bool.true_eq_false, Bool.false_eq_true] <;> omega

/-- What `get` leaves behind the frame it takes. -/
theorem get_ok {q : BoundedFrameQueue} {frame : List UInt8} (h : q.get.1 = .ok frame) :
    ∃ event frames, q.frames = (frame, event) :: frames ∧ q.get.2.frames = frames := by
  unfold get at h ⊢
  split at h
  · cases h
  · next f event frames hq =>
    obtain rfl := Except.ok.inj h
    exact ⟨event, frames, hq, by cases event <;> rfl⟩

theorem get_error {q : BoundedFrameQueue} {e : Exc} (h : q.get.1 = .error e) : q.get.2 = q := by
  unfold get at h ⊢
  split at h <;> simp_all

theorem Inv.get {q : BoundedFrameQueue} (h : q.Inv) : q.get.2.Inv := by
  obtain ⟨h1, h2, h3, h4, h5, h6, h7, h8⟩ := h
  unfold BoundedFrameQueue.get
  split
  · exact ⟨h1, h2, h3, h4, h5, h6, h7, h8⟩
  · next frame event frames hq =>
    rw [hq, lane_cons] at h1 h2 h3 h4
    cases event
    all_goals
      simp only [bytes_cons, List.length_cons, if_true, if_false, Bool.true_eq_false,
        Bool.false_eq_true] at h1 h2 h3 h4 ⊢
      constructor <;> simp only <;> omega

/-- A queue without its events. -/
def controlsOnly (q : BoundedFrameQueue) : BoundedFrameQueue :=
  { q with frames := lane false q.frames, events := 0, eventBytes := 0 }

/-- A control is admitted or refused as if no event were pending. -/
theorem put_control (q : BoundedFrameQueue) (frame : List UInt8) :
    (q.put frame false).1 = (q.controlsOnly.put frame false).1 := by
  unfold put controlsOnly
  cases checkFrame frame false with
  | error e => rfl
  | ok u =>
    by_cases hclosed : q.closed = true
    · simp [hclosed]
    · simp [hclosed]
      split
      · rfl
      · rfl

end BoundedFrameQueue

/-! ## Frames and envelopes -/

/-- The frame decodes to a message of the session with the given transport sequence. -/
structure Delivers (n : ℕ) (s : Session) (sequence : ℕ) (frame : List UInt8) (message : PyDict) :
    Prop where
  decodes : ∃ body : List UInt8, frame = packLength body.length ++ body ∧ decode n body = .ok message
  headers : headers message = .ok ()
  request : message.str? "request_id" = some s.requestId
  worker : message.str? "worker_id" = some s.workerId
  sequence : message.int? "transport_sequence" = some (sequence : ℤ)

theorem int?_readBack (d : PyDict) (key : PyStr) : PyDict.int? (readBack d) key = d.int? key := by
  rw [PyDict.int?, get?_readBack, PyDict.int?]
  cases d.get? key with
  | none => rfl
  | some v => cases v <;> rfl

theorem str?_readBack (d : PyDict) (key : PyStr) : PyDict.str? (readBack d) key = d.str? key := by
  rw [PyDict.str?, get?_readBack, PyDict.str?]
  cases d.get? key with
  | none => rfl
  | some v => cases v <;> rfl

theorem headers_readBack (d : PyDict) : headers (readBack d) = headers d := by
  simp only [headers, checkNonce, checkCounter, int?_readBack, str?_readBack, get?_readBack,
    Option.isSome_map]

/-- A message that passes the check of `emit` has no envelope field. -/
theorem checkMessage_eq_ok {v : PyVal} {m : PyDict} (h : Session.checkMessage v = .ok m) :
    v = .dict m ∧ ∀ key ∈ metadata, m.get? key = none := by
  unfold Session.checkMessage at h
  split at h
  · next kvs =>
    split at h
    · cases h
    · next hany =>
      obtain rfl := Except.ok.inj h
      refine ⟨rfl, fun key hkey => ?_⟩
      by_contra hne
      exact hany (List.any_eq_true.mpr ⟨key, hkey, Option.isSome_iff_ne_none.mpr hne⟩)
  · cases h

/-- The envelope of such a message is the message and the fields behind it. -/
theorem envelope_eq {m : PyDict} (hm : ∀ key ∈ metadata, m.get? key = none) (s : Session)
    (runIndex : ℤ) : s.envelope m runIndex = m ++ s.envelopeFields runIndex := by
  have hkeys : (s.envelopeFields runIndex).keys = metadata := rfl
  refine PyDict.update_of_disjoint (by rw [hkeys]; decide) fun key hkey => ?_
  exact PyDict.get?_eq_none.mp (hm key hkey)

/-- Inside an envelope a field of the session has the session's value. -/
theorem get?_envelope {m : PyDict} (hm : ∀ key ∈ metadata, m.get? key = none) (s : Session)
    (runIndex : ℤ) {key : PyStr} (hkey : key ∈ metadata) :
    PyDict.get? (s.envelope m runIndex) key = (s.envelopeFields runIndex).get? key := by
  rw [envelope_eq hm, PyDict.get?_append, hm key hkey, Option.none_or]

/-- A message that passes `_headers` has a string as its type. -/
theorem typeHashable_of_headers {d : PyDict} (h : headers d = .ok ()) : typeHashable d = true := by
  have hstr : ∃ s, d.str? "type" = some s := by
    by_contra hnone
    rw [not_exists, ← Option.eq_none_iff_forall_ne_some] at hnone
    unfold headers at h
    simp only [hnone, Option.map_none, Option.getD_none, Bool.false_eq_true, not_false_eq_true,
      if_true, ipcError] at h
    split_ifs at h <;> simp_all [bind_eq_ok]
  obtain ⟨s, hs⟩ := hstr
  unfold PyDict.str? at hs
  unfold typeHashable
  split at hs
  · next heq => rw [heq]; rfl
  · cases hs

/-- What `emit` encodes is delivered with the next number. -/
theorem delivers_nextFrame {n : ℕ} {s : Session} {v : PyVal} (hv : v.All DistinctKeys) {m : PyDict}
    (hm : Session.checkMessage v = .ok m) {runIndex : ℤ} {frame : List UInt8}
    (h : s.nextFrame (faults n) m runIndex = .ok frame) :
    ∃ message, Delivers n s (s.outgoing + 1) frame message := by
  obtain ⟨rfl, hfree⟩ := checkMessage_eq_ok hm
  simp only [Session.nextFrame, bind_eq_ok] at h
  obtain ⟨⟨⟩, hheaders, henc⟩ := h
  have hdistinct : PyVal.All DistinctKeys (.dict (s.envelope m runIndex)) := by
    have hkeys : (s.envelopeFields runIndex).keys = metadata := rfl
    refine ⟨?_, PyVal.allPairs_iff.mpr fun kv hkv => ?_⟩
    · rw [envelope_eq hfree, DistinctKeys, PyDict.keys, List.map_append]
      refine List.nodup_append.mpr ⟨hv.1, (by decide : metadata.Nodup), ?_⟩
      rintro key hkey _ hkey' rfl
      exact PyDict.get?_eq_none.mp (hfree key hkey') hkey
    · rw [envelope_eq hfree] at hkv
      rcases List.mem_append.mp hkv with hkv | hkv
      · exact PyVal.allPairs_iff.mp hv.2 kv hkv
      · simp only [Session.envelopeFields, List.mem_cons, List.not_mem_nil, or_false] at hkv
        rcases hkv with rfl | rfl | rfl | rfl | rfl <;> exact ⟨trivial, trivial⟩
  let e : Encoded n := ⟨_, _, frame, strict_of_encodeFrame hdistinct henc, henc⟩
  obtain ⟨b, hframe, -, hdec⟩ := e.exists_body
  have hread : headers (readBack e.message) = .ok () := by rw [headers_readBack]; exact hheaders
  rw [if_pos (typeHashable_of_headers hread)] at hdec
  have hfield : ∀ key ∈ metadata, PyDict.get? (s.envelope m runIndex) key =
      (s.envelopeFields runIndex).get? key := fun _ hkey => get?_envelope hfree s runIndex hkey
  refine ⟨_, ⟨b, hframe, hdec⟩, hread, ?_, ?_, ?_⟩
  · rw [str?_readBack, PyDict.str?, hfield _ (by decide)]
    rfl
  · rw [str?_readBack, PyDict.str?, hfield _ (by decide)]
    rfl
  · rw [int?_readBack, PyDict.int?, hfield _ (by decide)]
    rfl

/-! ## Every interleaving -/

theorem Emission.behind_refused {r : Except Exc Bool} (h : r ≠ .ok true) (frame : List UInt8) :
    Emission.behind frame r = none := by
  unfold Emission.behind
  split
  · exact absurd rfl h
  · rfl

namespace Link

/-- The frames that left or will leave the queue, in order. -/
def wire (l : Link) : List (List UInt8) := l.taken ++ l.queue.frames.map Prod.fst

/-- The frames that were admitted and not yet counted. -/
def uncounted : Option Emission → ℕ
  | some (.admitted _) => 1
  | _ => 0

/-- What every interleaving keeps. -/
structure Inv (n : ℕ) (s₀ : Session) (l : Link) : Prop where
  /-- The session only counts. -/
  session : l.session = { s₀ with outgoing := l.session.outgoing }
  /-- The frames carry the sequences from 1. -/
  numbered : ∀ i frame, l.wire[i]? = some frame → ∃ message, Delivers n s₀ (i + 1) frame message
  /-- The counter lags one frame behind while the thread with the lock has admitted its frame. -/
  counted : l.wire.length = l.session.outgoing + uncounted l.lock
  /-- A frame in front of `admit` has the next number. -/
  encoded : ∀ frame event, l.lock = some (.encoded frame event) →
    ∃ message, Delivers n s₀ (l.session.outgoing + 1) frame message
  queue : l.queue.Inv

variable {n : ℕ} {s₀ : Session}

theorem Inv.start (h : s₀.outgoing = 0) : Inv n s₀ { session := s₀ } where
  session := rfl
  numbered := by simp [wire]
  counted := by simp [wire, h, uncounted]
  encoded := by simp
  queue := .empty

/-- A session that only counted delivers what the first one does. -/
theorem Inv.delivers {l : Link} (h : l.Inv n s₀) {k : ℕ} {frame : List UInt8} {message : PyDict}
    (hd : Delivers n l.session k frame message) : Delivers n s₀ k frame message := by
  rw [h.session] at hd
  exact ⟨hd.1, hd.2, hd.3, hd.4, hd.5⟩

/-- A step keeps the invariant. -/
theorem Inv.step {l : Link} (h : l.Inv n s₀) (a : LinkAction) : (l.step (faults n) a).Inv n s₀ := by
  cases a with
  | emit message distinct runIndex event =>
    rw [Link.step]
    cases hlock : l.lock with
    | some e => exact h
    | none =>
      simp only
      cases hframe : Session.checkMessage message >>= fun m =>
          l.session.nextFrame (faults n) m runIndex with
      | error e => exact h
      | ok frame =>
        obtain ⟨m, hm, hnext⟩ := bind_eq_ok.mp hframe
        obtain ⟨r, hr⟩ := delivers_nextFrame distinct hm hnext
        have hcounted := h.counted
        rw [hlock] at hcounted
        refine ⟨h.session, h.numbered, hcounted, ?_, h.queue⟩
        rintro f ev heq
        obtain ⟨rfl, rfl⟩ := Emission.encoded.inj (Option.some.inj heq)
        exact ⟨r, h.delivers hr⟩
  | put =>
    rw [Link.step]
    split
    · next frame event hlock =>
      have hcounted := h.counted
      rw [hlock] at hcounted
      have happend : (l.queue.put frame event).1 = .ok true →
          (l.queue.put frame event).2.frames = l.queue.frames ++ [(frame, event)] := by
        intro hok
        rcases l.queue.put_cases frame event with ⟨hno, -⟩ | ⟨-, -, -, -, hq⟩ | ⟨-, -, -, -, hq⟩
        · exact absurd hok hno
        · rw [hq]
        · rw [hq]
      have hlen : l.wire.length = l.session.outgoing := hcounted
      by_cases hok : (l.queue.put frame event).1 = .ok true
      · have hwire : l.taken ++ (l.queue.put frame event).2.frames.map Prod.fst =
            l.wire ++ [frame] := by simp [happend hok, wire]
        refine ⟨h.session, ?_, ?_, by simp [hok, Emission.behind], h.queue.put frame event⟩
        · intro i f hi
          rw [wire, hwire, List.getElem?_append] at hi
          split at hi
          · exact h.numbered i f hi
          · obtain ⟨r, hr⟩ := h.encoded frame event hlock
            rw [List.getElem?_singleton] at hi
            split at hi
            · obtain rfl := Option.some.inj hi
              exact ⟨r, by rwa [show i = l.session.outgoing by omega]⟩
            · cases hi
        · rw [wire, hwire, hok, List.length_append, hlen]
          rfl
      · rw [BoundedFrameQueue.put_refused hok, Emission.behind_refused hok]
        exact ⟨h.session, h.numbered, hcounted, by simp, h.queue⟩
    · exact h
  | count =>
    rw [Link.step]
    split
    · next frame hlock =>
      have hcounted := h.counted
      rw [hlock] at hcounted
      refine ⟨?_, h.numbered, hcounted, by simp, h.queue⟩
      have := h.session
      simp only [Session.advance]
      rw [this]
    · exact h
  | get =>
    rw [Link.step]
    split
    · next frame queue hget =>
      have hq : l.queue.get.2 = queue := by rw [hget]
      obtain ⟨event, frames, hfront, hrest⟩ := l.queue.get_ok (by rw [hget])
      rw [hq] at hrest
      have hwire : l.taken ++ [frame] ++ queue.frames.map Prod.fst = l.wire := by
        simp [wire, hfront, hrest]
      refine ⟨h.session, ?_, ?_, h.encoded, hq ▸ h.queue.get⟩
      · intro i f hi
        simp only [wire, hwire] at hi
        exact h.numbered i f hi
      · simp only [wire, hwire]
        exact h.counted
    · next e queue hget =>
      have hq : queue = l.queue := by
        rw [← l.queue.get_error (by rw [hget]), hget]
      rw [hq]
      exact h
  | close => exact ⟨h.session, h.numbered, h.counted, h.encoded, h.queue.close⟩

/-- A whole interleaving keeps the invariant. -/
theorem Inv.run {l : Link} (h : l.Inv n s₀) (actions : List LinkAction) :
    (l.run (faults n) actions).Inv n s₀ := by
  induction actions generalizing l with
  | nil => exact h
  | cons a actions ih => exact ih (h.step a)

end Link

/-! ## The peer -/

/-- The message bears other identities than the session's. -/
def Foreign (s : Session) (message : PyDict) : Prop :=
  message.str? "request_id" ≠ some s.requestId ∨ message.str? "worker_id" ≠ some s.workerId

/-- The messages behind the frames of a session, in the order of their sequences. -/
def Sent (n : ℕ) (s : Session) (sent : List PyDict) : Prop :=
  ∀ i message, sent[i]? = some message → ∃ frame, Delivers n s (i + 1) frame message

/-- The session after `k` accepted messages. -/
def Session.after (s : Session) (k : ℕ) : Session := { s.fresh with incoming := k }

theorem validate_foreign {s : Session} {message : PyDict} (h : Foreign s message) (k : ℕ) :
    ∃ e, (s.after k).validate message = (.error e, s.after k) := by
  unfold Session.validate
  cases headers message with
  | error e => exact ⟨e, rfl⟩
  | ok u => exact ⟨_, if_pos h⟩

/-- A message of the session is accepted exactly in its turn. -/
theorem validate_delivers {n : ℕ} {s : Session} {j : ℕ} {frame : List UInt8} {message : PyDict}
    (h : Delivers n s j frame message) (k : ℕ) :
    (s.after k).validate message =
      if j = k + 1 then (.ok (), s.after (k + 1))
      else (ipcError "Worker transport sequence is replayed, missing or out of order", s.after k) := by
  have hids : ¬ (message.str? "request_id" ≠ some (s.after k).requestId ∨
      message.str? "worker_id" ≠ some (s.after k).workerId) := by
    rw [h.request, h.worker]
    simp [Session.after, Session.fresh]
  have hseq : (message.int? "transport_sequence" ≠ some ((s.after k).incoming + 1 : ℤ)) ↔ j ≠ k + 1 := by
    rw [h.sequence, Ne, Option.some_inj]
    simp only [Session.after]
    omega
  unfold Session.validate
  simp only [h.headers, if_neg hids, hseq]
  by_cases hj : j = k + 1
  · simp [hj, Session.after]
  · simp [hj]

variable {n : ℕ} {s : Session} {sent : List PyDict}

/-- What is delivered in its turn is accepted, and nothing else is. -/
theorem validate_sent (hsent : Sent n s sent) {d : PyDict} (hd : d ∈ sent ∨ Foreign s d) (k : ℕ) :
    (sent[k]? = some d → (s.after k).validate d = (.ok (), s.after (k + 1))) ∧
      (sent[k]? ≠ some d → ∃ e, (s.after k).validate d = (.error e, s.after k)) := by
  constructor
  · intro hk
    obtain ⟨frame, hdel⟩ := hsent k d hk
    rw [validate_delivers hdel, if_pos rfl]
  · intro hk
    rcases hd with hmem | hforeign
    · obtain ⟨j, hj⟩ := List.mem_iff_getElem?.mp hmem
      obtain ⟨frame, hdel⟩ := hsent j d hj
      have hne : j + 1 ≠ k + 1 := by
        rintro heq
        obtain rfl : j = k := by omega
        exact hk hj
      rw [validate_delivers hdel, if_neg hne]
      exact ⟨_, rfl⟩
    · exact validate_foreign hforeign k

/-- Whatever is delivered, the accepted messages are the next ones of the session. -/
theorem accept_prefix (hsent : Sent n s sent) {delivered : List PyDict}
    (hd : ∀ d ∈ delivered, d ∈ sent ∨ Foreign s d) (k : ℕ) :
    ((s.after k).accept delivered).1 <+: sent.drop k ∧
      ((s.after k).accept delivered).2 = s.after (k + ((s.after k).accept delivered).1.length) ∧
      (((s.after k).accept delivered).1 = delivered ↔ delivered <+: sent.drop k) := by
  induction delivered generalizing k with
  | nil => exact ⟨List.nil_prefix, rfl, by simp [Session.accept]⟩
  | cons d delivered ih =>
    have hrest := fun e he => hd e (List.mem_cons_of_mem _ he)
    obtain ⟨hok, herr⟩ := validate_sent hsent (hd d List.mem_cons_self) k
    rw [Session.accept]
    by_cases hk : sent[k]? = some d
    · obtain ⟨ih1, ih2, ih3⟩ := ih hrest (k + 1)
      obtain ⟨hlt, hget⟩ := List.getElem?_eq_some_iff.mp hk
      have hdrop : sent.drop k = d :: sent.drop (k + 1) := by
        rw [List.drop_eq_getElem_cons hlt, hget]
      rw [hok hk, hdrop]
      simp only [List.cons_prefix_cons, true_and, List.cons.injEq, List.length_cons]
      exact ⟨ih1, by rw [ih2, Nat.add_assoc, Nat.add_comm 1], ih3⟩
    · obtain ⟨e, he⟩ := herr hk
      obtain ⟨ih1, ih2, ih3⟩ := ih hrest k
      rw [he]
      refine ⟨ih1, ih2, ?_⟩
      -- a rejected message is missing among the accepted ones, and stands at no head of the rest
      constructor
      · intro heq
        rw [heq] at ih1
        obtain ⟨t, ht⟩ := ih1
        have : (sent.drop k)[0]? = some d := by rw [← ht]; rfl
        rw [List.getElem?_drop] at this
        exact absurd this hk
      · rintro ⟨t, ht⟩
        have : (sent.drop k)[0]? = some d := by rw [← ht]; rfl
        rw [List.getElem?_drop] at this
        exact absurd this hk

/-- A call of `emit` that returns no frame changes nothing. -/
theorem Link.emit_refused {F : Faults Exc} {l : Link} {message : PyVal} {runIndex : ℤ} {event : Bool}
    (h : ∀ frame, (l.emit F message runIndex event).1 ≠ .ok (some frame)) :
    (l.emit F message runIndex event).2 = l := by
  unfold Link.emit at h ⊢
  split
  · rfl
  · next frame hframe =>
    simp only [hframe] at h
    have hq := @BoundedFrameQueue.put_refused l.queue frame event
    cases hput : l.queue.put frame event with
    | mk r queue =>
      rw [hput] at h hq
      cases r with
      | error e =>
        obtain rfl : queue = l.queue := hq (by simp)
        rfl
      | ok admitted =>
        cases admitted with
        | true => exact absurd rfl (h frame)
        | false =>
          obtain rfl : queue = l.queue := hq (by simp)
          rfl

/-- A call of `emit` is its three steps. -/
theorem Link.emit_eq_run {F : Faults Exc} {l : Link} (hl : l.lock = none) {message : PyVal}
    (distinct : message.All DistinctKeys) (runIndex : ℤ) (event : Bool) :
    l.run F [.emit message distinct runIndex event, .put, .count] =
      (l.emit F message runIndex event).2 := by
  obtain ⟨session, lock, queue, taken⟩ := l
  obtain rfl : lock = none := hl
  simp only [Link.run, List.foldl_cons, List.foldl_nil, Link.emit, Link.step]
  cases Session.checkMessage message >>= fun m => session.nextFrame F m runIndex with
  | error e => rfl
  | ok frame =>
    cases hput : queue.put frame event with
    | mk r q =>
      cases r with
      | error e => simp [hput, Emission.behind]
      | ok admitted => cases admitted <;> simp [hput, Emission.behind]

/-- The stream that a session and its queue deliver in any interleaving: numbered without gaps,
accounted for, unchanged by refused calls, and accepted by a peer in its order only. -/
theorem session_delivery (n : ℕ) (s : Session) (actions : List LinkAction) :
    let l := Link.run (faults n) { session := s.fresh } actions
    ∃ sent : List PyDict,
      (sent.length = l.wire.length ∧ ∀ i frame message, l.wire[i]? = some frame →
        sent[i]? = some message → Delivers n s (i + 1) frame message) ∧
      l.queue.Inv ∧
      (∀ frame, (l.queue.put frame false).1 = (l.queue.controlsOnly.put frame false).1) ∧
      (∀ message runIndex event,
        (∀ frame, (l.emit (faults n) message runIndex event).1 ≠ .ok (some frame)) →
          (l.emit (faults n) message runIndex event).2 = l) ∧
      (∀ message distinct runIndex event, l.lock = none →
        l.run (faults n) [.emit message distinct runIndex event, .put, .count] =
          (l.emit (faults n) message runIndex event).2) ∧
      (∀ message distinct runIndex event,
        l.step (faults n) (.emit message distinct runIndex event) =
          { l with lock := (l.step (faults n) (.emit message distinct runIndex event)).lock }) ∧
      (∀ frame event, l.lock = some (.encoded frame event) →
        (l.queue.put frame event).1 ≠ .ok true →
          l.step (faults n) .put = { l with lock := none }) ∧
      (∀ delivered : List PyDict, (∀ d ∈ delivered, d ∈ sent ∨ Foreign s d) →
        (s.fresh.accept delivered).1 <+: sent ∧
        ((s.fresh.accept delivered).1 = delivered ↔ delivered <+: sent)) ∧
      (∀ k d, k ≤ sent.length → d ∈ sent ∨ Foreign s d → sent[k]? ≠ some d →
        let peer := (s.fresh.accept (sent.take k)).2
        (∃ e, peer.validate d = (.error e, peer)) ∧
        ∀ next, sent[k]? = some next → (peer.validate next).1 = .ok ()) := by
  intro l
  have hinv : l.Inv n s.fresh := (Link.Inv.start rfl).run actions
  -- one message for each frame on the wire
  have hex : ∀ i : Fin l.wire.length, ∃ message, Delivers n s (i + 1) l.wire[i] message := by
    intro i
    obtain ⟨message, h⟩ := hinv.numbered i l.wire[i] (List.getElem?_eq_getElem i.isLt)
    exact ⟨message, h.1, h.2, h.3, h.4, h.5⟩
  choose f hf using hex
  have hsent : Sent n s (List.ofFn f) := by
    intro i message h
    obtain ⟨hlt, rfl⟩ := List.getElem?_eq_some_iff.mp h
    rw [List.length_ofFn] at hlt
    exact ⟨_, by simpa using hf ⟨i, hlt⟩⟩
  have hpeer : s.fresh = s.after 0 := rfl
  refine ⟨List.ofFn f, ⟨by simp, ?_⟩, hinv.queue, l.queue.put_control, ?_, ?_, ?_, ?_, ?_, ?_⟩
  · intro i frame message hframe hmessage
    obtain ⟨hlt, rfl⟩ := List.getElem?_eq_some_iff.mp hframe
    obtain ⟨-, rfl⟩ := List.getElem?_eq_some_iff.mp hmessage
    simpa using hf ⟨i, hlt⟩
  · exact fun message runIndex event h => Link.emit_refused h
  · exact fun message distinct runIndex event h => Link.emit_eq_run h distinct runIndex event
  · intro message distinct runIndex event
    rw [Link.step]
    split
    · rfl
    · split <;> rfl
  · intro frame event hlock hno
    rw [Link.step, hlock]
    simp only [Emission.behind_refused hno, BoundedFrameQueue.put_refused hno]
  · intro delivered hd
    obtain ⟨h1, -, h3⟩ := accept_prefix hsent hd 0
    rw [List.drop_zero] at h1 h3
    exact ⟨h1, h3⟩
  · intro k d hk hd hne
    obtain ⟨-, h2, h3⟩ := accept_prefix hsent
      (fun e he => .inl (List.mem_of_mem_take he) : ∀ e ∈ (List.ofFn f).take k, _) 0
    rw [List.drop_zero] at h3
    rw [h3.mpr (List.take_prefix k _), List.length_take, min_eq_left hk, Nat.zero_add] at h2
    have hk' : (s.fresh.accept ((List.ofFn f).take k)).2 = s.after k := h2
    simp only [hk']
    exact ⟨(validate_sent hsent hd k).2 hne, fun next hnext =>
      by rw [(validate_sent hsent (.inl (List.mem_of_getElem? hnext)) k).1 hnext]⟩

end Iperf3Lib.Ipc
