import Iperf3Lib.Concurrent.Reports
import Iperf3Lib.Ipc.Errors
import Iperf3Lib.Sequential.Reports

/-!
# The retained prefix

`_Events` copies what it is handed until it refuses an event for the first time, and only counts from
there on. What it holds is a prefix of the deliveries within the bounds that both validators measure
again, so that they accept it for every record that may keep partial events.
-/

namespace Iperf3Lib

open Py Json Ipc

namespace Events

variable {maxStrDigits : ℕ} {e : Events} {event : DeliveredEvent}

/-! ## Refusals -/

/-- What the `except` clause of the callback handles. -/
def handled (e : Exc) : Prop :=
  e.cls = .ipcError ∨ e.cls = .valueError ∨ e.cls = .typeError ∨ e.cls = .overflowError

theorem checkMetadata_error {x : Exc} (h : e.checkMetadata event = .error x) :
    x.cls = .valueError := by
  unfold checkMetadata at h
  split at h
  · exact cls_of_reject h
  · cases h
    rfl

theorem raises_standardHooks (maxStrDigits : ℕ) :
    Raises (standardHooks maxStrDigits) fun x => x.cls = .valueError where
  malformed := rfl
  constant _ _ h := by cases h
  float _ _ h := by cases h
  int n digits x h := by
    unfold standardHooks at h
    dsimp only at h
    split at h <;> cases h
    rfl
  pairs _ _ h := by cases h

theorem loadsBytes_error {b : List UInt8} {x : Exc} (h : loadsBytes maxStrDigits b = .error x) :
    x.cls = .valueError := by
  unfold loadsBytes at h
  split at h
  · exact (raises_standardHooks maxStrDigits).loads h
  · cases h
    rfl

theorem ofDict_error {v : PyVal} {x : Exc} (h : NativeEvent.ofDict v = .error x) :
    x.cls = .typeError := by
  unfold NativeEvent.ofDict at h
  split at h
  · split at h <;> cases h
    rfl
  · cases h
    rfl

/-- Every refusal is handled by the callback itself. -/
theorem retain_error {x : Exc} (h : e.retain maxStrDigits event = .error x) : handled x := by
  have hhashable : typeHashable
      (eventMessage event.kind event.data event.sequence event.receivedAtSeconds) = true := rfl
  have hlimit : (0 : ℤ) < maxPartialEventBytes ∧ (maxPartialEventBytes : ℤ) ≤ maxFrameBytes := by
    decide
  unfold retain at h
  rcases bind_eq_error.mp h with hmeta | ⟨_, -, h⟩
  · exact .inr (.inl (checkMetadata_error hmeta))
  rcases bind_eq_error.mp h with hframe | ⟨frame, -, h⟩
  · exact .inl ((raisesIpc_encodeFrame_iff _ hlimit).mpr hhashable x hframe)
  rcases bind_eq_error.mp h with hsize | ⟨_, -, h⟩
  · exact .inr (.inl (cls_of_reject hsize))
  rcases bind_eq_error.mp h with hloads | ⟨decoded, -, h⟩
  · exact .inr (.inl (loadsBytes_error hloads))
  rcases bind_eq_error.mp h with hnative | ⟨native, -, h⟩
  · exact .inr (.inr (.inl (ofDict_error hnative)))
  · cases h

/-! ## The prefix -/

/-- What is held is a copy of the first deliveries, and of all of them while none was refused. -/
structure Prefix (given : List DeliveredEvent) (e : Events) : Prop where
  observed : e.observed = given.length
  length_le : e.events.length ≤ given.length
  copies : List.Forall₂ NativeEvent.CopyOf e.events (given.take e.events.length)
  all : e.closed = false → e.events.length = given.length

theorem Prefix.empty : Prefix [] {} := ⟨rfl, le_rfl, .nil, fun _ => rfl⟩

/-- A refused delivery leaves what is held and closes the callback. -/
theorem call_refused (h : (e.call maxStrDigits event).events = e.events) :
    (e.call maxStrDigits event).closed = true := by
  unfold call at h ⊢
  dsimp only at h ⊢
  split
  · rfl
  · next hopen =>
    rw [if_neg hopen] at h
    split
    · next native size hretain =>
      rw [hretain] at h
      exact absurd (congrArg List.length h) (by simp)
    · rfl

/-- Behind a refusal nothing is retained. -/
theorem call_closed (h : e.closed = true) (event : DeliveredEvent) :
    e.call maxStrDigits event = { e with observed := e.observed + 1 } := by
  unfold call
  dsimp only
  rw [if_pos (.inl h), h]

theorem deliver_closed (h : e.closed = true) (events : List DeliveredEvent) :
    (e.deliver maxStrDigits events).events = e.events := by
  induction events generalizing e with
  | nil => rfl
  | cons event events ih =>
    show ((e.call maxStrDigits event).deliver maxStrDigits events).events = e.events
    have hcall : e.call maxStrDigits event = { e with observed := e.observed + 1 } :=
      call_closed h event
    rw [ih (by rw [hcall]; exact h), hcall]

/-- One delivery extends the prefix or ends it. -/
theorem Prefix.call {given : List DeliveredEvent} (h : Prefix given e) (event : DeliveredEvent) :
    Prefix (given ++ [event]) (e.call maxStrDigits event) := by
  have hlength : (given ++ [event]).length = given.length + 1 := by simp
  have hobserved := h.observed
  have hle := h.length_le
  have hkept : Prefix (given ++ [event]) { e with observed := e.observed + 1, closed := true } := by
    refine ⟨by simp [hobserved], by rw [hlength]; exact Nat.le_succ_of_le hle, ?_, nofun⟩
    rw [List.take_append_of_le_length hle]
    exact h.copies
  unfold Events.call
  dsimp only
  split
  · exact hkept
  next hopen =>
  split
  case h_2 => exact hkept
  next native size hretain =>
  obtain ⟨hcopy, -⟩ := retain_eq_ok hretain
  -- nothing was refused so far, so that everything delivered before is held
  have hall : e.events.length = given.length := h.all (by
    rw [not_or] at hopen
    simpa using hopen.1)
  have hcopies := h.copies
  rw [hall, List.take_length] at hcopies
  refine ⟨by simp [hobserved], by simp [hall], ?_, fun _ => by simp [hall]⟩
  have htake : (given ++ [event]).take (e.events ++ [native]).length = given ++ [event] := by
    rw [List.take_of_length_le]
    simp [hall]
  rw [htake]
  exact List.rel_append hcopies (.cons hcopy .nil)

theorem Prefix.deliver {given : List DeliveredEvent} (h : Prefix given e)
    (events : List DeliveredEvent) :
    Prefix (given ++ events) (e.deliver maxStrDigits events) := by
  induction events generalizing e given with
  | nil =>
    rw [List.append_nil]
    exact h
  | cons event events ih =>
    have hnext : Prefix _ ((e.call maxStrDigits event).deliver maxStrDigits events) := ih (h.call event)
    rwa [List.append_assoc, List.singleton_append] at hnext

end Events

/-! ## Acceptance -/

variable {A : Type} {maxStrDigits : ℕ} {e : Events}

/-- The validator of owned plans accepts what a callback holds. -/
theorem AsyncTrials.validateEvents_of_inv (h : e.Inv maxStrDigits)
    {record : AsyncTrials.PlanTrialRecord A} (hstatus : record.status.isPartial = true)
    (hevents : record.partialEvents = e.events) (hobserved : record.eventsObserved = e.observed)
    (hdropped : record.eventsDropped = e.observed - e.events.length) (path : String) :
    AsyncTrials.validateEvents maxStrDigits record path = .ok () := by
  obtain ⟨frames, hframes, hbytes⟩ := h.frames
  have hsum := sumFrames_ok path hframes 0 0 0 h.ascending h.valid
  have hcount := h.observed
  have hle := h.bytes_le
  simp only [AsyncTrials.validateEvents, hstatus, hevents, hobserved, hdropped,
    failIf_eq_ok, Bool.true_eq_false, if_false, bind_eq_ok, exists_unit, hsum, Except.ok.injEq,
    exists_eq_left']
  refine ⟨by omega, by omega, not_lt.mpr h.length_le, ?_⟩
  rw [Nat.zero_add, ← hbytes]
  exact not_lt.mpr hle

/-- The validator of concurrent plans accepts what a callback holds. -/
theorem validateEvents_of_inv (h : e.Inv maxStrDigits)
    {record : TrialRecord A} (hstatus : record.status.isPartial = true)
    (hevents : record.partialEvents = e.events) (hobserved : record.eventsObserved = e.observed)
    (hdropped : record.eventsDropped = e.observed - e.events.length) (path : String) :
    validateEvents maxStrDigits record path = .ok () := by
  obtain ⟨frames, hframes, hbytes⟩ := h.frames
  have hsum := sumFrames_ok path hframes 0 0 0 h.ascending h.valid
  have hcount := h.observed
  have hle := h.bytes_le
  simp only [validateEvents, hstatus, hevents, hobserved, hdropped,
    failIf_eq_ok, Bool.true_eq_false, if_false, bind_eq_ok, exists_unit, hsum, Except.ok.injEq,
    exists_eq_left']
  refine ⟨by omega, by omega, not_lt.mpr h.length_le, ?_⟩
  rw [Nat.zero_add, ← hbytes]
  exact not_lt.mpr hle

/-- Whatever is delivered, a callback holds copies of a prefix with ascending positive sequences within
its bounds, it counts every call and retains nothing behind the first refusal, and both validators
accept what it holds for every record that keeps partial events. -/
theorem retained_prefix_accepted (maxStrDigits : ℕ) (given : List DeliveredEvent) :
    let e := Events.deliver maxStrDigits {} given
    List.Forall₂ NativeEvent.CopyOf e.events (given.take e.events.length) ∧
    (e.events.map NativeEvent.sequence).Pairwise (· < ·) ∧
    (∀ event ∈ e.events, 0 < event.sequence) ∧
    e.events.length ≤ 64 ∧
    (∃ frames : List (List UInt8),
      List.Forall₂ (fun event frame => event.frame maxStrDigits = .ok frame ∧ frame.length ≤ 65536)
        e.events frames ∧
      (frames.map List.length).sum ≤ 1024 * 1024) ∧
    e.observed = given.length ∧
    (∀ before event after, given = before ++ event :: after →
      let held := Events.deliver maxStrDigits {} before
      (held.call maxStrDigits event).events = held.events → e.events = held.events) ∧
    (∀ (A : Type) (record : AsyncTrials.PlanTrialRecord A) (path : String),
      record.status.isPartial = true →
      AsyncTrials.validateEvents maxStrDigits { record with
        partialEvents := e.events
        eventsObserved := e.observed
        eventsDropped := e.observed - e.events.length } path = .ok ()) ∧
    (∀ (A : Type) (record : TrialRecord A) (path : String),
      record.status.isPartial = true →
      validateEvents maxStrDigits { record with
        partialEvents := e.events
        eventsObserved := e.observed
        eventsDropped := e.observed - e.events.length } path = .ok ()) := by
  intro e
  have hinv : e.Inv maxStrDigits := Events.Inv.empty.deliver given
  have hpre : e.Prefix given := by
    have hrun : Events.Prefix ([] ++ given) e := Events.Prefix.empty.deliver given
    rwa [List.nil_append] at hrun
  obtain ⟨frames, hframes, hbytes⟩ := hinv.frames
  refine ⟨hpre.copies, hinv.ascending, fun event h => (hinv.valid event h).2, hinv.length_le,
    ⟨frames, hframes, hbytes ▸ hinv.bytes_le⟩, hpre.observed, ?_, ?_, ?_⟩
  · intro before event after hgiven held hrefused
    have hclosed := Events.call_refused hrefused
    have hsplit : e = (held.call maxStrDigits event).deliver maxStrDigits after := by
      show Events.deliver maxStrDigits {} given = _
      rw [hgiven, Events.deliver, List.foldl_append, List.foldl_cons]
      rfl
    rw [hsplit, Events.deliver_closed hclosed, hrefused]
  · intro A record path hstatus
    refine AsyncTrials.validateEvents_of_inv hinv ?_ rfl rfl rfl path
    exact hstatus
  · intro A record path hstatus
    refine validateEvents_of_inv hinv ?_ rfl rfl rfl path
    exact hstatus

end Iperf3Lib
