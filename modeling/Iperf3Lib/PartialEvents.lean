import Iperf3Lib.Ipc.Accept
import Iperf3Lib.Py.Num

/-!
# Partial events

The events that a trial delivered before it ended without a final artifact: a bounded prefix, copied
through the frame codec. What is retained encodes to frames of the very sizes that were counted, so
that a reader can check the bounds again.
-/

namespace Iperf3Lib

open Py Json Ipc

/-- The hooks of `json.loads` without arguments. -/
def standardHooks (maxStrDigits : ℕ) : Hooks Exc where
  malformed := ⟨.valueError, "JSONDecodeError"⟩
  constant c := .ok (.float (if c = "NaN" then .nan else .inf (c = "-Infinity")))
  float x := .ok (.float x)
  int n digits :=
    if digits ≤ maxStrDigits then .ok (.int n)
    else .error ⟨.valueError, "Exceeds the limit for integer string conversion"⟩
  pairs kvs := .ok (.dict (PyDict.update [] kvs))

theorem accepts_standardHooks (maxStrDigits : ℕ) :
    Accepts (standardHooks maxStrDigits) (faults maxStrDigits) where
  int _ _ h := if_pos h
  float _ := rfl
  pairs kvs hd := by
    have := @PyDict.update_of_disjoint [] kvs hd (by simp [PyDict.keys])
    simp only [standardHooks, this, List.nil_append]

/-- `json.loads(b)` of UTF-8 bytes. -/
def loadsBytes (maxStrDigits : ℕ) (b : List UInt8) : Except Exc PyVal :=
  match PyStr.utf8Decode b with
  | some text => loads (standardHooks maxStrDigits) text
  | none => valueError "invalid utf-8"

/-- A number. -/
def Py.PyVal.num? : PyVal → Option PyNum
  | .int n => some (.int n)
  | .float x => some (.float x)
  | _ => Option.none

/-- The number as a value. -/
def Py.PyNum.toVal : PyNum → PyVal
  | .int n => .int n
  | .float x => .float x

@[simp] theorem Py.PyNum.asJson_toVal (x : PyNum) : x.toVal.asJson = x.toVal := by
  cases x <;> simp [PyNum.toVal, PyVal.asJson]

@[simp] theorem Py.PyNum.num?_toVal (x : PyNum) : x.toVal.num? = some x := by cases x <;> rfl

theorem Py.PyVal.num?_eq_some {v : PyVal} {x : PyNum} : v.num? = some x ↔ v = x.toVal := by
  cases v <;> cases x <;> simp [PyVal.num?, PyNum.toVal]

/-! ## Events -/

/-- The members of an event, as they are encoded. -/
def eventMessage (kind data sequence received : PyVal) : PyDict :=
  [("kind", kind), ("data", data), ("sequence", sequence), ("received_at_seconds", received)]

theorem keys_eventMessage (kind data sequence received : PyVal) :
    (eventMessage kind data sequence received).keys =
      ["kind", "data", "sequence", "received_at_seconds"] := rfl

/-- An event as the callback receives it. -/
structure DeliveredEvent where
  kind : PyVal
  data : PyVal
  sequence : PyVal
  receivedAtSeconds : PyVal
  distinct : data.All DistinctKeys

/-- A retained `NativeEvent`. -/
structure NativeEvent where
  kind : PyStr
  data : PyVal
  sequence : ℤ
  receivedAtSeconds : PyNum

namespace NativeEvent

/-- The members of the event. -/
def message (event : NativeEvent) : PyDict :=
  eventMessage (.str event.kind) event.data (.int event.sequence) event.receivedAtSeconds.toVal

/-- `encode_frame(message, max_bytes=65536)`. -/
def frame (maxStrDigits : ℕ) (event : NativeEvent) : Except Exc (List UInt8) :=
  encodeFrame (faults maxStrDigits) (.dict event.message) 65536

/-- `NativeEvent(**data)`, of members with their types. -/
def ofDict : PyVal → Except Exc NativeEvent
  | .dict d =>
    match PyDict.str? d "kind", PyDict.get? d "data", PyDict.int? d "sequence",
      (PyDict.get? d "received_at_seconds").bind PyVal.num? with
    | some kind, some data, some sequence, some received => .ok ⟨kind, data, sequence, received⟩
    | _, _, _, _ => typeError "unexpected keyword arguments"
  | _ => typeError "argument after ** must be a mapping"

/-- The retained event is the JSON copy of a delivered one. -/
structure CopyOf (native : NativeEvent) (event : DeliveredEvent) : Prop where
  kind : event.kind = .str native.kind
  data : native.data = event.data.asJson
  sequence : event.sequence = .int native.sequence
  received : event.receivedAtSeconds = native.receivedAtSeconds.toVal

end NativeEvent

/-! ## Retention -/

def maxPartialEvents : ℕ := 64
def maxPartialEventBytes : ℕ := 65536
def maxPartialBytes : ℕ := 1024 * 1024

/-- The state of an `_Events` callback. -/
structure Events where
  events : List NativeEvent := []
  observed : ℕ := 0
  bytes : ℕ := 0
  closed : Bool := false

namespace Events

/-- The check of the metadata of an event. -/
def checkMetadata (e : Events) (event : DeliveredEvent) : Except Exc Unit :=
  match event.kind, event.sequence, event.receivedAtSeconds.num? with
  | .str kind, .int sequence, some received =>
    reject (kind.hasText = false ∨ sequence ≤ 0 ∨
        (∃ last ∈ e.events.getLast?, sequence ≤ last.sequence) ∨ received.isFinite = false)
      "Invalid partial event metadata"
  | _, _, _ => valueError "Invalid partial event metadata"

/-- The body of the `try` statement: the retained event and the size of its frame. -/
def retain (maxStrDigits : ℕ) (e : Events) (event : DeliveredEvent) :
    Except Exc (NativeEvent × ℕ) := do
  e.checkMetadata event
  let message := eventMessage event.kind event.data event.sequence event.receivedAtSeconds
  let frame ← encodeFrame (faults maxStrDigits) (.dict message) maxPartialEventBytes
  reject (frame.length > maxPartialEventBytes ∨ e.bytes + frame.length > maxPartialBytes)
    "Partial event retention limit reached"
  let native ← NativeEvent.ofDict (← loadsBytes maxStrDigits (frame.drop 4))
  return (native, frame.length)

/-- `__call__`. -/
def call (maxStrDigits : ℕ) (e : Events) (event : DeliveredEvent) : Events :=
  let e := { e with observed := e.observed + 1 }
  if e.closed ∨ e.events.length ≥ maxPartialEvents then { e with closed := true }
  else match e.retain maxStrDigits event with
    | .ok (native, size) => { e with events := e.events ++ [native], bytes := e.bytes + size }
    | .error _ => { e with closed := true }

/-- What every sequence of calls keeps. -/
structure Inv (maxStrDigits : ℕ) (e : Events) : Prop where
  length_le : e.events.length ≤ maxPartialEvents
  observed : e.events.length ≤ e.observed
  ascending : (e.events.map NativeEvent.sequence).Pairwise (· < ·)
  valid : ∀ event ∈ e.events, event.kind.hasText = true ∧ 0 < event.sequence
  frames : ∃ frames : List (List UInt8),
    List.Forall₂ (fun event frame => event.frame maxStrDigits = .ok frame ∧
      frame.length ≤ maxPartialEventBytes) e.events frames ∧
    e.bytes = (frames.map List.length).sum
  bytes_le : e.bytes ≤ maxPartialBytes

end Events

/-! ## The retained copy -/

/-- Encoding what the codec read back gives the same frame. -/
theorem encodeFrame_readBack {maxStrDigits : ℕ} {kvs : PyDict} (hd : (PyVal.dict kvs).All DistinctKeys)
    (htype : kvs.get? "type" = none) {maxBytes : ℤ} {frame : List UInt8}
    (h : encodeFrame (faults maxStrDigits) (.dict kvs) maxBytes = .ok frame) :
    encodeFrame (faults maxStrDigits) (.dict (readBack kvs)) maxBytes = .ok frame ∧
      loadsBytes maxStrDigits (frame.drop 4) = .ok (.dict (readBack kvs)) := by
  have hmax : 0 < maxBytes ∧ maxBytes ≤ maxFrameBytes := by
    by_contra hmax
    simp [encodeFrame, hmax, bind, Except.bind] at h
  have hs := strict_of_encodeFrame hd h
  obtain ⟨t, b, henc⟩ := encodes_of_strict hs.nodes
  obtain ⟨-, hlen, rfl⟩ := (encodeFrame_eq_ok hs hmax henc.jsonBody).mp h
  have hback : Strict (faults maxStrDigits) (.dict (readBack kvs)) := by
    have hnodes := all_asJson hs.nodes
    have hheight := height_asJson (.dict kvs)
    rw [PyVal.asJson] at hnodes hheight
    exact ⟨hnodes, hheight.trans_le hs.depth⟩
  have hbody : jsonBody (faults maxStrDigits) (.dict (readBack kvs)) = some b := by
    have hdump := dump_asJson (F := faults maxStrDigits) .compact (.dict kvs) 0
    rw [PyVal.asJson] at hdump
    rw [jsonBody, hdump]
    exact henc.jsonBody
  have htype' : PyDict.get? (readBack kvs) "type" = none := by
    rw [get?_readBack, htype]
    rfl
  constructor
  · refine (encodeFrame_eq_ok hback hmax hbody).mpr ⟨by rw [typeHashable, htype'], ?_, rfl⟩
    rwa [bodyLimit, ofEventType_readBack, ← bodyLimit]
  · have hread := reads_dump (accepts_standardHooks maxStrDigits) (all_faithful hs.nodes)
      (henc.dump 0)
    have hloads := loads_of_reads hread Ws.nil
    rw [List.append_nil] at hloads
    have hdrop : (packLength b.length ++ b).drop 4 = b := rfl
    rw [loadsBytes, hdrop, PyStr.utf8Decode_utf8Encode henc.utf8]
    exact hloads

namespace Events

variable {maxStrDigits : ℕ} {e : Events} {event : DeliveredEvent}

/-- What `retain` returns is the event with its data read back, and its frame has the counted size. -/
theorem retain_eq_ok {native : NativeEvent} {size : ℕ}
    (h : e.retain maxStrDigits event = .ok (native, size)) :
    native.CopyOf event ∧ (native.kind.hasText = true ∧ 0 < native.sequence) ∧
      (∀ last ∈ e.events.getLast?, last.sequence < native.sequence) ∧
      (∃ frame, native.frame maxStrDigits = .ok frame ∧ frame.length = size) ∧
      size ≤ maxPartialEventBytes ∧ e.bytes + size ≤ maxPartialBytes := by
  simp only [retain, bind_eq_ok, exists_unit, reject_eq_ok, not_or, not_lt, pure, Except.pure,
    Except.ok.injEq, Prod.mk.injEq] at h
  obtain ⟨hmeta, frame, hframe, hsize, decoded, hdecoded, native', hnative, rfl, rfl⟩ := h
  unfold checkMetadata at hmeta
  split at hmeta
  case h_2 => cases hmeta
  next kind sequence received hkind hsequence hreceived =>
  rw [PyVal.num?_eq_some] at hreceived
  rw [reject_eq_ok, not_or, not_or, not_or] at hmeta
  obtain ⟨hkind', hpositive, hlast, -⟩ := hmeta
  rw [hkind, hsequence, hreceived] at hframe
  have hdistinct : (PyVal.dict (eventMessage (.str kind) event.data (.int sequence)
      received.toVal)).All DistinctKeys := by
    refine ⟨by rw [DistinctKeys, keys_eventMessage]; decide, PyVal.allPairs_iff.mpr ?_⟩
    have := event.distinct
    cases received <;> simpa [eventMessage, PyVal.All, PyNum.toVal, DistinctKeys] using this
  have htype : PyDict.get? (eventMessage (.str kind) event.data (.int sequence) received.toVal)
      "type" = none := by
    rw [PyDict.get?_eq_none, keys_eventMessage]
    decide
  obtain ⟨hagain, hloads⟩ := encodeFrame_readBack hdistinct htype hframe
  obtain rfl := Except.ok.inj (hloads.symm.trans hdecoded)
  have hretained : native' = ⟨kind, event.data.asJson, sequence, received⟩ := by
    simpa [NativeEvent.ofDict, readBack, eventMessage, PyVal.asJsonPairs, PyVal.asJson, PyDict.str?,
      PyDict.int?, PyDict.get?, eq_comm] using hnative
  subst hretained
  refine ⟨⟨hkind, rfl, hsequence, hreceived⟩, ⟨by simpa using hkind', by simpa using hpositive⟩, ?_,
    ⟨frame, ?_, rfl⟩, hsize.1, hsize.2⟩
  · intro last hmem
    by_contra hle
    exact hlast ⟨last, hmem, by simpa using hle⟩
  · simpa [NativeEvent.frame, NativeEvent.message, readBack, eventMessage, PyVal.asJsonPairs,
      PyVal.asJson, maxPartialEventBytes] using hagain

theorem Inv.empty : Inv maxStrDigits {} :=
  ⟨by decide, le_rfl, .nil, by simp, ⟨[], .nil, rfl⟩, by decide⟩

/-- One delivery keeps the bounds. -/
theorem Inv.call (h : e.Inv maxStrDigits) (event : DeliveredEvent) :
    (e.call maxStrDigits event).Inv maxStrDigits := by
  unfold Events.call
  dsimp only
  split
  · exact ⟨h.length_le, by have := h.observed; dsimp only; omega, h.ascending, h.valid, h.frames,
      h.bytes_le⟩
  next hopen =>
  split
  case h_2 =>
    exact ⟨h.length_le, by have := h.observed; dsimp only; omega, h.ascending, h.valid, h.frames,
      h.bytes_le⟩
  next native size hretain =>
  obtain ⟨-, hvalid, hlast, ⟨frame, hframe, hlength⟩, hsize, hbytes⟩ := retain_eq_ok hretain
  obtain ⟨frames, hframes, hsum⟩ := h.frames
  have := h.observed
  have hlt : e.events.length < maxPartialEvents := by
    simp only [not_or, ge_iff_le, not_le] at hopen
    exact hopen.2
  refine ⟨by simpa using Nat.succ_le_of_lt hlt, by simpa using this, ?_, ?_, ?_, hbytes⟩
  · rw [List.map_append, List.map_cons, List.map_nil, List.pairwise_append]
    refine ⟨h.ascending, List.pairwise_singleton _ _, fun sequence hmem other hother => ?_⟩
    -- the last retained event has the greatest sequence
    obtain rfl := List.mem_singleton.mp hother
    obtain ⟨event', hmem', rfl⟩ := List.mem_map.mp hmem
    have hne : e.events ≠ [] := List.ne_nil_of_mem hmem'
    have hgreatest := hlast _ (List.getLast_mem_getLast? hne)
    refine lt_of_le_of_lt ?_ hgreatest
    have hsplit := List.dropLast_append_getLast hne
    have hasc := h.ascending
    rw [← hsplit] at hasc hmem'
    rw [List.map_append, List.pairwise_append] at hasc
    rcases List.mem_append.mp hmem' with hinit | heq
    · exact (hasc.2.2 _ (List.mem_map_of_mem hinit) _ (by simp)).le
    · rw [List.mem_singleton.mp heq]
  · intro event' hmem
    rcases List.mem_append.mp hmem with hold | hnew
    · exact h.valid event' hold
    · rw [List.mem_singleton.mp hnew]
      exact hvalid
  · refine ⟨frames ++ [frame], List.rel_append hframes (.cons ⟨hframe, by omega⟩ .nil), ?_⟩
    simp [hsum, hlength]

/-- The events delivered so far. -/
def deliver (maxStrDigits : ℕ) (e : Events) (events : List DeliveredEvent) : Events :=
  events.foldl (call maxStrDigits) e

theorem Inv.deliver (h : e.Inv maxStrDigits) (events : List DeliveredEvent) :
    (e.deliver maxStrDigits events).Inv maxStrDigits := by
  induction events generalizing e with
  | nil => exact h
  | cons event events ih => exact ih (h.call event)

end Events

end Iperf3Lib
