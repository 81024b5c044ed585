import Iperf3Lib.Ipc.Accept
import Iperf3Lib.Ipc.Frames
import Iperf3Lib.Py.Json.Loaded

/-!
# What the transport raises

Malformed frames are meant to fail as `IPCError` only. The decoder translates what its parser raises,
but asks whether the `type` of a message is in a set before it has looked at its type: a list or an
object there has no hash, and the `TypeError` passes the `except` clause. The encoder asks the same
question outside of any `try` statement. Nothing else escapes.
-/

namespace Iperf3Lib.Ipc

open Py Json Incremental

variable {n : ℕ}

/-! ## One body -/

/-- The body is the text of an object whose `type` is a list or an object. -/
def Unhashable (maxStrDigits : ℕ) (body : List UInt8) : Prop :=
  ∃ text message, PyStr.utf8Decode body = some text ∧
    loads (decodeHooks maxStrDigits) text = .ok (.dict message) ∧ typeHashable message = false

/-- Whether the text is that of an object whose `type` cannot be hashed. -/
def unhashableText (maxStrDigits : ℕ) (text : PyStr) : Bool :=
  match loads (decodeHooks maxStrDigits) text with
  | .ok (.dict message) => !typeHashable message
  | _ => false

theorem unhashable_iff {body : List UInt8} :
    Unhashable n body ↔ (PyStr.utf8Decode body).any (unhashableText n) = true := by
  rw [Option.any_eq_true]
  constructor
  · rintro ⟨text, message, htext, hloads, htype⟩
    refine ⟨text, htext, ?_⟩
    rw [unhashableText, hloads]
    simp [htype]
  · rintro ⟨text, htext, h⟩
    rw [unhashableText] at h
    split at h
    · next message hloads => exact ⟨text, message, htext, hloads, by simpa using h⟩
    · cases h

instance (maxStrDigits : ℕ) (body : List UInt8) : Decidable (Unhashable maxStrDigits body) :=
  decidable_of_iff _ unhashable_iff.symm

/-- A call of a `FrameDecoder`. -/
inductive DecoderCall where
  | feed (data : List UInt8)
  | feedSized (data : List UInt8)
  | eof

/-- The exception of a call, absent where it returns. -/
def raised {α : Type} : Except Exc α → Option Exc
  | .ok _ => none
  | .error e => some e

namespace FrameDecoder

/-- `feed`. -/
def feed (maxStrDigits : ℕ) (d : FrameDecoder) (data : List UInt8) :
    Except Exc (List PyDict) × FrameDecoder :=
  ((d.feedSized maxStrDigits data).1.map fun completed => completed.map Prod.fst,
    (d.feedSized maxStrDigits data).2)

/-- One call: its exception, and the decoder behind it. -/
def call (maxStrDigits : ℕ) (d : FrameDecoder) : DecoderCall → Option Exc × FrameDecoder
  | .feed data => (raised (d.feed maxStrDigits data).1, (d.feed maxStrDigits data).2)
  | .feedSized data => (raised (d.feedSized maxStrDigits data).1, (d.feedSized maxStrDigits data).2)
  | .eof => (raised d.eof.1, d.eof.2)

/-- The exceptions of calls one after another, whatever they raise. -/
def calls (maxStrDigits : ℕ) : FrameDecoder → List DecoderCall → List (Option Exc)
  | _, [] => []
  | d, c :: cs => (d.call maxStrDigits c).1 :: calls maxStrDigits (d.call maxStrDigits c).2 cs

end FrameDecoder

/-- Every call returns or raises `IPCError`, and behind a call that failed every call raises. -/
structure WellBehaved (outcomes : List (Option Exc)) : Prop where
  ipc : ∀ e, some e ∈ outcomes → e.cls = .ipcError
  failed : ∀ (i : ℕ) (e : Exc), outcomes[i]? = some (some e) → ∀ j, i < j → outcomes[j]? ≠ some none

theorem WellBehaved.nil : WellBehaved [] := ⟨by simp, by simp⟩

namespace FrameDecoder

/-- A chunk for a closed decoder is refused, and the decoder stays as it is. -/
theorem call_closed {d : FrameDecoder} (hd : d.ended = true) {c : DecoderCall} (hc : c ≠ .eof) :
    (∃ e, (d.call n c).1 = some e ∧ e.cls = .ipcError) ∧ (d.call n c).2 = d := by
  cases c with
  | feed data => simp [call, feed, feedSized, hd, ipcError, Except.map, raised]
  | feedSized data => simp [call, feedSized, hd, ipcError, raised]
  | eof => exact absurd rfl hc

end FrameDecoder

/-! ## Reads of a stream -/

/-- A message with admissible limits is framed or refused with an `IPCError` exactly when its type can
be hashed. -/
theorem raisesIpc_encodeFrame_iff {F : Faults Exc} (kvs : PyDict) {maxBytes : ℤ}
    (hmax : 0 < maxBytes ∧ maxBytes ≤ maxFrameBytes) :
    RaisesIpc (encodeFrame F (.dict kvs) maxBytes) ↔ typeHashable kvs = true := by
  unfold encodeFrame
  dsimp only
  rw [if_neg (not_not.mpr hmax), isEvent_eq]
  by_cases htype : typeHashable kvs = true
  · rw [if_pos htype]
    refine iff_of_true ?_ htype
    refine (RaisesIpc.ok _).bind fun _ => RaisesIpc.bind ?_ fun _ =>
      (raisesIpc_joinChunks _ _ _).bind fun _ => .ok _
    exact (raisesIpc_visit _ _ _ _).bind fun _ => .ok _
  · rw [if_neg htype]
    refine iff_of_false (fun h => ?_) htype
    cases h _ rfl

end Iperf3Lib.Ipc
