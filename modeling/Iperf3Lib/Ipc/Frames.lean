import Iperf3Lib.General.Incremental
import Iperf3Lib.Ipc.Encode

/-!
# Frames on a stream

`FrameDecoder` takes the bytes of a descriptor as they come, `readFrame` asks a blocking stream for
exactly the bytes it needs. `push` is the same decoder one byte at a time; the chunked one
implements it, so the frames it returns do not depend on the chunks.
-/

namespace Iperf3Lib.Ipc

open Py

def headerSize : ℕ := 4

/-- The bytes of an incomplete frame: `_length is None` while its header is collected. -/
inductive Assembly where
  | header (bytes : List UInt8) (short : bytes.length < headerSize)
  | body (length : ℕ) (bytes : List UInt8) (short : bytes.length < length)

/-- Between two frames. -/
def Assembly.idle : Assembly := .header [] (by decide)

/-- The frames a call returns, with their wire sizes. -/
abbrev Sized := List (PyDict × ℕ)

/-- The loop of `feed_sized`. -/
def feedLoop (maxStrDigits : ℕ) (completed : Sized) (asm : Assembly) (incoming : List UInt8) :
    Except Exc (Sized × Assembly) :=
  if _ : incoming = [] then .ok (completed, asm) else
  match asm with
  | .header bytes _ =>
    let size := min (headerSize - bytes.length) incoming.length
    if h : (bytes ++ incoming.take size).length < headerSize then
      feedLoop maxStrDigits completed (.header (bytes ++ incoming.take size) h) (incoming.drop size)
    else
      let length := unpackLength (bytes ++ incoming.take size)
      if hl : 0 < length ∧ length ≤ maxFrameBytes then
        feedLoop maxStrDigits completed (.body length [] hl.1) (incoming.drop size)
      else ipcError "Worker frame advertises an invalid byte length"
  | .body length bytes _ =>
    let size := min (length - bytes.length) incoming.length
    if h : (bytes ++ incoming.take size).length < length then
      feedLoop maxStrDigits completed (.body length (bytes ++ incoming.take size) h)
        (incoming.drop size)
    else
      match decode maxStrDigits (bytes ++ incoming.take size) with
      | .error e => .error e
      | .ok message =>
        feedLoop maxStrDigits (completed ++ [(message, length + headerSize)]) .idle
          (incoming.drop size)
termination_by incoming.length
decreasing_by
  all_goals
    have hpos := List.length_pos_iff.mpr ‹incoming ≠ []›
    rw [List.length_drop]
    omega

/-- A `FrameDecoder`. -/
structure FrameDecoder where
  assembly : Assembly := .idle
  ended : Bool := false
  failed : Bool := false

namespace FrameDecoder

/-- `feed_sized`, with the decoder it leaves. -/
def feedSized (maxStrDigits : ℕ) (d : FrameDecoder) (data : List UInt8) :
    Except Exc Sized × FrameDecoder :=
  if d.ended || d.failed then (ipcError "Worker frame decoder is already closed or failed", d)
  else
    match feedLoop maxStrDigits [] d.assembly data with
    | .ok (completed, asm) => (.ok completed, { d with assembly := asm })
    | .error e => (.error e, { d with failed := true })

/-- `eof`. -/
def eof (d : FrameDecoder) : Except Exc Unit × FrameDecoder :=
  if d.failed then (ipcError "Worker frame decoder failed before EOF", d)
  else
    match d.assembly with
    | .header [] _ => (.ok (), { d with ended := true })
    | _ =>
      (ipcError "Worker stream ended with a truncated frame", { d with ended := true, failed := true })

/-- A chunk fed to a decoder: the frames and the decoder after it, or the exception. -/
def feedChunk (maxStrDigits : ℕ) (d : FrameDecoder) (data : List UInt8) :
    Except Exc (Sized × FrameDecoder) :=
  (d.feedSized maxStrDigits data).1.map fun frames => (frames, (d.feedSized maxStrDigits data).2)

end FrameDecoder

/-! ## A blocking stream -/

/-- What a blocking stream still holds, in the chunks that single reads may return. -/
abbrev Stream := List (List UInt8)

/-- `stream.read(n)`: at least one byte and at most `n`, none at the end only. -/
def readStream (n : ℕ) : Stream → List UInt8 × Stream
  | [] => ([], [])
  | c :: cs => if c = [] then readStream n cs else (c.take n, c.drop n :: cs)

/-- `while len(buffer) < n`, until the stream ends. -/
def readUpTo (n : ℕ) (buffer : List UInt8) (s : Stream) : List UInt8 × Stream :=
  if buffer.length < n then
    match readStream (n - buffer.length) s with
    | ([], s) => (buffer, s)
    | (b :: bs, s) => readUpTo n (buffer ++ b :: bs) s
  else (buffer, s)
termination_by n - buffer.length
decreasing_by simp only [List.length_append, List.length_cons]; omega

/-- `read_frame`. -/
def readFrame (maxStrDigits : ℕ) (s : Stream) : Except Exc (Option PyDict × Stream) :=
  match readUpTo headerSize [] s with
  | (header, s) =>
    if header.length < headerSize then
      if header = [] then .ok (none, s)
      else ipcError "Worker stream ended with a truncated frame header"
    else if ¬ (0 < unpackLength header ∧ unpackLength header ≤ maxFrameBytes) then
      ipcError "Worker frame advertises an invalid byte length"
    else
      match readUpTo (unpackLength header) [] s with
      | (body, s) =>
        if body.length < unpackLength header then
          ipcError "Worker stream ended with a truncated frame body"
        else (decode maxStrDigits body).map fun message => (some message, s)

/-! ## One byte at a time -/

/-- The decoder on one byte. -/
def push (maxStrDigits : ℕ) (asm : Assembly) (b : UInt8) : Except Exc (Assembly × Sized) :=
  match asm with
  | .header bytes _ =>
    if h : (bytes ++ [b]).length < headerSize then .ok (.header (bytes ++ [b]) h, [])
    else if hl : 0 < unpackLength (bytes ++ [b]) ∧ unpackLength (bytes ++ [b]) ≤ maxFrameBytes then
      .ok (.body (unpackLength (bytes ++ [b])) [] hl.1, [])
    else ipcError "Worker frame advertises an invalid byte length"
  | .body length bytes _ =>
    if h : (bytes ++ [b]).length < length then .ok (.body length (bytes ++ [b]) h, [])
    else (decode maxStrDigits (bytes ++ [b])).map fun message =>
      (.idle, [(message, length + headerSize)])

open Incremental

variable {n : ℕ}

/-- Header bytes are collected. -/
theorem consume_header_short {bytes data : List UInt8} (hs : bytes.length < headerSize)
    (h : (bytes ++ data).length < headerSize) :
    consume (push n) (.header bytes hs) data = ([], .ok (.header (bytes ++ data) h)) := by
  induction data generalizing bytes with
  | nil => simp [consume]
  | cons b data ih =>
    have hb : (bytes ++ [b]).length < headerSize := by simp at h ⊢; omega
    rw [consume, push, dif_pos hb]
    simp only [ih hb (by simpa using h), List.nil_append, List.append_assoc, List.singleton_append]

/-- Body bytes are collected. -/
theorem consume_body_short {length : ℕ} {bytes data : List UInt8} (hs : bytes.length < length)
    (h : (bytes ++ data).length < length) :
    consume (push n) (.body length bytes hs) data = ([], .ok (.body length (bytes ++ data) h)) := by
  induction data generalizing bytes with
  | nil => simp [consume]
  | cons b data ih =>
    have hb : (bytes ++ [b]).length < length := by simp at h ⊢; omega
    rw [consume, push, dif_pos hb]
    simp only [ih hb (by simpa using h), List.nil_append, List.append_assoc, List.singleton_append]

/-- A nonempty input is its bytes but the last, and the last. -/
private theorem exists_last {data : List UInt8} (h : data ≠ []) :
    ∃ init last, data = init ++ [last] :=
  ⟨data.dropLast, data.getLast h, (List.dropLast_append_getLast h).symm⟩

/-- The last header byte. -/
theorem consume_header_full {bytes data : List UInt8} (hs : bytes.length < headerSize)
    (h : (bytes ++ data).length = headerSize) :
    consume (push n) (.header bytes hs) data =
      if hl : 0 < unpackLength (bytes ++ data) ∧ unpackLength (bytes ++ data) ≤ maxFrameBytes then
        ([], .ok (.body (unpackLength (bytes ++ data)) [] hl.1))
      else ([], ipcError "Worker frame advertises an invalid byte length") := by
  obtain ⟨init, last, rfl⟩ := @exists_last data (by rintro rfl; simp at h; omega)
  have hinit : (bytes ++ init).length < headerSize := by simp at h ⊢; omega
  simp only [consume_append, consume_header_short hs hinit, andThen_ok, consume, push]
  simp only [List.append_assoc, h, lt_irrefl, dite_false, List.nil_append]
  by_cases hl : 0 < unpackLength (bytes ++ (init ++ [last])) ∧
      unpackLength (bytes ++ (init ++ [last])) ≤ maxFrameBytes
  · simp only [dif_pos hl, List.append_nil]
  · simp only [dif_neg hl, ipcError]

/-- The last body byte. -/
theorem consume_body_full {length : ℕ} {bytes data : List UInt8} (hs : bytes.length < length)
    (h : (bytes ++ data).length = length) :
    consume (push n) (.body length bytes hs) data =
      match decode n (bytes ++ data) with
      | .ok message => ([(message, length + headerSize)], .ok .idle)
      | .error e => ([], .error e) := by
  obtain ⟨init, last, rfl⟩ := @exists_last data (by rintro rfl; simp at h; omega)
  have hinit : (bytes ++ init).length < length := by simp at h ⊢; omega
  simp only [consume_append, consume_body_short hs hinit, andThen_ok, consume, push]
  simp only [List.append_assoc, h, lt_irrefl, dite_false, List.nil_append]
  cases decode n (bytes ++ (init ++ [last])) <;> rfl

/-- The input is consumed part after part. -/
private theorem consume_split (asm : Assembly) (size : ℕ) (data : List UInt8) :
    consume (push n) asm data =
      andThen (consume (push n) asm (data.take size)) fun asm' =>
        consume (push n) asm' (data.drop size) := by
  rw [← consume_append, List.take_append_drop]

/-- Taking the missing bytes, or all there are, completes the buffer when it is no longer short. -/
private theorem length_take_eq {bytes data : List UInt8} {length : ℕ} (hs : bytes.length < length)
    (h : ¬ (bytes ++ data.take (min (length - bytes.length) data.length)).length < length) :
    (bytes ++ data.take (min (length - bytes.length) data.length)).length = length := by
  simp only [List.length_append, List.length_take] at h ⊢
  omega

/-- The loop over a chunk does what its bytes do one by one. -/
theorem feedLoop_eq (completed : Sized) (asm : Assembly) (incoming : List UInt8) :
    feedLoop n completed asm incoming =
      (consume (push n) asm incoming).2.map
        fun asm' => (completed ++ (consume (push n) asm incoming).1, asm') := by
  fun_induction feedLoop n completed asm incoming with
  | case1 completed asm => simp [consume, Except.map]
  | case2 completed incoming hin bytes hs size h ih =>
    rw [ih, consume_split (.header bytes hs) size, consume_header_short hs h]
    rfl
  | case3 completed incoming hin bytes hs size h length hl ih =>
    rw [ih, consume_split (.header bytes hs) size, consume_header_full hs (length_take_eq hs h),
      dif_pos hl]
    rfl
  | case4 completed incoming hin bytes hs size h length hl =>
    rw [consume_split (.header bytes hs) size, consume_header_full hs (length_take_eq hs h),
      dif_neg hl]
    rfl
  | case5 completed incoming hin length bytes hs size h ih =>
    rw [ih, consume_split (.body length bytes hs) size, consume_body_short hs h]
    rfl
  | case6 completed incoming hin length bytes hs size h e he =>
    rw [consume_split (.body length bytes hs) size, consume_body_full hs (length_take_eq hs h), he]
    rfl
  | case7 completed incoming hin length bytes hs size h m hm ih =>
    rw [ih, consume_split (.body length bytes hs) size, consume_body_full hs (length_take_eq hs h), hm]
    simp only [andThen_ok, List.append_assoc]

/-! ## Chunks do not matter -/

namespace FrameDecoder

/-- A new decoder is fed the chunks one after another, until one fails: the frames returned, and
the decoder or the exception. -/
def feeds (maxStrDigits : ℕ) (d : FrameDecoder) (chunks : List (List UInt8)) :
    Sized × Except Exc FrameDecoder := feedAll (feedChunk maxStrDigits) d chunks

/-- An open decoder is its assembly. -/
theorem feeds_eq (asm : Assembly) (chunks : List (List UInt8)) :
    feeds n { assembly := asm } chunks =
      ((feedAll (feedLoop n []) asm chunks).1,
        (feedAll (feedLoop n []) asm chunks).2.map fun asm => { assembly := asm }) := by
  induction chunks generalizing asm with
  | nil => rfl
  | cons c cs ih =>
    have hchunk : feedChunk n { assembly := asm } c =
        (feedLoop n [] asm c).map fun r => (r.1, { assembly := r.2 }) := by
      simp only [feedChunk, feedSized, Bool.or_self, Bool.false_eq_true, if_false]
      cases feedLoop n [] asm c <;> rfl
    simp only [feeds, feedAll, hchunk] at ih ⊢
    cases feedLoop n [] asm c with
    | error e => rfl
    | ok r =>
      simp only [Except.map, ih r.2]

end FrameDecoder

theorem implements_push : Implements (feedLoop n []) (push n) := by
  intro asm c
  rw [feedLoop_eq]
  simp only [List.nil_append]

/-! ## Frames of encoded messages -/

theorem length_packLength (k : ℕ) : (packLength k).length = headerSize := rfl

theorem unpackLength_packLength {k : ℕ} (h : k ≤ maxFrameBytes) :
    unpackLength (packLength k) = k := by
  have hk : k < 2 ^ 32 := by unfold maxFrameBytes at h; omega
  simp only [unpackLength, packLength, List.foldl_cons, List.foldl_nil, UInt8.toNat_ofNat']
  omega

/-- A whole frame in front of other bytes. -/
theorem consume_frame {b rest : List UInt8} (hb : 0 < b.length ∧ b.length ≤ maxFrameBytes) :
    consume (push n) .idle (packLength b.length ++ b ++ rest) =
      match decode n b with
      | .error e => ([], .error e)
      | .ok message => ((message, b.length + headerSize) :: (consume (push n) .idle rest).1,
          (consume (push n) .idle rest).2) := by
  have hhead := @consume_header_full n [] (packLength b.length) (by decide)
    (length_packLength b.length)
  have hbody := @consume_body_full n b.length [] b hb.1 rfl
  simp only [List.nil_append, unpackLength_packLength hb.2, hb, and_self, dite_true] at hhead
  rw [List.nil_append] at hbody
  rw [List.append_assoc, consume_append, Assembly.idle, hhead, andThen_ok, consume_append, hbody]
  cases decode n b <;> rfl

/-! ## Bytes held back -/

/-- The bytes of the frame that is being assembled. -/
def Assembly.pending : Assembly → ℕ
  | .header bytes _ => bytes.length
  | .body _ bytes _ => headerSize + bytes.length

/-- The bytes on the wire of the frames. -/
def wireSize (frames : Sized) : ℕ := (frames.map Prod.snd).sum

theorem wireSize_append (a b : Sized) : wireSize (a ++ b) = wireSize a + wireSize b := by
  simp [wireSize]

/-- One byte ends up in the frame returned or in the one being assembled. -/
theorem push_pending {asm asm' : Assembly} {b : UInt8} {frames : Sized}
    (h : push n asm b = .ok (asm', frames)) :
    asm.pending + 1 = wireSize frames + asm'.pending := by
  cases asm with
  | header bytes short =>
    simp only [push] at h
    split_ifs at h with h1 h2
    · obtain ⟨rfl, rfl⟩ := Prod.mk.inj (Except.ok.inj h)
      simp [Assembly.pending, wireSize]
    · obtain ⟨rfl, rfl⟩ := Prod.mk.inj (Except.ok.inj h)
      simp only [Assembly.pending, wireSize, List.length_append, List.length_singleton] at h1 ⊢
      simp
      omega
    · cases h
  | body length bytes short =>
    simp only [push] at h
    split_ifs at h with h1
    · obtain ⟨rfl, rfl⟩ := Prod.mk.inj (Except.ok.inj h)
      simp [Assembly.pending, wireSize]
      omega
    · cases hd : decode n (bytes ++ [b]) with
      | error e => simp [hd, Except.map] at h
      | ok message =>
        simp only [hd, Except.map] at h
        obtain ⟨rfl, rfl⟩ := Prod.mk.inj (Except.ok.inj h)
        simp only [List.length_append, List.length_singleton] at h1
        simp [Assembly.pending, wireSize, Assembly.idle]
        omega

/-- No byte is lost or invented over a run. -/
theorem consume_pending {asm asm' : Assembly} {data : List UInt8}
    (h : (consume (push n) asm data).2 = .ok asm') :
    asm.pending + data.length = wireSize (consume (push n) asm data).1 + asm'.pending := by
  induction data generalizing asm with
  | nil =>
    obtain rfl := Except.ok.inj h
    simp [consume, wireSize]
  | cons b data ih =>
    rw [consume] at h ⊢
    cases hp : push n asm b with
    | error e => simp [hp] at h
    | ok r =>
      simp only [hp] at h
      have hstep := @push_pending n asm r.1 b r.2 hp
      have hrun := ih h
      simp only [wireSize_append, List.length_cons]
      omega

/-- The end of the stream is clean exactly between frames. -/
theorem FrameDecoder.eof_eq_ok {asm : Assembly} :
    (FrameDecoder.eof { assembly := asm }).1 = .ok () ↔ asm.pending = 0 := by
  cases asm with
  | header bytes short => cases bytes <;> simp [FrameDecoder.eof, Assembly.pending, ipcError]
  | body length bytes short => simp [FrameDecoder.eof, Assembly.pending, ipcError, headerSize]

/-! ## Reading from a stream -/

theorem readStream_spec {k : ℕ} (hk : 0 < k) (s : Stream) :
    (readStream k s).1 ++ (readStream k s).2.flatten = s.flatten ∧
      (readStream k s).1.length ≤ k ∧ ((readStream k s).1 = [] → s.flatten = []) := by
  induction s with
  | nil => simp [readStream]
  | cons c cs ih =>
    rw [readStream]
    split
    · next hc => simpa [hc] using ih
    · next hc =>
      refine ⟨by simp [← List.append_assoc], by simp, fun h => ?_⟩
      have hlen := congrArg List.length h
      have := List.length_pos_iff.mpr hc
      rw [List.length_take, List.length_nil] at hlen
      omega

/-- A read for `k` bytes takes them, or all there are, whatever single reads return. -/
theorem readUpTo_spec (k : ℕ) (buffer : List UInt8) (s : Stream) :
    (readUpTo k buffer s).1 = buffer ++ s.flatten.take (k - buffer.length) ∧
      (readUpTo k buffer s).2.flatten = s.flatten.drop (k - buffer.length) := by
  fun_induction readUpTo k buffer s with
  | case1 buffer s hlt s' hread =>
    have hspec := readStream_spec (k := k - buffer.length) (by omega) s
    rw [hread] at hspec
    obtain ⟨hflat, -, hnil⟩ := hspec
    rw [hnil rfl, List.nil_append] at hflat
    rw [hnil rfl, hflat]
    simp
  | case2 buffer s hlt b bs s' hread ih =>
    have hspec := readStream_spec (k := k - buffer.length) (by omega) s
    rw [hread] at hspec
    obtain ⟨hflat, hlen, -⟩ := hspec
    rw [ih.1, ih.2, ← hflat, List.length_append, List.take_append, List.drop_append,
      List.take_of_length_le hlen, List.drop_of_length_le hlen]
    simp only [List.append_assoc, List.nil_append, Nat.sub_add_eq, and_self]
  | case3 buffer s hge => simp [Nat.sub_eq_zero_of_le (not_lt.mp hge)]

/-- A whole frame at the head of a stream. -/
theorem readFrame_frame {b rest : List UInt8} (hb : 0 < b.length ∧ b.length ≤ maxFrameBytes)
    {s : Stream} (hs : s.flatten = packLength b.length ++ b ++ rest) :
    ∃ s' : Stream, s'.flatten = rest ∧
      readFrame n s = (decode n b).map fun message => (some message, s') := by
  have hhead := readUpTo_spec headerSize [] s
  rw [hs, List.append_assoc] at hhead
  set r := readUpTo headerSize [] s with hr
  have h1 : r.1 = packLength b.length := by
    rw [hhead.1]
    rfl
  have h2 : r.2.flatten = b ++ rest := hhead.2
  have hbody := readUpTo_spec b.length [] r.2
  rw [h2] at hbody
  have h3 : (readUpTo b.length [] r.2).1 = b := by simpa using hbody.1
  refine ⟨(readUpTo b.length [] r.2).2, by simpa using hbody.2, ?_⟩
  rw [readFrame, ← hr]
  simp only [h1, unpackLength_packLength hb.2, length_packLength, lt_irrefl, if_false, hb,
    and_self, not_true, h3]

/-- At the end of a stream there is no frame. -/
theorem readFrame_nil {s : Stream} (hs : s.flatten = []) :
    ∃ s' : Stream, s'.flatten = [] ∧ readFrame n s = .ok (none, s') := by
  have hhead := readUpTo_spec headerSize [] s
  rw [hs] at hhead
  refine ⟨(readUpTo headerSize [] s).2, by simpa using hhead.2, ?_⟩
  rw [readFrame]
  simp only [hhead.1]
  rfl

/-- What the first calls of `read_frame` return. -/
def readFrames (maxStrDigits : ℕ) : ℕ → Stream → Except Exc (List (Option PyDict))
  | 0, _ => .ok []
  | k + 1, s => do
    let (frame, s) ← readFrame maxStrDigits s
    return frame :: (← readFrames maxStrDigits k s)

/-! ## Encoded messages -/

/-- A strict message that `encode_frame` accepts, and its frame. -/
structure Encoded (maxStrDigits : ℕ) where
  message : PyDict
  maxBytes : ℤ
  frame : List UInt8
  strict : Strict (faults maxStrDigits) (.dict message)
  encoded : encodeFrame (faults maxStrDigits) (.dict message) maxBytes = .ok frame

namespace Encoded

/-- The bytes that the messages have on the wire. -/
def wire (es : List (Encoded n)) : List UInt8 := (es.map frame).flatten

/-- The messages as the peer reads them. -/
def received (es : List (Encoded n)) : Sized := es.map fun e => (readBack e.message, e.frame.length)

/-- Every message reads back with a `type` member that can be hashed. -/
def Readable (es : List (Encoded n)) : Prop := ∀ e ∈ es, typeHashable (readBack e.message) = true

theorem maxBytes_bounds (e : Encoded n) : 0 < e.maxBytes ∧ e.maxBytes ≤ maxFrameBytes := by
  by_contra h
  have := e.encoded
  simp [encodeFrame, h, bind, Except.bind] at this

/-- The frame is a bounded body behind its length, and decoding only depends on the type. -/
theorem exists_body (e : Encoded n) : ∃ b : List UInt8, e.frame = packLength b.length ++ b ∧
    (0 < b.length ∧ b.length ≤ maxFrameBytes) ∧
    decode n b = if typeHashable (readBack e.message) then .ok (readBack e.message)
      else .error ⟨.typeError, "unhashable type"⟩ := by
  obtain ⟨t, b, henc⟩ := encodes_of_strict e.strict.nodes
  have hmax := e.maxBytes_bounds
  obtain ⟨-, hfit, hframe⟩ := (encodeFrame_eq_ok e.strict hmax henc.jsonBody).mp e.encoded
  have hlimit : bodyLimit e.message e.maxBytes ≤ maxFrameBytes := by
    unfold bodyLimit
    split <;> omega
  refine ⟨b, hframe, ⟨?_, by omega⟩, ?_⟩
  · have hlen := PyStr.length_le_length_utf8Encode henc.utf8
    have hpos := (Json.reads_dump (accepts_decodeHooks n) (all_faithful e.strict.nodes)
      (henc.dump 0)).begins.length_pos
    omega
  · refine decode_jsonBody e.strict henc.jsonBody (by omega) fun hevent => ?_
    rw [bodyLimit, if_pos hevent] at hfit
    omega

/-- Readable messages come out one by one. -/
theorem consume_wire {es : List (Encoded n)} (h : Readable es) :
    consume (push n) .idle (wire es) = (received es, .ok .idle) := by
  induction es with
  | nil => rfl
  | cons e es ih =>
    obtain ⟨b, hframe, hb, hdec⟩ := e.exists_body
    have hwire : wire (e :: es) = packLength b.length ++ b ++ wire es := by
      simp [wire, hframe]
    rw [hwire, consume_frame hb, hdec, if_pos (h e List.mem_cons_self)]
    simp only [ih fun e' he' => h e' (List.mem_cons_of_mem _ he')]
    simp [received, hframe, length_packLength, Nat.add_comm]

/-- A message whose type reads back unhashable makes the decoder fail. -/
theorem consume_wire_error {es : List (Encoded n)} (h : ¬ Readable es) :
    ∃ e, (consume (push n) .idle (wire es)).2 = .error e := by
  induction es with
  | nil => exact absurd (fun e he => absurd he List.not_mem_nil) h
  | cons e es ih =>
    obtain ⟨b, hframe, hb, hdec⟩ := e.exists_body
    have hwire : wire (e :: es) = packLength b.length ++ b ++ wire es := by
      simp [wire, hframe]
    rw [hwire, consume_frame hb, hdec]
    by_cases hh : typeHashable (readBack e.message) = true
    · rw [if_pos hh]
      exact ih fun hall => h fun e' he' => (List.mem_cons.mp he').elim (fun heq => heq ▸ hh) (hall e')
    · rw [if_neg hh]
      exact ⟨_, rfl⟩

/-- The calls of `read_frame` on a stream of readable messages. -/
theorem readFrames_wire {es : List (Encoded n)} (h : Readable es) {s : Stream}
    (hs : s.flatten = wire es) :
    readFrames n (es.length + 1) s = .ok (es.map (fun e => some (readBack e.message)) ++ [none]) := by
  induction es generalizing s with
  | nil =>
    obtain ⟨s', -, hread⟩ := readFrame_nil (n := n) hs
    simp [readFrames, hread, bind, Except.bind, pure, Except.pure]
  | cons e es ih =>
    obtain ⟨b, hframe, hb, hdec⟩ := e.exists_body
    have hwire : s.flatten = packLength b.length ++ b ++ wire es := by
      rw [hs]
      simp [wire, hframe]
    obtain ⟨s', hs', hread⟩ := readFrame_frame (n := n) hb hwire
    rw [hdec, if_pos (h e List.mem_cons_self)] at hread
    have := ih (fun e' he' => h e' (List.mem_cons_of_mem _ he')) hs'
    rw [List.length_cons, readFrames, hread]
    simp [Except.map, this, bind, Except.bind, pure, Except.pure]

end Encoded

/-- The codec. A strict message is encoded exactly when its text fits, unless its `type` cannot be
hashed; encoded messages come back in order, from a decoder fed any chunks and from a blocking
stream, exactly when every `type` reads back hashable; the end of a stream is clean exactly when
every byte belongs to a returned frame; and two splits of arbitrary bytes fail alike behind prefixes
of one frame list, or agree. -/
theorem frame_codec (n : ℕ) :
    (∀ message maxBytes, Strict (faults n) (.dict message) →
      0 < maxBytes ∧ maxBytes ≤ (maxFrameBytes : ℤ) →
      ∃ body, jsonBody (faults n) (.dict message) = some body ∧
        (((∃ frame, encodeFrame (faults n) (.dict message) maxBytes = .ok frame) ↔
            body.length ≤ bodyLimit message maxBytes) ↔
          (typeHashable message = true ∨ bodyLimit message maxBytes < body.length))) ∧
    (∀ (es : List (Encoded n)) (chunks : List (List UInt8)), chunks.flatten = Encoded.wire es →
      ((FrameDecoder.feeds n {} chunks = (Encoded.received es, .ok {}) ∧
          readFrames n (es.length + 1) chunks =
            .ok (es.map (fun e => some (readBack e.message)) ++ [none])) ↔
        Encoded.Readable es)) ∧
    (∀ (chunks : List (List UInt8)) (frames : Sized) (d : FrameDecoder),
      FrameDecoder.feeds n {} chunks = (frames, .ok d) →
      (d.eof.1 = .ok () ↔ chunks.flatten.length = wireSize frames)) ∧
    (∀ chunks chunks' : List (List UInt8), chunks.flatten = chunks'.flatten →
      (∃ (e : Exc) (frames : Sized),
        (FrameDecoder.feeds n {} chunks).2 = .error e ∧
        (FrameDecoder.feeds n {} chunks').2 = .error e ∧
        (FrameDecoder.feeds n {} chunks).1 <+: frames ∧
        (FrameDecoder.feeds n {} chunks').1 <+: frames) ∨
      (∃ d, (FrameDecoder.feeds n {} chunks).2 = .ok d ∧
        FrameDecoder.feeds n {} chunks = FrameDecoder.feeds n {} chunks')) := by
  refine ⟨?_, ?_, ?_, ?_⟩
  · intro message maxBytes hs hmax
    obtain ⟨t, b, henc⟩ := encodes_of_strict hs.nodes
    refine ⟨b, henc.jsonBody, ?_⟩
    simp only [encodeFrame_eq_ok hs hmax henc.jsonBody, exists_and_left, exists_eq, and_true]
    by_cases hh : typeHashable message = true
    · simp [hh]
    · simp [hh, not_le]
  · intro es chunks hchunks
    have hspec := feedAll_spec (implements_push (n := n)) .idle chunks
    rw [hchunks] at hspec
    have hfeeds := FrameDecoder.feeds_eq (n := n) .idle chunks
    constructor
    · rintro ⟨hfeed, -⟩
      by_contra hread
      obtain ⟨e, he⟩ := Encoded.consume_wire_error hread
      rw [hfeeds, hspec.1, he] at hfeed
      exact nomatch (Prod.mk.inj hfeed).2
    · intro hread
      rw [Encoded.consume_wire hread] at hspec
      refine ⟨?_, Encoded.readFrames_wire hread hchunks⟩
      rw [hfeeds, hspec.1, hspec.2.2 _ hspec.1]
      rfl
  · intro chunks frames d hfeed
    have hspec := feedAll_spec (implements_push (n := n)) .idle chunks
    rw [FrameDecoder.feeds_eq (n := n) .idle chunks] at hfeed
    obtain ⟨hframes, hd⟩ := Prod.mk.inj hfeed
    cases hasm : (feedAll (feedLoop n []) .idle chunks).2 with
    | error e => simp [hasm, Except.map] at hd
    | ok asm =>
      rw [hasm] at hd
      obtain rfl := Except.ok.inj hd
      have hpending := @consume_pending n .idle asm _ (hspec.1.symm.trans hasm)
      rw [← hspec.2.2 _ hasm, hframes] at hpending
      rw [FrameDecoder.eof_eq_ok]
      have hidle : Assembly.idle.pending = 0 := rfl
      omega
  · intro chunks chunks' heq
    have hspec := feedAll_spec (implements_push (n := n)) .idle chunks
    have hspec' := feedAll_spec (implements_push (n := n)) .idle chunks'
    rw [← heq] at hspec'
    rw [FrameDecoder.feeds_eq (n := n) .idle chunks, FrameDecoder.feeds_eq (n := n) .idle chunks']
    cases hres : (consume (push n) .idle chunks.flatten).2 with
    | error e =>
      rw [hres] at hspec hspec'
      exact .inl ⟨e, _, by rw [hspec.1]; rfl, by rw [hspec'.1]; rfl, hspec.2.1, hspec'.2.1⟩
    | ok asm =>
      rw [hres] at hspec hspec'
      refine .inr ⟨{ assembly := asm }, by rw [hspec.1]; rfl, ?_⟩
      rw [hspec.1, hspec'.1, hspec.2.2 _ hspec.1, hspec'.2.2 _ hspec'.1]

/-- `{"type": []}` is a strict message of eleven bytes that no limit lets through. -/
theorem encodeFrame_list_type :
    Strict (faults 4300) (.dict [("type", .list [])]) ∧
      (jsonBody (faults 4300) (.dict [("type", .list [])])).map List.length = some 11 ∧
      bodyLimit [("type", .list [])] maxFrameBytes = maxFrameBytes ∧
      encodeFrame (faults 4300) (.dict [("type", .list [])]) maxFrameBytes =
        .error ⟨.typeError, "unhashable type"⟩ :=
  ⟨⟨⟨List.nodup_singleton _, rfl, ⟨trivial, trivial⟩, trivial⟩, by decide⟩, by decide, rfl, rfl⟩

/-- `{"type": "ready"}` meets the condition, alone and as a stream. -/
theorem frame_codec_ready :
    ∃ e : Encoded 4300, e.message = [(PyStr.ofString "type", .str "ready")] ∧
      FrameDecoder.feeds 4300 {} [e.frame.take 3, e.frame.drop 3] = (Encoded.received [e], .ok {}) := by
  have hstrict : Strict (faults 4300) (.dict [("type", .str "ready")]) :=
    ⟨⟨List.nodup_singleton _, rfl, rfl, trivial⟩, by decide⟩
  obtain ⟨body, hbody, hiff⟩ := (frame_codec 4300).1 _ 100 hstrict (by decide)
  have hlen : body.length ≤ bodyLimit [("type", .str "ready")] 100 := by
    have : (jsonBody (faults 4300) (.dict [("type", .str "ready")])).map List.length = some 16 := by
      decide
    rw [hbody] at this
    rw [Option.some.inj this]
    decide
  obtain ⟨frame, hframe⟩ := (hiff.mpr (.inl rfl)).mpr hlen
  let e : Encoded 4300 := ⟨_, _, frame, hstrict, hframe⟩
  exact ⟨e, rfl, (((frame_codec 4300).2.1 [e] [e.frame.take 3, e.frame.drop 3]
    (by simp [Encoded.wire])).mpr (by simp [Encoded.Readable, e]; rfl)).1⟩

end Iperf3Lib.Ipc
