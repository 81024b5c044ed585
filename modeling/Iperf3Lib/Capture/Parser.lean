import Iperf3Lib.Capture.Native

/-!
# Event capture

The native thread copies payloads into a bounded queue and the parser thread takes them out again,
one at a time. `Parser.consume` is what the parser makes of one payload; only the parser writes the
fields of `Parser`. `CaptureWorld.step` interleaves the two threads with the owner, who closes the
capture behind the native call.
-/

namespace Iperf3Lib.Capture

open Py Json Ipc

/-- The arguments of `EventCapture`. -/
structure CaptureConfig where
  legacyEvents : Bool := false
  liveEvents : Bool := false
  captureBytes : ℕ := maxCaptureBytes
  pendingLimit : ℕ := maxPendingCaptureBytes
  itemLimit : ℕ := maxPendingCaptures
  retainedLimit : ℕ := maxRetainedBytes

/-- `complete_document_source`. -/
inductive DocumentSource where
  | callback
  | getter
deriving DecidableEq, Repr

/-- One entry of the queue. -/
structure Captured where
  copied : List UInt8
  sequence : ℕ
  offset : PyFloat
  arrived : PyFloat

/-- What `emit` answers to the messages of one payload. -/
structure Answers where
  legacy : Bool := true
  live : Bool := true

/-- The fields of `EventCapture` that the parser thread writes. -/
structure Parser where
  raw : PyDict := []
  nativeEvents : List PyVal := []
  eventsEmitted : ℕ := 0
  eventsDropped : ℕ := 0
  malformed : ℕ := 0
  retentionDropped : ℕ := 0
  liveEmitted : ℕ := 0
  liveDropped : ℕ := 0
  completeDocument : Bool := false
  completeDocumentSource : Option DocumentSource := none
  nativeError : Option PyStr := none
  completeSequence : ℕ := 0
  retainedBytes : ℕ := 0
  /-- The arguments of `_diagnose` so far. -/
  diagnosed : List PyStr := []
  /-- The arguments of `emit` so far. -/
  sent : List PyDict := []

namespace Parser

variable (config : CaptureConfig) (F : Faults Exc)

/-- `_diagnose`. -/
def diagnose (c : Parser) (message : PyStr) : Parser :=
  { c with diagnosed := c.diagnosed ++ [message.take 256] }

/-- `self.complete_document = False` with its source. -/
def incomplete (c : Parser) : Parser :=
  { c with completeDocument := false, completeDocumentSource := none }

/-- A call of `emit`. -/
def emit (c : Parser) (message : PyDict) : Parser := { c with sent := c.sent ++ [message] }

/-- `_live`. -/
def live (c : Parser) (kind : String) (data : PyVal) (item : Option Captured) (admitted : Bool) :
    Parser :=
  if config.liveEvents then
    let c := c.emit [("type", .lit "live_event"), ("kind", .lit kind), ("data", data),
      ("capture_sequence", .ofOption (fun i => .int i.sequence) item),
      ("arrival_offset_seconds", .ofOption (fun i => .float i.offset) item),
      ("time", .ofOption (fun i => .float i.arrived) item)]
    { c with
      liveEmitted := c.liveEmitted + 1
      liveDropped := if admitted then c.liveDropped else c.liveDropped + 1 }
  else c

/-- A payload that is counted as malformed. -/
def reject (c : Parser) (item : Captured) (diagnosis : PyStr) (errorType : String)
    (admitted : Bool) : Parser :=
  (({ c with malformed := c.malformed + 1 } : Parser).incomplete.diagnose diagnosis).live config
    "malformed" (.dict [("reason", .lit "invalid_native_json"), ("error_type", .lit errorType),
      ("sample", .str (sampleText item.copied))]) (some item) admitted

/-- The counting of an envelope, and its legacy event. -/
def countEvent (c : Parser) (p : NativePayload) (item : Captured) (admitted : Bool) : Parser :=
  if p.wrapped then
    let c := { c with eventsEmitted := c.eventsEmitted + 1 }
    if config.legacyEvents then
      let c := c.emit [("type", .lit "event"), ("kind", .str p.kind.text), ("data", p.part),
        ("sequence", .int c.eventsEmitted), ("time", .float item.arrived)]
      { c with eventsDropped := if admitted then c.eventsDropped else c.eventsDropped + 1 }
    else c
  else c

/-- `typed_kind`. -/
def typedKind : NativeKind → String
  | .start => "native_start"
  | .interval => "interval"
  | .finish => "native_end"
  | .error => "native_error"
  | .complete => "native_document"
  | .serverOutputJson => "server_output"
  | .serverOutputText => "server_output"
  | .other _ => "unknown"

/-- `live_data`. -/
def liveData (p : NativePayload) : PyVal :=
  match p.kind with
  | .serverOutputJson | .serverOutputText | .other _ =>
    .dict [("native_kind", .str p.kind.text), ("payload", p.part)]
  | _ => p.part

/-- The first reported native error is kept. -/
def latch (c : Parser) (p : NativePayload) : Option Parser :=
  match c.nativeError with
  | some _ => some c
  | none => (p.reportedError F).map fun text => { c with nativeError := text }

/-- `required`. -/
def required (c : Parser) (p : NativePayload) : Option ℕ := do
  let size ← nativeSize F (.dict p.data)
  match p.kind with
  | .complete => return size + 128
  | .error =>
    let text ← errorText F p.part
    return c.retainedBytes + size + (← nativeSize F (.str text)) + 128
  | _ => return c.retainedBytes + size + (← nativeSize F p.part) + 128

/-- `raw.setdefault("intervals", []).append(part)`. -/
def appendInterval (raw : PyDict) (part : PyVal) : Option PyDict :=
  match raw.get? "intervals" with
  | none => some (PyDict.set raw "intervals" (.list [part]))
  | some (.list parts) => some (PyDict.set raw "intervals" (.list (parts ++ [part])))
  | some _ => none

/-- What an envelope adds to the reconstruction. -/
def project (raw : PyDict) (p : NativePayload) : Option PyDict :=
  match p.kind with
  | .start => some (PyDict.set raw "start" p.part)
  | .interval => appendInterval raw p.part
  | .finish => some (PyDict.set raw "end" p.part)
  | .error => (errorText F p.part).map fun text => PyDict.set raw "error" (.str text)
  | .serverOutputJson | .serverOutputText => some (PyDict.set raw p.kind.text p.part)
  | .complete | .other _ => some raw

/-- Retain a payload that fits. -/
def keep (c : Parser) (p : NativePayload) (item : Captured) : Option Parser :=
  match p.document? with
  | some document =>
    some { c with
      raw := document
      nativeEvents := []
      completeDocument := true
      completeDocumentSource := some .callback
      completeSequence := item.sequence }
  | none =>
    (project F c.raw p).map fun raw => { c with
      raw := raw
      nativeEvents := if c.completeDocument then c.nativeEvents
        else c.nativeEvents ++ [.dict p.data] }

/-- Charge the evidence of a payload, and retain it when it fits. -/
def retain (c : Parser) (p : NativePayload) (item : Captured) : Option Parser :=
  match c.required F p with
  | none => none
  | some required =>
    if required > config.retainedLimit then
      let c := { c with retentionDropped := c.retentionDropped + 1 }
      let c := if p.kind = .complete then c.incomplete else c
      some (c.diagnose "Native reconstruction exceeds retained evidence byte limit")
    else keep F { c with retainedBytes := required } p item

/-- An envelope behind a complete document. -/
def contradict (c : Parser) : Parser :=
  (({ c with malformed := c.malformed + 1 } : Parser).diagnose
    "Native event followed a complete native document").incomplete

/-- `_consume`, absent where it raises. -/
def consume (c : Parser) (item : Captured) (answers : Answers) : Option Parser :=
  match readPayload F.maxStrDigits item.copied config.captureBytes with
  | .error fault =>
    some (c.reject config item
      (("Cannot parse native event: " : String) ++ PyStr.ofString fault.typeName) fault.typeName
      answers.live)
  | .ok p =>
    let c := c.countEvent config p item answers.legacy
    if ¬ p.shaped then
      some (c.reject config item "Native measurement event requires an object" "ValueError"
        answers.live)
    else
      match c.latch F p with
      | none => none
      | some c =>
        let c := c.live config (typedKind p.kind) (liveData p) (some item) answers.live
        if c.completeDocument ∧ p.wrapped ∧ p.kind ≠ .complete then
          -- Advisory envelopes cannot rewrite a complete document.
          if ¬ p.kind.isMeasured then some c
          else c.contradict.retain config F p item
        else c.retain config F p item

end Parser

/-! ## The capture and its threads -/

/-- What the native callback is handed. -/
inductive NativePointer where
  /-- `ffi.string(pointer, limit + 1)` copies these bytes. -/
  | copies (copied : List UInt8)
  /-- The null pointer, or an exception of the copy, by the name of its type. -/
  | fails (typeName : String)

/-- The fields of `EventCapture`. -/
structure EventCapture where
  parser : Parser := {}
  callbacks : ℕ := 0
  copied : ℕ := 0
  captureDropped : ℕ := 0
  lastCaptureLoss : ℕ := 0
  queue : List Captured := []
  pendingBytes : ℕ := 0
  closed : Bool := false
  diagnostics : List PyStr := []
  getterError : Option PyStr := none

namespace EventCapture

variable (config : CaptureConfig) (F : Faults Exc)

/-- The lock section of `_diagnose`. -/
def addDiagnostic (diagnostics : List PyStr) (message : PyStr) : List PyStr :=
  if diagnostics.length < maxDiagnostics then diagnostics ++ [message.take 256] else diagnostics

/-- The `except` branch of `capture`. -/
def copyFailed (c : EventCapture) (typeName : String) : EventCapture :=
  { c with
    callbacks := c.callbacks + 1
    captureDropped := c.captureDropped + 1
    lastCaptureLoss := c.callbacks + 1
    diagnostics := addDiagnostic c.diagnostics
      (("Cannot copy native event: " : String) ++ PyStr.ofString typeName) }

/-- `capture`. -/
def capture (c : EventCapture) (pointer : NativePointer) (offset arrived : PyFloat) : EventCapture :=
  match pointer with
  | .fails typeName => c.copyFailed typeName
  | .copies copied =>
    if copied.length > config.captureBytes then c.copyFailed "ValueError"
    else
      let sequence := c.callbacks + 1
      if c.closed ∨ c.queue.length ≥ config.itemLimit ∨
          c.pendingBytes + copied.length > config.pendingLimit then
        { c with
          callbacks := sequence
          captureDropped := c.captureDropped + 1
          lastCaptureLoss := sequence }
      else
        { c with
          callbacks := sequence
          queue := c.queue ++ [⟨copied, sequence, offset, arrived⟩]
          pendingBytes := c.pendingBytes + copied.length
          copied := c.copied + 1 }

/-- The parser's fields behind some of its work. -/
def withParser (c : EventCapture) (parser : Parser) : EventCapture :=
  { c with
    parser := parser
    diagnostics := (parser.diagnosed.drop c.parser.diagnosed.length).foldl addDiagnostic
      c.diagnostics }

/-- The `except` branch of `_parse`. -/
def parserFailed (c : EventCapture) : EventCapture :=
  { c with
    captureDropped := c.captureDropped + c.queue.length
    queue := []
    pendingBytes := 0
    closed := true }

/-- A later loss takes the completeness back. -/
def checkLoss (c : EventCapture) : Parser :=
  if c.parser.completeDocument ∧ c.lastCaptureLoss > c.parser.completeSequence then
    c.parser.incomplete.diagnose "Native callback capture failed after the last complete document"
  else c.parser

/-- The gap notice of one stage. -/
def gapNotice (parser : Parser) (stage : String) (dropped : ℕ) (admitted : Bool) : Parser :=
  if dropped = 0 then parser
  else parser.live config "delivery_gap" (.dict [("stage", .lit stage), ("dropped", .int dropped)])
    none admitted

/-- `_parse` behind its loop; the answers are those to the notices of the two stages. -/
def conclude (c : EventCapture) (answers : Answers) : EventCapture :=
  let parser := gapNotice config c.checkLoss "capture" c.captureDropped answers.legacy
  c.withParser (gapNotice config parser "retention" parser.retentionDropped answers.live)

/-- The `try` statement of `recover_document`: the document of the getter and its charge, or the type
of what it raises. -/
def getterDocument (payload : List UInt8) : Except String (PyDict × ℕ) :=
  match nativeObject F.maxStrDigits payload config.captureBytes with
  | .error fault => .error fault.typeName
  | .ok data =>
    if isWrapped data then .error "ValueError"
    else
      match nativeSize F (.dict data) with
      | none => .error "ValueError"
      | some size =>
        if size + 128 > config.retainedLimit then .error "ValueError" else .ok (data, size + 128)

/-- `recover_document`. -/
def recoverDocument (c : EventCapture) (payload : Option (List UInt8)) (error : Option PyStr) :
    EventCapture :=
  let c := { c with getterError := error.bind fun e => if e = [] then none else some (e.take 256) }
  match payload with
  | none => c
  | some payload =>
    match getterDocument config F payload with
    | .error typeName => { c with
        getterError := some (("Cannot decode native getter: " : String) ++ PyStr.ofString typeName) }
    | .ok (data, size) => { c with
        parser := { c.parser with
          raw := data
          nativeEvents := []
          retainedBytes := size
          completeDocument := true
          completeDocumentSource := some .getter } }

/-- The text of `complete_document_source`. -/
def sourceText : DocumentSource → String
  | .callback => "callback"
  | .getter => "getter"

/-- `metadata`. -/
def metadata (c : EventCapture) : PyDict :=
  [("schema_version", .int 1), ("callbacks", .int c.callbacks), ("copied", .int c.copied),
    ("capture_dropped", .int c.captureDropped), ("malformed", .int c.parser.malformed),
    ("retention_dropped", .int c.parser.retentionDropped),
    ("live_emitted", .int c.parser.liveEmitted), ("live_dropped", .int c.parser.liveDropped),
    ("complete_document", .bool c.parser.completeDocument),
    ("complete_document_source",
      .ofOption (fun s => .lit (sourceText s)) c.parser.completeDocumentSource),
    ("getter_error", .ofOption .str c.getterError),
    ("reconstruction_complete", .bool
      (c.captureDropped = 0 && c.parser.malformed = 0 && c.parser.retentionDropped = 0)),
    ("diagnostics", .list (c.diagnostics.map .str)),
    ("limits", .dict [("payload_bytes", .int config.captureBytes),
      ("pending_bytes", .int config.pendingLimit), ("pending_items", .int config.itemLimit),
      ("retained_bytes", .int config.retainedLimit), ("diagnostics", .int maxDiagnostics)])]

end EventCapture

/-- The parser thread. -/
inductive ParserPhase where
  | running
  | finished
  | failed
deriving DecidableEq, Repr

/-- What became of a native callback. -/
inductive Fate where
  | kept (item : Captured)
  | lost

/-- The capture, its threads, and the fate of every callback so far. -/
structure CaptureWorld where
  capture : EventCapture := {}
  phase : ParserPhase := .running
  /-- `close()` was called. -/
  ended : Bool := false
  history : List Fate := []

inductive CaptureAction where
  /-- The native thread calls back. -/
  | capture (pointer : NativePointer) (offset arrived : PyFloat)
  /-- The parser takes the next payload. -/
  | parse (answers : Answers)
  /-- The parser finds the queue empty and closed. -/
  | finish (answers : Answers)
  /-- The owner calls `close()`. -/
  | close

namespace CaptureWorld

variable (config : CaptureConfig) (F : Faults Exc)

/-- The fate of a callback: kept when the queue has it. -/
def fate (before after : EventCapture) : Fate :=
  match after.queue.drop before.queue.length with
  | item :: _ => .kept item
  | [] => .lost

/-- One step of one thread. What cannot happen leaves the world as it is. -/
def step (w : CaptureWorld) : CaptureAction → CaptureWorld
  | .capture pointer offset arrived =>
    -- The owner closes behind the native call, so that no callback follows.
    if w.ended then w
    else
      let after := w.capture.capture config pointer offset arrived
      { w with capture := after, history := w.history ++ [fate w.capture after] }
  | .parse answers =>
    match w.phase, w.capture.queue with
    | .running, item :: queue =>
      let capture := { w.capture with
        queue := queue
        pendingBytes := w.capture.pendingBytes - item.copied.length }
      match capture.parser.consume config F item answers with
      | some parser => { w with capture := capture.withParser parser }
      | none => { w with capture := capture.parserFailed, phase := .failed }
    | _, _ => w
  | .finish answers =>
    if w.phase = .running ∧ w.capture.closed ∧ w.capture.queue = [] then
      { w with capture := w.capture.conclude config answers, phase := .finished }
    else w
  | .close => { w with capture := { w.capture with closed := true }, ended := true }

/-- An interleaving. -/
def run (w : CaptureWorld) (actions : List CaptureAction) : CaptureWorld :=
  actions.foldl (step config F) w

end CaptureWorld

end Iperf3Lib.Capture
