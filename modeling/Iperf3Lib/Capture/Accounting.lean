import Iperf3Lib.Capture.Survival
import Iperf3Lib.Parent.Receipt

/-!
# The accounts of a capture

The native thread counts callbacks, the parser counts what becomes of the payloads, and both charge
bounded budgets. `OwnedWorld` lets the native library call back at any time, also behind `close()`, and
the owner recover a document once the parser is done. `Accounts` is what the counters and the budgets
have in common as long as the parser does not fail.
-/

namespace Iperf3Lib.Capture

open Py Json Ipc Parent

variable {config : CaptureConfig} {F : Faults Exc}

/-! ## Steps of the threads and the owner -/

/-- A step of a thread, or of the owner. -/
inductive OwnedAction where
  | thread (action : CaptureAction)
  /-- `recover_document`, once the parser is done. -/
  | recover (payload : Option (List UInt8)) (error : Option PyStr)

namespace CaptureWorld

/-- One step. A callback behind `close()` finds the capture closed. -/
def advance (config : CaptureConfig) (F : Faults Exc) (w : CaptureWorld) : OwnedAction → CaptureWorld
  | .thread (.capture pointer offset arrived) =>
    let after := w.capture.capture config pointer offset arrived
    { w with capture := after, history := w.history ++ [fate w.capture after] }
  | .thread action => w.step config F action
  | .recover payload error =>
    if w.phase = .finished then
      { w with capture := w.capture.recoverDocument config F payload error }
    else w

end CaptureWorld

/-! ## The evidence -/

namespace Evidence

/-- What is retained is strict, and charged within the limit. -/
structure Charged (config : CaptureConfig) (F : Faults Exc) (e : Evidence) : Prop where
  raw : (PyVal.dict e.raw).All (StrictNode F)
  events : ∀ event ∈ e.nativeEvents, event.All (StrictNode F)
  charged : textSize (.dict e.raw) + textSize (.list e.nativeEvents) ≤ e.retainedBytes + 4
  limit : e.retainedBytes ≤ config.retainedLimit

/-- A payload counts at most once as malformed and at most once as dropped. -/
structure CountsOnce (e e' : Evidence) : Prop where
  malformed : e'.malformed = e.malformed ∨ e'.malformed = e.malformed + 1
  retention : e'.retentionDropped = e.retentionDropped ∨ e'.retentionDropped = e.retentionDropped + 1

theorem charged_empty : Charged config F {} where
  raw := ⟨List.nodup_nil, trivial⟩
  events _ h := by cases h
  charged := by decide
  limit := Nat.zero_le _

/-- The charge of a document is its size with some slack. -/
theorem required_document {e : Evidence} {p : NativePayload} {document : PyDict}
    (hdocument : p.document? = some document) {required : ℕ}
    (h : e.required F p = some required) : required = textSize (.dict p.data) + 128 := by
  unfold Evidence.required at h
  rw [kind_of_document? hdocument] at h
  obtain ⟨size, hsize, h⟩ := Option.bind_eq_some_iff.mp h
  cases h
  rw [nativeSize_eq hsize]

/-- A payload that is charged stays within its charge. -/
theorem Charged.retain {e e' : Evidence} (h : e.Charged config F) {p : NativePayload}
    (hp : p.Read F) (hshaped : p.shaped = true) {sequence : ℕ} (hretain : e.retain config F p sequence = some e') :
    e'.Charged config F ∧ e'.malformed = e.malformed ∧
      (e'.retentionDropped = e.retentionDropped ∨ e'.retentionDropped = e.retentionDropped + 1) := by
  obtain ⟨required, hrequired, ⟨-, rfl⟩ | ⟨hlimit, hkeep⟩⟩ := retain_cases hretain
  · exact ⟨⟨h.raw, h.events, h.charged, h.limit⟩, rfl, .inr rfl⟩
  rcases keep_cases hkeep with ⟨document, hdocument, rfl⟩ | ⟨hnone, raw, hproject, rfl⟩
  · refine ⟨⟨hp.all_document hdocument, fun _ hevent => by (cases hevent), ?_, hlimit⟩, rfl, .inl rfl⟩
    have hsize := hp.textSize_document hdocument
    have hcharge := required_document hdocument hrequired
    have hempty : textSize (.list []) = 2 := rfl
    dsimp only
    omega
  · have hkind : p.kind ≠ .complete := by
      intro hkind
      obtain ⟨document, hdocument⟩ := document?_of_shaped hshaped hkind
      rw [hdocument] at hnone
      cases hnone
    have hsize := textSize_project hkind hrequired hproject
    have hconcat := textSize_concat e.nativeEvents (.dict p.data)
    have hcharged := h.charged
    refine ⟨⟨all_project h.raw hp hproject, ?_, ?_, hlimit⟩, rfl, .inl rfl⟩
    · intro event hevent
      dsimp only at hevent
      split at hevent
      · exact h.events event hevent
      · rcases List.mem_append.mp hevent with hevent | hevent
        · exact h.events event hevent
        · rw [List.mem_singleton.mp hevent]
          exact hp.strict.nodes
    · dsimp only
      split <;> omega

/-- What one payload does to the accounts. -/
theorem Charged.absorb {e e' : Evidence} (h : e.Charged config F) {item : Captured}
    (habsorb : e.absorb config F item = some e') : e'.Charged config F ∧ e.CountsOnce e' := by
  rcases absorb_cases habsorb with ⟨-, rfl⟩ | ⟨p, hpayload, ⟨-, -, -, rfl⟩ | ⟨-, hretain⟩ |
    ⟨-, -, -, hretain⟩⟩
  · exact ⟨⟨h.raw, h.events, h.charged, h.limit⟩, ⟨.inr rfl, .inl rfl⟩⟩
  · exact ⟨h, ⟨.inl rfl, .inl rfl⟩⟩
  · have hp := NativePayload.read_of_payload? hpayload
    have hlatched : (latched F e p).Charged config F := ⟨h.raw, h.events, h.charged, h.limit⟩
    obtain ⟨hcharged, hmalformed, hretention⟩ := hlatched.retain hp (shaped_of_payload? hpayload) hretain
    exact ⟨hcharged, ⟨.inl hmalformed, hretention⟩⟩
  · have hp := NativePayload.read_of_payload? hpayload
    have hlatched : Charged config F { latched F e p with
        malformed := e.malformed + 1, completeDocument := false } :=
      ⟨h.raw, h.events, h.charged, h.limit⟩
    obtain ⟨hcharged, hmalformed, hretention⟩ := hlatched.retain hp (shaped_of_payload? hpayload) hretain
    exact ⟨hcharged, ⟨.inr hmalformed, hretention⟩⟩

end Evidence

/-! ## Delivery -/

namespace Parser

/-- No more is dropped than was emitted. -/
structure Delivered (c : Parser) : Prop where
  live : c.liveDropped ≤ c.liveEmitted
  events : c.eventsDropped ≤ c.eventsEmitted

theorem Delivered.of_eq {c c' : Parser} (h : c.Delivered) (hdropped : c'.liveDropped = c.liveDropped)
    (hemitted : c'.liveEmitted = c.liveEmitted) (hevents : c'.eventsDropped = c.eventsDropped)
    (hcount : c'.eventsEmitted = c.eventsEmitted) : c'.Delivered :=
  ⟨by rw [hdropped, hemitted]; exact h.live, by rw [hevents, hcount]; exact h.events⟩

theorem Delivered.deliver {c : Parser} (h : c.Delivered) (kind : String) (data : PyVal)
    (item : Option Captured) (admitted : Bool) : (c.live config kind data item admitted).Delivered := by
  unfold Parser.live
  split
  · refine ⟨?_, h.events⟩
    have := h.live
    change (if admitted then c.liveDropped else c.liveDropped + 1) ≤ c.liveEmitted + 1
    split <;> omega
  · exact h

theorem Delivered.countEvent {c : Parser} (h : c.Delivered) (p : NativePayload) (item : Captured)
    (admitted : Bool) : (c.countEvent config p item admitted).Delivered := by
  unfold Parser.countEvent
  have := h.events
  split
  · dsimp only
    split
    · refine ⟨h.live, ?_⟩
      change (if admitted then c.eventsDropped else c.eventsDropped + 1) ≤ c.eventsEmitted + 1
      split <;> omega
    · exact ⟨h.live, Nat.le_succ_of_le h.events⟩
  · exact h

theorem Delivered.reject {c : Parser} (h : c.Delivered) (item : Captured) (diagnosis : PyStr)
    (errorType : String) (admitted : Bool) :
    (c.reject config item diagnosis errorType admitted).Delivered := by
  have hcounted : (({ c with malformed := c.malformed + 1 } : Parser).incomplete.diagnose
      diagnosis).Delivered := ⟨h.live, h.events⟩
  exact hcounted.deliver _ _ _ _

theorem Delivered.latch {c c' : Parser} (h : c.Delivered) {p : NativePayload}
    (hlatch : c.latch F p = some c') : c'.Delivered := by
  unfold Parser.latch at hlatch
  split at hlatch
  · cases hlatch
    exact h
  · obtain ⟨text, -, rfl⟩ := Option.map_eq_some_iff.mp hlatch
    exact ⟨h.live, h.events⟩

theorem Delivered.retain {c c' : Parser} (h : c.Delivered) {p : NativePayload} {item : Captured}
    (hretain : c.retain config F p item = some c') : c'.Delivered := by
  unfold Parser.retain at hretain
  split at hretain
  · cases hretain
  · split at hretain
    · cases hretain
      split <;> exact ⟨h.live, h.events⟩
    · unfold keep at hretain
      split at hretain
      · cases hretain
        exact ⟨h.live, h.events⟩
      · obtain ⟨raw, -, rfl⟩ := Option.map_eq_some_iff.mp hretain
        exact ⟨h.live, h.events⟩

theorem Delivered.consume {c c' : Parser} (h : c.Delivered) {item : Captured} {answers : Answers}
    (hconsume : c.consume config F item answers = some c') : c'.Delivered := by
  unfold Parser.consume at hconsume
  split at hconsume
  · cases hconsume
    exact h.reject _ _ _ _
  · next p _ =>
    dsimp only at hconsume
    have hcount : (c.countEvent config p item answers.legacy).Delivered := h.countEvent p item _
    split at hconsume
    · cases hconsume
      exact hcount.reject _ _ _ _
    · split at hconsume
      · cases hconsume
      · next c₁ hlatch =>
        have hlive : ∀ kind data, (c₁.live config kind data (some item) answers.live).Delivered :=
          fun _ _ => (hcount.latch hlatch).deliver _ _ _ _
        split at hconsume
        · split at hconsume
          · cases hconsume
            exact hlive _ _
          · have hcontradict : (c₁.live config (typedKind p.kind) (liveData p) (some item)
                answers.live).contradict.Delivered := ⟨(hlive _ _).live, (hlive _ _).events⟩
            exact hcontradict.retain hconsume
        · exact (hlive _ _).retain hconsume

end Parser

/-! ## The diagnostics -/

/-- A few short texts. -/
structure Brief (diagnostics : List PyStr) : Prop where
  length : diagnostics.length ≤ maxDiagnostics
  text : ∀ text ∈ diagnostics, text.length ≤ 256

theorem Brief.addDiagnostic {diagnostics : List PyStr} (h : Brief diagnostics) (message : PyStr) :
    Brief (EventCapture.addDiagnostic diagnostics message) := by
  unfold EventCapture.addDiagnostic
  split
  · refine ⟨by rw [List.length_append, List.length_singleton]; omega, fun text htext => ?_⟩
    rcases List.mem_append.mp htext with htext | htext
    · exact h.text text htext
    · rw [List.mem_singleton.mp htext]
      exact List.length_take_le _ _
  · exact h

theorem Brief.foldl {diagnostics : List PyStr} (h : Brief diagnostics) (messages : List PyStr) :
    Brief (messages.foldl EventCapture.addDiagnostic diagnostics) := by
  induction messages generalizing diagnostics with
  | nil => exact h
  | cons message messages ih => exact ih (h.addDiagnostic message)

/-! ## The document of the getter -/

theorem getterDocument_ok {payload : List UInt8} {data : PyDict} {size : ℕ}
    (h : EventCapture.getterDocument config F payload = .ok (data, size)) :
    (PyVal.dict data).All (StrictNode F) ∧ size = textSize (.dict data) + 128 ∧
      size ≤ config.retainedLimit := by
  unfold EventCapture.getterDocument at h
  split at h
  · cases h
  · next hnative =>
    split at h
    · cases h
    · split at h
      · cases h
      · next hsize =>
        split at h
        · cases h
        · next hlimit =>
          cases h
          exact ⟨(strict_of_nativeObject hnative).nodes, by rw [nativeSize_eq hsize],
            Nat.le_of_not_lt hlimit⟩

theorem getterDocument_error {payload : List UInt8} {typeName : String}
    (h : EventCapture.getterDocument config F payload = .error typeName) :
    (("Cannot decode native getter: " : String) ++ PyStr.ofString typeName : PyStr).length ≤ 256 := by
  have hnames : ∀ name ∈ ["UnicodeDecodeError", "JSONDecodeError", "ValueError", "IPCError"],
      (("Cannot decode native getter: " : String) ++ PyStr.ofString name : PyStr).length ≤ 256 := by
    decide
  refine hnames typeName ?_
  unfold EventCapture.getterDocument at h
  split at h
  · next fault _ =>
    cases h
    cases fault <;> simp [NativeFault.typeName]
  · split at h
    · cases h
      simp
    · split at h
      · cases h
        simp
      · split at h
        · cases h
          simp
        · cases h

/-- The counters are those of the callbacks. -/
theorem counters_recoverDocument (c : EventCapture) (payload : Option (List UInt8))
    (error : Option PyStr) :
    (c.recoverDocument config F payload error).parser.malformed = c.parser.malformed ∧
      (c.recoverDocument config F payload error).parser.retentionDropped =
        c.parser.retentionDropped := by
  unfold EventCapture.recoverDocument
  dsimp only
  split
  · exact ⟨rfl, rfl⟩
  · split <;> exact ⟨rfl, rfl⟩

/-! ## The accounts -/

namespace CaptureWorld

/-- The accounts of a capture whose parser did not fail. -/
structure Accounts (config : CaptureConfig) (F : Faults Exc) (w : CaptureWorld) : Prop where
  callbacks : w.capture.callbacks = w.capture.copied + w.capture.captureDropped
  pending : w.capture.pendingBytes = (w.capture.queue.map fun item => item.copied.length).sum
  pendingLimit : w.capture.pendingBytes ≤ config.pendingLimit
  itemLimit : w.capture.queue.length ≤ config.itemLimit
  malformed : w.capture.parser.malformed + w.capture.queue.length ≤ w.capture.copied
  retention : w.capture.parser.retentionDropped + w.capture.queue.length ≤ w.capture.copied
  delivered : w.capture.parser.Delivered
  charged : w.capture.parser.evidence.Charged config F
  running : w.phase = .running → w.capture.parser.Sourced
  sourced : w.capture.parser.completeDocument = w.capture.parser.completeDocumentSource.isSome
  diagnostics : Brief w.capture.diagnostics
  getterError : ∀ text, w.capture.getterError = some text → text.length ≤ 256

theorem isSome_of_sourced {c : Parser} (h : c.Sourced) :
    c.completeDocument = c.completeDocumentSource.isSome := by
  rw [h]
  cases c.completeDocument <;> rfl

/-- A counter moves by one at most, and only when a payload leaves the queue. -/
structure CountsOnce (w w' : CaptureWorld) : Prop where
  malformed : w'.capture.parser.malformed = w.capture.parser.malformed ∨
    w'.capture.parser.malformed = w.capture.parser.malformed + 1 ∧
      ∃ item, w.capture.queue = item :: w'.capture.queue
  retention : w'.capture.parser.retentionDropped = w.capture.parser.retentionDropped ∨
    w'.capture.parser.retentionDropped = w.capture.parser.retentionDropped + 1 ∧
      ∃ item, w.capture.queue = item :: w'.capture.queue

theorem CountsOnce.refl (w : CaptureWorld) : w.CountsOnce w := ⟨.inl rfl, .inl rfl⟩

/-- What a parser step can come to. -/
theorem step_parse_cases (w : CaptureWorld) (answers : Answers) :
    (∃ item queue parser, w.phase = .running ∧ w.capture.queue = item :: queue ∧
      w.capture.parser.consume config F item answers = some parser ∧
      w.step config F (.parse answers) = { w with
        capture := ({ w.capture with
          queue := queue
          pendingBytes := w.capture.pendingBytes - item.copied.length } : EventCapture).withParser
            parser }) ∨
    (w.step config F (.parse answers)).phase = .failed ∨ w.step config F (.parse answers) = w := by
  unfold step
  dsimp only
  split
  · next item queue hrunning hqueue =>
    split
    · next parser hconsume => exact .inl ⟨item, queue, parser, hrunning, hqueue, hconsume, rfl⟩
    · exact .inr (.inl rfl)
  · exact .inr (.inr rfl)

namespace Accounts

variable {w : CaptureWorld}

theorem empty : Accounts config F {} where
  callbacks := rfl
  pending := rfl
  pendingLimit := Nat.zero_le _
  itemLimit := Nat.zero_le _
  malformed := Nat.le_refl _
  retention := Nat.le_refl _
  delivered := ⟨Nat.le_refl _, Nat.le_refl _⟩
  charged := Evidence.charged_empty
  running _ := rfl
  sourced := rfl
  diagnostics := ⟨Nat.zero_le _, fun _ h => by cases h⟩
  getterError _ h := by cases h

/-- A callback is lost, or its payload is queued within both limits. -/
theorem capture (h : Accounts config F w) (pointer : NativePointer) (offset arrived : PyFloat)
    (history : List Fate) : Accounts config F
      { w with capture := w.capture.capture config pointer offset arrived, history := history } := by
  have hcallbacks := h.callbacks
  have hfailed : ∀ typeName : String, Accounts config F
      { w with capture := w.capture.copyFailed typeName, history := history } := fun typeName => {
    h with
    callbacks := by
      change w.capture.callbacks + 1 = w.capture.copied + (w.capture.captureDropped + 1)
      omega
    diagnostics := h.diagnostics.addDiagnostic _ }
  unfold EventCapture.capture
  split
  · exact hfailed _
  · next copied =>
    split
    · exact hfailed _
    · dsimp only
      split
      · exact {
          h with
          callbacks := by
            change w.capture.callbacks + 1 = w.capture.copied + (w.capture.captureDropped + 1)
            omega }
      · next hfits =>
        simp only [not_or, not_le, Bool.not_eq_true] at hfits
        obtain ⟨-, hitems, hbytes⟩ := hfits
        have hmalformed := h.malformed
        have hretention := h.retention
        exact {
          h with
          callbacks := by
            change w.capture.callbacks + 1 = w.capture.copied + 1 + w.capture.captureDropped
            omega
          pending := by
            simp only [List.map_append, List.sum_append, List.map_singleton, List.sum_singleton,
              h.pending]
          pendingLimit := by
            change w.capture.pendingBytes + copied.length ≤ config.pendingLimit
            omega
          itemLimit := by
            simp only [List.length_append, List.length_singleton]
            omega
          malformed := by
            simp only [List.length_append, List.length_singleton]
            omega
          retention := by
            simp only [List.length_append, List.length_singleton]
            omega }

/-- The parser charges the head of the queue. -/
theorem parse (h : Accounts config F w) (answers : Answers)
    (hphase : (w.step config F (.parse answers)).phase ≠ .failed) :
    Accounts config F (w.step config F (.parse answers)) ∧
      w.CountsOnce (w.step config F (.parse answers)) := by
  rcases step_parse_cases w answers with ⟨item, queue, parser, hrunning, hqueue, hconsume, hstep⟩ |
    hfailed | hsame
  · have habsorb : w.capture.parser.evidence.absorb config F item = some parser.evidence := by
      rw [← Parser.evidence_consume w.capture.parser item answers, hconsume]
      rfl
    obtain ⟨hcharged, hcounts⟩ := h.charged.absorb habsorb
    have hmalformed : parser.malformed = w.capture.parser.malformed ∨
      parser.malformed = w.capture.parser.malformed + 1 := hcounts.malformed
    have hretention : parser.retentionDropped = w.capture.parser.retentionDropped ∨
      parser.retentionDropped = w.capture.parser.retentionDropped + 1 := hcounts.retention
    have hpending := h.pending
    have hlimit := h.pendingLimit
    have hitems := h.itemLimit
    have hcopied₁ := h.malformed
    have hcopied₂ := h.retention
    rw [hqueue, List.map_cons, List.sum_cons] at hpending
    rw [hqueue, List.length_cons] at hitems hcopied₁ hcopied₂
    have hsourced := Parser.sourced_consume (h.running hrunning) hconsume
    rw [hstep]
    refine ⟨?_, ?_, ?_⟩
    · exact {
        h with
        pending := by
          change w.capture.pendingBytes - item.copied.length = _
          rw [hpending]
          exact Nat.add_sub_cancel_left _ _
        pendingLimit := by
          change w.capture.pendingBytes - item.copied.length ≤ _
          omega
        itemLimit := by
          change queue.length ≤ _
          omega
        malformed := by
          change parser.malformed + queue.length ≤ w.capture.copied
          omega
        retention := by
          change parser.retentionDropped + queue.length ≤ w.capture.copied
          omega
        delivered := h.delivered.consume hconsume
        charged := hcharged
        running := fun _ => hsourced
        sourced := isSome_of_sourced hsourced
        diagnostics := h.diagnostics.foldl _ }
    · exact hmalformed.imp_right fun hone => ⟨hone, item, hqueue⟩
    · exact hretention.imp_right fun hone => ⟨hone, item, hqueue⟩
  · exact absurd hfailed hphase
  · rw [hsame]
    exact ⟨h, .refl w⟩

/-- The notices of the gaps count as emitted. -/
theorem finish (h : Accounts config F w) (answers : Answers) :
    Accounts config F (w.step config F (.finish answers)) ∧
      w.CountsOnce (w.step config F (.finish answers)) := by
  unfold step
  dsimp only
  split
  · next hdrained =>
    obtain ⟨hrunning, -, hqueue⟩ := hdrained
    have hevidence := @EventCapture.evidence_conclude config w.capture answers
    have hmalformed : (w.capture.conclude config answers).parser.malformed =
      w.capture.parser.malformed := congrArg Evidence.malformed hevidence
    have hretention : (w.capture.conclude config answers).parser.retentionDropped =
      w.capture.parser.retentionDropped := congrArg Evidence.retentionDropped hevidence
    have hsourced := @EventCapture.sourced_conclude config w.capture answers (h.running hrunning)
    refine ⟨?_, .inl hmalformed, .inl hretention⟩
    exact {
      h with
      malformed := by
        change (w.capture.conclude config answers).parser.malformed + w.capture.queue.length ≤
          w.capture.copied
        rw [hmalformed]
        exact h.malformed
      retention := by
        change (w.capture.conclude config answers).parser.retentionDropped +
          w.capture.queue.length ≤ w.capture.copied
        rw [hretention]
        exact h.retention
      delivered := by
        have hloss : w.capture.checkLoss.Delivered := by
          unfold EventCapture.checkLoss
          split <;> exact ⟨h.delivered.live, h.delivered.events⟩
        have hnotice : ∀ {parser : Parser}, parser.Delivered → ∀ stage dropped admitted,
            (EventCapture.gapNotice config parser stage dropped admitted).Delivered := by
          intro parser hparser stage dropped admitted
          unfold EventCapture.gapNotice
          split
          · exact hparser
          · exact hparser.deliver _ _ _ _
        exact hnotice (hnotice hloss _ _ _) _ _ _
      charged := by
        change (w.capture.conclude config answers).parser.evidence.Charged config F
        rw [hevidence]
        exact ⟨h.charged.raw, h.charged.events, h.charged.charged, h.charged.limit⟩
      running := fun hphase => by cases hphase
      sourced := isSome_of_sourced hsourced
      diagnostics := h.diagnostics.foldl _ }
  · exact ⟨h, .refl w⟩

/-- A recovered document takes the place of what was retained. -/
theorem recover (h : Accounts config F w) (hfinished : w.phase = .finished)
    (payload : Option (List UInt8)) (error : Option PyStr) : Accounts config F
      { w with capture := w.capture.recoverDocument config F payload error } := by
  have hrunning : w.phase ≠ .running := by rw [hfinished]; decide
  have herror : ∀ text, (error.bind fun e : PyStr =>
      if e = [] then none else some (List.take 256 e)) = some text → text.length ≤ 256 := by
    intro text htext
    obtain ⟨e, -, he⟩ := Option.bind_eq_some_iff.mp htext
    split at he
    · cases he
    · cases he
      exact List.length_take_le _ _
  unfold EventCapture.recoverDocument
  dsimp only
  split
  · exact { h with getterError := herror }
  · next payload =>
    split
    · next typeName hdocument =>
      refine { h with getterError := fun text htext => ?_ }
      cases htext
      exact getterDocument_error hdocument
    · next data size hdocument =>
      obtain ⟨hstrict, hsize, hlimit⟩ := getterDocument_ok hdocument
      exact {
        h with
        delivered := ⟨h.delivered.live, h.delivered.events⟩
        charged := by
          refine ⟨hstrict, fun _ hevent => by (cases hevent), ?_, hlimit⟩
          have hempty : textSize (.list []) = 2 := rfl
          change textSize (.dict data) + textSize (.list []) ≤ size + 4
          omega
        running := fun hphase => absurd hphase hrunning
        sourced := rfl
        getterError := herror }

theorem advance (h : Accounts config F w) (action : OwnedAction)
    (hphase : (w.advance config F action).phase ≠ .failed) :
    Accounts config F (w.advance config F action) ∧ w.CountsOnce (w.advance config F action) := by
  cases action with
  | recover payload error =>
    simp only [CaptureWorld.advance]
    split
    · next hfinished =>
      obtain ⟨hmalformed, hretention⟩ := @counters_recoverDocument config F w.capture payload error
      exact ⟨h.recover hfinished payload error, .inl hmalformed, .inl hretention⟩
    · exact ⟨h, .refl w⟩
  | thread action =>
    cases action with
    | capture pointer offset arrived =>
      obtain ⟨hparser, -⟩ := EventCapture.capture_cases w.capture _ pointer offset arrived rfl
      exact ⟨h.capture pointer offset arrived _, .inl (congrArg Parser.malformed hparser),
        .inl (congrArg Parser.retentionDropped hparser)⟩
    | parse answers => exact h.parse answers hphase
    | finish answers => exact h.finish answers
    | close => exact ⟨{ h with }, .inl rfl, .inl rfl⟩

end Accounts

end CaptureWorld

/-! ## The receipt -/

/-- The receipt of a capture agrees with itself. -/
theorem CaptureWorld.Accounts.receipt {w : CaptureWorld} (h : w.Accounts config F) :
    Receipt w.capture where
  callbacks := h.callbacks
  malformed := (Nat.le_add_right _ _).trans h.malformed
  retention := (Nat.le_add_right _ _).trans h.retention
  live := h.delivered.live
  sourced := h.sourced
  diagnostics := h.diagnostics.length
  diagnostic := h.diagnostics.text
  getterError := h.getterError

end Iperf3Lib.Capture
