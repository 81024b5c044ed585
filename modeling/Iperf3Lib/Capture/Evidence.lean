import Iperf3Lib.Capture.Parser

/-!
# The evidence of a capture

`Evidence` is what remains of the parser's fields once its bookkeeping is left out: what it emitted,
counted and diagnosed. It changes by the payloads alone, whatever `emit` answers, and
`evidence_consume` projects `Parser.consume` to `Evidence.absorb`.
-/

namespace Iperf3Lib.Capture

open Py Json Ipc

/-- The payload of a queue entry, absent when it is malformed. -/
def Captured.payload? (config : CaptureConfig) (F : Faults Exc) (item : Captured) :
    Option NativePayload :=
  match readPayload F.maxStrDigits item.copied config.captureBytes with
  | .ok p => if p.shaped then some p else none
  | .error _ => none

/-- The evidence among the parser's fields. -/
structure Evidence where
  raw : PyDict := []
  nativeEvents : List PyVal := []
  malformed : ℕ := 0
  retentionDropped : ℕ := 0
  completeDocument : Bool := false
  nativeError : Option PyStr := none
  completeSequence : ℕ := 0
  retainedBytes : ℕ := 0

def Parser.evidence (c : Parser) : Evidence where
  raw := c.raw
  nativeEvents := c.nativeEvents
  malformed := c.malformed
  retentionDropped := c.retentionDropped
  completeDocument := c.completeDocument
  nativeError := c.nativeError
  completeSequence := c.completeSequence
  retainedBytes := c.retainedBytes

namespace Evidence

variable (config : CaptureConfig) (F : Faults Exc)

/-- The first reported native error is kept. -/
def latch (e : Evidence) (p : NativePayload) : Option Evidence :=
  match e.nativeError with
  | some _ => some e
  | none => (p.reportedError F).map fun text => { e with nativeError := text }

/-- The charge for a payload. -/
def required (e : Evidence) (p : NativePayload) : Option ℕ := do
  let size ← nativeSize F (.dict p.data)
  match p.kind with
  | .complete => return size + 128
  | .error =>
    let text ← errorText F p.part
    return e.retainedBytes + size + (← nativeSize F (.str text)) + 128
  | _ => return e.retainedBytes + size + (← nativeSize F p.part) + 128

/-- The evidence with a payload that fits. -/
def keep (e : Evidence) (p : NativePayload) (sequence : ℕ) : Option Evidence :=
  match p.document? with
  | some document => some { e with
      raw := document
      nativeEvents := []
      completeDocument := true
      completeSequence := sequence }
  | none => (Parser.project F e.raw p).map fun raw => { e with
      raw := raw
      nativeEvents := if e.completeDocument then e.nativeEvents
        else e.nativeEvents ++ [.dict p.data] }

/-- The evidence behind a payload that is charged. -/
def retain (e : Evidence) (p : NativePayload) (sequence : ℕ) : Option Evidence :=
  match e.required F p with
  | none => none
  | some required =>
    if required > config.retainedLimit then
      some { e with
        retentionDropped := e.retentionDropped + 1
        completeDocument := if p.kind = .complete then false else e.completeDocument }
    else keep F { e with retainedBytes := required } p sequence

/-- The evidence behind one payload. -/
def absorb (e : Evidence) (item : Captured) : Option Evidence :=
  match item.payload? config F with
  | none => some { e with malformed := e.malformed + 1, completeDocument := false }
  | some p =>
    match e.latch F p with
    | none => none
    | some e =>
      if e.completeDocument ∧ p.wrapped ∧ p.kind ≠ .complete then
        if ¬ p.kind.isMeasured then some e
        else
          retain config F { e with malformed := e.malformed + 1, completeDocument := false } p
            item.sequence
      else e.retain config F p item.sequence

end Evidence

/-! ## The parser's evidence -/

namespace Parser

variable {config : CaptureConfig} {F : Faults Exc}

@[simp] theorem evidence_diagnose (c : Parser) (message : PyStr) :
    (c.diagnose message).evidence = c.evidence := rfl

@[simp] theorem evidence_incomplete (c : Parser) :
    c.incomplete.evidence = { c.evidence with completeDocument := false } := rfl

@[simp] theorem evidence_live (c : Parser) (kind : String) (data : PyVal) (item : Option Captured)
    (admitted : Bool) : (c.live config kind data item admitted).evidence = c.evidence := by
  unfold live
  split <;> rfl

@[simp] theorem evidence_countEvent (c : Parser) (p : NativePayload) (item : Captured)
    (admitted : Bool) : (c.countEvent config p item admitted).evidence = c.evidence := by
  unfold countEvent
  split
  · dsimp only
    split <;> rfl
  · rfl

theorem evidence_reject (c : Parser) (item : Captured) (diagnosis : PyStr) (errorType : String)
    (admitted : Bool) : (c.reject config item diagnosis errorType admitted).evidence =
      { c.evidence with malformed := c.evidence.malformed + 1, completeDocument := false } := by
  unfold reject
  rw [evidence_live]
  rfl

theorem evidence_contradict (c : Parser) : c.contradict.evidence =
    { c.evidence with malformed := c.evidence.malformed + 1, completeDocument := false } := rfl

theorem evidence_latch (c : Parser) (p : NativePayload) :
    (c.latch F p).map evidence = c.evidence.latch F p := by
  unfold latch Evidence.latch
  change Option.map _ _ = match c.nativeError with
    | some _ => some c.evidence
    | none => _
  cases c.nativeError with
  | some text => rfl
  | none => cases p.reportedError F <;> rfl

theorem evidence_keep (c : Parser) (p : NativePayload) (item : Captured) :
    (c.keep F p item).map evidence = c.evidence.keep F p item.sequence := by
  unfold keep Evidence.keep
  cases p.document? with
  | some document => rfl
  | none =>
    dsimp only
    rw [Option.map_map]
    rfl

theorem evidence_retain (c : Parser) (p : NativePayload) (item : Captured) :
    (c.retain config F p item).map evidence = c.evidence.retain config F p item.sequence := by
  unfold retain Evidence.retain
  rw [show c.evidence.required F p = c.required F p from rfl]
  cases c.required F p with
  | none => rfl
  | some required =>
    dsimp only
    by_cases hlimit : required > config.retainedLimit
    · rw [if_pos hlimit, if_pos hlimit]
      by_cases hkind : p.kind = .complete
      · rw [if_pos hkind, if_pos hkind]
        rfl
      · rw [if_neg hkind, if_neg hkind]
        rfl
    · rw [if_neg hlimit, if_neg hlimit]
      exact evidence_keep _ _ _

/-- What the parser makes of a payload is, up to its bookkeeping, what the evidence absorbs. -/
theorem evidence_consume (c : Parser) (item : Captured) (answers : Answers) :
    (c.consume config F item answers).map evidence = c.evidence.absorb config F item := by
  unfold consume Evidence.absorb Captured.payload?
  cases hread : readPayload F.maxStrDigits item.copied config.captureBytes with
  | error fault => exact congrArg some (evidence_reject _ _ _ _ _)
  | ok p =>
    dsimp only
    by_cases hshaped : p.shaped = true
    · rw [if_neg (not_not.mpr hshaped), if_pos hshaped]
      have hlatch := evidence_latch (F := F) (c.countEvent config p item answers.legacy) p
      rw [evidence_countEvent] at hlatch
      dsimp only
      rw [← hlatch]
      cases (c.countEvent config p item answers.legacy).latch F p with
      | none => rfl
      | some c =>
        set c' := c.live config (typedKind p.kind) (liveData p) (some item) answers.live
        have hlive : c'.evidence = c.evidence := evidence_live _ _ _ _ _
        have hcomplete : c'.completeDocument = c.evidence.completeDocument :=
          congrArg Evidence.completeDocument hlive
        dsimp only [Option.map_some]
        rw [hcomplete]
        by_cases hbehind : c.evidence.completeDocument = true ∧ p.wrapped = true ∧ p.kind ≠ .complete
        · rw [if_pos hbehind, if_pos hbehind]
          by_cases hmeasured : p.kind.isMeasured = true
          · rw [if_neg (not_not.mpr hmeasured), if_neg (not_not.mpr hmeasured), evidence_retain,
              evidence_contradict, hlive]
          · rw [if_pos hmeasured, if_pos hmeasured]
            exact congrArg some hlive
        · rw [if_neg hbehind, if_neg hbehind, evidence_retain, hlive]
    · rw [if_pos hshaped, if_neg hshaped]
      refine congrArg some ((evidence_reject _ _ _ _ _).trans ?_)
      rw [evidence_countEvent]

end Parser

end Iperf3Lib.Capture
