import Iperf3Lib.Capture.Evidence

/-!
# Faithful reconstruction

What the evidence says of the payloads behind it. It claims a complete document exactly when one
fitted and nothing behind it contradicts it, an unbroken stream of envelopes is folded envelope by
envelope, and the native error is the first one reported. The parser thread sees the payloads in the
order of their capture, and `checkLoss` compares what was lost with the sequence number of the
document, so that the same holds of every interleaving.
-/

namespace Iperf3Lib.Capture

open Py Json Ipc

variable {config : CaptureConfig} {F : Faults Exc}

/-! ## Payloads -/

namespace Captured

variable (config : CaptureConfig) (F : Faults Exc)

/-- The entry is a complete document that the retention limit admits. -/
def Fits (item : Captured) (document : PyDict) : Prop :=
  ∃ p size, item.payload? config F = some p ∧ p.document? = some document ∧
    nativeSize F (.dict p.data) = some size ∧ size + 128 ≤ config.retainedLimit

/-- The entry is server output or of an unknown kind. -/
def Advisory (item : Captured) : Prop :=
  ∃ p, item.payload? config F = some p ∧ p.kind ≠ .complete ∧ p.kind.isMeasured = false

end Captured

theorem shaped_of_payload? {item : Captured} {p : NativePayload}
    (h : item.payload? config F = some p) : p.shaped = true := by
  unfold Captured.payload? at h
  split at h
  · split at h
    · next hshaped =>
      cases h
      exact hshaped
    · cases h
  · cases h

/-- Only an envelope is of another kind than a document. -/
theorem wrapped_of_payload? {item : Captured} {p : NativePayload}
    (h : item.payload? config F = some p) (hkind : p.kind ≠ .complete) : p.wrapped = true := by
  unfold Captured.payload? at h
  split at h
  · next p' hread =>
    split at h
    · cases h
      unfold readPayload at hread
      rw [bind_eq_ok] at hread
      obtain ⟨data, -, hread⟩ := hread
      split at hread
      · cases hread
        rfl
      · cases hread
      · cases hread
        exact absurd rfl hkind
    · cases h
  · cases h

theorem document?_of_shaped {p : NativePayload} (h : p.shaped = true) (hkind : p.kind = .complete) :
    ∃ document, p.document? = some document := by
  obtain ⟨data, wrapped, kind, part⟩ := p
  subst hkind
  cases part <;> first | exact ⟨_, rfl⟩ | cases h

theorem kind_of_document? {p : NativePayload} {document : PyDict}
    (h : p.document? = some document) : p.kind = .complete := by
  unfold NativePayload.document? at h
  split at h
  · next hkind _ => exact hkind
  · cases h

/-- Only a document and an error event report an error. -/
theorem reportedError_advisory {p : NativePayload} (hkind : p.kind ≠ .complete)
    (hmeasured : p.kind.isMeasured = false) : p.reportedError F = some none := by
  obtain ⟨data, wrapped, kind, part⟩ := p
  cases kind <;> first | rfl | exact absurd rfl hkind | cases hmeasured

/-! ## One payload -/

namespace Evidence

theorem latch_eq_some {e e' : Evidence} {p : NativePayload} (h : e.latch F p = some e') :
    e' = { e with nativeError := e.nativeError.or (p.reportedError F).join } := by
  unfold latch at h
  cases herror : e.nativeError with
  | some text =>
    rw [herror] at h
    cases h
    cases e
    cases herror
    rfl
  | none =>
    rw [herror] at h
    obtain ⟨text, htext, rfl⟩ := Option.map_eq_some_iff.mp h
    rw [htext]
    rfl

theorem retain_cases {e e' : Evidence} {p : NativePayload} {sequence : ℕ}
    (h : e.retain config F p sequence = some e') :
    ∃ required, e.required F p = some required ∧
      (required > config.retainedLimit ∧ e' = { e with
        retentionDropped := e.retentionDropped + 1
        completeDocument := if p.kind = .complete then false else e.completeDocument } ∨
      required ≤ config.retainedLimit ∧
        keep F { e with retainedBytes := required } p sequence = some e') := by
  unfold retain at h
  split at h
  · cases h
  · next required hrequired =>
    refine ⟨required, hrequired, ?_⟩
    split at h
    · next hlimit => exact .inl ⟨hlimit, (Option.some.inj h).symm⟩
    · next hlimit => exact .inr ⟨Nat.le_of_not_lt hlimit, h⟩

theorem keep_cases {e e' : Evidence} {p : NativePayload} {sequence : ℕ}
    (h : e.keep F p sequence = some e') :
    (∃ document, p.document? = some document ∧ e' = { e with
      raw := document, nativeEvents := [], completeDocument := true
      completeSequence := sequence }) ∨
    (p.document? = none ∧ ∃ raw, Parser.project F e.raw p = some raw ∧ e' = { e with
      raw := raw
      nativeEvents := if e.completeDocument then e.nativeEvents
        else e.nativeEvents ++ [.dict p.data] }) := by
  unfold keep at h
  split at h
  · next document hdocument => exact .inl ⟨document, hdocument, (Option.some.inj h).symm⟩
  · next hdocument =>
    obtain ⟨raw, hraw, rfl⟩ := Option.map_eq_some_iff.mp h
    exact .inr ⟨hdocument, raw, hraw, rfl⟩

/-- The evidence with the error that a payload reports. -/
def latched (F : Faults Exc) (e : Evidence) (p : NativePayload) : Evidence :=
  { e with nativeError := e.nativeError.or (p.reportedError F).join }

/-- What a payload comes to: it is malformed, it is advisory behind a complete document, or it is
charged, and then a measured event behind a complete document has taken its completeness back. -/
theorem absorb_cases {e e' : Evidence} {item : Captured} (h : e.absorb config F item = some e') :
    (item.payload? config F = none ∧
      e' = { e with malformed := e.malformed + 1, completeDocument := false }) ∨
    ∃ p, item.payload? config F = some p ∧
      ((p.kind ≠ .complete ∧ p.kind.isMeasured = false ∧ e.completeDocument = true ∧ e' = e) ∨
      ((p.kind = .complete ∨ e.completeDocument = false) ∧
        (latched F e p).retain config F p item.sequence = some e') ∨
      (p.kind ≠ .complete ∧ p.kind.isMeasured = true ∧ e.completeDocument = true ∧
        retain config F { latched F e p with
          malformed := e.malformed + 1, completeDocument := false } p item.sequence = some e')) := by
  unfold absorb at h
  cases hp : item.payload? config F with
  | none =>
    rw [hp] at h
    cases h
    exact .inl ⟨rfl, rfl⟩
  | some p =>
    rw [hp] at h
    dsimp only at h
    refine .inr ⟨p, rfl, ?_⟩
    cases hlatch : e.latch F p with
    | none =>
      rw [hlatch] at h
      cases h
    | some e₁ =>
      obtain rfl : e₁ = latched F e p := latch_eq_some hlatch
      rw [hlatch] at h
      dsimp only at h
      by_cases hbehind : e.completeDocument = true ∧ p.kind ≠ .complete
      · obtain ⟨hcomplete, hkind⟩ := hbehind
        rw [if_pos ⟨hcomplete, wrapped_of_payload? hp hkind, hkind⟩] at h
        by_cases hmeasured : p.kind.isMeasured = true
        · rw [if_neg (not_not.mpr hmeasured)] at h
          exact .inr (.inr ⟨hkind, hmeasured, hcomplete, h⟩)
        · rw [if_pos hmeasured] at h
          rw [Bool.not_eq_true] at hmeasured
          refine .inl ⟨hkind, hmeasured, hcomplete, (Option.some.inj h).symm.trans ?_⟩
          have hreported : p.reportedError F = some none := reportedError_advisory hkind hmeasured
          have hsame : e.nativeError.or (some none : Option (Option PyStr)).join = e.nativeError :=
            Option.or_none
          rw [latched, hreported, hsame]
      · rw [if_neg fun h' => hbehind ⟨h'.1, h'.2.2⟩] at h
        refine .inr (.inl ⟨?_, h⟩)
        by_cases hkind : p.kind = .complete
        · exact .inl hkind
        · exact .inr (Bool.not_eq_true _ ▸ fun hcomplete => hbehind ⟨hcomplete, hkind⟩)

/-- The evidence behind a list of payloads. -/
def absorbAll (config : CaptureConfig) (F : Faults Exc) (items : List Captured) : Option Evidence :=
  items.foldlM (absorb config F) {}

theorem absorbAll_concat (items : List Captured) (item : Captured) :
    absorbAll config F (items ++ [item]) =
      (absorbAll config F items).bind fun e => e.absorb config F item := by
  unfold absorbAll
  rw [List.foldlM_append]
  cases items.foldlM (absorb config F) {} with
  | none => rfl
  | some e =>
    cases h : e.absorb config F item with
    | none => simp [List.foldlM_cons, h]
    | some e' => simp [List.foldlM_cons, h]

/-- The last complete document, when nothing behind it takes its completeness back. -/
structure Completed (config : CaptureConfig) (F : Faults Exc) (items : List Captured)
    (e : Evidence) (before : List Captured) (item : Captured) (behind : List Captured) : Prop where
  split : items = before ++ item :: behind
  fits : item.Fits config F e.raw
  sequence : e.completeSequence = item.sequence
  advisory : ∀ later ∈ behind, later.Advisory config F

/-- The error that an entry reports. -/
def reported (config : CaptureConfig) (F : Faults Exc) (item : Captured) : Option PyStr :=
  (item.payload? config F).bind fun p => (p.reportedError F).join

theorem retain_nativeError {e e' : Evidence} {p : NativePayload} {sequence : ℕ}
    (h : e.retain config F p sequence = some e') : e'.nativeError = e.nativeError := by
  obtain ⟨required, -, ⟨-, rfl⟩ | ⟨-, hkeep⟩⟩ := retain_cases h
  · rfl
  · rcases keep_cases hkeep with ⟨document, -, rfl⟩ | ⟨-, raw, -, rfl⟩ <;> rfl

theorem absorb_nativeError {e e' : Evidence} {item : Captured}
    (h : e.absorb config F item = some e') :
    e'.nativeError = e.nativeError.or (reported config F item) := by
  unfold reported
  rcases absorb_cases h with ⟨hp, rfl⟩ | ⟨p, hp, ⟨hkind, hmeasured, -, rfl⟩ | ⟨-, h⟩ | ⟨-, -, -, h⟩⟩
  · rw [hp]
    exact Option.or_none.symm
  · rw [hp, Option.bind_some, reportedError_advisory hkind hmeasured]
    exact Option.or_none.symm
  · rw [hp, Option.bind_some, retain_nativeError h]
    rfl
  · rw [hp, Option.bind_some, retain_nativeError h]
    rfl

/-- The native error is the first one that a payload reported. -/
theorem nativeError_eq {items : List Captured} {e : Evidence}
    (h : absorbAll config F items = some e) :
    e.nativeError = (items.filterMap (reported config F)).head? := by
  induction items using List.reverseRecOn generalizing e with
  | nil =>
    cases h
    rfl
  | append_singleton items item ih =>
    rw [absorbAll_concat] at h
    obtain ⟨e₀, he₀, habsorb⟩ := Option.bind_eq_some_iff.mp h
    rw [absorb_nativeError habsorb, ih he₀, List.filterMap_append, List.head?_append]
    cases hreported : reported config F item <;> simp [hreported]

/-! ## The projection of a stream -/

/-- The part of the last payload of a kind. -/
def lastPart (kind : NativeKind) (ps : List NativePayload) : Option PyVal :=
  (ps.filter fun p => p.kind = kind).getLast?.map NativePayload.part

/-- The parts of all interval events, in the order of their arrival. -/
def intervalParts (ps : List NativePayload) : List PyVal :=
  (ps.filter fun p => p.kind = .interval).map NativePayload.part

/-- What a stream of envelopes leaves under a key of the reconstruction. -/
def folded (F : Faults Exc) (ps : List NativePayload) (key : PyStr) : Option PyVal :=
  if key = "start" then lastPart .start ps
  else if key = "intervals" then
    if intervalParts ps = [] then none else some (.list (intervalParts ps))
  else if key = "end" then lastPart .finish ps
  else if key = "error" then ((lastPart .error ps).bind (errorText F)).map .str
  else if key = "server_output_json" then lastPart .serverOutputJson ps
  else if key = "server_output_text" then lastPart .serverOutputText ps
  else none

theorem lastPart_concat (kind : NativeKind) (ps : List NativePayload) (p : NativePayload) :
    lastPart kind (ps ++ [p]) = if p.kind = kind then some p.part else lastPart kind ps := by
  unfold lastPart
  rw [List.filter_append]
  by_cases hkind : p.kind = kind
  · rw [if_pos hkind, List.filter_singleton]
    simp [hkind]
  · rw [if_neg hkind, List.filter_singleton]
    simp [hkind]

theorem intervalParts_concat (ps : List NativePayload) (p : NativePayload) :
    intervalParts (ps ++ [p]) =
      if p.kind = .interval then intervalParts ps ++ [p.part] else intervalParts ps := by
  unfold intervalParts
  rw [List.filter_append, List.map_append, List.filter_singleton]
  by_cases hkind : p.kind = .interval <;> simp [hkind]

/-- What a payload of another kind than `complete` changes in the fold. -/
theorem folded_concat {ps : List NativePayload} {p : NativePayload} (key : PyStr) :
    folded F (ps ++ [p]) key =
      match p.kind with
      | .start => if key = "start" then some p.part else folded F ps key
      | .interval =>
        if key = "intervals" then some (.list (intervalParts ps ++ [p.part])) else folded F ps key
      | .finish => if key = "end" then some p.part else folded F ps key
      | .error => if key = "error" then (errorText F p.part).map .str else folded F ps key
      | .serverOutputJson => if key = "server_output_json" then some p.part else folded F ps key
      | .serverOutputText => if key = "server_output_text" then some p.part else folded F ps key
      | _ => folded F ps key := by
  unfold folded
  simp only [lastPart_concat, intervalParts_concat]
  cases p.kind with
  | start | finish | error | interval | serverOutputJson | serverOutputText =>
    simp only [reduceCtorEq, if_false, if_true]
    split_ifs <;> simp_all
  | complete | other => rfl

/-- One envelope changes what its kind changes. -/
theorem folded_project {raw raw' : PyDict} {ps : List NativePayload} {p : NativePayload}
    (hraw : ∀ key, raw.get? key = folded F ps key) (hkind : p.kind ≠ .complete)
    (h : Parser.project F raw p = some raw') (key : PyStr) :
    raw'.get? key = folded F (ps ++ [p]) key := by
  have hset : ∀ (k : PyStr) (v : PyVal),
      PyDict.get? (PyDict.set raw k v) key = if key = k then some v else folded F ps key := by
    intro k v
    rw [PyDict.get?_set, hraw]
    simp only [eq_comm]
  rw [folded_concat]
  unfold Parser.project at h
  cases hk : p.kind with
  | complete => exact absurd hk hkind
  | interval =>
    rw [hk] at h
    have hintervals : folded F ps "intervals" =
        if intervalParts ps = [] then none else some (.list (intervalParts ps)) := by
      unfold folded
      rw [if_neg (by decide), if_pos rfl]
    dsimp only at h ⊢
    unfold Parser.appendInterval at h
    rw [hraw, hintervals] at h
    by_cases hnil : intervalParts ps = []
    · rw [if_pos hnil] at h
      cases h
      rw [hset, hnil]
      rfl
    · rw [if_neg hnil] at h
      cases h
      exact hset _ _
  | error =>
    rw [hk] at h
    obtain ⟨text, htext, rfl⟩ := Option.map_eq_some_iff.mp h
    dsimp only
    rw [hset, htext]
    rfl
  | other name =>
    rw [hk] at h
    cases h
    exact hraw key
  | start | finish | serverOutputJson | serverOutputText =>
    rw [hk] at h
    cases h
    exact hset _ _

end Evidence

end Iperf3Lib.Capture
