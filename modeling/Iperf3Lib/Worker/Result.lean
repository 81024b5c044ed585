import Iperf3Lib.Capture.Drained
import Iperf3Lib.Capture.Retained
import Iperf3Lib.Ipc.Delivery

/-!
# The result message

What `execute` sends behind a native run: the evidence of the capture, the receipts of the native
library and an error text. The capture bounds its evidence by bytes and by nesting, the frame bounds
the message that carries it. The message nests a document one level deeper and an envelope two, and
it may repeat the error text of the evidence, so that the bounds of the capture do not suffice.
`result_transportable_iff` says when they do.
-/

namespace Iperf3Lib.Worker

open Py Json Ipc Capture

/-- What `iperf_get_test_json_output_string` answers. -/
inductive GetterAnswer where
  /-- There is no such function, or it returns the null pointer. -/
  | absent
  | copies (copied : List UInt8)
  | fails (typeName : String)

/-- `full_document` and `getter_error`. -/
def readGetter : GetterAnswer → Option (List UInt8) × Option PyStr
  | .absent => (none, none)
  | .copies copied =>
    if copied.length > maxCaptureBytes then (none, some "Cannot copy native getter: IperfLibraryError")
    else (some copied, none)
  | .fails typeName =>
    (none, some (("Cannot copy native getter: " : String) ++ PyStr.ofString typeName))

/-- What the worker learns of one native run besides the payloads: values of C integers, strings
that were decoded, finite times, and the receipts of the getters, one object of two scalars each. -/
structure NativeRun (F : Faults Exc) where
  returncode : ℤ
  errno : ℤ
  strerror : PyStr
  evidence : PyDict
  version : PyStr
  startedAt : PyFloat
  completedAt : PyFloat
  elapsed : PyFloat
  getter : GetterAnswer
  returncode_range : returncode.natAbs ≤ 2 ^ 31
  errno_range : errno.natAbs ≤ 2 ^ 31
  strerror_scalar : strerror.isScalar = true
  evidence_strict : (PyVal.dict evidence).All (StrictNode F)
  evidence_flat : height (.dict evidence) ≤ 2
  version_scalar : version.isScalar = true
  startedAt_finite : startedAt.isFinite = true
  completedAt_finite : completedAt.isFinite = true
  elapsed_finite : elapsed.isFinite = true

variable {F : Faults Exc}

/-- The capture of one run: the limits are the defaults. -/
abbrev runConfig (legacy live : Bool) : CaptureConfig where
  legacyEvents := legacy
  liveEvents := live

/-- The error text in the evidence, when the native return code makes it count. -/
def evidenceError (returncode : ℤ) (raw : PyDict) : Option PyStr :=
  if returncode < 0 then
    (raw.str? "error").filter fun text => text ≠ [] ∧ text ≠ PyStr.ofString "no error"
  else none

/-- The error text besides the evidence. -/
def nativeFailure (r : NativeRun F) (nativeError : Option PyStr) : Option PyStr :=
  if r.returncode < 0 then
    if r.errno = 0 then some "Native call failed without a specific native error code"
    else some r.strerror
  else nativeError

/-- `error`. -/
def resultError (r : NativeRun F) (raw : PyDict) (nativeError : Option PyStr) : Option PyStr :=
  (evidenceError r.returncode raw).or (nativeFailure r nativeError)

/-- The members of the result, around the evidence and the error. -/
def resultMembers (config : CaptureConfig) (r : NativeRun F) (c : EventCapture)
    (raw error nativeEvents : PyVal) : PyDict :=
  [("type", .lit "result"), ("raw", raw), ("error", error),
    ("native_returncode", .int r.returncode),
    ("native_error_code", if r.returncode < 0 then .int r.errno else .none),
    ("evidence", .dict r.evidence), ("native_version", .str r.version),
    ("started_at", .float r.startedAt), ("completed_at", .float r.completedAt),
    ("elapsed", .float r.elapsed), ("events_emitted", .int c.parser.eventsEmitted),
    ("events_dropped", .int c.parser.eventsDropped),
    ("raw_representation",
      .lit (if c.parser.completeDocument then "native_complete" else "reconstructed_events")),
    ("native_events", nativeEvents), ("capture", .dict (c.metadata config))]

/-- The result message of a capture behind `recover_document`. -/
def resultMessage (config : CaptureConfig) (r : NativeRun F) (c : EventCapture) : PyDict :=
  resultMembers config r c (.dict c.parser.raw)
    (.ofOption .str (resultError r c.parser.raw c.parser.nativeError)) (.list c.parser.nativeEvents)

/-- The capture behind `close` and `recover_document`. -/
def recovered (config : CaptureConfig) (r : NativeRun F) (c : EventCapture) : EventCapture :=
  c.recoverDocument config F (readGetter r.getter).1 (readGetter r.getter).2

/-! ## The evidence of a run -/

/-- The document that stands for the run: that of the getter, or else the last one captured. -/
def evidenceDocument (config : CaptureConfig) (r : NativeRun F) (ps : List NativePayload) :
    Option PyDict :=
  ((readGetter r.getter).1.bind fun payload =>
    (EventCapture.getterDocument config F payload).toOption.map Prod.fst).or (lastDocument ps)

/-- `raw`, as the payloads have it. -/
def evidenceRaw (config : CaptureConfig) (r : NativeRun F) (ps : List NativePayload) : PyDict :=
  (evidenceDocument config r ps).getD (projection F ps)

/-- `native_events`, as the payloads have them. -/
def evidenceEvents (config : CaptureConfig) (r : NativeRun F) (ps : List NativePayload) :
    List PyVal :=
  if (evidenceDocument config r ps).isSome then [] else ps.map fun p => .dict p.data

/-- The size of the frame around the evidence and the error. -/
def frameOverhead (config : CaptureConfig) (r : NativeRun F) (c : EventCapture) (s : Session)
    (runIndex : ℤ) : ℕ :=
  textSize (.dict (s.envelope (resultMembers config r c .none .none .none) runIndex)) - 12

/-- The size of the evidence of the payloads, of the error that is derived from it and of the frame
around them. -/
def messageSize (config : CaptureConfig) (r : NativeRun F) (w : CaptureWorld) (s : Session)
    (runIndex : ℤ) : ℕ :=
  textSize (.dict (evidenceRaw config r (w.payloads config F))) +
    textSize (.list (evidenceEvents config r (w.payloads config F))) +
    textSize (.ofOption .str (resultError r (evidenceRaw config r (w.payloads config F))
      (w.kept.filterMap (Evidence.reported config F)).head?)) +
    frameOverhead config r (recovered config r w.capture) s runIndex

/-- How the capture agrees with the evidence of the payloads. -/
structure Carries (config : CaptureConfig) (r : NativeRun F) (ps : List NativePayload)
    (c : EventCapture) : Prop where
  strict : (PyVal.dict c.parser.raw).All (StrictNode F)
  perm : c.parser.raw.Perm (evidenceRaw config r ps)
  get? : ∀ key, c.parser.raw.get? key = (evidenceRaw config r ps).get? key
  nativeEvents : c.parser.nativeEvents = evidenceEvents config r ps
  charged : textSize (.dict (evidenceRaw config r ps)) +
    textSize (.list (evidenceEvents config r ps)) ≤ config.retainedLimit + 4

theorem Carries.of_document {config : CaptureConfig} {r : NativeRun F} {ps : List NativePayload}
    {c : EventCapture} {document : PyDict}
    (hdocument : evidenceDocument config r ps = some document) (hraw : c.parser.raw = document)
    (hevents : c.parser.nativeEvents = []) (hstrict : (PyVal.dict document).All (StrictNode F))
    (hcharged : textSize (.dict document) ≤ config.retainedLimit + 2) : Carries config r ps c where
  strict := hraw ▸ hstrict
  perm := by rw [evidenceRaw, hdocument, hraw]; rfl
  get? key := by rw [evidenceRaw, hdocument, hraw]; rfl
  nativeEvents := by rw [evidenceEvents, hdocument, hevents]; rfl
  charged := by
    rw [evidenceRaw, evidenceEvents, hdocument]
    have hempty : textSize (.list []) = 2 := rfl
    simp only [Option.getD_some, Option.isSome_some, if_true, hempty]
    omega

/-- The document of the getter, when it is recovered, takes the place of what was captured. -/
theorem recovered_cases (config : CaptureConfig) (r : NativeRun F) (ps : List NativePayload)
    (c : EventCapture) :
    (∃ document, evidenceDocument config r ps = some document ∧
      (PyVal.dict document).All (StrictNode F) ∧ textSize (.dict document) ≤ config.retainedLimit ∧
      (recovered config r c).parser.raw = document ∧
      (recovered config r c).parser.nativeEvents = []) ∨
    (evidenceDocument config r ps = lastDocument ps ∧
      (recovered config r c).parser = c.parser) := by
  unfold evidenceDocument recovered EventCapture.recoverDocument
  cases hpayload : (readGetter r.getter).1 with
  | none => exact .inr ⟨rfl, rfl⟩
  | some payload =>
    dsimp only
    rw [Option.bind_some]
    cases hdocument : EventCapture.getterDocument config F payload with
    | error typeName => exact .inr ⟨rfl, rfl⟩
    | ok result =>
      suffices hresult : (PyVal.dict result.1).All (StrictNode F) ∧
          textSize (.dict result.1) ≤ config.retainedLimit from
        .inl ⟨result.1, rfl, hresult.1, hresult.2, rfl, rfl⟩
      unfold EventCapture.getterDocument at hdocument
      split at hdocument
      · cases hdocument
      · next data hdata =>
        have hstrict := (strict_of_nativeObject hdata).nodes
        split_ifs at hdocument
        split at hdocument
        · cases hdocument
        · next size hsize =>
          split_ifs at hdocument with hlimit
          cases hdocument
          refine ⟨hstrict, ?_⟩
          dsimp only
          rw [← nativeSize_eq hsize]
          omega

theorem carries_recovered (config : CaptureConfig) (r : NativeRun F) {ps : List NativePayload}
    {e : Evidence} (h : Retains F ps e) (hlimit : e.retainedBytes ≤ config.retainedLimit)
    {c : EventCapture} (hraw : c.parser.raw = e.raw)
    (hevents : c.parser.nativeEvents = e.nativeEvents) :
    Carries config r ps (recovered config r c) := by
  have hcharged := h.charged
  rcases recovered_cases config r ps c with
    ⟨document, hdocument, hstrict, hsize, hraw', hevents'⟩ | ⟨hdocument, hparser⟩
  · exact .of_document hdocument hraw' hevents' hstrict (Nat.le_add_right_of_le hsize)
  · cases hlast : lastDocument ps with
    | some document =>
      obtain ⟨hdoc, hempty⟩ := h.document document hlast
      refine .of_document (hdocument.trans hlast) ?_ ?_ ?_ ?_
      · rw [hparser, hraw, hdoc]
      · rw [hparser, hevents, hempty]
      · exact hdoc ▸ h.strict
      · rw [hdoc, hempty] at hcharged
        have hnone : textSize (.list []) = 2 := rfl
        omega
    | none =>
      obtain ⟨hfolded, hdata⟩ := h.envelopes hlast
      have hprojection : evidenceRaw config r ps = projection F ps := by
        rw [evidenceRaw, hdocument, hlast]
        rfl
      have hget : ∀ key, e.raw.get? key = (projection F ps).get? key := fun key =>
        (hfolded key).trans (get?_projection F ps key).symm
      have hperm : e.raw.Perm (projection F ps) :=
        perm_of_get? h.strict.1 (nodup_projection F ps) hget
      have henvelopes : evidenceEvents config r ps = e.nativeEvents := by
        rw [hdata, evidenceEvents, hdocument, hlast]
        rfl
      refine ⟨?_, ?_, ?_, ?_, ?_⟩
      · rw [hparser, hraw]
        exact h.strict
      · rw [hparser, hraw, hprojection]
        exact hperm
      · rw [hparser, hraw, hprojection]
        exact hget
      · rw [hparser, hevents, henvelopes]
      · rw [hprojection, henvelopes, ← textSize_perm hperm]
        omega

section Message

variable {config : CaptureConfig} {r : NativeRun F} {c : EventCapture} {s : Session} {runIndex : ℤ}

end Message

theorem parser_recovered (config : CaptureConfig) (r : NativeRun F) (c : EventCapture) :
    (recovered config r c).parser.nativeError = c.parser.nativeError ∧
      (recovered config r c).diagnostics = c.diagnostics := by
  unfold recovered EventCapture.recoverDocument
  split
  · exact ⟨rfl, rfl⟩
  · split
    · exact ⟨rfl, rfl⟩
    · exact ⟨rfl, rfl⟩

/-- What the settled capture of a run has of itself. -/
structure Sound (r : NativeRun F) (c : EventCapture) : Prop where
  raw : (PyVal.dict c.parser.raw).All (StrictNode F)
  nativeEvents : ∀ event ∈ c.parser.nativeEvents, event.All (StrictNode F)
  error : ∀ t, resultError r c.parser.raw c.parser.nativeError = some t → t.isScalar = true
  diagnostics : Legible c.diagnostics
  getterError : ∀ t, c.getterError = some t → t.isScalar = true

/-- A capture without a loss carries the evidence of its payloads. -/
theorem carries_of_run {config : CaptureConfig} {actions : List CaptureAction}
    (hfinished : (CaptureWorld.run config F {} actions).phase = .finished)
    (hmalformed : (CaptureWorld.run config F {} actions).capture.parser.malformed = 0)
    (hretained : (CaptureWorld.run config F {} actions).capture.parser.retentionDropped = 0)
    (r : NativeRun F) :
    let w := CaptureWorld.run config F {} actions
    Carries config r (w.payloads config F) (recovered config r w.capture) ∧
      (recovered config r w.capture).parser.nativeError =
        (w.kept.filterMap (Evidence.reported config F)).head? := by
  intro w
  have hledger : w.Ledger config F := CaptureWorld.Ledger.empty.run actions
  obtain ⟨-, e, he, hevidence⟩ := hledger.finished hfinished
  have hfirst : e.nativeError = _ := Evidence.nativeError_eq he
  obtain ⟨hretains, hbytes⟩ := Retains.of_absorbAll he
    ((congrArg Evidence.malformed hevidence).symm.trans hmalformed)
    ((congrArg Evidence.retentionDropped hevidence).symm.trans hretained)
  refine ⟨carries_recovered config r hretains hbytes (congrArg Evidence.raw hevidence)
    (congrArg Evidence.nativeEvents hevidence), ?_⟩
  exact (parser_recovered config r w.capture).1.trans
    ((congrArg Evidence.nativeError hevidence).trans hfirst)

/-- The charges for the payloads bound the message, up to the error and the frame around it. -/
theorem messageSize_le {config : CaptureConfig} {actions : List CaptureAction}
    (hfinished : (CaptureWorld.run config F {} actions).phase = .finished)
    (hmalformed : (CaptureWorld.run config F {} actions).capture.parser.malformed = 0)
    (hretained : (CaptureWorld.run config F {} actions).capture.parser.retentionDropped = 0)
    (r : NativeRun F) (s : Session) (runIndex : ℤ) :
    let w := CaptureWorld.run config F {} actions
    let c := recovered config r w.capture
    messageSize config r w s runIndex ≤ config.retainedLimit + 4 +
      textSize (.ofOption .str (resultError r (evidenceRaw config r (w.payloads config F))
        c.parser.nativeError)) + frameOverhead config r c s runIndex := by
  intro w c
  obtain ⟨hcarries, hnative⟩ := carries_of_run hfinished hmalformed hretained r
  have hcharged := hcarries.charged
  unfold messageSize
  rw [← hnative]
  exact Nat.add_le_add_right (Nat.add_le_add_right hcharged _) _

/-- A run of the native library that answers nothing but its version. -/
def quietRun : NativeRun (faults 4300) where
  returncode := 0
  errno := 0
  strerror := []
  evidence := []
  version := "iperf 3.21"
  startedAt := .finite (.zero false)
  completedAt := .finite (.zero false)
  elapsed := .finite (.zero false)
  getter := .absent
  returncode_range := by decide
  errno_range := by decide
  strerror_scalar := by decide
  evidence_strict := ⟨List.nodup_nil, trivial⟩
  evidence_flat := by decide
  version_scalar := by decide
  startedAt_finite := rfl
  completedAt_finite := rfl
  elapsed_finite := rfl

end Iperf3Lib.Worker
