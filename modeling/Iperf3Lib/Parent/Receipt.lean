import Iperf3Lib.Capture.Drained
import Iperf3Lib.Ipc.Session
import Iperf3Lib.Py.Math

/-!
# Capture receipts

A result carries the counters of its capture. The parent takes them from an untrusted frame: it looks
at the type and the range of every field, and then at how the fields agree.
-/

namespace Iperf3Lib.Parent

open Py Ipc Capture

/-- `_CAPTURE_COUNTERS`. -/
def captureCounters : List PyStr :=
  ["callbacks", "copied", "capture_dropped", "malformed", "retention_dropped", "live_emitted",
    "live_dropped"]

/-- `_CAPTURE_LIMITS`. -/
def captureLimits : List (PyStr × ℤ) :=
  [("payload_bytes", 8 * 1024 * 1024), ("pending_bytes", 16 * 1024 * 1024), ("pending_items", 256),
    ("retained_bytes", 12 * 1024 * 1024), ("diagnostics", 8)]

/-- `keys` of `_validate_capture`. -/
def captureKeys : List PyStr :=
  captureCounters ++ ([("schema_version" : String), "complete_document", "complete_document_source",
    "getter_error", "reconstruction_complete", "diagnostics", "limits"] : List PyStr)

/-- `set(d) == keys`. -/
def hasKeys (d : PyDict) (keys : List PyStr) : Bool :=
  keys.all (fun key => (d.get? key).isSome) && d.keys.all keys.contains

/-- `d == limits`. -/
def equalsLimits (d : PyDict) : Bool :=
  hasKeys d (captureLimits.map Prod.fst) &&
    captureLimits.all fun limit => ((d.get? limit.1).map (equalsInt limit.2)).getD false

/-- `type(value) is int`. -/
def isInt : PyVal → Bool
  | .int _ => true
  | _ => false

/-- `isinstance(value, str) and len(value) <= limit`. -/
def isShortText (limit : ℕ) : PyVal → Bool
  | .str s => s.length ≤ limit
  | _ => false

/-- `d[key]` when it is a `bool`. -/
def bool? (d : PyDict) (key : PyStr) : Option Bool :=
  match d.get? key with
  | some (.bool b) => some b
  | _ => none

/-- `capture[key]` where it is a counter. -/
def counter (capture : PyDict) (key : PyStr) : ℤ := (capture.int? key).getD 0

/-- The counter is an integer of the protocol. -/
def isCounter (capture : PyDict) (key : PyStr) : Bool :=
  ((capture.int? key).map fun n => decide (0 ≤ n ∧ n ≤ maxCounter)).getD false

/-- `capture["limits"]` are the limits, each of them an integer. -/
def isLimits : Option PyVal → Bool
  | some (.dict limits) => equalsLimits limits && limits.all fun kv => isInt kv.2
  | _ => false

/-- `capture["diagnostics"]` are a few short texts. -/
def isDiagnostics : Option PyVal → Bool
  | some (.list diagnostics) => diagnostics.length ≤ 8 && diagnostics.all (isShortText 256)
  | _ => false

/-- `capture["getter_error"]` is absent or a short text. -/
def isGetterError : Option PyVal → Bool
  | some .none => true
  | some error => isShortText 256 error
  | none => false

/-- The first check of `_validate_capture`: every field by itself. -/
def receiptShaped (capture : PyDict) : Bool :=
  hasKeys capture captureKeys && capture.int? "schema_version" = some 1 &&
    captureCounters.all (isCounter capture) && (bool? capture "complete_document").isSome &&
    (bool? capture "reconstruction_complete").isSome && isLimits (capture.get? "limits") &&
    isDiagnostics (capture.get? "diagnostics") && isGetterError (capture.get? "getter_error")

/-- `capture["complete_document_source"]` is one of its values. -/
def isSource : Option PyVal → Bool
  | some .none => true
  | some (.str source) => source = ("callback" : String) || source = ("getter" : String)
  | _ => false

/-- `capture["complete_document_source"] is not None`. -/
def hasSource : Option PyVal → Bool
  | some .none => false
  | _ => true

/-- The second check of `_validate_capture`: the fields among each other. -/
def receiptConsistent (capture : PyDict) : Bool :=
  counter capture "callbacks" = counter capture "copied" + counter capture "capture_dropped" &&
    counter capture "malformed" ≤ counter capture "copied" &&
    counter capture "retention_dropped" ≤ counter capture "copied" &&
    counter capture "live_dropped" ≤ counter capture "live_emitted" &&
    isSource (capture.get? "complete_document_source") &&
    bool? capture "complete_document" = some (hasSource (capture.get? "complete_document_source")) &&
    bool? capture "reconstruction_complete" = some (counter capture "capture_dropped" = 0 &&
      counter capture "malformed" = 0 && counter capture "retention_dropped" = 0)

/-- `_validate_capture`. -/
def validateCapture : PyVal → Except Exc Unit
  | .dict capture =>
    if ¬ receiptShaped capture then ipcError "Invalid native capture receipt"
    else if ¬ receiptConsistent capture then ipcError "Inconsistent native capture receipt"
    else .ok ()
  | _ => ipcError "Invalid native capture receipt"

/-! ## The metadata of a capture -/

variable {config : CaptureConfig} {c : EventCapture}

/-- The receipt of a capture agrees with itself. -/
structure Receipt (c : EventCapture) : Prop where
  callbacks : c.callbacks = c.copied + c.captureDropped
  malformed : c.parser.malformed ≤ c.copied
  retention : c.parser.retentionDropped ≤ c.copied
  live : c.parser.liveDropped ≤ c.parser.liveEmitted
  sourced : c.parser.completeDocument = c.parser.completeDocumentSource.isSome
  diagnostics : c.diagnostics.length ≤ 8
  diagnostic : ∀ text ∈ c.diagnostics, text.length ≤ 256
  getterError : ∀ text, c.getterError = some text → text.length ≤ 256

theorem validateCapture_eq_ok {capture : PyDict} : validateCapture (.dict capture) = .ok () ↔
    receiptShaped capture = true ∧ receiptConsistent capture = true := by
  unfold validateCapture
  by_cases hshaped : receiptShaped capture = true
  · by_cases hconsistent : receiptConsistent capture = true
    · simp [hshaped, hconsistent]
    · simp [hshaped, hconsistent, ipcError]
  · simp [hshaped, ipcError]

theorem counter_eq {d : PyDict} {key : PyStr} {n : ℤ} (h : d.get? key = some (.int n)) :
    counter d key = n := by
  simp [counter, PyDict.int?, h]

end Iperf3Lib.Parent
