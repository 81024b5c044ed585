import Iperf3Lib.Artifacts.Validation
import Iperf3Lib.Py.Json.Number

/-!
# Artifacts

An artifact is a result in a versioned envelope. `artifact_from_dict` reads one from a mapping,
`artifact_to_dict` writes one, and `artifact_from_result` makes one of a result, with explicit
metadata in place of what an unversioned result does not record.
-/

namespace Iperf3Lib.Artifacts

open Py

/-! ## The envelope -/

/-- `raise UnsupportedArtifactVersion`; the text of the version is subject to the interpreter's limit. -/
def unsupportedVersion {α : Type} (maxStrDigits : ℕ) (version : PyVal) : Except Exc α :=
  let raised (text : PyStr) : Except Exc α :=
    .error ⟨.unsupportedArtifactVersion, PyStr.ofString "/schema_version: unsupported artifact version " ++
      text ++ PyStr.ofString "; upgrade the reader"⟩
  match version with
  | .int n =>
    if (Nat.toDigits 10 n.natAbs).length ≤ maxStrDigits then
      raised ((Json.intRepr n).map .scalar)
    else valueError "Exceeds the limit for integer string conversion"
  | v => raised (PyStr.ofString v.typeName)

/-- `_validate_envelope`. -/
def validateEnvelope (parse : IpParser) (maxStrDigits : ℕ) (artifact : PyVal) : Except Exc Unit := do
  let version ← artifact.attr "schema_version"
  if version.eq (.int 1) = false then
    unsupportedVersion maxStrDigits version
  let kind ← artifact.attr "kind"
  failIf (kind.isStr "iperf3-lib.result" = false) (PyStr.ofString "/kind")
    "expected 'iperf3-lib.result'"
  validateResult parse maxStrDigits (← artifact.attr "result")

/-- `artifact_from_dict`. -/
def artifactFromDict (parse : IpParser) (maxStrDigits : ℕ) (mapping : PyVal) : Except Exc PyVal := do
  let data ← object [] mapping
  match PyDict.get? data (PyStr.ofString "schema_version") with
  | none =>
    fail (PyStr.ofString "/schema_version")
      "unversioned snapshot; use artifact_from_legacy_dict for explicit migration"
  | some version =>
    let version ← convert false .integer version (PyStr.ofString "/schema_version")
    if version.eq (.int 1) = false then
      unsupportedVersion maxStrDigits version
    let artifact ← convert false resultArtifact mapping []
    validateEnvelope parse maxStrDigits artifact
    return artifact

/-- `artifact_to_dict`. -/
def artifactToDict (parse : IpParser) (maxStrDigits : ℕ) (artifact : PyVal) : Except Exc PyVal := do
  let data ← convert true resultArtifact artifact []
  validateEnvelope parse maxStrDigits (← convert false resultArtifact data [])
  return data

/-! ## Compatibility metadata -/

/-- `value.name = x`. -/
def setattr (value : PyVal) (name : String) (x : PyVal) : Except Exc PyVal :=
  match value with
  | .obj cls fields => .ok (.obj cls (PyDict.set fields (PyStr.ofString name) x))
  | v => .error ⟨.attributeError, PyStr.ofString s!"'{v.typeName}' object has no attribute {name}"⟩

/-- The fields of an instance. -/
def instance' (cls : String) (fields : List (String × PyVal)) : PyVal :=
  .obj cls (fields.map fun field => (PyStr.ofString field.1, field.2))

/-- A warning about metadata that was added. -/
def compatibilityDiagnostic (message code path : String) (evidence : List String) : PyVal :=
  instance' "Diagnostic"
    [("message", .str message), ("severity", .str "warning"), ("code", .str code),
      ("path", .str path), ("evidence_paths", .list (evidence.map fun path => .str path))]

/-- `result.diagnostics.append(diagnostic)`. -/
def appendDiagnostic (result diagnostic : PyVal) : Except Exc PyVal := do
  let diagnostics ← (← result.attr "diagnostics").items
  setattr result "diagnostics" (.list (diagnostics ++ [diagnostic]))

/-- The execution metadata of a result without any. -/
def inferredExecution (status : String) (started duration completed : PyVal) : PyVal :=
  instance' "ExecutionMetadata"
    [("status", .str status), ("method", .str "unknown"),
      ("timing", instance' "RunTiming"
        [("started_at_seconds", .none), ("completed_at_seconds", .none), ("elapsed_seconds", .none),
          ("native_started_at_seconds", started), ("requested_duration_seconds", duration),
          ("estimated_completed_at_seconds", completed)]),
      ("configuration", instance' "ConfigurationSnapshot" [("requested", .none), ("effective", .dict [])]),
      ("native_version", .none), ("native_system_info", .none), ("python_version", .none),
      ("platform", .none)]

/-- The first part of `_add_compatibility`. -/
def addExecution (result : PyVal) : Except Exc PyVal := do
  let execution ← result.attr "execution"
  if execution.isNone = false then
    return result
  let ok ← result.attr "ok"
  let error ← result.attr "error"
  let started ← result.attr "started_at_seconds"
  let duration ← result.attr "duration_seconds"
  let completed ← result.attr "completed_at_seconds"
  let status := if ok.isTrue then "completed" else if error.isNone then "incomplete" else "failed"
  let result ← setattr result "execution" (inferredExecution status started duration completed)
  let result ← appendDiagnostic result (compatibilityDiagnostic
    "Execution status was inferred from an unversioned result; operation timing and configuration were not recorded."
    "compatibility.inferred_status" "/execution/status" ["/ok", "/error"])
  if completed.isNone then
    return result
  let result ← appendDiagnostic result (compatibilityDiagnostic
    "Legacy completion has no observation evidence and is retained only as an estimate."
    "compatibility.unverified_completion" "/execution/timing/estimated_completed_at_seconds"
    ["/completed_at_seconds"])
  setattr result "completed_at_seconds" .none

/-- The directions that the parts of an end know. -/
def knownDirections (parts : List PyVal) : Except Exc (List PyVal) := do
  let directions ← (parts.filter fun part => !part.isNone).mapM (·.attr "direction")
  return directions.filter fun direction => !direction.isNone

/-- The direction of a reconstructed flow: the only one that is known. -/
def soleDirection : List PyVal → PyVal
  | [] => .str "unknown"
  | direction :: directions =>
    if directions.all direction.eq then direction else .str "unknown"

/-- The second part of `_add_compatibility`. -/
def addFlow (result : PyVal) : Except Exc PyVal := do
  let stop ← result.attr "end"
  let flows ← (← result.attr "flows").items
  if stop.isNone = true ∨ flows ≠ [] then
    return result
  let sent ← stop.attr "sum_sent"
  let received ← stop.attr "sum_received"
  let directions ← knownDirections [sent, received]
  let flow := instance' "FlowStats"
    [("direction", soleDirection directions), ("sender", sent), ("receiver", received)]
  let result ← setattr result "flows" (.list [flow])
  appendDiagnostic result (compatibilityDiagnostic
    "The primary flow was reconstructed from the legacy end projection; absent direction remains unknown."
    "compatibility.inferred_flow" "/flows/0" ["/end"])

/-- `_add_compatibility`. -/
def addCompatibility (result : PyVal) : Except Exc PyVal := do
  addFlow (← addExecution result)

/-- A new artifact around a result. -/
def newArtifact (libraryVersion : PyStr) (result : PyVal) : PyVal :=
  instance' "ResultArtifact"
    [("result", result),
      ("producer", instance' "ArtifactProducer"
        [("name", .str "iperf3-lib"), ("version", .str libraryVersion)]),
      ("schema_version", .int 1), ("kind", .str "iperf3-lib.result"), ("extensions", .dict [])]

/-- `artifact_from_result`, with what `importlib.metadata.version` says of the library. -/
def artifactFromResult (parse : IpParser) (maxStrDigits : ℕ) (libraryVersion : PyStr)
    (value : PyVal) : Except Exc PyVal := do
  let path := PyStr.ofString "/result"
  let data ← convert true result value path
  let snapshot ← addCompatibility (← convert false result data path)
  let artifact := newArtifact libraryVersion snapshot
  validateEnvelope parse maxStrDigits artifact
  return artifact

end Iperf3Lib.Artifacts
