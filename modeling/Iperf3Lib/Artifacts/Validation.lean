import Iperf3Lib.Artifacts.Schemas
import Iperf3Lib.Artifacts.Settings

/-!
# The validation of a result

`_validate_result` goes over a converted result: its outcome, its flows, streams and intervals, their
directions, the receipts of its native evidence, its settings and its availability entries. Each part
is a definition of its own, in the order of the source.
-/

namespace Iperf3Lib.Artifacts

open Py

/-! ## Summaries -/

/-- `_validate_measurements`. -/
def validateMeasurements (value : PyVal) (path : PyStr) : Except Exc Unit := do
  let start ← value.attr "start_seconds"
  let stop ← value.attr "end_seconds"
  if start.isNone = false ∧ stop.isNone = false then
    let precedes ← stop.lessThan start
    failIf (precedes = true) (child path (PyStr.ofString "end_seconds"))
      "relative end precedes relative start"

/-- The body of the loop of `_validate_observations`. -/
def validateObserver (value : PyVal) (path : PyStr) (name : String) : Except Exc Unit := do
  let stats ← value.attr name
  if stats.isNone = false then
    let statsPath := child path (PyStr.ofString name)
    validateMeasurements stats statsPath
    let direction ← stats.attr "direction"
    let container ← value.attr "direction"
    failIf (direction.isNone = false ∧ direction.eq container = false)
      (child statsPath (PyStr.ofString "direction")) "summary direction conflicts with its container"
    let observation ← stats.attr "observation"
    failIf (observation.isNone = false ∧ (name = "unattributed" ∨ observation.isStr name = false))
      (child statsPath (PyStr.ofString "observation"))
      "summary observation conflicts with its container"

/-- `_validate_observations` with the names of the summaries of its container. -/
def validateObservations (names : List String) (value : PyVal) (path : PyStr) : Except Exc Unit :=
  names.forM (validateObserver value path)

/-! ## The outcome -/

/-- The primary flow as the end of a run. -/
def endProjection (flow : PyVal) : Except Exc PyVal := do
  let sender ← flow.attr "sender"
  let receiver ← flow.attr "receiver"
  return .obj "EndStats"
    [(PyStr.ofString "sum_sent", sender), (PyStr.ofString "sum_received", receiver)]

/-- The end equals the primary flow. -/
def validateEnd (result : PyVal) : Except Exc Unit := do
  let stop ← result.attr "end"
  if stop.isNone = false then
    match ← (← result.attr "flows").items with
    | [] =>
      fail (PyStr.ofString "/result/end") "end must equal the primary flow compatibility projection"
    | flow :: _ =>
      let projection ← endProjection flow
      failIf (stop.eq projection = false) (PyStr.ofString "/result/end")
        "end must equal the primary flow compatibility projection"

/-- The checks of the execution against the result. -/
def validateOutcome (result execution : PyVal) : Except Exc Unit := do
  let ok ← result.attr "ok"
  let status ← execution.attr "status"
  failIf (ok.eq (.bool (status.isStr "completed")) = false) (PyStr.ofString "/result/ok")
    "ok conflicts with execution status"
  let error ← result.attr "error"
  failIf (status.isStr "completed" = true ∧ error.isNone = false) (PyStr.ofString "/result/error")
    "completed execution cannot have an error"
  failIf (status.isStr "failed" = true ∧ error.isNone = true) (PyStr.ofString "/result/error")
    "failed execution requires an explicit error"
  let method ← execution.attr "method"
  let bidirectional ← result.attr "bidirectional"
  failIf (method.isStr "unknown" = false ∧
      bidirectional.eq (.bool (method.isStr "bidirectional")) = false)
    (PyStr.ofString "/result/bidirectional") "bidirectional flag conflicts with execution method"
  let completed ← result.attr "completed_at_seconds"
  let observed ← (← execution.attr "timing").attr "completed_at_seconds"
  failIf (completed.eq observed = false) (PyStr.ofString "/result/completed_at_seconds")
    "compatibility completion must match observed operation completion"
  validateEnd result

/-! ## Flows, streams and intervals -/

/-- `f"/result/{group}/{index}"`. -/
def itemPath (group : String) (index : ℕ) : PyStr :=
  PyStr.ofString s!"/result/{group}/" ++ natText index

/-- The loop over the flows. -/
def validateFlows : ℕ → List PyVal → List PyVal → Except Exc Unit
  | _, _, [] => .ok ()
  | index, seen, flow :: flows => do
    let direction ← flow.attr "direction"
    failIf (seen.any direction.eq = true) (itemPath "flows" index ++ PyStr.ofString "/direction")
      "duplicate flow direction"
    validateObservations ["sender", "receiver"] flow (itemPath "flows" index)
    validateFlows (index + 1) (direction :: seen) flows

/-- `f"/streams/{index}"`. -/
def streamPointer (index : ℕ) : PyStr := PyStr.ofString "/streams/" ++ natText index

/-- `diagnostic.path is not None and diagnostic.path.startswith(f"/streams/{index}")`. -/
def beginsWithStream (index : ℕ) : PyVal → Bool
  | .str path => (streamPointer index).isPrefixOf path
  | _ => false

/-- Some diagnostic is taken for one about the stream. -/
def streamDiagnosed (result : PyVal) (index : ℕ) : Except Exc Bool := do
  let diagnostics ← (← result.attr "diagnostics").items
  diagnostics.anyM fun diagnostic => return beginsWithStream index (← diagnostic.attr "path")

/-- Unattributed data requires a diagnostic. -/
def validateUnattributed (result : PyVal) (index : ℕ) (stream : PyVal) : Except Exc Unit := do
  let unattributed ← stream.attr "unattributed"
  if unattributed.isNone = false then
    let diagnosed ← streamDiagnosed result index
    failIf (diagnosed = false) (itemPath "streams" index ++ PyStr.ofString "/unattributed")
      "unattributed stream data requires a diagnostic"

/-- The loop over the streams. -/
def validateStreams (result : PyVal) : ℕ → List PyVal → List PyVal → Except Exc Unit
  | _, _, [] => .ok ()
  | index, sockets, stream :: streams => do
    let streamId ← stream.attr "stream_id"
    failIf (streamId.isNone = false ∧ sockets.any streamId.eq = true)
      (itemPath "streams" index ++ PyStr.ofString "/stream_id") "duplicate local stream identifier"
    validateObservations ["sender", "receiver", "unattributed"] stream (itemPath "streams" index)
    validateUnattributed result index stream
    validateStreams result (index + 1) (if streamId.isNone then sockets else streamId :: sockets)
      streams

/-- The loop over the intervals. -/
def validateIntervals : ℕ → List PyVal → Except Exc Unit
  | _, [] => .ok ()
  | index, interval :: intervals => do
    validateMeasurements interval (itemPath "intervals" index)
    let scope ← interval.attr "scope"
    let streamId ← interval.attr "stream_id"
    failIf (scope.isStr "aggregate" = true ∧ streamId.isNone = false)
      (itemPath "intervals" index ++ PyStr.ofString "/stream_id")
      "aggregate intervals cannot identify a component stream"
    validateIntervals (index + 1) intervals

/-! ## Directions -/

/-- The direction that the method of the execution implies. -/
def expectedDirection (method : PyVal) : Option String :=
  if method.isStr "forward" then some "client_to_server"
  else if method.isStr "reverse" then some "server_to_client"
  else none

/-- The loops over the directions of one group. -/
def validateGroup (expected : String) (group : String) : ℕ → List PyVal → Except Exc Unit
  | _, [] => .ok ()
  | index, value :: values => do
    let direction ← value.attr "direction"
    failIf (direction.isStr "unknown" = false ∧ direction.isStr expected = false)
      (itemPath group index ++ PyStr.ofString "/direction") "direction conflicts with execution method"
    validateGroup expected group (index + 1) values

/-- `stream_directions.get(interval.stream_id, "unknown")`. -/
def streamDirection (streams : List PyVal) (streamId : PyVal) : Except Exc PyVal := do
  let known ← streams.mapM fun stream => do
    return (← stream.attr "stream_id", ← stream.attr "direction")
  match known.reverse.find? fun stream => !stream.1.isNone && stream.1.eq streamId with
  | some stream => return stream.2
  | none => return .str "unknown"

/-- The loop over the intervals of the streams. -/
def validateStreamIntervals (streams : List PyVal) : ℕ → List PyVal → Except Exc Unit
  | _, [] => .ok ()
  | index, interval :: intervals => do
    let direction ← streamDirection streams (← interval.attr "stream_id")
    let scope ← interval.attr "scope"
    let observed ← interval.attr "direction"
    failIf (scope.isStr "stream" = true ∧ direction.isStr "unknown" = false ∧
        observed.isStr "unknown" = false ∧ observed.eq direction = false)
      (itemPath "intervals" index ++ PyStr.ofString "/direction")
      "interval direction conflicts with its local stream"
    validateStreamIntervals streams (index + 1) intervals

/-- The checks of the directions. -/
def validateDirections (result method : PyVal) (flows streams intervals : List PyVal) :
    Except Exc Unit := do
  match expectedDirection method with
  | some expected =>
    validateGroup expected "flows" 0 flows
    validateGroup expected "streams" 0 streams
    validateGroup expected "intervals" 0 intervals
  | none => pure ()
  let directions ← (flows ++ streams ++ intervals).mapM (·.attr "direction")
  let known := directions.filter fun direction => !direction.isStr "unknown"
  let bidirectional ← result.attr "bidirectional"
  failIf (bidirectional.isTrue = false ∧ (known.any fun x => known.any fun y => !x.eq y) = true)
    (PyStr.ofString "/result/bidirectional")
    "measurements contain both directions but bidirectional is false"
  validateStreamIntervals streams 0 intervals

/-! ## Native evidence -/

/-- `_SCHEMAS[type(value)]`, if there is one. -/
def schemaOf : PyVal → Option Schema
  | .obj cls _ => schemas.lookup cls
  | _ => none

/-- The body of the loop of `validate_evidence`. -/
def validateReceipt (maxStrDigits : ℕ) (result item : PyVal) (paths : PyDict) (path : PyStr)
    (name : PyStr) : Except Exc Unit := do
  let value ← item.getattr name
  let pointer := (PyDict.get? paths name).getD .none
  if value.isNone = false then
    let found ←
      if pointer.isNone then .ok false else receiptObserved maxStrDigits result (.list [pointer])
    failIf (found = false) (path ++ .scalar '/' :: name)
      "present native evidence requires an existing raw or extension receipt"
  failIf (value.isNone = true ∧ pointer.isNone = false)
    (path ++ PyStr.ofString "/evidence_paths/" ++ name) "absent evidence belongs in availability"

/-- `validate_evidence`. The names are a set there, and here they come in the order of the schema. -/
def validateNative (maxStrDigits : ℕ) (result item : PyVal) (path : PyStr) : Except Exc Unit := do
  let names ← match schemaOf item with
    | some schema => .ok (schema.names.filter fun name =>
        name ∉ ["evidence_paths", "endpoint", "locality", "scope"].map PyStr.ofString)
    | none => .error ⟨.keyError, PyStr.ofString item.typeName⟩
  let paths ← (← item.attr "evidence_paths").entries
  failIf (∃ name ∈ paths.keys, name ∉ names) (path ++ PyStr.ofString "/evidence_paths")
    "evidence map contains an unknown measurement name"
  names.forM (validateReceipt maxStrDigits result item paths path)

/-- The TCP summary of one observer. -/
def validateTcpSummary (maxStrDigits : ℕ) (result protocol : PyVal) (group : String) (index : ℕ)
    (item : PyVal) (observer : String) : Except Exc Unit := do
  let stats ← item.attr observer
  if stats.isNone = false then
    let tcp ← stats.attr "tcp"
    if tcp.isNone = false then
      let path := itemPath group index ++ PyStr.ofString s!"/{observer}/tcp"
      failIf (protocol.isStr "tcp" = false ∨ group ≠ "streams" ∨ observer ≠ "sender") path
        "TCP summary evidence belongs to a TCP stream sender"
      validateNative maxStrDigits result tcp path

/-- The TCP summaries of a group; only a stream has an unattributed one. -/
def validateTcpGroup (maxStrDigits : ℕ) (result protocol : PyVal) (group : String)
    (observers : List String) : ℕ → List PyVal → Except Exc Unit
  | _, [] => .ok ()
  | index, item :: items => do
    observers.forM (validateTcpSummary maxStrDigits result protocol group index item)
    validateTcpGroup maxStrDigits result protocol group observers (index + 1) items

/-- The TCP samples of the intervals. -/
def validateTcpIntervals (maxStrDigits : ℕ) (result protocol : PyVal) :
    ℕ → List PyVal → Except Exc Unit
  | _, [] => .ok ()
  | index, interval :: intervals => do
    let tcp ← interval.attr "tcp"
    if tcp.isNone = false then
      let path := itemPath "intervals" index ++ PyStr.ofString "/tcp"
      let scope ← interval.attr "scope"
      let observation ← interval.attr "observation"
      failIf (protocol.isStr "tcp" = false ∨ scope.isStr "stream" = false ∨
          observation.isStr "sender" = false) path
        "TCP interval evidence belongs to a TCP stream sender"
      validateNative maxStrDigits result tcp path
    validateTcpIntervals maxStrDigits result protocol (index + 1) intervals

/-- The endpoint that a locality belongs to. -/
def expectedEndpoint (role locality : PyVal) : PyVal :=
  if locality.isStr "local" then role
  else if role.isStr "client" then .str "server"
  else if role.isStr "server" then .str "client"
  else .none

/-- The loop over the CPU evidence. -/
def validateCpu (maxStrDigits : ℕ) (result role : PyVal) :
    ℕ → List PyVal → List PyVal → Except Exc Unit
  | _, _, [] => .ok ()
  | index, localities, cpu :: rest => do
    let path := itemPath "cpu" index
    let locality ← cpu.attr "locality"
    failIf (localities.any locality.eq = true) path "duplicate CPU locality"
    let endpoint ← cpu.attr "endpoint"
    failIf (endpoint.isStr "unknown" = false ∧ endpoint.eq (expectedEndpoint role locality) = false)
      (path ++ PyStr.ofString "/endpoint") "CPU endpoint conflicts with reporting role and locality"
    validateNative maxStrDigits result cpu path
    validateCpu maxStrDigits result role (index + 1) (locality :: localities) rest

/-- The receipts of TCP and CPU evidence. -/
def validateEvidence (maxStrDigits : ℕ) (result : PyVal) (flows streams intervals : List PyVal) :
    Except Exc Unit := do
  let protocol ← result.attr "protocol"
  validateTcpGroup maxStrDigits result protocol "flows" ["sender", "receiver"] 0 flows
  validateTcpGroup maxStrDigits result protocol "streams" ["sender", "receiver", "unattributed"] 0
    streams
  validateTcpIntervals maxStrDigits result protocol 0 intervals
  let role ← result.attr "reporting_role"
  let cpu ← (← result.attr "cpu").items
  validateCpu maxStrDigits result role 0 [] cpu

/-! ## Availability -/

/-- One token of `_available_target`. -/
def targetStep (maxStrDigits : ℕ) (path : PyStr) (value : PyVal) (token : PyStr) :
    Except Exc PyVal :=
  match schemaOf value with
  | some schema => do
    failIf (token ∉ schema.names ∨ token ∈ ["raw", "extensions", "requested"].map PyStr.ofString) path
      "availability must identify a canonical field"
    value.getattr token
  | none =>
    match value with
    | .list xs =>
      if isIndex token = true then do
        let index ← intOfDigits maxStrDigits token
        match xs[index]? with
        | some x => return x
        | none => fail path "availability array index is out of range"
      else fail path "availability must identify an existing canonical field"
    | .dict d =>
      match PyDict.get? d token with
      | some x => .ok x
      | none => fail path "availability must identify an existing canonical field"
    | _ => fail path "availability must identify an existing canonical field"

/-- `_available_target`. -/
def availableTarget (maxStrDigits : ℕ) (result : PyVal) (target path : PyStr) : Except Exc PyVal := do
  let tokens ← pointer target path
  failIf (tokens = []) path "availability must identify a canonical field"
  tokens.foldlM (targetStep maxStrDigits path) result

/-- The body of the loop over the availability entries. -/
def validateAvailability (maxStrDigits : ℕ) (result : PyVal) (target : PyStr) (availability : PyVal) :
    Except Exc Unit := do
  let path := child (PyStr.ofString "/result/availability") target
  let value ← availableTarget maxStrDigits result target path
  failIf (value.isNone = false) path "non-present availability cannot describe a present value"
  let state ← availability.attr "state"
  let evidence ← availability.attr "evidence_paths"
  let cited ← evidence.items
  if state.isStr "absent" = false then
    let related ← if cited = [] then .ok false else relatedDiagnostic result target evidence
    failIf (related = false) path "non-absent availability requires evidence and a related diagnostic"

/-! ## The result -/

/-- `_validate_result`. -/
def validateResult (parse : IpParser) (maxStrDigits : ℕ) (result : PyVal) : Except Exc Unit := do
  let execution ← result.attr "execution"
  failIf (execution.isNone = true) (PyStr.ofString "/result/execution")
    "canonical artifacts require execution metadata; use artifact_from_result"
  validateOutcome result execution
  let flows ← (← result.attr "flows").items
  let streams ← (← result.attr "streams").items
  let intervals ← (← result.attr "intervals").items
  validateFlows 0 [] flows
  validateStreams result 0 [] streams
  validateIntervals 0 intervals
  validateDirections result (← execution.attr "method") flows streams intervals
  validateEvidence maxStrDigits result flows streams intervals
  validateConfiguration parse maxStrDigits result execution
  let availability ← (← result.attr "availability").entries
  availability.forM fun kv => validateAvailability maxStrDigits result kv.1 kv.2

end Iperf3Lib.Artifacts
