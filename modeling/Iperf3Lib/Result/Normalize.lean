import Iperf3Lib.Result.Measurements

/-!
# Normalizing a document

The body of `result_from_iperf_json`: flows, intervals, streams, the verified settings and the load of
the processors. The senders of the sockets are collected over the whole document before any stream is
looked at.
-/

namespace Iperf3Lib.Results

open Py

/-! ## Flows -/

/-- `flow_sources`. -/
def flowSources (modes : Modes) : List (FlowDirection × String) :=
  (modes.primaryDirection, "") ::
    if modes.bidirectional = true then [(.serverToClient, "_bidir_reverse")] else []

/-- The body of the loop over `flow_sources`. -/
def readFlow (ctx : Context) (source : (FlowDirection × String) × ℕ) : Normalize FlowStats := do
  let direction := source.1.1
  let canonicalPath := PyStr.ofString "/flows/" ++ natText source.2
  let sent := PyStr.ofString "sum_sent" ++ PyStr.ofString source.1.2
  let received := PyStr.ofString "sum_received" ++ PyStr.ofString source.1.2
  let sender ← readSum ctx [] (ctx.endData.get? sent) (PyStr.ofString "end." ++ sent) direction
    (some .sender) (canonicalPath ++ PyStr.ofString "/sender")
  let receiver ← readSum ctx [] (ctx.endData.get? received) (PyStr.ofString "end." ++ received)
    direction (some .receiver) (canonicalPath ++ PyStr.ofString "/receiver")
  when (sender = none ∨ receiver = none) <| diagnose {
    message := PyStr.ofString "Native endpoint summaries are incomplete for " ++
      PyStr.ofString direction.text ++ PyStr.ofString "."
    code := "measurement.absent" }
  return ⟨direction, sender, receiver⟩

/-! ## The streams of the document -/

/-- The endpoint observations of an end stream, by name. -/
abbrev EndStream := List (String × PyDict)

/-- An interval and its streams. -/
structure NativeInterval where
  fields : PyDict
  streams : List PyDict

/-- `_record_socket_sender`. -/
def recordSocketSender (data : PyDict) : Except Exc SocketSenders := do
  let socket ← optionalInteger data "socket"
  let sender ← optionalFlag data "sender"
  return match socket, sender with
    | some n, some b => [(n, b)]
    | _, _ => []

/-- An endpoint observation of an end stream, and the sender it records. -/
def readEndpoint (stream : PyDict) (name : String) :
    Except Exc (Option (String × PyDict) × SocketSenders) :=
  match stream.get? name with
  | none | some .none => .ok (none, [])
  | some value => do
    let data ← asObject "iperf JSON end stream observations must be objects" value
    let records ← recordSocketSender data
    return (some (name, data), records)

/-- The body of the loop over the end streams. -/
def readEndStream (value : PyVal) : Except Exc (EndStream × SocketSenders) := do
  let stream ← asObject "iperf JSON end stream values must be objects" value
  let endpoints ← ["sender", "receiver", "udp"].mapM (readEndpoint stream)
  return ((endpoints.map Prod.fst).reduceOption, endpoints.flatMap Prod.snd)

/-- The body of the loop over the streams of an interval. -/
def readIntervalStream (value : PyVal) : Except Exc (PyDict × SocketSenders) := do
  let stream ← asObject "iperf JSON stream interval values must be objects" value
  let records ← recordSocketSender stream
  return (stream, records)

/-- The body of the loop over the intervals. -/
def readNativeInterval (value : PyVal) : Except Exc (NativeInterval × SocketSenders) := do
  let interval ← asObject "iperf JSON interval values must be objects" value
  let values ← optionalArray interval "streams" "iperf JSON interval streams value must be an array"
  let streams ← values.mapM readIntervalStream
  return (⟨interval, streams.map Prod.fst⟩, streams.flatMap Prod.snd)

/-- The streams and intervals of a document with the local senders of its sockets. -/
structure Shape where
  endStreams : List EndStream
  intervals : List NativeInterval
  senders : SocketSenders

def readShape (raw endData : PyDict) : Except Exc Shape := do
  let nativeIntervals ← optionalArray raw "intervals" "iperf JSON intervals value must be an array"
  let nativeEndStreams ← optionalArray endData "streams"
    "iperf JSON end streams value must be an array"
  let endStreams ← nativeEndStreams.mapM readEndStream
  let intervals ← nativeIntervals.mapM readNativeInterval
  return {
    endStreams := endStreams.map Prod.fst
    intervals := intervals.map Prod.fst
    senders := endStreams.flatMap Prod.snd ++ intervals.flatMap Prod.snd }

/-! ## Intervals -/

/-- A member of `summary_keys`: whether it is a reverse flow, and the observation that its name
stands for. -/
structure SummaryKey where
  name : String
  reverseFlow : Bool
  observation : Option ObservationPoint

/-- `summary_keys`. -/
def summaryKeys : List SummaryKey :=
  [⟨"sum", false, none⟩, ⟨"sum_sent", false, some .sender⟩, ⟨"sum_received", false, some .receiver⟩,
    ⟨"sum_bidir_reverse", true, none⟩, ⟨"sum_sent_bidir_reverse", true, some .sender⟩,
    ⟨"sum_received_bidir_reverse", true, some .receiver⟩]

/-- `/raw/intervals/{index}`. -/
def intervalPath (index : ℕ) : PyStr := PyStr.ofString "/raw/intervals/" ++ natText index

/-- A reverse flow of a document that is not bidirectional. -/
def checkReverseFlow (ctx : Context) (sourcePath : PyStr) : Normalize Unit := do
  liftM (reject (ctx.modes.nativeBidir = some false ∨ ctx.modes.aliasBidir = some false ∨
    ctx.modes.reverse = some true) "iperf JSON direction flags conflict with reverse-flow intervals")
  diagnose {
    message := PyStr.ofString "Native reverse-flow interval exists without bidirectional mode metadata."
    code := "provenance.unknown"
    evidencePaths := [sourcePath] }

/-- The body of the loop over the summaries of an interval. -/
def addSummary (ctx : Context) (interval : NativeInterval × ℕ) (intervals : List IntervalStats)
    (key : SummaryKey) : Normalize (List IntervalStats) :=
  let sourcePath := intervalPath interval.2 ++ PyStr.ofString "/" ++ PyStr.ofString key.name
  match interval.1.fields.get? key.name with
  | none | some .none => return intervals
  | some value => do
    let sums ← asObject "iperf JSON interval summary values must be objects" value
    when (key.reverseFlow = true ∧ ctx.modes.bidirectional = false) (checkReverseFlow ctx sourcePath)
    let sender ← optionalFlag sums "sender"
    let observation := key.observation.or (sender.map observerOf)
    let direction := if key.reverseFlow = true then .serverToClient else ctx.modes.primaryDirection
    let stats ← readInterval ctx intervals.length sums direction observation none .aggregate sourcePath
    return intervals ++ [stats]

/-- The body of the loop over the streams of an interval. -/
def addStream (ctx : Context) (records : SocketSenders) (index : ℕ) (intervals : List IntervalStats)
    (stream : PyDict × ℕ) : Normalize (List IntervalStats) := do
  let sourcePath := intervalPath index ++ PyStr.ofString "/streams/" ++ natText stream.2
  let provenance ← streamProvenance ctx records stream.1 sourcePath
  let observation := provenance.sender.map observerOf
  let stats ← readInterval ctx intervals.length stream.1 provenance.direction observation
    provenance.streamId .stream sourcePath
  return intervals ++ [stats]

/-- The body of the loop over the intervals. -/
def addInterval (ctx : Context) (records : SocketSenders) (intervals : List IntervalStats)
    (interval : NativeInterval × ℕ) : Normalize (List IntervalStats) := do
  let intervals ← summaryKeys.foldlM (addSummary ctx interval) intervals
  interval.1.streams.zipIdx.foldlM (addStream ctx records interval.2) intervals

/-! ## End streams -/

/-- The observation that the name of an endpoint stands for. -/
def endpointObservation (name : String) : Option ObservationPoint :=
  if name = "sender" then some .sender else if name = "receiver" then some .receiver else none

/-- The sole member of `set(values)`. -/
def soleOf {α : Type} [DecidableEq α] (values : List α) : Option α :=
  match values.dedup with
  | [x] => some x
  | _ => none

/-- The direction and the identifier of a stream whose endpoints agree. -/
def streamIdentity (provenances : List Provenance) : FlowDirection × Option ℤ :=
  let sockets := (provenances.map Provenance.streamId).reduceOption
  let directions := provenances.map Provenance.direction
  (if 1 < sockets.dedup.length then .unknown else (soleOf directions).getD .unknown, soleOf sockets)

/-- `len(sockets) > 1 or len(directions) > 1`. -/
def disagree (provenances : List Provenance) : Bool :=
  1 < (provenances.map Provenance.streamId).reduceOption.dedup.length ||
    1 < (provenances.map Provenance.direction).dedup.length

/-- What is noted of a UDP summary. -/
def diagnoseUdp (canonicalPath sourcePath : PyStr) : Normalize Unit := do
  let evidence := [sourcePath ++ PyStr.ofString "/udp"]
  diagnose {
    message := PyStr.ofString "Native UDP stream summary combines sender and receiver fields; endpoint attribution is unknown."
    code := "provenance.mixed_udp_summary"
    path := some (canonicalPath ++ PyStr.ofString "/unattributed")
    evidencePaths := evidence }
  setAvailability (canonicalPath ++ PyStr.ofString "/unattributed/observation") .unknown evidence

/-- The body of the loop over the endpoints of a stream. -/
def addEndpoint (ctx : Context) (records : SocketSenders) (index : ℕ) (stats : StreamStats)
    (endpoint : String × PyDict) : Normalize StreamStats := do
  let name := endpoint.1
  let canonicalPath := PyStr.ofString "/streams/" ++ natText index
  let fieldName := if name = "udp" then "unattributed" else name
  let sums ← readSum ctx records (some (.dict endpoint.2))
    (PyStr.ofString "end.streams." ++ natText index ++ PyStr.ofString "." ++ PyStr.ofString name)
    stats.direction (endpointObservation name)
    (canonicalPath ++ PyStr.ofString "/" ++ PyStr.ofString fieldName)
  when (name = "udp")
    (diagnoseUdp canonicalPath (PyStr.ofString "/raw/end/streams/" ++ natText index))
  return if name = "udp" then { stats with unattributed := sums }
    else if name = "sender" then { stats with sender := sums }
    else { stats with receiver := sums }

/-- The body of the loop over the end streams. -/
def readStream (ctx : Context) (records : SocketSenders) (stream : EndStream × ℕ) :
    Normalize StreamStats := do
  let sourcePath := PyStr.ofString "/raw/end/streams/" ++ natText stream.2
  let provenances ← stream.1.mapM fun endpoint =>
    streamProvenance ctx records endpoint.2 (sourcePath ++ PyStr.ofString "/" ++ PyStr.ofString endpoint.1)
  when (disagree provenances = true) <| diagnose {
    message := PyStr.ofString "Native endpoint summaries disagree about stream provenance."
    code := "provenance.conflict"
    path := some (PyStr.ofString "/streams/" ++ natText stream.2)
    evidencePaths := [sourcePath] }
  let identity := streamIdentity provenances
  stream.1.foldlM (addEndpoint ctx records stream.2)
    { direction := identity.1, streamId := identity.2 }

/-! ## Settings -/

/-- `effective[name] = VerifiedSetting(value, "verified", [source])`. -/
def verify (effective : List (String × VerifiedSetting)) (name : String) (value : PyVal)
    (source : PyStr) : List (String × VerifiedSetting) :=
  effective.map fun setting =>
    if setting.1 = name then (name, ⟨value, .verified, [source]⟩) else setting

/-- A setting is verified where its value is known. -/
def verify? (effective : List (String × VerifiedSetting)) (name : String) (value : Option PyVal)
    (source : PyStr) : List (String × VerifiedSetting) :=
  match value with
  | none => effective
  | some value => verify effective name value source

/-- The settings that a number of `test_start` verifies. -/
def numberSettings : List (String × String) :=
  [("duration", "duration"), ("parallel", "num_streams"), ("omit", "omit"), ("blksize", "blksize"),
    ("tos", "tos")]

/-- `/raw/start/test_start/{name}`. -/
def testStartPath (name : String) : PyStr :=
  PyStr.ofString "/raw/start/test_start/" ++ PyStr.ofString name

def verifyNumber (testStart : PyDict) (effective : List (String × VerifiedSetting))
    (name : String × String) : Except Exc (List (String × VerifiedSetting)) := do
  let value ← optionalInteger testStart name.2
  return verify? effective name.1 (value.map PyVal.int) (testStartPath name.2)

/-- The settings that the protocol and the flags verify. -/
def verifyModes (ctx : Context) (effective : List (String × VerifiedSetting)) :
    List (String × VerifiedSetting) :=
  let effective := verify? effective "protocol" (ctx.protocol.map fun p => .lit p.text)
    (testStartPath "protocol")
  let effective := verify? effective "reverse" (ctx.modes.reverse.map .bool) (testStartPath "reverse")
  verify? effective "bidirectional" (ctx.modes.explicit.map fun _ => .bool ctx.modes.bidirectional)
    (testStartPath (if ctx.modes.nativeBidir.isSome then "bidir" else "bidirectional"))

/-- The rate of the test or else of the root, unless they disagree. -/
def verifyRate (ctx : Context) (effective : List (String × VerifiedSetting)) :
    Normalize (List (String × VerifiedSetting)) := do
  let testRate ← optionalInteger ctx.testStart "target_bitrate"
  let rootRate ← optionalInteger ctx.start "target_bitrate"
  let conflict := testRate.isSome && rootRate.isSome && testRate ≠ rootRate
  when (conflict = true) <| diagnose {
    message := PyStr.ofString "Native target bitrate values disagree; effective rate is unavailable."
    code := "configuration.conflict"
    path := some (PyStr.ofString "/execution/configuration/effective/rate")
    evidencePaths := [PyStr.ofString "/raw/start/target_bitrate", testStartPath "target_bitrate"] }
  return if conflict = true then effective
    else verify? effective "rate" ((testRate.or rootRate).map .int)
      (if testRate.isSome then testStartPath "target_bitrate"
        else PyStr.ofString "/raw/start/target_bitrate")

/-- `start.get("connecting_to", {})`. -/
def connectingTo (start : PyDict) : Except Exc PyDict :=
  match start.get? "connecting_to" with
  | none => .ok []
  | some value => asObject "iperf JSON connecting_to value must be an object" value

/-- `connecting_to["host"]`. -/
def connectingHost (connectingTo : PyDict) : Except Exc (Option PyVal) :=
  match connectingTo.get? "host" with
  | none => .ok none
  | some (.str host) => .ok (some (.str host))
  | some _ => valueError "iperf JSON connecting_to host must be a string"

/-- The server and the port of `connecting_to`. -/
def verifyServer (start : PyDict) (effective : List (String × VerifiedSetting)) :
    Except Exc (List (String × VerifiedSetting)) := do
  let connectingTo ← connectingTo start
  let host ← connectingHost connectingTo
  let effective := verify? effective "server" host (PyStr.ofString "/raw/start/connecting_to/host")
  let port ← optionalInteger connectingTo "port"
  return verify? effective "port" (port.map .int) (PyStr.ofString "/raw/start/connecting_to/port")

/-- `effective`. -/
def effectiveSettings (ctx : Context) : Normalize (List (String × VerifiedSetting)) := do
  let unavailable := legacyConfigFields.map fun name => (name, ({} : VerifiedSetting))
  let effective ← liftM (numberSettings.foldlM (verifyNumber ctx.testStart) unavailable)
  let effective ← verifyRate ctx (verifyModes ctx effective)
  verifyServer ctx.start effective

/-! ## Processors -/

/-- The endpoint of a locality. -/
def endpointOf (role : Option ReportingRole) : Locality → Option ReportingRole
  | .localHost => role
  | .remoteHost => role.map fun
    | .client => .server
    | .server => .client

/-- A share of the load, which the reporting endpoint may not have measured. -/
def addShare (ctx : Context) (nativeCpu : PyDict) (index : ℕ) (locality : Locality)
    (item : EndpointCpuEvidence) (share : String × String) : Normalize EndpointCpuEvidence := do
  let fieldName := share.1
  match ← optionalNumber nativeCpu share.2 with
  | none => return item
  | some value =>
    let source := PyStr.ofString "/raw/end/cpu_utilization_percent/" ++ PyStr.ofString share.2
    if (locality = .remoteHost ∧ ctx.reportingRole ≠ some .client) ∨
        qualifiedNative ctx.start = false then
      let path := PyStr.ofString "/cpu/" ++ natText index ++ PyStr.ofString "/" ++
        PyStr.ofString fieldName
      let evidence := [source, PyStr.ofString "/reporting_role", PyStr.ofString "/raw/start/version",
        PyStr.ofString "/raw/start/system_info"]
      setAvailability path .unknown evidence
      diagnose {
        message := PyStr.ofString "CPU measurement lacks a qualified producer or final remote measurement at this reporting endpoint."
        code := "provenance.unknown"
        path := some path
        evidencePaths := evidence }
      return item
    else
      let item := { item with evidencePaths := item.evidencePaths ++ [(fieldName, source)] }
      return if fieldName = "total_percent" then { item with totalPercent := some value }
        else if fieldName = "user_percent" then { item with userPercent := some value }
        else { item with systemPercent := some value }

/-- The names of the shares of a locality. -/
def sharesOf (start : String) : List (String × String) :=
  [("total_percent", start ++ "_total"), ("user_percent", start ++ "_user"),
    ("system_percent", start ++ "_system")]

/-- The body of the loop over the localities. -/
def addCpu (ctx : Context) (nativeCpu : PyDict) (cpu : List EndpointCpuEvidence)
    (locality : Locality × String) : Normalize (List EndpointCpuEvidence) :=
  if (sharesOf locality.2).any (fun share => isPresent nativeCpu share.2) = false then return cpu
  else do
    let endpoint := endpointOf ctx.reportingRole locality.1
    let item ← (sharesOf locality.2).foldlM (addShare ctx nativeCpu cpu.length locality.1)
      { endpoint := endpoint, locality := locality.1 }
    when (endpoint = none) <| diagnose {
      message := PyStr.ofString "CPU endpoint identity is unknown; locality is retained."
      code := "provenance.unknown"
      path := some (PyStr.ofString "/cpu/" ++ natText cpu.length ++ PyStr.ofString "/endpoint")
      evidencePaths := [PyStr.ofString "/reporting_role"] }
    return cpu ++ [item]

/-- `cpu`. -/
def readCpu (ctx : Context) : Normalize (List EndpointCpuEvidence) :=
  match ctx.endData.get? "cpu_utilization_percent" with
  | none | some .none => return []
  | some value => do
    let nativeCpu ← asObject "iperf JSON cpu_utilization_percent must be an object" value
    [(Locality.localHost, "host"), (.remoteHost, "remote")].foldlM (addCpu ctx nativeCpu) []

/-! ## The result -/

/-- The error of the result: the native one, or that nothing was measured at the end. -/
def readOutcome (nativeError : Option PyStr) : Normalize (Option PyStr) := do
  match nativeError with
  | some error =>
    diagnose {
      message :=
        if error = [] then PyStr.ofString "Native JSON contains an empty error message." else error
      severity := .error
      code := "native.error"
      path := some (PyStr.ofString "/error")
      evidencePaths := [PyStr.ofString "/raw/error"] }
    return some error
  | none =>
    if (← get).hasEndMeasurements = true then return none
    else
      let error := PyStr.ofString "Incomplete native JSON: no end-of-test endpoint measurements."
      diagnose {
        message := error
        severity := .error
        code := "native.incomplete"
        path := some (PyStr.ofString "/execution/status")
        evidencePaths := [PyStr.ofString "/raw/end"] }
      return some error

/-- `started_at + duration`. -/
def plus : PyNum → PyNum → PyNum
  | .int m, .int n => .int (m + n)
  | .int m, .float y => .float ((PyFloat.ofInt m).add y)
  | .float x, .int n => .float (x.add (PyFloat.ofInt n))
  | .float x, .float y => .float (x.add y)

/-- The value of a field that may be absent. -/
def fieldValue (data : PyDict) (name : String) : PyVal := (data.get? name).getD .none

/-- `"completed" if ok else "failed" if native_error is not None else "incomplete"`. -/
def statusOf (error nativeError : Option PyStr) : NativeStatus :=
  if error = none then .completed else if nativeError ≠ none then .failed else .incomplete

/-- The `ExecutionMetadata` of a document. -/
def executionOf (ctx : Context) (error nativeError : Option PyStr) (startedAt duration : Option PyNum)
    (effective : List (String × VerifiedSetting)) : ExecutionMetadata where
  status := statusOf error nativeError
  method := ctx.modes.method
  timing := {
    nativeStartedAtSeconds := startedAt
    requestedDurationSeconds := duration
    estimatedCompletedAtSeconds :=
      if error = none then startedAt.bind fun s => duration.map (plus s) else none }
  configuration := { effective := effective }
  nativeVersion := fieldValue ctx.start "version"
  nativeSystemInfo := fieldValue ctx.start "system_info"

/-- `end_stats` of the primary flow. -/
def endStatsOf (flows : List FlowStats) : Option EndStats :=
  flows.head?.bind fun primary =>
    if primary.sender = none ∧ primary.receiver = none then none
    else some ⟨primary.sender, primary.receiver⟩

/-- The steps of `result_from_iperf_json` up to the notes. -/
def normalize (raw : PyDict) (given : Option ReportingRole) : Normalize Result := do
  let nativeError ← readError raw
  let ctx ← readContext raw given
  let flows ← (flowSources ctx.modes).zipIdx.mapM (readFlow ctx)
  let shape ← readShape raw ctx.endData
  let intervals ← shape.intervals.zipIdx.foldlM (addInterval ctx shape.senders) []
  let streams ← shape.endStreams.zipIdx.mapM (readStream ctx shape.senders)
  let error ← readOutcome nativeError
  let startedAt ← optionalNumber ctx.timestamp "timesecs"
  let duration ← optionalNumber ctx.testStart "duration"
  let effective ← effectiveSettings ctx
  let cpu ← readCpu ctx
  return {
    ok := error.isNone
    error := error
    raw := raw
    endStats := endStatsOf flows
    protocol := ctx.protocol
    bidirectional := ctx.modes.bidirectional
    flows := flows
    intervals := intervals
    startedAtSeconds := startedAt
    durationSeconds := duration
    reportingRole := ctx.reportingRole
    execution := some (executionOf ctx error nativeError startedAt duration effective)
    streams := streams
    cpu := cpu }

/-- `result_from_iperf_json`. -/
def resultFromIperfJson (raw : PyVal) (given : Option ReportingRole) : Except Exc Result :=
  match raw with
  | .dict raw => do
    let (result, notes) ← (normalize raw given).run {}
    return { result with diagnostics := notes.diagnostics, availability := notes.availability }
  | _ => valueError "iperf JSON root must be an object"

end Iperf3Lib.Results
