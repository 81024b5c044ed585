import Iperf3Lib.Result.Context

/-!
# Measurements of a document

The closures of `result_from_iperf_json` that read a summary or an interval: `_retransmits`,
`_tcp_evidence`, `_sum`, `_stream_provenance` and `_interval`.
-/

namespace Iperf3Lib.Results

open Py

/-! ## Retransmissions -/

/-- `"unsupported"` for a producer whose counters are known, else `"unknown"`. -/
def unavailableState (start : PyDict) : AvailabilityState :=
  if isKnownVersion start = true then .unsupported else .unknown

/-- `_retransmits` of a document over SCTP: the value means nothing. -/
def sctpRetransmits (ctx : Context) (canonicalPath sourcePath : PyStr) : Normalize Unit := do
  let state := unavailableState ctx.start
  let path := canonicalPath ++ PyStr.ofString "/retransmits"
  let evidence := [sourcePath ++ PyStr.ofString "/retransmits",
    PyStr.ofString "/raw/start/test_start/protocol", PyStr.ofString "/raw/start/version"]
  setAvailability path state evidence
  diagnose {
    message :=
      if isKnownVersion ctx.start = true then PyStr.ofString
        "This native producer does not collect SCTP retransmissions; emitted values are unsupported."
      else PyStr.ofString
        "SCTP retransmission measurement support is unknown for this native producer."
    code := s!"measurement.{state.text}"
    path := some path
    evidencePaths := evidence }

/-- `_retransmits`. -/
def retransmits (ctx : Context) (data : PyDict) (canonicalPath sourcePath : PyStr) :
    Normalize (Option ℤ) :=
  if isPresent data "retransmits" = true ∧ ctx.protocol = some .sctp then
    match data.get? "retransmits" with
    | some (.int _) => do
      sctpRetransmits ctx canonicalPath sourcePath
      return none
    | _ => liftM (valueError "iperf JSON SCTP retransmits must be an integer" :
        Except Exc (Option ℤ))
  else liftM (optionalInteger data "retransmits")

/-! ## Samples of the local socket -/

/-- A sample of `TCP_INFO`: the name of the field, its value and where it stands. -/
structure TcpSample where
  field : String
  value : ℤ
  pointer : PyStr

/-- The body of the loop over `names`. -/
def tcpSample (ctx : Context) (data : PyDict) (canonicalPath sourcePath : PyStr)
    (name : String × String) : Normalize (Option TcpSample) := do
  let pointer := sourcePath ++ PyStr.ofString "/" ++ PyStr.ofString name.2
  match data.get? name.2 with
  | none | some .none => return none
  | some (.int value) =>
    if value = -1 then
      let state := unavailableState ctx.start
      let path := canonicalPath ++ PyStr.ofString "/tcp/" ++ PyStr.ofString name.1
      let evidence := [pointer, PyStr.ofString "/raw/start/version"]
      setAvailability path state evidence
      diagnose {
        message := PyStr.ofString "Native TCP getter returned an unavailable sentinel."
        code := s!"measurement.{state.text}"
        path := some path
        evidencePaths := evidence }
      return none
    else
      liftM (reject (value < 0) (PyStr.ofString "iperf JSON " ++ PyStr.ofString name.2 ++
        PyStr.ofString " must be non-negative or the -1 sentinel"))
      return some ⟨name.1, value, pointer⟩
  | some _ => liftM (valueError (PyStr.ofString "iperf JSON " ++ PyStr.ofString name.2 ++
      PyStr.ofString " must be an integer") : Except Exc (Option TcpSample))

/-- `_tcp_evidence` up to the samples; without a local sender of a known producer there are none. -/
def tcpSamples (ctx : Context) (data : PyDict) (names : List (String × String))
    (canonicalPath sourcePath : PyStr) (attributable : Bool) : Normalize (Option (List TcpSample)) :=
  if ctx.protocol ≠ some .tcp ∨ names.any (fun name => isPresent data name.2) = false then
    return none
  else do
    let sender ← optionalFlag data "sender"
    if sender = some true ∧ attributable = true ∧ qualifiedNative ctx.start = true then
      let samples ← names.mapM (tcpSample ctx data canonicalPath sourcePath)
      return some samples.reduceOption
    else
      let path := canonicalPath ++ PyStr.ofString "/tcp"
      let evidence := [sourcePath, sourcePath ++ PyStr.ofString "/sender",
        PyStr.ofString "/raw/start/version", PyStr.ofString "/raw/start/system_info"]
      setAvailability path .unknown evidence
      diagnose {
        message :=
          PyStr.ofString "TCP evidence lacks a qualified producer or attributable local sender."
        code := "provenance.unknown"
        path := some path
        evidencePaths := evidence }
      return none

/-- `values.get(field_name)`. -/
def sampleOf (samples : List TcpSample) (field : String) : Option ℤ :=
  (samples.find? fun sample => sample.field = field).map TcpSample.value

/-- `value / 1_000_000`. -/
def microseconds (value : ℤ) : Except Exc PyFloat :=
  let quotient := PyFloat.ofRat (value / 1000000) false
  if quotient.isFinite = true then .ok quotient
  else .error ⟨.overflowError, ("integer division result too large for a float" : String)⟩

/-- `_seconds`. -/
def secondsOf (samples : List TcpSample) (field : String) : Except Exc (Option PyFloat) :=
  match sampleOf samples field with
  | none => .ok none
  | some value => (microseconds value).map some

/-- The native names of a summary's samples. -/
def summaryNames : List (String × String) :=
  [("minimum_sampled_rtt_seconds", "min_rtt"), ("maximum_sampled_rtt_seconds", "max_rtt"),
    ("native_mean_sampled_rtt_seconds", "mean_rtt"),
    ("maximum_send_congestion_window_bytes", "max_snd_cwnd"),
    ("maximum_advertised_send_window_bytes", "max_snd_wnd")]

/-- The native names of an interval's samples. -/
def intervalNames : List (String × String) :=
  [("smoothed_rtt_seconds", "rtt"), ("rtt_variation_seconds", "rttvar"),
    ("send_congestion_window_bytes", "snd_cwnd"), ("advertised_send_window_bytes", "snd_wnd"),
    ("path_mtu_bytes", "pmtu")]

def evidencePathsOf (samples : List TcpSample) : List (String × PyStr) :=
  samples.map fun sample => (sample.field, sample.pointer)

/-- The `TcpSummaryEvidence` of the samples. -/
def summaryEvidence (samples : List TcpSample) : Except Exc TcpSummaryEvidence := do
  let minimum ← secondsOf samples "minimum_sampled_rtt_seconds"
  let maximum ← secondsOf samples "maximum_sampled_rtt_seconds"
  let mean ← secondsOf samples "native_mean_sampled_rtt_seconds"
  return {
    minimumSampledRttSeconds := minimum
    maximumSampledRttSeconds := maximum
    nativeMeanSampledRttSeconds := mean
    maximumSendCongestionWindowBytes := sampleOf samples "maximum_send_congestion_window_bytes"
    maximumAdvertisedSendWindowBytes := sampleOf samples "maximum_advertised_send_window_bytes"
    evidencePaths := evidencePathsOf samples }

/-- The `TcpIntervalEvidence` of the samples. -/
def intervalEvidence (samples : List TcpSample) : Except Exc TcpIntervalEvidence := do
  let smoothed ← secondsOf samples "smoothed_rtt_seconds"
  let variation ← secondsOf samples "rtt_variation_seconds"
  return {
    smoothedRttSeconds := smoothed
    rttVariationSeconds := variation
    sendCongestionWindowBytes := sampleOf samples "send_congestion_window_bytes"
    advertisedSendWindowBytes := sampleOf samples "advertised_send_window_bytes"
    pathMtuBytes := sampleOf samples "path_mtu_bytes"
    evidencePaths := evidencePathsOf samples }

/-- `_tcp_evidence` with `build` for the evidence of the samples. -/
def tcpEvidence {α : Type} (ctx : Context) (data : PyDict) (names : List (String × String))
    (build : List TcpSample → Except Exc α) (canonicalPath sourcePath : PyStr)
    (attributable : Bool) : Normalize (Option α) := do
  match ← tcpSamples ctx data names canonicalPath sourcePath attributable with
  | none => return none
  | some samples =>
    let evidence ← build samples
    return some evidence

/-! ## The senders of a socket -/

/-- `socket_senders`: the local sender flags that the document gives for a socket. -/
abbrev SocketSenders := List (ℤ × Bool)

/-- `socket_senders.get(socket, set())`. -/
def sendersOf (records : SocketSenders) (socket : Option ℤ) : List Bool :=
  match socket with
  | none => []
  | some n => [false, true].filter fun sender => (n, sender) ∈ records

/-! ## Summaries -/

/-- `name.replace(".", "/")` behind `/raw/`. -/
def rawPath (name : PyStr) : PyStr :=
  PyStr.ofString "/raw/" ++ name.map fun c => if c = .scalar '.' then .scalar '/' else c

/-- `tcp` of a summary: only the sender observation of an end stream has samples. -/
def summaryTcp (ctx : Context) (records : SocketSenders) (data : PyDict) (name : PyStr)
    (observation : Option ObservationPoint) (canonicalPath : PyStr) :
    Normalize (Option TcpSummaryEvidence) :=
  if (PyStr.ofString "end.streams.").isPrefixOf name = true ∧ observation = some .sender then
    tcpEvidence ctx data summaryNames summaryEvidence canonicalPath (rawPath name)
      ((sendersOf records (PyDict.int? data "socket")).length ≤ 1)
  else return none

/-- `_sum`. -/
def readSum (ctx : Context) (records : SocketSenders) (value : Option PyVal) (name : PyStr)
    (direction : FlowDirection) (observation : Option ObservationPoint) (canonicalPath : PyStr) :
    Normalize (Option SumStats) :=
  match value with
  | none | some .none => return none
  | some (.dict data) => do
    let bitsPerSecond ← optionalNumber data "bits_per_second"
    let lostPercent ← optionalNumber data "lost_percent"
    let jitterMs ← optionalNumber data "jitter_ms"
    let bytes ← optionalInteger data "bytes"
    let seconds ← optionalNumber data "seconds"
    let packets ← optionalInteger data "packets"
    let lostPackets ← optionalInteger data "lost_packets"
    let retransmits ← retransmits ctx data canonicalPath (rawPath name)
    when (bitsPerSecond.isSome || lostPercent.isSome || jitterMs.isSome || bytes.isSome ||
      packets.isSome || lostPackets.isSome || retransmits.isSome) measured
    when (bitsPerSecond = none) <| diagnose {
      message := PyStr.ofString "Native " ++ name ++ PyStr.ofString ".bits_per_second is missing."
      code := "measurement.absent"
      path := some (canonicalPath ++ PyStr.ofString "/bits_per_second")
      evidencePaths := [rawPath name ++ PyStr.ofString "/bits_per_second"] }
    let startSeconds ← optionalNumber data "start"
    let endSeconds ← optionalNumber data "end"
    let omitted ← optionalFlag data "omitted"
    let tcp ← summaryTcp ctx records data name observation canonicalPath
    return some {
      bitsPerSecond := bitsPerSecond
      retransmits := retransmits
      lostPercent := lostPercent
      jitterMs := jitterMs
      direction := some direction
      observation := observation
      bytes := bytes
      durationSeconds := seconds
      startSeconds := startSeconds
      endSeconds := endSeconds
      packets := packets
      lostPackets := lostPackets
      omitted := omitted
      tcp := tcp }
  | some _ => liftM (valueError "iperf JSON summary values must be objects" :
      Except Exc (Option SumStats))

/-! ## The direction of a stream -/

/-- What `_stream_provenance` returns. -/
structure Provenance where
  streamId : Option ℤ
  sender : Option Bool
  direction : FlowDirection
deriving DecidableEq

/-- What is wrong with the provenance of a stream. -/
inductive Complaint where
  | conflictingSenders
  | unknownBidirectional
  | conflictingDirection
deriving DecidableEq, Repr

/-- `{stream_id}`. -/
def socketText : Option ℤ → PyStr
  | none => PyStr.ofString "None"
  | some n => (Json.intRepr n).map .scalar

def Complaint.message (streamId : Option ℤ) : Complaint → PyStr
  | .conflictingSenders => PyStr.ofString "Conflicting native sender provenance for socket " ++
      socketText streamId ++ PyStr.ofString "."
  | .unknownBidirectional => PyStr.ofString "Bidirectional stream direction is unknown without reporting role and local sender provenance."
  | .conflictingDirection => PyStr.ofString "Native sender provenance for socket " ++
      socketText streamId ++ PyStr.ofString " conflicts with test direction."

def Complaint.code : Complaint → String
  | .unknownBidirectional => "provenance.unknown"
  | .conflictingSenders | .conflictingDirection => "provenance.conflict"

/-- The direction in which the local sender flag of the reporting endpoint points. -/
def sentDirection (role : ReportingRole) (sender : Bool) : FlowDirection :=
  if decide (role = .client) = sender then .clientToServer else .serverToClient

/-- The local sender flag and the direction of a stream, with what is wrong about them. -/
structure Attribution where
  sender : Option Bool
  direction : FlowDirection
  complaint : Option Complaint := none
deriving DecidableEq

/-- The attribution of a stream with a local sender flag and the flags that its socket has anywhere. -/
def attributed (role : Option ReportingRole) (modes : Modes) (flag : Option Bool)
    (senders : List Bool) : Attribution :=
  let direction := modes.primaryDirection
  if 1 < senders.length then ⟨none, .unknown, some .conflictingSenders⟩
  else
    match role, flag.or senders.head? with
    | some role, some sender =>
      if modes.bidirectional = true then ⟨some sender, sentDirection role sender, none⟩
      else if direction ≠ .unknown ∧
          sender ≠ decide (decide (role = .client) = decide (direction = .clientToServer)) then
        ⟨some sender, .unknown, some .conflictingDirection⟩
      else ⟨some sender, direction, none⟩
    | _, sender =>
      if modes.bidirectional = true then ⟨sender, .unknown, some .unknownBidirectional⟩
      else ⟨sender, direction, none⟩

/-- The diagnostic about a stream. -/
def complain (streamId : Option ℤ) (sourcePath : PyStr) (complaint : Complaint) : Normalize Unit :=
  diagnose {
    message := complaint.message streamId
    code := complaint.code
    evidencePaths := [sourcePath] }

/-- `_stream_provenance`. -/
def streamProvenance (ctx : Context) (records : SocketSenders) (data : PyDict) (sourcePath : PyStr) :
    Normalize Provenance := do
  let streamId ← optionalInteger data "socket"
  let flag ← optionalFlag data "sender"
  let attribution := attributed ctx.reportingRole ctx.modes flag (sendersOf records streamId)
  attribution.complaint.forM (complain streamId sourcePath)
  return ⟨streamId, attribution.sender, attribution.direction⟩

/-! ## Intervals -/

/-- `"sender" if sender else "receiver"`. -/
def observerOf (sender : Bool) : ObservationPoint := if sender = true then .sender else .receiver

/-- What is noted of an interval with missing fields. -/
def diagnoseInterval (canonicalPath sourcePath : PyStr) (startSeconds endSeconds bitrate : Option PyNum)
    (observation : Option ObservationPoint) : Normalize Unit := do
  when (startSeconds = none ∨ endSeconds = none) <| diagnose {
    message := PyStr.ofString "Native interval boundaries are missing; elapsed time is unknown."
    code := "measurement.absent"
    path := some canonicalPath
    evidencePaths := [sourcePath] }
  when (bitrate = none) <| diagnose {
    message := PyStr.ofString "Native interval throughput is missing."
    code := "measurement.absent"
    path := some (canonicalPath ++ PyStr.ofString "/bits_per_second")
    evidencePaths := [sourcePath ++ PyStr.ofString "/bits_per_second"] }
  when (observation = none) <| do
    diagnose {
      message := PyStr.ofString "Native interval observation is unknown because sender provenance is missing."
      code := "provenance.unknown"
      path := some (canonicalPath ++ PyStr.ofString "/observation")
      evidencePaths := [sourcePath] }
    setAvailability (canonicalPath ++ PyStr.ofString "/observation") .unknown [sourcePath]

/-- `tcp` of an interval: only a stream has samples. -/
def intervalTcp (ctx : Context) (data : PyDict) (scope : Scope) (observation : Option ObservationPoint)
    (canonicalPath sourcePath : PyStr) : Normalize (Option TcpIntervalEvidence) :=
  if scope = .stream then
    tcpEvidence ctx data intervalNames intervalEvidence canonicalPath sourcePath
      (observation = some .sender)
  else return none

/-- `_interval`, the `index`-th one. -/
def readInterval (ctx : Context) (index : ℕ) (data : PyDict) (direction : FlowDirection)
    (observation : Option ObservationPoint) (streamId : Option ℤ) (scope : Scope)
    (sourcePath : PyStr) : Normalize IntervalStats := do
  let canonicalPath := PyStr.ofString "/intervals/" ++ natText index
  let startSeconds ← optionalNumber data "start"
  let endSeconds ← optionalNumber data "end"
  let bitrate ← optionalNumber data "bits_per_second"
  diagnoseInterval canonicalPath sourcePath startSeconds endSeconds bitrate observation
  let bytes ← optionalInteger data "bytes"
  let seconds ← optionalNumber data "seconds"
  let omitted ← optionalFlag data "omitted"
  let packets ← optionalInteger data "packets"
  let lostPackets ← optionalInteger data "lost_packets"
  let retransmits ← retransmits ctx data canonicalPath sourcePath
  let lostPercent ← optionalNumber data "lost_percent"
  let jitterMs ← optionalNumber data "jitter_ms"
  let tcp ← intervalTcp ctx data scope observation canonicalPath sourcePath
  return {
    startSeconds := startSeconds
    endSeconds := endSeconds
    bitsPerSecond := bitrate
    direction := direction
    observation := observation
    streamId := streamId
    scope := scope
    bytes := bytes
    durationSeconds := seconds
    omitted := omitted
    packets := packets
    lostPackets := lostPackets
    retransmits := retransmits
    lostPercent := lostPercent
    jitterMs := jitterMs
    tcp := tcp }

end Iperf3Lib.Results
