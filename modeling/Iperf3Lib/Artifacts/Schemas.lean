import Iperf3Lib.Artifacts.Codec

/-!
# The schemas of the artifact

`_SCHEMAS`, one specification a dataclass. They refer to each other without a cycle, so that each
stands as a tree.
-/

namespace Iperf3Lib.Artifacts

namespace Spec

def json : Spec := .scalar .json
def jsonObject : Spec := .scalar .jsonObject
def extensions : Spec := .scalar .extensions
def string : Spec := .scalar .string
def nonemptyString : Spec := .scalar .nonemptyString
def pointer : Spec := .scalar .pointer
def boolean : Spec := .scalar .boolean
def count : Spec := .scalar .count
def integer : Spec := .scalar .integer
def number : Spec := .scalar .number
def nonnegativeNumber : Spec := .scalar .nonnegativeNumber
def percent : Spec := .scalar .percent

end Spec

/-- `_enum(*_DIRECTIONS)`. -/
def directions : Spec := .enum ["client_to_server", "server_to_client", "unknown"]

/-- `_enum("sender", "receiver")`. -/
def observations : Spec := .enum ["sender", "receiver"]

/-- `_MEASUREMENTS`. -/
def measurements : Schema :=
  [("bits_per_second", .optional .nonnegativeNumber),
    ("retransmits", .optional .count),
    ("lost_percent", .optional .percent),
    ("jitter_ms", .optional .nonnegativeNumber),
    ("bytes", .optional .count),
    ("duration_seconds", .optional .nonnegativeNumber),
    ("start_seconds", .optional .number),
    ("end_seconds", .optional .number),
    ("packets", .optional .count),
    ("lost_packets", .optional .count),
    ("omitted", .optional .boolean)]

def artifactProducer : Spec :=
  .model "ArtifactProducer" [("name", .nonemptyString), ("version", .nonemptyString)]

def tcpIntervalEvidence : Spec :=
  .model "TcpIntervalEvidence"
    [("smoothed_rtt_seconds", .optional .nonnegativeNumber),
      ("rtt_variation_seconds", .optional .nonnegativeNumber),
      ("send_congestion_window_bytes", .optional .count),
      ("advertised_send_window_bytes", .optional .count),
      ("path_mtu_bytes", .optional .count),
      ("evidence_paths", .mapping .pointer)]

def tcpSummaryEvidence : Spec :=
  .model "TcpSummaryEvidence"
    [("minimum_sampled_rtt_seconds", .optional .nonnegativeNumber),
      ("maximum_sampled_rtt_seconds", .optional .nonnegativeNumber),
      ("native_mean_sampled_rtt_seconds", .optional .nonnegativeNumber),
      ("maximum_send_congestion_window_bytes", .optional .count),
      ("maximum_advertised_send_window_bytes", .optional .count),
      ("evidence_paths", .mapping .pointer)]

def endpointCpuEvidence : Spec :=
  .model "EndpointCpuEvidence"
    [("endpoint", .enum ["client", "server", "unknown"]),
      ("locality", .enum ["local", "remote"]),
      ("scope", .enum ["iperf_process"]),
      ("total_percent", .optional .nonnegativeNumber),
      ("user_percent", .optional .nonnegativeNumber),
      ("system_percent", .optional .nonnegativeNumber),
      ("evidence_paths", .mapping .pointer)]

def runTiming : Spec :=
  .model "RunTiming"
    [("started_at_seconds", .optional .number),
      ("completed_at_seconds", .optional .number),
      ("elapsed_seconds", .optional .nonnegativeNumber),
      ("native_started_at_seconds", .optional .number),
      ("requested_duration_seconds", .optional .nonnegativeNumber),
      ("estimated_completed_at_seconds", .optional .number)]

def verifiedSetting : Spec :=
  .model "VerifiedSetting"
    [("value", .json),
      ("state", .enum ["verified", "unavailable", "unsupported"]),
      ("evidence_paths", .array .pointer)]

def configurationSnapshot : Spec :=
  .model "ConfigurationSnapshot"
    [("requested", .optional .jsonObject), ("effective", .mapping verifiedSetting)]

def executionMetadata : Spec :=
  .model "ExecutionMetadata"
    [("status", .enum ["completed", "failed", "incomplete"]),
      ("method", .enum ["forward", "reverse", "bidirectional", "unknown"]),
      ("timing", runTiming),
      ("configuration", configurationSnapshot),
      ("native_version", .optional .nonemptyString),
      ("native_system_info", .optional .nonemptyString),
      ("python_version", .optional .nonemptyString),
      ("platform", .optional .string)]

def fieldAvailability : Spec :=
  .model "FieldAvailability"
    [("state", .enum ["absent", "unsupported", "malformed", "unknown"]),
      ("evidence_paths", .array .pointer)]

def sumStats : Spec :=
  .model "SumStats" (measurements ++
    [("direction", .optional directions),
      ("observation", .optional observations),
      ("tcp", .optional tcpSummaryEvidence)])

def flowStats : Spec :=
  .model "FlowStats"
    [("direction", directions),
      ("sender", .optional sumStats),
      ("receiver", .optional sumStats)]

def streamStats : Spec :=
  .model "StreamStats"
    [("direction", directions),
      ("stream_id", .optional .count),
      ("sender", .optional sumStats),
      ("receiver", .optional sumStats),
      ("unattributed", .optional sumStats)]

def intervalStats : Spec :=
  .model "IntervalStats" (measurements ++
    [("direction", directions),
      ("observation", .optional observations),
      ("stream_id", .optional .count),
      ("scope", .enum ["aggregate", "stream", "unknown"]),
      ("tcp", .optional tcpIntervalEvidence)])

def endStats : Spec :=
  .model "EndStats" [("sum_sent", .optional sumStats), ("sum_received", .optional sumStats)]

def diagnostic : Spec :=
  .model "Diagnostic"
    [("message", .string),
      ("severity", .enum ["info", "warning", "error"]),
      ("code", .nonemptyString),
      ("path", .optional .pointer),
      ("evidence_paths", .array .pointer)]

def result : Spec :=
  .model "Result"
    [("ok", .boolean),
      ("error", .optional .string),
      ("raw", .jsonObject),
      ("end", .optional endStats),
      ("protocol", .optional (.enum ["tcp", "udp", "sctp"])),
      ("bidirectional", .boolean),
      ("flows", .array flowStats),
      ("intervals", .array intervalStats),
      ("diagnostics", .array diagnostic),
      ("started_at_seconds", .optional .number),
      ("duration_seconds", .optional .nonnegativeNumber),
      ("completed_at_seconds", .optional .number),
      ("reporting_role", .optional (.enum ["client", "server"])),
      ("execution", .optional executionMetadata),
      ("streams", .array streamStats),
      ("availability", .mapping fieldAvailability),
      ("extensions", .extensions),
      ("cpu", .array endpointCpuEvidence)]

def resultArtifact : Spec :=
  .model "ResultArtifact"
    [("result", result),
      ("producer", artifactProducer),
      ("schema_version", .integer),
      ("kind", .string),
      ("extensions", .extensions)]

/-- The keys of `_SCHEMAS`, as far as a result holds instances of them, with their fields. -/
def schemas : List (String × Schema) :=
  [tcpIntervalEvidence, tcpSummaryEvidence, endpointCpuEvidence, runTiming, verifiedSetting,
    configurationSnapshot, executionMetadata, fieldAvailability, sumStats, flowStats, streamStats,
    intervalStats, endStats, diagnostic, result, artifactProducer, resultArtifact].filterMap fun
      | .model cls schema => some (cls, schema)
      | _ => none

end Iperf3Lib.Artifacts
