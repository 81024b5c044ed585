import Iperf3Lib.Artifacts.Codec
import Iperf3Lib.ConfigDict

/-!
# Requested and effective settings

`_validate_configuration` of an artifact: the requested configuration is one that the constructor
admits, every effective setting cites its evidence, and a setting that differs from the request is
related to a diagnostic.
-/

namespace Iperf3Lib.Artifacts

open Py

/-! ## Diagnostics and receipts -/

/-- `_related_diagnostic`. -/
def relatedDiagnostic (result : PyVal) (path : PyStr) (evidence : PyVal) : Except Exc Bool := do
  let evidence ← evidence.items
  let diagnostics ← (← result.attr "diagnostics").items
  diagnostics.anyM fun diagnostic => do
    let target ← diagnostic.attr "path"
    let cited ← (← diagnostic.attr "evidence_paths").items
    return target.eq (.str path) || cited.any fun p => evidence.any fun q => p.eq q

/-- `_has_observed_evidence`. -/
def receiptObserved (maxStrDigits : ℕ) (result pointers : PyVal) : Except Exc Bool :=
  match hasObservedEvidence maxStrDigits result pointers with
  | .ok found => .ok found
  | .error e => if e.cls = .valueError then fail [] e.message else .error e

/-! ## Typed settings -/

/-- `minimum <= value <= maximum` of a converted integer. -/
def withinBounds (minimum maximum : ℤ) : PyVal → Bool
  | .int n => minimum ≤ n && n ≤ maximum
  | _ => false

/-- The specification of a setting among the legacy fields. -/
def legacySpec (key : PyStr) : Spec :=
  if key = PyStr.ofString "server" then .scalar .nonemptyString
  else if key = PyStr.ofString "protocol" then .enum ["tcp", "udp", "sctp"]
  else if key ∈ ["reverse", "bidirectional", "mptcp", "json_stream"].map PyStr.ofString then
    .scalar .boolean
  else .scalar .count

/-- `_CONFIG_BOUNDS`. -/
def configBounds : List (String × ℤ × ℤ) :=
  [("port", 1, 65535), ("duration", 0, 86400), ("parallel", 1, 128), ("omit", 0, 600),
    ("blksize", 1, 1024 * 1024), ("rate", 0, 2 ^ 64 - 1), ("tos", 0, 255)]

/-- The bounds on an observed setting beyond the legacy fields. -/
def extendedBounds : List (String × ℤ × ℤ) :=
  [("client_port", 0, 65535), ("socket_buffer_bytes", 0, 2 ^ 31 - 1), ("mss", 0, 65535),
    ("connect_timeout_ms", -1, 2 ^ 31 - 1), ("bytes_to_send", 0, 2 ^ 64 - 1),
    ("blocks_to_send", 0, 2 ^ 64 - 1), ("pacing_timer_us", 0, 2 ^ 31 - 1),
    ("fq_rate_bps", 0, 2 ^ 64 - 1), ("burst_packets", 0, 1000), ("flow_label", 0, 0xFFFFF),
    ("sctp_streams", 0, 65535), ("affinity", -1, 1024), ("server_affinity", -1, 1024),
    ("receive_timeout_ms", 0, 86400000), ("send_timeout_ms", 0, 86400000)]

/-- `bounds[key]`. -/
def boundsOf (bounds : List (String × ℤ × ℤ)) (key : PyStr) : Except Exc (ℤ × ℤ) :=
  match bounds.find? fun bound => PyStr.ofString bound.1 = key with
  | some bound => .ok bound.2
  | none => .error ⟨.keyError, key⟩

/-- An integer setting within its bounds; the kind of value stands in the message. -/
def convertBounded (scalar : Scalar) (kind : String) (bounds : List (String × ℤ × ℤ)) (key : PyStr)
    (value : PyVal) (path : PyStr) : Except Exc Unit := do
  let value ← convert false (.scalar scalar) value path
  let (minimum, maximum) ← boundsOf bounds key
  failIf (withinBounds minimum maximum value = false) path
    (s!"expected {kind} between {minimum} and {maximum}" : String)

/-- `interval == 0 or 0.1 <= interval <= 60`; the float 0.1 is 3602879701896397 / 2 ^ 55. -/
def isInterval (value : PyVal) : Bool :=
  (value.number?.bind PyNum.value?).any fun q =>
    q = 0 ∨ (3602879701896397 / 2 ^ 55 ≤ q ∧ q ≤ 60)

/-- `"\x00" in value`. -/
def hasNul : PyVal → Bool
  | .str s => PyChar.scalar '\x00' ∈ s
  | _ => false

def booleanSettings : List String :=
  ["no_delay", "zerocopy", "skip_rx_copy", "udp_counters_64bit", "dont_fragment",
    "repeating_payload", "get_server_output", "gsro", "use_pkcs1_padding"]

def textSettings : List String :=
  ["bind_address", "bind_device", "congestion_control", "payload_file", "title", "extra_data",
    "username", "rsa_public_key_path"]

/-- `_extended_setting`. -/
def extendedSetting (name : PyStr) (value : PyVal) (path : PyStr) : Except Exc Unit :=
  if name ∈ booleanSettings.map PyStr.ofString then do
    let _ ← convert false (.scalar .boolean) value path
  else if name ∈ textSettings.map PyStr.ofString then do
    let text ← convert false (.scalar .nonemptyString) value path
    failIf (hasNul text = true) path "string must not contain NUL"
  else if name = PyStr.ofString "address_family" then do
    let _ ← convert false (.enum ["auto", "ipv4", "ipv6"]) value path
  else if name = PyStr.ofString "interval_seconds" then do
    let interval ← convert false (.scalar .nonnegativeNumber) value path
    failIf (isInterval interval = false) path "interval_seconds must be zero or between 0.1 and 60"
  else if name = PyStr.ofString "sctp_bind_addresses" then do
    let items ← (← convert false (.array (.scalar .nonemptyString)) value path).items
    failIf (items.any hasNul = true) path "sctp_bind_addresses must not contain NUL"
  else if name = PyStr.ofString "control_keepalive" then do
    let items ← (← convert false (.array (.scalar .count)) value path).items
    failIf (items.length ≠ 3 ∨ items.all (withinBounds 0 (2 ^ 31 - 1)) = false) path
      "expected three keepalive integers between 0 and 2147483647"
  else convertBounded .integer "an integer" extendedBounds name value path

/-! ## The requested configuration -/

def configurationPath : PyStr := PyStr.ofString "/result/execution/configuration"

def requestedPath : PyStr := configurationPath ++ PyStr.ofString "/requested"

/-- The keys of the stored request. -/
def checkRequestedKeys (requested : PyDict) : Except Exc Unit :=
  let unknown := requested.keys.filter fun key => key ∉ configNames.map PyStr.ofString
  let missing := (legacyConfigFields.map PyStr.ofString).filter fun key => key ∉ requested.keys
  match if unknown = [] then missing else unknown with
  | [] => .ok ()
  | key :: keys =>
    fail (child requestedPath (least key keys))
      "requested configuration must contain all v1 ClientConfig fields"

/-- The body of the loop over the request. -/
def checkRequestedField (key : PyStr) (value : PyVal) : Except Exc Unit :=
  let path := child requestedPath key
  if key ∉ legacyConfigFields.map PyStr.ofString then .ok ()
  else if value.isNone = true ∧ key ∈ ["blksize", "rate", "tos", "duration"].map PyStr.ofString then
    .ok ()
  else if legacySpec key matches .scalar .count then
    convertBounded .count "a value" configBounds key value path
  else do
    let _ ← convert false (legacySpec key) value path

/-- `config.requested is not None`: the checks of the request. -/
def validateRequested (parse : IpParser) (requested : PyDict) : Except Exc Unit := do
  checkRequestedKeys requested
  requested.forM fun kv => checkRequestedField kv.1 kv.2
  let reverse ← item requested (PyStr.ofString "reverse")
  let bidirectional ← item requested (PyStr.ofString "bidirectional")
  failIf (reverse.isTrue = true ∧ bidirectional.isTrue = true) requestedPath
    "reverse and bidirectional cannot both be enabled"
  let blockSize ← item requested (PyStr.ofString "blksize")
  let protocol ← item requested (PyStr.ofString "protocol")
  if protocol.isStr "udp" = true ∧ blockSize.isNone = false then
    let path := requestedPath ++ PyStr.ofString "/blksize"
    let blockCount ← convert false (.scalar .count) blockSize path
    failIf (withinBounds 16 65507 blockCount = false) path
      "UDP block size must be between 16 and 65507"
  match ClientConfig.fromDict parse requested with
  | .ok _ => .ok ()
  | .error e =>
    if e.cls = .valueError ∨ e.cls = .typeError then fail requestedPath e.message else .error e

/-! ## Effective settings -/

/-- `s.removeprefix(prefix)`. -/
def withoutPrefix (start s : PyStr) : PyStr := if start.isPrefixOf s then s.drop start.length else s

/-- The checks of a verified setting. -/
def validateVerified (maxStrDigits : ℕ) (result : PyVal) (key : PyStr) (value evidence : PyVal)
    (path : PyStr) : Except Exc Unit := do
  if key ∈ legacyConfigFields.map PyStr.ofString then
    let _ ← convert false (legacySpec key) value (path ++ PyStr.ofString "/value")
  else extendedSetting key value (path ++ PyStr.ofString "/value")
  let found ← receiptObserved maxStrDigits result evidence
  failIf (found = false) (path ++ PyStr.ofString "/evidence_paths")
    "verified settings require existing native raw or extension receipt evidence"

/-- A verified value that is not what was requested; an automatic family may become either one. -/
def disagrees (key : PyStr) (value requested : PyVal) : Bool :=
  !requested.isNone &&
    !(key = PyStr.ofString "address_family" && requested.isStr "auto" &&
      (value.isStr "ipv4" || value.isStr "ipv6")) &&
    !value.eq requested

/-- The body of the loop over the effective settings. -/
def validateSetting (maxStrDigits : ℕ) (result requested : PyVal) (key : PyStr) (setting : PyVal) :
    Except Exc Unit := do
  let path := child (configurationPath ++ PyStr.ofString "/effective") key
  failIf (key ∉ configNames.map PyStr.ofString) path "unknown v1 configuration field"
  let state ← setting.attr "state"
  let value ← setting.attr "value"
  let evidence ← setting.attr "evidence_paths"
  let cited ← evidence.items
  failIf (state.isStr "verified" = false ∧ value.isNone = false) (path ++ PyStr.ofString "/value")
    "unavailable or unsupported settings must have null value"
  failIf ((state.isStr "verified" = true ∨ state.isStr "unsupported" = true) ∧ cited = [])
    (path ++ PyStr.ofString "/evidence_paths") "verified and unsupported settings require evidence"
  failIf (state.isStr "verified" = true ∧ value.isNone = true) (path ++ PyStr.ofString "/value")
    "verified settings must contain an observed value"
  if state.isStr "verified" = true then
    validateVerified maxStrDigits result key value evidence path
    match requested with
    | .dict requested =>
      if disagrees key value ((PyDict.get? requested key).getD .none) = true then
        let related ← relatedDiagnostic result (withoutPrefix (PyStr.ofString "/result") path) evidence
        failIf (related = false) path "effective/requested disagreement requires a diagnostic"
    | _ => pure ()

/-- `_validate_configuration`. -/
def validateConfiguration (parse : IpParser) (maxStrDigits : ℕ) (result execution : PyVal) :
    Except Exc Unit := do
  let configuration ← execution.attr "configuration"
  let requested ← configuration.attr "requested"
  if requested.isNone = false then
    validateRequested parse (← requested.entries)
  let effective ← (← configuration.attr "effective").entries
  effective.forM fun kv => validateSetting maxStrDigits result requested kv.1 kv.2

end Iperf3Lib.Artifacts
