import Iperf3Lib.ConfigDict
import Iperf3Lib.Py.Json.Number

/-!
# Native options

How an admitted client configuration reaches libiperf: `_arguments` builds the vector for the native
parser and `_apply_setters` calls the native setters for the settings that the parser does not take.
The credentials go neither way; `_apply_auth` hands them over. A call is its symbol with the argument
behind the test; which symbols the loaded library exposes is a parameter.
-/

namespace Iperf3Lib.Native

open Py

/-! ## Texts -/

/-- `str(n)`. -/
def intText (n : ℤ) : PyStr := (Json.intRepr n).map .scalar

/-- `str(value)` of a number. -/
def numText : PyNum → PyStr
  | .int n => intText n
  | .float (.finite x) => (Json.floatRepr x).map .scalar
  | .float (.inf neg) => if neg then "-inf" else "inf"
  | .float .nan => "nan"

/-- `_validated_options` of a client: the fields of the configuration that the constructor admits. Like
`config_from_dict` it restores the tuples first. -/
def validatedOptions (parse : IpParser) (options : PyDict) : Except Exc ClientConfig :=
  ClientConfig.fromDict parse options

/-! ## Arguments -/

/-- A flag with its value behind it, where there is one. -/
def option (flag : String) : Option PyStr → List PyStr
  | none => []
  | some value => [flag, value]

/-- A flag without a value, where it is set. -/
def switch (flag : String) (on : Bool) : List PyStr := if on = true then [flag] else []

/-- `_VALUE_ARGUMENTS`, with the texts of a client's values; the last two settings are a server's. -/
def valueArguments (c : ClientConfig) : List (String × String × Option PyStr) :=
  [("fq_rate_bps", "--fq-rate", c.fqRateBps.map intText),
    ("flow_label", "--flowlabel", c.flowLabel.map intText),
    ("sctp_streams", "--nstreams", c.sctpStreams.map intText),
    ("payload_file", "--file", c.payloadFile),
    ("title", "--title", c.title),
    ("receive_timeout_ms", "--rcv-timeout", c.receiveTimeoutMs.map intText),
    ("send_timeout_ms", "--snd-timeout", c.sendTimeoutMs.map intText),
    ("idle_timeout_seconds", "--idle-timeout", none),
    ("max_duration_seconds", "--server-max-duration", none)]

/-- The flags without a value, behind the values. -/
def booleanArguments (c : ClientConfig) : List (String × String × Bool) :=
  [("mptcp", "--mptcp", c.mptcp), ("skip_rx_copy", "--skip-rx-copy", c.skipRxCopy),
    ("gsro", "--gsro", c.gsro), ("json_stream", "--json-stream", c.jsonStream),
    ("use_pkcs1_padding", "--use-pkcs1-padding", c.usePkcs1Padding)]

/-- The value of `--affinity`. -/
def affinityText (affinity : ℤ) : Option ℤ → PyStr
  | none => intText affinity
  | some server => intText affinity ++ .scalar ',' :: intText server

/-- `"/".join(str(value) for value in keepalive)`. -/
def keepaliveText (k : ℤ × ℤ × ℤ) : PyStr :=
  intText k.1 ++ .scalar '/' :: (intText k.2.1 ++ .scalar '/' :: intText k.2.2)

/-- The flag of the protocol; TCP is the parser's default. -/
def protocolArguments (protocol : Protocol) : List PyStr :=
  match protocol with
  | .udp => [PyStr.ofString "--udp"]
  | .sctp => [PyStr.ofString "--sctp"]
  | .tcp => []

/-- The flag of the address family. -/
def familyArguments (family : AddressFamily) : List PyStr :=
  match family with
  | .auto => []
  | .ipv4 => [PyStr.ofString "--version4"]
  | .ipv6 => [PyStr.ofString "--version6"]

/-- `_arguments` of a client. -/
def arguments (c : ClientConfig) : List PyStr :=
  [PyStr.ofString "iperf3-lib", PyStr.ofString "--json"] ++
    [PyStr.ofString "--client", c.server.str] ++
    protocolArguments c.protocol ++
    [PyStr.ofString "--time", intText (c.duration.getD 0)] ++
    option "--length" (c.blksize.map intText) ++
    switch "--reverse" c.reverse ++
    switch "--bidir" c.bidirectional ++
    familyArguments c.addressFamily ++
    option "--interval" (c.intervalSeconds.map numText) ++
    (valueArguments c).flatMap (fun row => option row.2.1 row.2.2) ++
    (booleanArguments c).flatMap (fun row => switch row.2.1 row.2.2) ++
    c.sctpBindAddresses.flatMap (fun address => [PyStr.ofString "--xbind", address]) ++
    option "--affinity" (c.affinity.map fun affinity => affinityText affinity c.serverAffinity) ++
    c.controlKeepalive.toList.map (fun k => PyStr.ofString "--cntl-ka=" ++ keepaliveText k)

/-! ## Setters -/

/-- `_INTEGER_SETTERS`, with the values. -/
def integerSetters (c : ClientConfig) : List (String × String × Option ℤ) :=
  [("port", "iperf_set_test_server_port", c.port),
    ("parallel", "iperf_set_test_num_streams", c.parallel),
    ("omit", "iperf_set_test_omit", c.omit'),
    ("tos", "iperf_set_test_tos", c.tos),
    ("client_port", "iperf_set_test_bind_port", c.clientPort),
    ("socket_buffer_bytes", "iperf_set_test_socket_bufsize", c.socketBufferBytes),
    ("mss", "iperf_set_test_mss", c.mss),
    ("connect_timeout_ms", "iperf_set_test_connect_timeout", c.connectTimeoutMs),
    ("bytes_to_send", "iperf_set_test_bytes", c.bytesToSend),
    ("blocks_to_send", "iperf_set_test_blocks", c.blocksToSend),
    ("burst_packets", "iperf_set_test_burst", c.burstPackets),
    ("pacing_timer_us", "iperf_set_test_pacing_timer", c.pacingTimerUs)]

/-- `_BOOLEAN_SETTERS`, with the values. -/
def booleanSetters (c : ClientConfig) : List (String × String × Bool) :=
  [("no_delay", "iperf_set_test_no_delay", c.noDelay),
    ("zerocopy", "iperf_set_test_zerocopy", c.zerocopy),
    ("udp_counters_64bit", "iperf_set_test_udp_counters_64bit", c.udpCounters64bit),
    ("dont_fragment", "iperf_set_dont_fragment", c.dontFragment),
    ("repeating_payload", "iperf_set_test_repeating_payload", c.repeatingPayload),
    ("get_server_output", "iperf_set_test_get_server_output", c.getServerOutput)]

/-- `_STRING_SETTERS`, with the values. -/
def stringSetters (c : ClientConfig) : List (String × String × Option PyStr) :=
  [("bind_address", "iperf_set_test_bind_address", c.bindAddress),
    ("bind_device", "iperf_set_test_bind_dev", c.bindDevice),
    ("congestion_control", "iperf_set_test_congestion_control", c.congestionControl),
    ("extra_data", "iperf_set_test_extra_data", c.extraData)]

/-- The rate to set: the requested one, or with SCTP streams the default of zero. -/
def nativeRate (c : ClientConfig) : Option ℤ :=
  if c.rate ≠ none ∨ c.sctpStreams ≠ none then some (c.rate.getD 0) else none

/-- What a setter is given: a number, or the bytes of a C string. -/
inductive SetterArgument where
  | int (n : ℤ)
  | text (bytes : List UInt8)
deriving DecidableEq

/-- A call of a setter. -/
abbrev Call := String × SetterArgument

/-- The loaded libiperf. -/
structure Library where
  exposes : String → Bool
  hasZerocopy : Bool

/-- `_symbol`. -/
def Library.symbol (native : Library) (name : String) : Except Exc Unit :=
  if native.exposes name = true then .ok ()
  else .error ⟨.unsupportedFeatureError, (s!"loaded libiperf does not expose {name}" : String)⟩

/-- The message of the `UnicodeEncodeError` at the first run of surrogates. -/
def encodeMessage (value : PyStr) : PyStr :=
  let start := (value.takeWhile fun c => !c.isSurrogate).length
  let run := (value.drop start).takeWhile PyChar.isSurrogate
  match run with
  | [c] =>
    PyStr.ofString "'utf-8' codec can't encode character '\\u" ++
      (Nat.toDigits 16 c.ord).map .scalar ++ PyStr.ofString "' in position " ++ intText start ++
      PyStr.ofString ": surrogates not allowed"
  | _ =>
    PyStr.ofString "'utf-8' codec can't encode characters in position " ++ intText start ++
      PyStr.ofString "-" ++ intText (start + run.length - 1) ++
      PyStr.ofString ": surrogates not allowed"

/-- `_string`: the bytes of a C string. -/
def cString (value : PyStr) : Except Exc (List UInt8) := do
  reject (PyChar.scalar '\x00' ∈ value) "native strings must be strings without NUL characters"
  match value.utf8Encode with
  | some bytes => .ok bytes
  | none => valueError (encodeMessage value)

variable (native : Library)

def applyInteger (row : String × String × Option ℤ) : Except Exc (List Call) :=
  match row.2.2 with
  | none => .ok []
  | some value => do
    native.symbol row.2.1
    return [(row.2.1, .int value)]

/-- `zerocopy` needs the support of the loaded library. -/
def checkZerocopy (name : String) : Except Exc Unit :=
  if name = "zerocopy" then do
    native.symbol "iperf_has_zerocopy"
    if native.hasZerocopy = true then .ok ()
    else .error ⟨.unsupportedFeatureError, "loaded libiperf does not support zerocopy"⟩
  else .ok ()

def applyBoolean (row : String × String × Bool) : Except Exc (List Call) :=
  if row.2.2 = true then do
    checkZerocopy native row.1
    native.symbol row.2.1
    return [(row.2.1, .int 1)]
  else .ok []

def applyString (row : String × String × Option PyStr) : Except Exc (List Call) :=
  match row.2.2 with
  | none => .ok []
  | some value => do
    native.symbol row.2.1
    let bytes ← cString value
    return [(row.2.1, .text bytes)]

/-- `_apply_setters`: the calls in their order, or the exception that stops them. -/
def applySetters (c : ClientConfig) : Except Exc (List Call) := do
  let integers ← (integerSetters c).mapM (applyInteger native)
  let booleans ← (booleanSetters c).mapM (applyBoolean native)
  let strings ← (stringSetters c).mapM (applyString native)
  let rate ← applyInteger native ("rate", "iperf_set_test_rate", nativeRate c)
  return integers.flatten ++ booleans.flatten ++ strings.flatten ++ rate

end Iperf3Lib.Native
