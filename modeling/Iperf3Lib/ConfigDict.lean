import Iperf3Lib.Config
import Iperf3Lib.PartialEvents
import Iperf3Lib.Py.Dynamic
import Iperf3Lib.Result.Observations

/-!
# Configurations from mappings

`attributes` lists the fields of a configuration as values. `config_from_dict` passes a mapping to the constructor of `ClientConfig`. A missing field takes its
default and every value is checked for its type; the checks run in the order of `__post_init__`, so
that the first fault is the one reported. What passed them is admitted as a typed configuration.
-/

namespace Iperf3Lib

open Py

/-- The fields of `ClientConfig`. -/
def configNames : List String :=
  ["server", "port", "protocol", "duration", "parallel", "omit", "reverse", "bidirectional", "mptcp",
    "blksize", "rate", "tos", "json_stream", "bind_address", "bind_device", "client_port",
    "address_family", "socket_buffer_bytes", "congestion_control", "no_delay", "mss",
    "connect_timeout_ms", "bytes_to_send", "blocks_to_send", "interval_seconds", "pacing_timer_us",
    "fq_rate_bps", "burst_packets", "zerocopy", "skip_rx_copy", "udp_counters_64bit",
    "dont_fragment", "flow_label", "sctp_streams", "sctp_bind_addresses", "payload_file",
    "repeating_payload", "affinity", "server_affinity", "get_server_output", "title", "extra_data",
    "receive_timeout_ms", "send_timeout_ms", "control_keepalive", "gsro", "username",
    "rsa_public_key_path", "use_pkcs1_padding"]

/-- `LEGACY_CONFIG_FIELDS`. -/
def legacyConfigFields : List String :=
  ["server", "port", "protocol", "duration", "parallel", "omit", "reverse", "bidirectional", "mptcp",
    "blksize", "rate", "tos", "json_stream"]

def Protocol.text : Protocol → String
  | .tcp => "tcp"
  | .udp => "udp"
  | .sctp => "sctp"

def AddressFamily.text : AddressFamily → String
  | .auto => "auto"
  | .ipv4 => "ipv4"
  | .ipv6 => "ipv6"

namespace ClientConfig

/-! ## The fields as values -/

/-- An optional integer. -/
def ofInt? : Option ℤ → PyVal := .ofOption .int

/-- An optional text. -/
def ofText? : Option PyStr → PyVal := .ofOption .str

/-- A server; an address object is no JSON value. -/
def serverVal : Server → PyVal
  | .text s => .str s
  | .address s => .obj "ip_address" [(PyStr.ofString "compressed", .str s)]

/-- `getattr(config, field.name)` for each field. -/
def attributes (c : ClientConfig) : PyDict :=
  [("server", serverVal c.server), ("port", .int c.port), ("protocol", .str c.protocol.text),
    ("duration", ofInt? c.duration), ("parallel", .int c.parallel), ("omit", .int c.omit'),
    ("reverse", .bool c.reverse), ("bidirectional", .bool c.bidirectional), ("mptcp", .bool c.mptcp),
    ("blksize", ofInt? c.blksize), ("rate", ofInt? c.rate), ("tos", ofInt? c.tos),
    ("json_stream", .bool c.jsonStream), ("bind_address", ofText? c.bindAddress),
    ("bind_device", ofText? c.bindDevice), ("client_port", ofInt? c.clientPort),
    ("address_family", .str c.addressFamily.text),
    ("socket_buffer_bytes", ofInt? c.socketBufferBytes),
    ("congestion_control", ofText? c.congestionControl), ("no_delay", .bool c.noDelay),
    ("mss", ofInt? c.mss), ("connect_timeout_ms", ofInt? c.connectTimeoutMs),
    ("bytes_to_send", ofInt? c.bytesToSend), ("blocks_to_send", ofInt? c.blocksToSend),
    ("interval_seconds", .ofOption PyNum.toVal c.intervalSeconds),
    ("pacing_timer_us", ofInt? c.pacingTimerUs), ("fq_rate_bps", ofInt? c.fqRateBps),
    ("burst_packets", ofInt? c.burstPackets), ("zerocopy", .bool c.zerocopy),
    ("skip_rx_copy", .bool c.skipRxCopy), ("udp_counters_64bit", .bool c.udpCounters64bit),
    ("dont_fragment", .bool c.dontFragment), ("flow_label", ofInt? c.flowLabel),
    ("sctp_streams", ofInt? c.sctpStreams),
    ("sctp_bind_addresses", .tuple (c.sctpBindAddresses.map .str)),
    ("payload_file", ofText? c.payloadFile), ("repeating_payload", .bool c.repeatingPayload),
    ("affinity", ofInt? c.affinity), ("server_affinity", ofInt? c.serverAffinity),
    ("get_server_output", .bool c.getServerOutput), ("title", ofText? c.title),
    ("extra_data", ofText? c.extraData), ("receive_timeout_ms", ofInt? c.receiveTimeoutMs),
    ("send_timeout_ms", ofInt? c.sendTimeoutMs),
    ("control_keepalive",
      .ofOption (fun k => .tuple [.int k.1, .int k.2.1, .int k.2.2]) c.controlKeepalive),
    ("gsro", .bool c.gsro), ("username", ofText? c.username),
    ("rsa_public_key_path", ofText? c.rsaPublicKeyPath),
    ("use_pkcs1_padding", .bool c.usePkcs1Padding)].map fun field =>
      (PyStr.ofString field.1, field.2)

/-! ## Typed fields -/

section Fields

variable (data : PyDict) (name : String)

/-- The value of a field, or its default. -/
def field (default : PyVal) : PyVal := (data.get? (PyStr.ofString name)).getD default

/-- A field that must be a boolean. -/
def readBool : Except Exc Bool :=
  match field data name (.bool false) with
  | .bool b => .ok b
  | _ => typeError (s!"{name} must be a boolean" : String)

/-- An integer within its bounds. -/
def readBound (value : PyVal) (minimum maximum : ℤ) : Except Exc ℤ :=
  match value with
  | .int n => do
    checkBound name (some n) minimum maximum
    return n
  | _ => typeError (s!"{name} must be an integer" : String)

/-- A field that must be an integer within its bounds. -/
def readInt (default minimum maximum : ℤ) : Except Exc ℤ :=
  readBound name (field data name (.int default)) minimum maximum

/-- A field that may be absent and is an integer within its bounds otherwise. -/
def readInt? (default : PyVal) (minimum maximum : ℤ) : Except Exc (Option ℤ) :=
  match field data name default with
  | .none => .ok none
  | value => (readBound name value minimum maximum).map some

/-- `_text` of any value. -/
def readTextValue (value : PyVal) : Except Exc PyStr :=
  match value with
  | .str s => do
    checkText name s
    return s
  | _ => typeError (s!"{name} must be a string" : String)

/-- A field that may be absent and is a text otherwise. -/
def readText? : Except Exc (Option PyStr) :=
  match field data name .none with
  | .none => .ok none
  | value => (readTextValue name value).map some

end Fields

/-- The check of `server`. -/
def readServer (data : PyDict) : Except Exc Server :=
  match data.get? (PyStr.ofString "server") with
  | none => typeError "ClientConfig.__init__() missing 1 required positional argument: 'server'"
  | some (.str s) => do
    checkText "server" s
    return .text s
  | some _ => typeError "server must be a string or IP address"

/-- `Protocol(value)`. -/
def readProtocol (data : PyDict) : Except Exc Protocol :=
  match field data "protocol" (.str "tcp") with
  | .str s =>
    match [Protocol.tcp, .udp, .sctp].find? fun protocol => PyStr.ofString protocol.text = s with
    | some protocol => .ok protocol
    | none => valueError (PyStr.ofString "unsupported protocol: '" ++ s ++ PyStr.ofString "'")
  | _ => typeError "protocol must be a Protocol value"

/-- The check of `address_family`. -/
def readFamily (data : PyDict) : Except Exc AddressFamily :=
  match field data "address_family" (.str "auto") with
  | .str s =>
    match [AddressFamily.auto, .ipv4, .ipv6].find? fun family => PyStr.ofString family.text = s with
    | some family => .ok family
    | none => valueError "address_family must be auto, ipv4 or ipv6"
  | _ => typeError "address_family must be a string"

/-- `_interval` of any value. -/
def readInterval (data : PyDict) : Except Exc (Option PyNum) :=
  let check (value : PyNum) : Except Exc (Option PyNum) := do
    checkInterval "interval_seconds" value
    return some value
  match field data "interval_seconds" .none with
  | .none => .ok none
  | .int n => check (.int n)
  | .float x => check (.float x)
  | _ => typeError "interval_seconds must be a number"

/-- A list counts as the tuple it was stored for. -/
def asTuple : PyVal → Option (List PyVal)
  | .list xs => some xs
  | .tuple xs => some xs
  | _ => none

/-- The check of `sctp_bind_addresses`. -/
def readAddresses (data : PyDict) : Except Exc (List PyStr) :=
  match asTuple (field data "sctp_bind_addresses" (.tuple [])) with
  | some addresses => addresses.mapM (readTextValue "sctp_bind_addresses")
  | none => typeError "sctp_bind_addresses must be a tuple of address strings"

/-- A value of `control_keepalive`. -/
def readKeepaliveValue : PyVal → Except Exc ℤ
  | .int n => do
    reject (¬ (0 ≤ n ∧ n ≤ 2 ^ 31 - 1)) "control_keepalive values must be between 0 and 2147483647"
    return n
  | _ => typeError "control_keepalive values must be integers"

/-- The check of `control_keepalive`. -/
def readKeepalive (data : PyDict) : Except Exc (Option (ℤ × ℤ × ℤ)) :=
  match field data "control_keepalive" .none with
  | .none => .ok none
  | value =>
    match asTuple value with
    | some [idle, interval, count] => do
      let idle ← readKeepaliveValue idle
      let interval ← readKeepaliveValue interval
      let count ← readKeepaliveValue count
      checkKeepalive (idle, interval, count)
      return some (idle, interval, count)
    | _ => typeError "control_keepalive must be an (idle, interval, count) tuple"

/-! ## The constructor -/

/-- The fields up to the checks of the modes: the server, the protocol, the booleans, the bounds. -/
def readNumbers (data : PyDict) : Except Exc ClientConfig := do
  let server ← readServer data
  let protocol ← readProtocol data
  let reverse ← readBool data "reverse"
  let bidirectional ← readBool data "bidirectional"
  let mptcp ← readBool data "mptcp"
  let jsonStream ← readBool data "json_stream"
  let noDelay ← readBool data "no_delay"
  let zerocopy ← readBool data "zerocopy"
  let skipRxCopy ← readBool data "skip_rx_copy"
  let udpCounters64bit ← readBool data "udp_counters_64bit"
  let dontFragment ← readBool data "dont_fragment"
  let repeatingPayload ← readBool data "repeating_payload"
  let getServerOutput ← readBool data "get_server_output"
  let gsro ← readBool data "gsro"
  let usePkcs1Padding ← readBool data "use_pkcs1_padding"
  let port ← readInt data "port" 5201 1 65535
  let duration ← readInt? data "duration" (.int 10) 0 86400
  let parallel ← readInt data "parallel" 1 1 128
  let omit' ← readInt data "omit" 0 0 600
  let blksize ← readInt? data "blksize" .none 1 maxBlockSize
  let rate ← readInt? data "rate" .none 0 (2 ^ 64 - 1)
  let tos ← readInt? data "tos" .none 0 255
  let clientPort ← readInt? data "client_port" .none 1 65535
  let socketBufferBytes ← readInt? data "socket_buffer_bytes" .none 1 (512 * 1024 * 1024)
  let mss ← readInt? data "mss" .none 1 32767
  let connectTimeoutMs ← readInt? data "connect_timeout_ms" .none 1 (2 ^ 31 - 1)
  let bytesToSend ← readInt? data "bytes_to_send" .none 1 (2 ^ 64 - 1)
  let blocksToSend ← readInt? data "blocks_to_send" .none 1 (2 ^ 64 - 1)
  let pacingTimerUs ← readInt? data "pacing_timer_us" .none 1 (2 ^ 31 - 1)
  let fqRateBps ← readInt? data "fq_rate_bps" .none 0 (2 ^ 53 - 1)
  let burstPackets ← readInt? data "burst_packets" .none 1 1000
  let flowLabel ← readInt? data "flow_label" .none 1 0xFFFFF
  let sctpStreams ← readInt? data "sctp_streams" .none 1 65535
  let affinity ← readInt? data "affinity" .none 0 1024
  let serverAffinity ← readInt? data "server_affinity" .none 0 1024
  let receiveTimeoutMs ← readInt? data "receive_timeout_ms" .none 100 86400000
  let sendTimeoutMs ← readInt? data "send_timeout_ms" .none 0 86400000
  return {
    server, protocol, reverse, bidirectional, mptcp, jsonStream, noDelay, zerocopy, skipRxCopy,
    udpCounters64bit, dontFragment, repeatingPayload, getServerOutput, gsro, usePkcs1Padding, port,
    duration, parallel, omit', blksize, rate, tos, clientPort, socketBufferBytes, mss,
    connectTimeoutMs, bytesToSend, blocksToSend, pacingTimerUs, fqRateBps, burstPackets, flowLabel,
    sctpStreams, affinity, serverAffinity, receiveTimeoutMs, sendTimeoutMs }

/-- The texts and tuples, behind the checks of the modes. -/
def readTexts (data : PyDict) (c : ClientConfig) : Except Exc ClientConfig := do
  reject (c.reverse = true ∧ c.bidirectional = true)
    "reverse and bidirectional modes cannot be enabled together"
  reject (c.protocol = .udp ∧
      (c.blksize.any fun blksize => ¬ (minUdpBlockSize ≤ blksize ∧ blksize ≤ maxUdpBlockSize)) = true)
    "UDP block size must be between 16 and 65507 bytes"
  let bindAddress ← readText? data "bind_address"
  let bindDevice ← readText? data "bind_device"
  let congestionControl ← readText? data "congestion_control"
  let payloadFile ← readText? data "payload_file"
  let title ← readText? data "title"
  let extraData ← readText? data "extra_data"
  let username ← readText? data "username"
  let rsaPublicKeyPath ← readText? data "rsa_public_key_path"
  let addressFamily ← readFamily data
  let intervalSeconds ← readInterval data
  let sctpBindAddresses ← readAddresses data
  let controlKeepalive ← readKeepalive data
  return { c with
    bindAddress, bindDevice, congestionControl, payloadFile, title, extraData, username,
    rsaPublicKeyPath, addressFamily, intervalSeconds, sctpBindAddresses, controlKeepalive }

/-- `config_from_dict`. The remaining checks are those of a typed configuration, which repeats the
ones that have passed. -/
def fromDict (parse : IpParser) (data : PyDict) : Except Exc ClientConfig := do
  match data.keys.find? fun key => key ∉ configNames.map PyStr.ofString with
  | some key =>
    typeError (PyStr.ofString "ClientConfig.__init__() got an unexpected keyword argument '" ++ key ++
      PyStr.ofString "'")
  | none => pure ()
  let c ← readNumbers data
  let c ← readTexts data c
  c.postInit parse

end ClientConfig

end Iperf3Lib
