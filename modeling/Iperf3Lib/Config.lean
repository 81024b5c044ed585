import Iperf3Lib.Exceptions
import Iperf3Lib.General.Except
import Iperf3Lib.Py.Num

/-!
# Client configuration

`ClientConfig` with the checks of its constructor. `dataclasses.replace` runs them again on a copy,
so the functions that copy a configuration are the identity on a configuration that passed them
once: `postInit_idem`.
-/

namespace Iperf3Lib

open Py

def maxBlockSize : ℤ := 1024 * 1024
def minUdpBlockSize : ℤ := 16
def maxUdpBlockSize : ℤ := 65507

inductive Protocol where
  | tcp
  | udp
  | sctp
deriving DecidableEq, Repr

inductive AddressFamily where
  | auto
  | ipv4
  | ipv6
deriving DecidableEq, Repr

/-- What `ipaddress.ip_address` parses a text to. -/
structure IpAddress where
  version : ℕ
  compressed : PyStr
deriving DecidableEq, Repr

/-- `ipaddress.ip_address`, `none` where it raises `ValueError`. -/
abbrev IpParser := PyStr → Option IpAddress

/-- A server: a text, or an address object with its text. -/
inductive Server where
  | text (s : PyStr)
  | address (s : PyStr)
deriving DecidableEq, Repr

/-- `str(server)`. -/
def Server.str : Server → PyStr
  | .text s => s
  | .address s => s

/-- A `ClientConfig`. -/
structure ClientConfig where
  server : Server
  port : ℤ := 5201
  protocol : Protocol := .tcp
  duration : Option ℤ := some 10
  parallel : ℤ := 1
  omit' : ℤ := 0
  reverse : Bool := false
  bidirectional : Bool := false
  mptcp : Bool := false
  blksize : Option ℤ := none
  rate : Option ℤ := none
  tos : Option ℤ := none
  jsonStream : Bool := false
  bindAddress : Option PyStr := none
  bindDevice : Option PyStr := none
  clientPort : Option ℤ := none
  addressFamily : AddressFamily := .auto
  socketBufferBytes : Option ℤ := none
  congestionControl : Option PyStr := none
  noDelay : Bool := false
  mss : Option ℤ := none
  connectTimeoutMs : Option ℤ := none
  bytesToSend : Option ℤ := none
  blocksToSend : Option ℤ := none
  intervalSeconds : Option PyNum := none
  pacingTimerUs : Option ℤ := none
  fqRateBps : Option ℤ := none
  burstPackets : Option ℤ := none
  zerocopy : Bool := false
  skipRxCopy : Bool := false
  udpCounters64bit : Bool := false
  dontFragment : Bool := false
  flowLabel : Option ℤ := none
  sctpStreams : Option ℤ := none
  sctpBindAddresses : List PyStr := []
  payloadFile : Option PyStr := none
  repeatingPayload : Bool := false
  affinity : Option ℤ := none
  serverAffinity : Option ℤ := none
  getServerOutput : Bool := false
  title : Option PyStr := none
  extraData : Option PyStr := none
  receiveTimeoutMs : Option ℤ := none
  sendTimeoutMs : Option ℤ := none
  controlKeepalive : Option (ℤ × ℤ × ℤ) := none
  gsro : Bool := false
  username : Option PyStr := none
  rsaPublicKeyPath : Option PyStr := none
  usePkcs1Padding : Bool := false
deriving DecidableEq

namespace ClientConfig

/-- `_text`. -/
def checkText (name : String) (value : PyStr) : Except Exc Unit :=
  reject (value.hasText = false ∨ PyChar.scalar '\x00' ∈ value)
    (s!"{name} must be nonempty and contain no NUL" : String)

/-- An entry of `bounds`: the name of a field, its value and its bounds. -/
def checkBound (name : String) (value : Option ℤ) (minimum maximum : ℤ) : Except Exc Unit :=
  value.forM fun value =>
    reject (¬ (minimum ≤ value ∧ value ≤ maximum))
      (s!"{name} must be between {minimum} and {maximum}" : String)

/-- `_interval`; the float 0.1 is 3602879701896397 / 2 ^ 55. -/
def checkInterval (name : String) (value : PyNum) : Except Exc Unit :=
  let admissible := value.value?.any fun q => q = 0 ∨ (3602879701896397 / 2 ^ 55 ≤ q ∧ q ≤ 60)
  reject (admissible = false) (s!"{name} must be zero or between 0.1 and 60 seconds" : String)

/-- The check of `control_keepalive`. -/
def checkKeepalive : ℤ × ℤ × ℤ → Except Exc Unit
  | (idle, interval, count) => do
    for value in [idle, interval, count] do
      reject (¬ (0 ≤ value ∧ value ≤ 2 ^ 31 - 1))
        "control_keepalive values must be between 0 and 2147483647"
    reject (idle ≠ 0 ∧ idle ≤ interval * count)
      "control_keepalive idle must exceed interval times count"

/-- The numeric bounds. -/
def checkBounds (c : ClientConfig) : Except Exc Unit := do
  checkBound "port" c.port 1 65535
  checkBound "duration" c.duration 0 86400
  checkBound "parallel" c.parallel 1 128
  checkBound "omit" c.omit' 0 600
  checkBound "blksize" c.blksize 1 maxBlockSize
  checkBound "rate" c.rate 0 (2 ^ 64 - 1)
  checkBound "tos" c.tos 0 255
  checkBound "client_port" c.clientPort 1 65535
  checkBound "socket_buffer_bytes" c.socketBufferBytes 1 (512 * 1024 * 1024)
  checkBound "mss" c.mss 1 32767
  checkBound "connect_timeout_ms" c.connectTimeoutMs 1 (2 ^ 31 - 1)
  checkBound "bytes_to_send" c.bytesToSend 1 (2 ^ 64 - 1)
  checkBound "blocks_to_send" c.blocksToSend 1 (2 ^ 64 - 1)
  checkBound "pacing_timer_us" c.pacingTimerUs 1 (2 ^ 31 - 1)
  checkBound "fq_rate_bps" c.fqRateBps 0 (2 ^ 53 - 1)
  checkBound "burst_packets" c.burstPackets 1 1000
  checkBound "flow_label" c.flowLabel 1 0xFFFFF
  checkBound "sctp_streams" c.sctpStreams 1 65535
  checkBound "affinity" c.affinity 0 1024
  checkBound "server_affinity" c.serverAffinity 0 1024
  checkBound "receive_timeout_ms" c.receiveTimeoutMs 100 86400000
  checkBound "send_timeout_ms" c.sendTimeoutMs 0 86400000

/-- The texts. -/
def checkTexts (c : ClientConfig) : Except Exc Unit := do
  c.bindAddress.forM (checkText "bind_address")
  c.bindDevice.forM (checkText "bind_device")
  c.congestionControl.forM (checkText "congestion_control")
  c.payloadFile.forM (checkText "payload_file")
  c.title.forM (checkText "title")
  c.extraData.forM (checkText "extra_data")
  c.username.forM (checkText "username")
  c.rsaPublicKeyPath.forM (checkText "rsa_public_key_path")

/-- The combinations of count and duration. -/
def checkCounts (c : ClientConfig) : Except Exc Unit := do
  let counts := c.bytesToSend.toList.length + c.blocksToSend.toList.length
  reject (counts > 1 ∨ (counts ≠ 0 ∧ c.duration ≠ none))
    "choose duration, bytes_to_send or blocks_to_send; use duration=None for counts"
  reject (counts = 0 ∧ c.duration = none) "duration=None requires bytes_to_send or blocks_to_send"

/-- The combinations that the protocol rules out. -/
def checkProtocol (c : ClientConfig) : Except Exc Unit := do
  reject (c.protocol ≠ .tcp ∧ (c.mptcp = true ∨ c.congestionControl ≠ none))
    "MPTCP and congestion_control require TCP"
  reject (c.protocol = .udp ∧ (c.noDelay = true ∨ c.mss ≠ none)) "no_delay and mss require TCP or SCTP"
  reject (c.zerocopy = true ∧ c.protocol ≠ .tcp) "zerocopy requires TCP"
  reject (c.protocol = .sctp ∧ c.skipRxCopy = true) "skip_rx_copy requires TCP or UDP"
  reject (c.protocol = .sctp ∧ c.fqRateBps ≠ none) "fq_rate_bps requires TCP or UDP"
  reject (c.protocol = .sctp ∧ c.tos ≠ none ∧ c.tos ≠ some 0) "nonzero tos requires TCP or UDP"
  reject (c.protocol = .sctp ∧ (c.mss.any fun mss => mss < 512) = true)
    "SCTP mss must be at least 512 bytes"
  reject (c.protocol ≠ .udp ∧ (c.udpCounters64bit = true ∨ c.dontFragment = true ∨ c.gsro = true))
    "udp_counters_64bit, dont_fragment and gsro require UDP"
  reject (c.protocol ≠ .sctp ∧ (c.sctpStreams ≠ none ∨ c.sctpBindAddresses ≠ []))
    "SCTP association options require SCTP"

/-- The remaining combinations. -/
def checkCombinations (c : ClientConfig) : Except Exc Unit := do
  reject (c.serverAffinity ≠ none ∧ c.affinity = none)
    "server_affinity requires an explicit local affinity"
  reject (¬ (c.username = none ↔ c.rsaPublicKeyPath = none))
    "username and rsa_public_key_path must be supplied together"
  reject (c.usePkcs1Padding = true ∧ c.username = none) "use_pkcs1_padding requires authentication"
  reject (c.payloadFile ≠ none ∧ c.repeatingPayload = true)
    "payload_file and repeating_payload cannot be combined"

/-- The server's text is an IPv6 address. -/
def serverIsIpv6 (parse : IpParser) (c : ClientConfig) : Bool :=
  (parse c.server.str).any fun ip => ip.version = 6

/-- `dont_fragment` pins the automatic address family. -/
def pinFamily (c : ClientConfig) : ClientConfig :=
  if c.dontFragment = true ∧ c.addressFamily = .auto then { c with addressFamily := .ipv4 } else c

/-- The checks that do not look at the address family. -/
def checkFields (c : ClientConfig) : Except Exc Unit := do
  checkText "server" c.server.str
  checkBounds c
  reject (c.reverse = true ∧ c.bidirectional = true)
    "reverse and bidirectional modes cannot be enabled together"
  reject (c.protocol = .udp ∧
      (c.blksize.any fun blksize => ¬ (minUdpBlockSize ≤ blksize ∧ blksize ≤ maxUdpBlockSize)) = true)
    "UDP block size must be between 16 and 65507 bytes"
  checkTexts c
  c.intervalSeconds.forM (checkInterval "interval_seconds")
  c.sctpBindAddresses.forM (checkText "sctp_bind_addresses")
  c.controlKeepalive.forM checkKeepalive
  checkCounts c
  checkProtocol c

/-- `__post_init__`: the configuration it leaves, or the exception. -/
def postInit (parse : IpParser) (c : ClientConfig) : Except Exc ClientConfig := do
  checkFields c
  reject (c.flowLabel ≠ none ∧ (c.protocol ≠ .tcp ∨ c.addressFamily ≠ .ipv6))
    "flow_label requires TCP and address_family='ipv6'"
  reject (c.dontFragment = true ∧ (c.addressFamily = .ipv6 ∨ c.serverIsIpv6 parse = true))
    "dont_fragment applies only to IPv4"
  checkCombinations c
  return c.pinFamily

theorem checkBound_eq_ok {name : String} {value : Option ℤ} {minimum maximum : ℤ} :
    checkBound name value minimum maximum = .ok () ↔ ∀ v ∈ value, minimum ≤ v ∧ v ≤ maximum := by
  cases value with
  | none => simp [checkBound, pure, Except.pure]
  | some v => simp [checkBound, reject_eq_ok]

/-- What rate and time estimates rest on. -/
structure Bounded (c : ClientConfig) : Prop where
  parallel : 1 ≤ c.parallel ∧ c.parallel ≤ 128
  duration : ∀ d ∈ c.duration, 0 ≤ d ∧ d ≤ 86400
  omit' : 0 ≤ c.omit' ∧ c.omit' ≤ 600
  rate : ∀ r ∈ c.rate, 0 ≤ r ∧ r ≤ 2 ^ 64 - 1
  exclusive : ¬ (c.reverse = true ∧ c.bidirectional = true)
  interval : ∀ x ∈ c.intervalSeconds, x.value?.isSome = true

theorem bounded_of_checkFields {c : ClientConfig} (h : c.checkFields = .ok ()) : c.Bounded := by
  simp only [checkFields, checkBounds, bind_unit_eq_ok, reject_eq_ok, checkBound_eq_ok] at h
  obtain ⟨-, ⟨-, hduration, hparallel, homit, -, hrate, -⟩, hexclusive, -, -, hinterval, -⟩ := h
  refine ⟨hparallel _ rfl, hduration, homit _ rfl, hrate, hexclusive, fun x hx => ?_⟩
  rw [Option.mem_def.mp hx] at hinterval
  change checkInterval "interval_seconds" x = .ok () at hinterval
  simp only [checkInterval, reject_eq_ok, Bool.not_eq_false] at hinterval
  cases hv : x.value? with
  | none => simp [hv] at hinterval
  | some q => rfl

theorem Bounded.pinFamily {c : ClientConfig} (h : c.Bounded) : c.pinFamily.Bounded := by
  unfold ClientConfig.pinFamily
  split
  · exact ⟨h.parallel, h.duration, h.omit', h.rate, h.exclusive, h.interval⟩
  · exact h

/-- An admitted configuration is within its bounds. -/
theorem bounded_of_postInit {parse : IpParser} {c c' : ClientConfig} (h : c.postInit parse = .ok c') :
    c'.Bounded := by
  simp only [postInit, bind_unit_eq_ok, pure, Except.pure, Except.ok.injEq] at h
  obtain ⟨hfields, -, -, -, rfl⟩ := h
  exact (bounded_of_checkFields hfields).pinFamily

/-- `left == right`. -/
def pyEq (left right : ClientConfig) : Bool :=
  { left with intervalSeconds := none } = { right with intervalSeconds := none } &&
    PyNum.eq? left.intervalSeconds right.intervalSeconds

theorem pyEq_refl {c : ClientConfig} (h : c.Bounded) : c.pyEq c = true := by
  simp [pyEq, PyNum.eq?_refl h.interval]

end ClientConfig

end Iperf3Lib
