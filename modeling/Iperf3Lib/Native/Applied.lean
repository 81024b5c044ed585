import Iperf3Lib.Native.Arguments
import Iperf3Lib.Native.Setters

/-!
# Every setting reaches libiperf once

The texts of numbers determine the numbers, so the tables of two option sets with the same vector and
the same calls hold the same settings. What neither table holds are the credentials, and an absent
rate beside SCTP streams is set like a zero one. Each setting has one flag or one symbol, but for the
protocol and the address family, whose flags exclude each other; so no setting is applied twice, apart
from the address flag, which is given once for each address.
-/

namespace Iperf3Lib.Native

open Py CommandLine

/-! ## Texts of numbers -/

/-- The text of an integer and what stops it are told apart. -/
theorem intText_append_inj {m n : ℤ} {t u : PyStr} (ht : Json.Stops t) (hu : Json.Stops u)
    (h : intText m ++ t = intText n ++ u) : m = n ∧ t = u := by
  have hscan := Json.scanNumber_intRepr m ht
  rw [← intText, h, intText, Json.scanNumber_intRepr n hu, Option.some.injEq, Prod.mk.injEq,
    Json.Number.int.injEq] at hscan
  exact ⟨hscan.1.1.symm, hscan.2.symm⟩

theorem intText_injective : Function.Injective intText := by
  intro m n h
  refine (intText_append_inj Json.Stops.nil Json.Stops.nil ?_).1
  rw [h]

/-- A separator stops a number. -/
theorem stops_cons {c : Char} (h : ¬ c.isDigit ∧ c ≠ '.' ∧ c ≠ 'e' ∧ c ≠ 'E') (t : PyStr) :
    Json.Stops (.scalar c :: t) := by
  intro c' t' heq
  obtain ⟨hc, -⟩ := List.cons.inj heq
  obtain rfl := PyChar.scalar.inj hc
  exact h

theorem affinityText_inj {m n : ℤ} {s t : Option ℤ} (h : affinityText m s = affinityText n t) :
    m = n ∧ s = t := by
  have hcomma := stops_cons (c := ',') (by decide)
  cases s with
  | none =>
    cases t with
    | none => exact ⟨intText_injective h, rfl⟩
    | some server =>
      have hpair := intText_append_inj Json.Stops.nil (hcomma (intText server))
        ((List.append_nil _).trans h)
      cases hpair.2
  | some server =>
    cases t with
    | none =>
      have hpair := intText_append_inj (hcomma (intText server)) Json.Stops.nil
        (h.trans (List.append_nil _).symm)
      cases hpair.2
    | some server' =>
      obtain ⟨hmn, htail⟩ := intText_append_inj (hcomma _) (hcomma _) h
      exact ⟨hmn, congrArg some (intText_injective (List.cons.inj htail).2)⟩

theorem keepaliveText_injective : Function.Injective keepaliveText := by
  rintro ⟨a, b, d⟩ ⟨a', b', d'⟩ h
  have hslash := stops_cons (c := '/') (by decide)
  obtain ⟨ha, htail⟩ := intText_append_inj (hslash _) (hslash _) h
  obtain ⟨hb, htail⟩ := intText_append_inj (hslash _) (hslash _) (List.cons.inj htail).2
  have hd := intText_injective (List.cons.inj htail).2
  exact Prod.ext ha (Prod.ext hb hd)

theorem scanNumber_floatText (x : Finite64) :
    Json.scanNumber ((Json.floatRepr x).map .scalar) = some (.float (.finite x), []) := by
  obtain ⟨ds, fs, e, hds, hfs, he, hrepr, hnumber⟩ := Json.exists_floatRepr x
  have hscan : Json.scanNumber ((Json.numberText x.neg ds fs e).map .scalar ++ []) =
      some (Json.numberOf x.neg ds fs e, []) :=
    Json.scanNumber_numberText hds hfs he Json.Stops.nil
  rw [List.append_nil, hnumber] at hscan
  rw [hrepr, hscan]

/-- The number of a text of a finite number. -/
theorem exists_scanNumber_numText {x : PyNum} (hx : x.value?.isSome = true) :
    ∃ number, Json.scanNumber (numText x) = some (number, []) ∧
      x = match number with
        | .int n _ => .int n
        | .float y => .float y := by
  cases x with
  | int n =>
    have hscan := Json.scanNumber_intRepr n Json.Stops.nil
    rw [List.append_nil] at hscan
    exact ⟨_, hscan, rfl⟩
  | float y =>
    cases y with
    | finite y => exact ⟨_, scanNumber_floatText y, rfl⟩
    | inf neg => cases hx
    | nan => cases hx

/-- The texts of finite numbers determine them. -/
theorem numText_inj {x y : PyNum} (hx : x.value?.isSome = true) (hy : y.value?.isSome = true)
    (h : numText x = numText y) : x = y := by
  obtain ⟨m, hm, rfl⟩ := exists_scanNumber_numText hx
  obtain ⟨n, hn, rfl⟩ := exists_scanNumber_numText hy
  rw [h, hn, Option.some.injEq, Prod.mk.injEq] at hm
  rw [hm.1]

/-! ## Rows -/

theorem bare_inj {flag : String} {on on' : Bool} (h : bare flag on = bare flag on') : on = on' := by
  have huses := (Prod.mk.inj h).2
  cases on <;> cases on' <;> first | rfl | cases huses

theorem valued_inj {flag : String} {values values' : List PyStr}
    (h : valued flag values = valued flag values') : values = values' := by
  have hbehind : Function.Injective (Use.behind : PyStr → Use PyChar) := fun _ _ => Use.behind.inj
  exact List.map_injective_iff.mpr hbehind (Prod.mk.inj h).2

theorem joined_inj {flag : String} {values values' : List PyStr}
    (h : joined flag values = joined flag values') : values = values' := by
  have hjoint : Function.Injective (Use.joint : PyStr → Use PyChar) := fun _ _ => Use.joint.inj
  exact List.map_injective_iff.mpr hjoint (Prod.mk.inj h).2

theorem toList_inj {α : Type} {x y : Option α} (h : x.toList = y.toList) : x = y := by
  cases x <;> cases y <;> simp_all

/-- Optional values with the same text, where the text determines each of them. -/
theorem toList_map_inj {α β : Type} {text : α → β} {x y : Option α}
    (htext : ∀ a ∈ x, ∀ b ∈ y, text a = text b → a = b)
    (h : (x.map text).toList = (y.map text).toList) : x = y := by
  have hmap := toList_inj h
  cases x with
  | none => cases y <;> simp_all
  | some a =>
    cases y with
    | none => cases hmap
    | some b => rw [htext a rfl b rfl (Option.some.inj hmap)]

theorem valued_intText_inj {flag : String} {x y : Option ℤ}
    (h : valued flag (x.map intText).toList = valued flag (y.map intText).toList) : x = y :=
  toList_map_inj (fun _ _ _ _ => fun heq => intText_injective heq) (valued_inj h)

theorem integerRow_inj {name symbol : String} {x y : Option ℤ}
    (h : integerRow (name, symbol, x) = integerRow (name, symbol, y)) : x = y := by
  have hint : Function.Injective SetterArgument.int := fun _ _ => SetterArgument.int.inj
  exact toList_inj (List.map_injective_iff.mpr hint (Prod.mk.inj h).2)

theorem booleanRow_inj {name symbol : String} {on on' : Bool}
    (h : booleanRow (name, symbol, on) = booleanRow (name, symbol, on')) : on = on' := by
  have hcalls := (Prod.mk.inj h).2
  cases on <;> cases on' <;> first | rfl | cases hcalls

/-- Texts with a UTF-8 form are determined by their bytes. -/
theorem stringRow_inj {name symbol : String} {x y : Option PyStr}
    (hx : ∀ s ∈ x, s.utf8Encode.isSome = true) (hy : ∀ s ∈ y, s.utf8Encode.isSome = true)
    (h : stringRow (name, symbol, x) = stringRow (name, symbol, y)) : x = y := by
  have hcalls := (Prod.mk.inj h).2
  cases x with
  | none => cases y with
    | none => rfl
    | some => cases hcalls
  | some s => cases y with
    | none => cases hcalls
    | some t =>
      obtain ⟨a, ha⟩ := Option.isSome_iff_exists.mp (hx s rfl)
      obtain ⟨b, hb⟩ := Option.isSome_iff_exists.mp (hy t rfl)
      simp only [Option.toList_some, List.map_cons, ha, hb, List.cons.injEq, Option.getD_some,
        SetterArgument.text.injEq] at hcalls
      have hdecode := PyStr.utf8Decode_utf8Encode ha
      rw [hcalls.1, PyStr.utf8Decode_utf8Encode hb] at hdecode
      rw [Option.some.inj hdecode]

/-! ## Admission -/

/-- What admission establishes beyond the fields themselves. -/
structure Admitted (c : ClientConfig) : Prop where
  server : ∃ s, c.server = .text s
  counts : c.checkCounts = .ok ()
  interval : ∀ x ∈ c.intervalSeconds, x.value?.isSome = true
  affinity : c.affinity = none → c.serverAffinity = none

theorem forall_of_bind {ε α β : Type} {x : Except ε α} {f : α → Except ε β} {P : β → Prop}
    (h : ∀ a b, f a = .ok b → P b) : ∀ b, (x >>= f) = .ok b → P b := by
  intro b hb
  obtain ⟨a, -, ha⟩ := bind_eq_ok.mp hb
  exact h a b ha

theorem server_of_readNumbers {data : PyDict} :
    ∀ c, ClientConfig.readNumbers data = .ok c → ∃ s, c.server = .text s := by
  intro c hc
  obtain ⟨server, hserver, hrest⟩ := bind_eq_ok.mp hc
  clear hc
  have htext : ∃ s, server = .text s := by
    unfold ClientConfig.readServer at hserver
    split at hserver
    · cases hserver
    · next s _ =>
      obtain ⟨_, -, hs⟩ := bind_eq_ok.mp hserver
      cases hs
      exact ⟨s, rfl⟩
    · cases hserver
  obtain ⟨s, rfl⟩ := htext
  -- the other fields are read one after the other and leave the server alone
  revert c
  repeat refine forall_of_bind fun _ => ?_
  rintro _ ⟨⟩
  exact ⟨s, rfl⟩

theorem server_of_readTexts {data : PyDict} {c : ClientConfig} :
    ∀ c', ClientConfig.readTexts data c = .ok c' → c'.server = c.server := by
  unfold ClientConfig.readTexts
  repeat refine forall_of_bind fun _ => ?_
  rintro _ ⟨⟩
  rfl

theorem pinFamily_eq (c : ClientConfig) : ∃ family, c.pinFamily = { c with addressFamily := family } := by
  unfold ClientConfig.pinFamily
  split
  · exact ⟨.ipv4, rfl⟩
  · exact ⟨c.addressFamily, rfl⟩

/-- Admission reads the numbers, then the texts, and checks the configuration they make. -/
theorem exists_of_fromDict {parse : IpParser} {options : PyDict} {c : ClientConfig}
    (h : ClientConfig.fromDict parse options = .ok c) :
    ∃ numbers texts, ClientConfig.readNumbers options = .ok numbers ∧
      ClientConfig.readTexts options numbers = .ok texts ∧ texts.postInit parse = .ok c := by
  unfold ClientConfig.fromDict at h
  split at h
  · cases h
  · obtain ⟨numbers, hnumbers, h⟩ := bind_eq_ok.mp h
    obtain ⟨texts, htexts, h⟩ := bind_eq_ok.mp h
    exact ⟨numbers, texts, hnumbers, htexts, h⟩

theorem admitted_of_validatedOptions {parse : IpParser} {options : PyDict} {c : ClientConfig}
    (h : validatedOptions parse options = .ok c) : Admitted c := by
  obtain ⟨numbers, texts, hnumbers, htexts, h⟩ := exists_of_fromDict h
  have hbounded := ClientConfig.bounded_of_postInit h
  simp only [ClientConfig.postInit, bind_unit_eq_ok, pure, Except.pure, Except.ok.injEq] at h
  obtain ⟨hfields, -, -, hcombinations, rfl⟩ := h
  simp only [ClientConfig.checkFields, bind_unit_eq_ok] at hfields
  simp only [ClientConfig.checkCombinations, bind_unit_eq_ok, reject_eq_ok] at hcombinations
  obtain ⟨s, hs⟩ := server_of_readNumbers numbers hnumbers
  have hserver := server_of_readTexts texts htexts
  obtain ⟨family, hpin⟩ := pinFamily_eq texts
  refine ⟨⟨s, ?_⟩, ?_, hbounded.interval, ?_⟩
  · rw [hpin, ← hs, ← hserver]
  · rw [hpin]
    exact hfields.2.2.2.2.2.2.2.2.1
  · rw [hpin]
    intro hnone
    by_contra hsome
    exact hcombinations.1 ⟨hsome, hnone⟩

/-! ## The settings from the tables -/

/-- The settings that the vector and the calls leave open: the credentials, and an absent rate beside
a zero one with SCTP streams. -/
def settled (c : ClientConfig) : ClientConfig :=
  { c with
    rate := nativeRate c
    username := none
    rsaPublicKeyPath := none }

/-- A count stands in for an absent duration. -/
theorem duration_eq_none_iff {c : ClientConfig} (h : c.checkCounts = .ok ()) :
    c.duration = none ↔ c.bytesToSend ≠ none ∨ c.blocksToSend ≠ none := by
  simp only [ClientConfig.checkCounts, bind_unit_eq_ok, reject_eq_ok] at h
  obtain ⟨hone, hnone⟩ := h
  cases hbytes : c.bytesToSend <;> cases hblocks : c.blocksToSend <;> simp_all

theorem duration_eq {c c' : ClientConfig} (hc : c.checkCounts = .ok ())
    (hc' : c'.checkCounts = .ok ()) (hbytes : c.bytesToSend = c'.bytesToSend)
    (hblocks : c.blocksToSend = c'.blocksToSend)
    (hzero : c.duration.getD 0 = c'.duration.getD 0) : c.duration = c'.duration := by
  have hnone : c.duration = none ↔ c'.duration = none := by
    rw [duration_eq_none_iff hc, duration_eq_none_iff hc', hbytes, hblocks]
  cases hd : c.duration <;> cases hd' : c'.duration <;> simp_all

theorem server_eq {c c' : ClientConfig} (hc : Admitted c) (hc' : Admitted c')
    (h : valued "--client" [c.server.str] = valued "--client" [c'.server.str]) :
    c.server = c'.server := by
  obtain ⟨s, hs⟩ := hc.server
  obtain ⟨t, ht⟩ := hc'.server
  have hstr := valued_inj h
  rw [hs, ht] at hstr ⊢
  rw [show s = t from (List.cons.inj hstr).1]

theorem protocol_eq {c c' : ClientConfig}
    (hudp : bare "--udp" (c.protocol = .udp) = bare "--udp" (c'.protocol = .udp))
    (hsctp : bare "--sctp" (c.protocol = .sctp) = bare "--sctp" (c'.protocol = .sctp)) :
    c.protocol = c'.protocol := by
  have hu := bare_inj hudp
  have hs := bare_inj hsctp
  cases hp : c.protocol <;> cases hp' : c'.protocol <;> simp_all

theorem addressFamily_eq {c c' : ClientConfig}
    (h4 : bare "--version4" (c.addressFamily = .ipv4) = bare "--version4" (c'.addressFamily = .ipv4))
    (h6 : bare "--version6" (c.addressFamily = .ipv6) = bare "--version6" (c'.addressFamily = .ipv6)) :
    c.addressFamily = c'.addressFamily := by
  have h4 := bare_inj h4
  have h6 := bare_inj h6
  cases hf : c.addressFamily <;> cases hf' : c'.addressFamily <;> simp_all

theorem affinities_eq {c c' : ClientConfig} (hc : Admitted c) (hc' : Admitted c')
    (h : (c.affinity.map fun affinity => affinityText affinity c.serverAffinity) =
      c'.affinity.map fun affinity => affinityText affinity c'.serverAffinity) :
    c.affinity = c'.affinity ∧ c.serverAffinity = c'.serverAffinity := by
  cases ha : c.affinity with
  | none =>
    rw [ha] at h
    have ha' : c'.affinity = none := Option.map_eq_none_iff.mp h.symm
    exact ⟨ha'.symm, (hc.affinity ha).trans (hc'.affinity ha').symm⟩
  | some affinity =>
    rw [ha] at h
    obtain ⟨affinity', ha', htext⟩ := Option.map_eq_some_iff.mp h.symm
    obtain ⟨hm, hs⟩ := affinityText_inj htext
    exact ⟨by rw [ha', hm], hs.symm⟩

/-- Equal tables of flags and of symbols hold the same settings. -/
theorem settled_eq_of_rows_eq {c c' : ClientConfig} (hc : Admitted c) (hc' : Admitted c')
    (hencode : ∀ row ∈ stringSetters c, ∀ value ∈ row.2.2, value.utf8Encode.isSome = true)
    (hencode' : ∀ row ∈ stringSetters c', ∀ value ∈ row.2.2, value.utf8Encode.isSome = true)
    (hrows : rows c = rows c') (hcalls : callRows c = callRows c') : settled c = settled c' := by
  simp only [rows, targetRows, protocolRows, modeRows, familyRows, valueRows, addressRow,
    composedRows, List.cons_append, List.nil_append, List.cons.injEq, and_true, true_and] at hrows
  obtain ⟨hserver, hudp, hsctp, htime, hlength, hreverse, hbidir, hv4, hv6, hinterval, hfq, hflow,
    hstreams, hfile, htitle, hrcv, hsnd, hmptcp, hskip, hgsro, hjson, hpkcs1, hxbind, haffinity,
    hcntl⟩ := hrows
  simp only [callRows, integerSetters, booleanSetters, stringSetters, List.map_cons, List.map_nil,
    List.cons_append, List.nil_append, List.cons.injEq, and_true] at hcalls
  obtain ⟨hport, hparallel, homit, htos, hbindPort, hbuffer, hmss, hconnect, hbytes, hblocks, hburst,
    hpacing, hdelay, hzerocopy, hcounters, hfragment, hpayload, houtput, haddress, hdevice,
    hcongestion, hextra, hrate⟩ := hcalls
  simp only [stringSetters, List.forall_mem_cons] at hencode hencode'
  have hduration : c.duration = c'.duration :=
    duration_eq hc.counts hc'.counts (integerRow_inj hbytes) (integerRow_inj hblocks)
      (intText_injective (List.cons.inj (valued_inj htime)).1)
  have hintervals : c.intervalSeconds = c'.intervalSeconds :=
    toList_map_inj (fun x hx y hy => numText_inj (hc.interval x hx) (hc'.interval y hy))
      (valued_inj hinterval)
  have hkeepalive : c.controlKeepalive = c'.controlKeepalive :=
    toList_inj (List.map_injective_iff.mpr keepaliveText_injective (joined_inj hcntl))
  have hints : Function.Injective SetterArgument.int := fun _ _ => SetterArgument.int.inj
  have hrates : nativeRate c = nativeRate c' :=
    toList_inj (List.map_injective_iff.mpr hints (Prod.mk.inj hrate).2)
  obtain ⟨haffinities, hserverAffinities⟩ := affinities_eq hc hc' (toList_inj (valued_inj haffinity))
  simp only [settled, ClientConfig.mk.injEq]
  exact ⟨server_eq hc hc' hserver, Option.some.inj (integerRow_inj hport), protocol_eq hudp hsctp,
    hduration, Option.some.inj (integerRow_inj hparallel), Option.some.inj (integerRow_inj homit),
    bare_inj hreverse, bare_inj hbidir, bare_inj hmptcp, valued_intText_inj hlength, hrates,
    integerRow_inj htos, bare_inj hjson, stringRow_inj hencode.1 hencode'.1 haddress,
    stringRow_inj hencode.2.1 hencode'.2.1 hdevice, integerRow_inj hbindPort,
    addressFamily_eq hv4 hv6, integerRow_inj hbuffer,
    stringRow_inj hencode.2.2.1 hencode'.2.2.1 hcongestion, booleanRow_inj hdelay,
    integerRow_inj hmss, integerRow_inj hconnect, integerRow_inj hbytes, integerRow_inj hblocks,
    hintervals, integerRow_inj hpacing, valued_intText_inj hfq, integerRow_inj hburst,
    booleanRow_inj hzerocopy, bare_inj hskip, booleanRow_inj hcounters, booleanRow_inj hfragment,
    valued_intText_inj hflow, valued_intText_inj hstreams, valued_inj hxbind,
    toList_inj (valued_inj hfile), booleanRow_inj hpayload, haffinities, hserverAffinities,
    booleanRow_inj houtput, toList_inj (valued_inj htitle),
    stringRow_inj hencode.2.2.2.1 hencode'.2.2.2.1 hextra, valued_intText_inj hrcv,
    valued_intText_inj hsnd, hkeepalive, bare_inj hgsro, trivial, trivial, bare_inj hpkcs1⟩

/-! ## Once -/

/-- The settings that a flag carries. -/
def flagSettings : List (String × List String) :=
  [("--json", []), ("--client", ["server"]), ("--udp", ["protocol"]), ("--sctp", ["protocol"]),
    ("--time", ["duration"]), ("--length", ["blksize"]), ("--reverse", ["reverse"]),
    ("--bidir", ["bidirectional"]), ("--version4", ["address_family"]),
    ("--version6", ["address_family"]), ("--interval", ["interval_seconds"]),
    ("--fq-rate", ["fq_rate_bps"]), ("--flowlabel", ["flow_label"]), ("--nstreams", ["sctp_streams"]),
    ("--file", ["payload_file"]), ("--title", ["title"]), ("--rcv-timeout", ["receive_timeout_ms"]),
    ("--snd-timeout", ["send_timeout_ms"]), ("--mptcp", ["mptcp"]),
    ("--skip-rx-copy", ["skip_rx_copy"]), ("--gsro", ["gsro"]), ("--json-stream", ["json_stream"]),
    ("--use-pkcs1-padding", ["use_pkcs1_padding"]), ("--xbind", ["sctp_bind_addresses"]),
    ("--affinity", ["affinity", "server_affinity"]), ("--cntl-ka", ["control_keepalive"])]

/-- The setting that a symbol sets. -/
def symbolSettings : List (String × List String) :=
  [("iperf_set_test_server_port", ["port"]), ("iperf_set_test_num_streams", ["parallel"]),
    ("iperf_set_test_omit", ["omit"]), ("iperf_set_test_tos", ["tos"]),
    ("iperf_set_test_bind_port", ["client_port"]),
    ("iperf_set_test_socket_bufsize", ["socket_buffer_bytes"]), ("iperf_set_test_mss", ["mss"]),
    ("iperf_set_test_connect_timeout", ["connect_timeout_ms"]),
    ("iperf_set_test_bytes", ["bytes_to_send"]), ("iperf_set_test_blocks", ["blocks_to_send"]),
    ("iperf_set_test_burst", ["burst_packets"]),
    ("iperf_set_test_pacing_timer", ["pacing_timer_us"]), ("iperf_set_test_no_delay", ["no_delay"]),
    ("iperf_set_test_zerocopy", ["zerocopy"]),
    ("iperf_set_test_udp_counters_64bit", ["udp_counters_64bit"]),
    ("iperf_set_dont_fragment", ["dont_fragment"]),
    ("iperf_set_test_repeating_payload", ["repeating_payload"]),
    ("iperf_set_test_get_server_output", ["get_server_output"]),
    ("iperf_set_test_bind_address", ["bind_address"]), ("iperf_set_test_bind_dev", ["bind_device"]),
    ("iperf_set_test_congestion_control", ["congestion_control"]),
    ("iperf_set_test_extra_data", ["extra_data"]), ("iperf_set_test_rate", ["rate"])]

/-- The settings of an argument. -/
def carries (argument : Argument PyChar) : List String :=
  ((flagSettings.map fun row => (PyStr.ofString row.1, row.2)).lookup argument.1).getD []

/-- The settings of a call. -/
def sets (call : Call) : List String := (symbolSettings.lookup call.1).getD []

/-- The settings of a command line and its setter calls, apart from the addresses. -/
def appliedSettings (read : List (Argument PyChar)) (calls : List Call) : List String :=
  (read.filter fun argument => argument.1 ≠ PyStr.ofString "--xbind").flatMap carries ++
    calls.flatMap sets

/-- The settings that can be applied, in the order of the tables. -/
def applicable : List String :=
  ["server", "protocol", "duration", "blksize", "reverse", "bidirectional", "address_family",
    "interval_seconds", "fq_rate_bps", "flow_label", "sctp_streams", "payload_file", "title",
    "receive_timeout_ms", "send_timeout_ms", "mptcp", "skip_rx_copy", "gsro", "json_stream",
    "use_pkcs1_padding", "affinity", "server_affinity", "control_keepalive"] ++
    symbolSettings.flatMap Prod.snd

theorem nodup_applicable : applicable.Nodup := by decide

/-- The rows but for the addresses. -/
theorem filter_rows_ne (c : ClientConfig) :
    (rows c).filter (fun row => row.1 ≠ PyStr.ofString "--xbind") =
      targetRows c ++ protocolRows c ++ modeRows c ++ familyRows c ++ valueRows c ++
        composedRows c := rfl

theorem filter_rows_eq (c : ClientConfig) :
    (rows c).filter (fun row => row.1 = PyStr.ofString "--xbind") = [addressRow c] := rfl

theorem length_bare (flag : String) (on : Bool) : (bare flag on).2.length ≤ 1 := by
  cases on <;> simp [bare]

theorem length_valued_toList (flag : String) (value : Option PyStr) :
    (valued flag value.toList).2.length ≤ 1 := by
  cases value <;> simp [valued]

theorem carries_protocolRows (c : ClientConfig) :
    ((entries (protocolRows c)).flatMap carries).Sublist ["protocol"] := by
  unfold protocolRows
  cases c.protocol <;> decide

theorem carries_familyRows (c : ClientConfig) :
    ((entries (familyRows c)).flatMap carries).Sublist ["address_family"] := by
  unfold familyRows
  cases c.addressFamily <;> decide

/-- A table of single uses carries no more than the settings of its flags. -/
theorem carries_sublist {table : List Row} (flags settings : List String)
    (hflags : table.map Prod.fst = flags.map PyStr.ofString)
    (hlength : ∀ row ∈ table, row.2.length ≤ 1)
    (hsettings : (flags.map PyStr.ofString).flatMap (fun flag => carries (flag, .alone)) = settings) :
    ((entries table).flatMap carries).Sublist settings := by
  have hsub := flatMap_entries_sublist (fun flag => carries (flag, .alone)) hlength
  have hmap : (table.flatMap fun row => carries (row.1, .alone)) = settings := by
    rw [← hsettings, ← hflags, List.flatMap_map]
  rw [hmap] at hsub
  exact hsub

theorem carries_targetRows (c : ClientConfig) :
    ((entries (targetRows c)).flatMap carries).Sublist ["server"] := by
  refine carries_sublist ["--json", "--client"] _ rfl ?_ (by decide +kernel)
  simp [targetRows, bare, valued]

theorem carries_modeRows (c : ClientConfig) :
    ((entries (modeRows c)).flatMap carries).Sublist
      ["duration", "blksize", "reverse", "bidirectional"] := by
  refine carries_sublist ["--time", "--length", "--reverse", "--bidir"] _ rfl ?_ (by decide +kernel)
  simp only [modeRows, List.forall_mem_cons]
  exact ⟨by simp [valued], length_valued_toList _ _, length_bare _ _, length_bare _ _, by simp⟩

theorem carries_valueRows (c : ClientConfig) :
    ((entries (valueRows c)).flatMap carries).Sublist
      ["interval_seconds", "fq_rate_bps", "flow_label", "sctp_streams", "payload_file", "title",
        "receive_timeout_ms", "send_timeout_ms", "mptcp", "skip_rx_copy", "gsro", "json_stream",
        "use_pkcs1_padding"] := by
  refine carries_sublist
    ["--interval", "--fq-rate", "--flowlabel", "--nstreams", "--file", "--title", "--rcv-timeout",
      "--snd-timeout", "--mptcp", "--skip-rx-copy", "--gsro", "--json-stream",
      "--use-pkcs1-padding"] _ rfl ?_ (by decide +kernel)
  simp only [valueRows, List.forall_mem_cons]
  exact ⟨length_valued_toList _ _, length_valued_toList _ _, length_valued_toList _ _,
    length_valued_toList _ _, length_valued_toList _ _, length_valued_toList _ _,
    length_valued_toList _ _, length_valued_toList _ _, length_bare _ _, length_bare _ _,
    length_bare _ _, length_bare _ _, length_bare _ _, by simp⟩

theorem carries_composedRows (c : ClientConfig) :
    ((entries (composedRows c)).flatMap carries).Sublist
      ["affinity", "server_affinity", "control_keepalive"] := by
  refine carries_sublist ["--affinity", "--cntl-ka"] _ rfl ?_ (by decide +kernel)
  simp only [composedRows, List.forall_mem_cons]
  refine ⟨length_valued_toList _ _, ?_, by simp⟩
  cases c.controlKeepalive <;> simp [joined]

theorem length_integerRow (row : String × String × Option ℤ) : (integerRow row).2.length ≤ 1 := by
  obtain ⟨name, symbol, value⟩ := row
  cases value <;> simp [integerRow]

theorem length_booleanRow (row : String × String × Bool) : (booleanRow row).2.length ≤ 1 := by
  obtain ⟨name, symbol, on⟩ := row
  cases on <;> simp [booleanRow]

theorem length_stringRow (row : String × String × Option PyStr) : (stringRow row).2.length ≤ 1 := by
  obtain ⟨name, symbol, value⟩ := row
  cases value <;> simp [stringRow]

theorem length_callRows (c : ClientConfig) : ∀ row ∈ callRows c, row.2.length ≤ 1 := by
  intro row hrow
  simp only [callRows, List.mem_append, List.mem_map, List.mem_singleton] at hrow
  rcases hrow with ((⟨r, -, rfl⟩ | ⟨r, -, rfl⟩) | ⟨r, -, rfl⟩) | rfl
  · exact length_integerRow r
  · exact length_booleanRow r
  · exact length_stringRow r
  · exact length_integerRow ("rate", "iperf_set_test_rate", nativeRate c)

theorem sets_callRows (c : ClientConfig) :
    ((entries (callRows c)).flatMap sets).Sublist (symbolSettings.flatMap Prod.snd) := by
  have hsub := flatMap_entries_sublist (fun symbol => sets (symbol, .int 0)) (length_callRows c)
  have hmap : ((callRows c).flatMap fun row => sets (row.1, .int 0)) =
      symbolSettings.flatMap Prod.snd := by
    rw [← List.flatMap_map Prod.fst fun symbol => sets (symbol, .int 0), labels_callRows]
    decide +kernel
  rw [hmap] at hsub
  exact hsub

/-- No setting is applied twice, apart from the addresses. -/
theorem nodup_appliedSettings (c : ClientConfig) :
    (appliedSettings (entries (rows c)) (entries (callRows c))).Nodup := by
  refine .sublist (.append ?_ (sets_callRows c)) nodup_applicable
  rw [filter_entries fun flag => flag ≠ PyStr.ofString "--xbind", filter_rows_ne]
  simp only [entries_append, List.flatMap_append]
  exact .append (.append (.append (.append (.append (carries_targetRows c) (carries_protocolRows c))
    (carries_modeRows c)) (carries_familyRows c)) (carries_valueRows c)) (carries_composedRows c)

/-- The addresses have one flag each, in their order. -/
theorem filter_addresses (c : ClientConfig) :
    (entries (rows c)).filter (fun argument => argument.1 = PyStr.ofString "--xbind") =
      c.sctpBindAddresses.map fun address => (PyStr.ofString "--xbind", .behind address) := by
  rw [filter_entries fun flag => flag = PyStr.ofString "--xbind", filter_rows_eq]
  simp [addressRow, valued]

/-! ## The whole -/

/-- Equal vectors and equal calls come from equal settings, but for the credentials. The parser reads
the flags of an option set with their values and nothing else, whatever the texts are; each setting
has at most one flag or call, and each address has one flag. -/
theorem settings_applied_once (parse : IpParser) (native : Library) (parser : OptionParser) :
    (∀ options options' c c' calls,
      validatedOptions parse options = .ok c → validatedOptions parse options' = .ok c' →
      arguments c = arguments c' →
      applySetters native c = .ok calls → applySetters native c' = .ok calls →
      settled c = settled c') ∧
    ∀ options c, validatedOptions parse options = .ok c →
      parser.read (arguments c) = some (entries (rows c)) ∧
      (entries (rows c)).filter (fun argument => argument.1 = PyStr.ofString "--xbind") =
        (c.sctpBindAddresses.map fun address => (PyStr.ofString "--xbind", .behind address)) ∧
      ∀ calls, applySetters native c = .ok calls →
        (appliedSettings (entries (rows c)) calls).Nodup := by
  constructor
  · intro options options' c c' calls hc hc' harguments hcalls hcalls'
    exact settled_eq_of_rows_eq (admitted_of_validatedOptions hc) (admitted_of_validatedOptions hc')
      (applySetters_eq hcalls).2 (applySetters_eq hcalls').2 (rows_eq_of_arguments_eq harguments)
      (callRows_eq_of_applySetters_eq hcalls hcalls')
  · intro options c _
    refine ⟨read_arguments parser c, filter_addresses c, ?_⟩
    intro calls hcalls
    rw [(applySetters_eq hcalls).1]
    exact nodup_appliedSettings c

/-- A library that exposes every symbol. -/
def completeLibrary : Library := ⟨fun _ => true, true⟩

/-- Options whose title looks like a flag and whose addresses are given twice. -/
def sctpOptions : PyDict :=
  [(PyStr.ofString "server", .str "host"), (PyStr.ofString "protocol", .str "sctp"),
    (PyStr.ofString "title", .str "--reverse"),
    (PyStr.ofString "sctp_bind_addresses", .list [.str "10.0.0.1", .str "--udp"])]

/-- The configuration of these options. -/
def sctpConfig : ClientConfig :=
  { server := .text "host"
    protocol := .sctp
    title := some "--reverse"
    sctpBindAddresses := ["10.0.0.1", "--udp"] }

/-- What a parser reads for this configuration. -/
def sctpReading : List (Argument PyChar) :=
  [(PyStr.ofString "--json", .alone), (PyStr.ofString "--client", .behind (PyStr.ofString "host")),
    (PyStr.ofString "--sctp", .alone), (PyStr.ofString "--time", .behind (PyStr.ofString "10")),
    (PyStr.ofString "--title", .behind (PyStr.ofString "--reverse")),
    (PyStr.ofString "--xbind", .behind (PyStr.ofString "10.0.0.1")),
    (PyStr.ofString "--xbind", .behind (PyStr.ofString "--udp"))]

theorem settings_applied_once_sctp :
    settled sctpConfig = settled sctpConfig ∧
      plainParser.read (arguments sctpConfig) = some sctpReading ∧
      (appliedSettings (entries (rows sctpConfig))
        [("iperf_set_test_server_port", .int 5201), ("iperf_set_test_num_streams", .int 1),
          ("iperf_set_test_omit", .int 0)]).Nodup := by
  obtain ⟨hequal, honce⟩ := settings_applied_once (fun _ => none) completeLibrary plainParser
  have hvalid : validatedOptions (fun _ => none) sctpOptions = .ok sctpConfig := rfl
  have hcalls : applySetters completeLibrary sctpConfig =
      .ok [("iperf_set_test_server_port", .int 5201), ("iperf_set_test_num_streams", .int 1),
        ("iperf_set_test_omit", .int 0)] := rfl
  obtain ⟨hread, -, hnodup⟩ := honce sctpOptions sctpConfig hvalid
  exact ⟨hequal _ _ _ _ _ hvalid hvalid rfl hcalls hcalls, hread, hnodup _ hcalls⟩

/-- Options with credentials. -/
def credentialOptions (user : String) : PyDict :=
  [(PyStr.ofString "server", .str "host"), (PyStr.ofString "username", .str user),
    (PyStr.ofString "rsa_public_key_path", .str "key.pem")]

/-- The configuration of these options. -/
def credentialConfig (user : String) : ClientConfig :=
  { server := .text "host", username := some user, rsaPublicKeyPath := some "key.pem" }

/-- The user name goes neither way, and the address flag is given once for each address. -/
theorem username_not_applied :
    (validatedOptions (fun _ => none) (credentialOptions "alice") = .ok (credentialConfig "alice") ∧
      validatedOptions (fun _ => none) (credentialOptions "bob") = .ok (credentialConfig "bob") ∧
      arguments (credentialConfig "alice") = arguments (credentialConfig "bob") ∧
      applySetters completeLibrary (credentialConfig "alice") =
        applySetters completeLibrary (credentialConfig "bob") ∧
      (applySetters completeLibrary (credentialConfig "alice")).isOk = true ∧
      (credentialConfig "alice").rsaPublicKeyPath = (credentialConfig "bob").rsaPublicKeyPath ∧
      (credentialConfig "alice").username ≠ (credentialConfig "bob").username) ∧
    (validatedOptions (fun _ => none) sctpOptions = .ok sctpConfig ∧
      (arguments sctpConfig).count (PyStr.ofString "--xbind") = 2) := by
  refine ⟨⟨rfl, rfl, rfl, rfl, rfl, rfl, ?_⟩, rfl, rfl⟩
  decide

end Iperf3Lib.Native
