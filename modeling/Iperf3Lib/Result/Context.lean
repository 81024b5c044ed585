import Iperf3Lib.Result.Reading

/-!
# Provenance of a document

The first part of `result_from_iperf_json`: the objects of the document, who reported it, and whether
the traffic went forward, in reverse or both ways.
-/

namespace Iperf3Lib.Results

open Py

/-! ## The producer -/

/-- `raw.get("error")`, a text where it is there. -/
def readError (raw : PyDict) : Except Exc (Option PyStr) :=
  match raw.get? "error" with
  | none => .ok none
  | some (.str error) => .ok (some error)
  | some _ => valueError "iperf JSON error value must be a string"

/-- `protocol.lower()`; no letter beyond ASCII has a lower case within the names of the protocols. -/
def lowered (s : PyStr) : PyStr :=
  s.map fun
    | .scalar c => .scalar c.toLower
    | c => c

/-- `test_start.get("protocol")`. -/
def readProtocol (testStart : PyDict) : Except Exc (Option Protocol) :=
  match testStart.get? "protocol" with
  | none | some .none => .ok none
  | some (.str s) =>
    match [Protocol.tcp, .udp, .sctp].find? fun p => PyStr.ofString p.text = lowered s with
    | some p => .ok (some p)
    | none => valueError "iperf JSON protocol must be tcp, udp, or sctp"
  | some _ => valueError "iperf JSON protocol must be a string"

/-- `version` and `system_info` are texts with something in them. -/
def checkProducer (start : PyDict) (name : String) : Except Exc Unit :=
  match start.get? name with
  | none | some .none => .ok ()
  | some (.str s) =>
    reject (s.hasText = false) (s!"iperf JSON {name} must be a nonempty string" : String)
  | some _ => valueError (s!"iperf JSON {name} must be a nonempty string" : String)

/-- The versions whose unavailable counters are known. -/
def knownVersions : List PyStr :=
  ([("iperf 3.19.1" : String), "iperf 3.21", "iperf 3.22"] : List String).map PyStr.ofString

/-- `start.get("version") in (…)`. -/
def isKnownVersion (start : PyDict) : Bool :=
  match start.get? "version" with
  | some (.str version) => version ∈ knownVersions
  | _ => false

/-- `qualified_native`. -/
def qualifiedNative (start : PyDict) : Bool :=
  isKnownVersion start &&
    match start.get? "system_info" with
    | some (.str info) => (PyStr.ofString "Linux ").isPrefixOf info
    | _ => false

/-! ## The reporting role -/

/-- The markers of `start` and the role that each of them is evidence of. -/
def markers : List (String × ReportingRole) :=
  [("connecting_to", .client), ("accepted_connection", .server)]

def markerRole (start : PyDict) (marker : String × ReportingRole) :
    Except Exc (Option ReportingRole) :=
  match start.get? marker.1 with
  | none => .ok none
  | some (.dict _) => .ok (some marker.2)
  | some _ => valueError (PyStr.ofString "iperf JSON " ++ PyStr.ofString marker.1 ++
      PyStr.ofString " value must be an object")

/-- `role_evidence`. -/
def roleEvidence (start : PyDict) (given : Option ReportingRole) : Except Exc (List ReportingRole) := do
  let found ← markers.mapM (markerRole start)
  return (given :: found).reduceOption

/-- The role that the evidence agrees on. -/
def soleRole (evidence : List ReportingRole) : Option ReportingRole :=
  if .client ∈ evidence ∧ .server ∈ evidence then none else evidence.head?

/-- `reporting_role` after its provenance is known. -/
def resolveRole (start : PyDict) (given : Option ReportingRole) : Normalize (Option ReportingRole) := do
  let evidence ← roleEvidence start given
  when (.client ∈ evidence ∧ .server ∈ evidence) <| diagnose {
    message := PyStr.ofString "Conflicting reporting-role provenance; reporting endpoint is unknown."
    code := "provenance.conflict"
    path := some (PyStr.ofString "/reporting_role")
    evidencePaths := (markers.filter fun marker => (start.get? marker.1).isSome).map fun marker =>
      PyStr.ofString "/raw/start/" ++ PyStr.ofString marker.1 }
  return soleRole evidence

/-! ## The direction of the traffic -/

/-- The flags of the direction and what follows from them. -/
structure Modes where
  nativeBidir : Option Bool
  aliasBidir : Option Bool
  reverse : Option Bool
  bidirectional : Bool
deriving DecidableEq

/-- The value of the `bidir` flag, or else of its alias. -/
def Modes.explicit (modes : Modes) : Option Bool := modes.nativeBidir.or modes.aliasBidir

/-- `has_reverse_summaries`. -/
def hasReverseSummaries (endData : PyDict) : Bool :=
  isPresent endData "sum_sent_bidir_reverse" || isPresent endData "sum_received_bidir_reverse"

/-- The flags of `test_start`; without a flag the summaries of the end tell. -/
def readModes (testStart endData : PyDict) : Except Exc Modes := do
  let nativeBidir ← optionalFlag testStart "bidir"
  let aliasBidir ← optionalFlag testStart "bidirectional"
  reject (nativeBidir ≠ none ∧ aliasBidir ≠ none ∧ nativeBidir ≠ aliasBidir)
    "iperf JSON bidir and bidirectional flags conflict"
  let explicit := nativeBidir.or aliasBidir
  let reverse ← optionalFlag testStart "reverse"
  reject (explicit = some false ∧ hasReverseSummaries endData = true)
    "iperf JSON bidirectional flag conflicts with reverse-flow end summaries"
  let bidirectional := explicit.getD (hasReverseSummaries endData)
  reject (bidirectional = true ∧ reverse = some true)
    "iperf JSON reverse and bidirectional flags conflict"
  return ⟨nativeBidir, aliasBidir, reverse, bidirectional⟩

/-- `primary_direction`. -/
def Modes.primaryDirection (modes : Modes) : FlowDirection :=
  if modes.bidirectional = true ∨ modes.reverse = some false then .clientToServer
  else if modes.reverse = some true then .serverToClient
  else .unknown

/-- `method` of the execution. -/
def Modes.method (modes : Modes) : Method :=
  if modes.bidirectional = true then .bidirectional
  else if modes.reverse = some true then .reverse
  else if modes.reverse = some false then .forward
  else .unknown

/-- What is noted of inferred and unknown directions. -/
def diagnoseModes (modes : Modes) : Normalize Unit := do
  when (modes.explicit = none ∧ modes.bidirectional = true) <| diagnose {
    message := PyStr.ofString "Bidirectional mode was inferred from native reverse-flow end summaries."
    code := "provenance.inferred"
    path := some (PyStr.ofString "/execution/method")
    evidencePaths := [PyStr.ofString "/raw/end"] }
  when (modes.primaryDirection = .unknown) <| diagnose {
    message :=
      PyStr.ofString "Traffic direction is unknown because native direction flags are missing."
    code := "provenance.unknown"
    path := some (PyStr.ofString "/execution/method")
    evidencePaths := [PyStr.ofString "/raw/start/test_start"] }

/-! ## The context -/

/-- What the rest of the normalizer reads of the document as a whole. -/
structure Context where
  start : PyDict
  testStart : PyDict
  endData : PyDict
  timestamp : PyDict
  protocol : Option Protocol
  reportingRole : Option ReportingRole
  modes : Modes

def readContext (raw : PyDict) (given : Option ReportingRole) : Normalize Context := do
  when (isPresent raw "start" = false) <| diagnose {
    message := PyStr.ofString "Native JSON start metadata is missing."
    code := "measurement.absent" }
  let start ← optionalObject raw "start" "iperf JSON start value must be an object"
  when (isPresent start "test_start" = false) <| diagnose {
    message := PyStr.ofString "Native JSON test_start configuration is missing."
    code := "measurement.absent" }
  let testStart ← optionalObject start "test_start"
    "iperf JSON start and test_start values must be objects"
  let endData ← optionalObject raw "end" "iperf JSON end value must be an object"
  let timestamp ← optionalObject start "timestamp" "iperf JSON timestamp value must be an object"
  let protocol ← readProtocol testStart
  checkProducer start "version"
  checkProducer start "system_info"
  let reportingRole ← resolveRole start given
  let modes ← readModes testStart endData
  diagnoseModes modes
  return ⟨start, testStart, endData, timestamp, protocol, reportingRole, modes⟩

/-! ## What the context comes from -/

/-- The context is read from the document. -/
structure Context.ReadFrom (raw : PyDict) (given : Option ReportingRole) (ctx : Context) : Prop where
  start : optionalObject raw "start" "iperf JSON start value must be an object" = .ok ctx.start
  testStart : optionalObject ctx.start "test_start"
    "iperf JSON start and test_start values must be objects" = .ok ctx.testStart
  endData : optionalObject raw "end" "iperf JSON end value must be an object" = .ok ctx.endData
  modes : readModes ctx.testStart ctx.endData = .ok ctx.modes

theorem meets_readError (raw : PyDict) : Meets (fun _ => True) Caught (readError raw) := by
  unfold readError
  split
  · trivial
  · trivial
  · exact meets_valueError _

theorem meets_readProtocol (testStart : PyDict) :
    Meets (fun _ => True) Caught (readProtocol testStart) := by
  unfold readProtocol
  split
  · trivial
  · trivial
  · split
    · trivial
    · exact meets_valueError _
  · exact meets_valueError _

theorem meets_checkProducer (start : PyDict) (name : String) :
    Meets (fun _ => True) Caught (checkProducer start name) := by
  unfold checkProducer
  split
  · trivial
  · trivial
  · exact (meets_reject _).mono fun _ _ => trivial
  · exact meets_valueError _

theorem meets_markerRole (start : PyDict) (marker : String × ReportingRole) :
    Meets (fun _ => True) Caught (markerRole start marker) := by
  unfold markerRole
  split
  · trivial
  · trivial
  · exact meets_valueError _

theorem meets_roleEvidence (start : PyDict) (given : Option ReportingRole) :
    Meets (fun _ => True) Caught (roleEvidence start given) := by
  refine (Meets.mapM markers fun marker _ => meets_markerRole start marker).bind fun _ _ => ?_
  trivial

theorem yields_resolveRole (start : PyDict) (given : Option ReportingRole) :
    Yields (fun _ => True) Caught (resolveRole start given) := by
  refine (Yields.lift (meets_roleEvidence start given)).bind fun evidence _ => ?_
  refine (yields_when (yields_diagnose _)).bind fun _ _ => ?_
  exact .pure trivial

theorem meets_readModes (testStart endData : PyDict) :
    Meets (fun _ => True) Caught (readModes testStart endData) := by
  refine (meets_optionalFlag _ _).bind fun _ _ => ?_
  refine (meets_optionalFlag _ _).bind fun _ _ => ?_
  refine (meets_reject _).bind fun _ _ => ?_
  refine (meets_optionalFlag _ _).bind fun _ _ => ?_
  refine (meets_reject _).bind fun _ _ => ?_
  refine (meets_reject _).bind fun _ _ => ?_
  trivial

theorem yields_diagnoseModes (modes : Modes) :
    Yields (fun _ => True) Caught (diagnoseModes modes) := by
  refine (yields_when (yields_diagnose _)).bind fun _ _ => ?_
  exact yields_when (yields_diagnose _)

theorem yields_readContext (raw : PyDict) (given : Option ReportingRole) :
    Yields (Context.ReadFrom raw given) Caught (readContext raw given) := by
  refine (yields_when (yields_diagnose _)).bind fun _ _ => ?_
  refine (Yields.lift (meets_optionalObject _ _ _).self).bind fun start hstart => ?_
  refine (yields_when (yields_diagnose _)).bind fun _ _ => ?_
  refine (Yields.lift (meets_optionalObject _ _ _).self).bind fun testStart htestStart => ?_
  refine (Yields.lift (meets_optionalObject _ _ _).self).bind fun endData hend => ?_
  refine (Yields.lift (meets_optionalObject _ _ _)).bind fun timestamp _ => ?_
  refine (Yields.lift (meets_readProtocol _)).bind fun protocol _ => ?_
  refine (Yields.lift (meets_checkProducer _ _)).bind fun _ _ => ?_
  refine (Yields.lift (meets_checkProducer _ _)).bind fun _ _ => ?_
  refine (yields_resolveRole _ _).bind fun role _ => ?_
  refine (Yields.lift (meets_readModes _ _).self).bind fun modes hmodes => ?_
  refine (yields_diagnoseModes _).bind fun _ _ => ?_
  exact .pure ⟨hstart, htestStart, hend, hmodes⟩

end Iperf3Lib.Results
