import Iperf3Lib.Ipc.Accept
import Iperf3Lib.PartialEvents
import Iperf3Lib.Parent.Sessions
import Iperf3Lib.Py.Json.Paired
import Iperf3Lib.Result.Outcome

/-!
# Decoding a worker's result

`_decode_result` turns an accepted result message into a `Result`. The document of the message is
normalized, whatever it holds; then the message's own error, the missing document and the receipt of
the capture each have a say in the outcome.
-/

namespace Iperf3Lib.Parent

open Py Json Ipc Results

/-! ## The steps -/

/-- `metadata.status`. -/
def statusOf (result : Result) : Option NativeStatus := result.execution.map ExecutionMetadata.status

/-- `metadata.status = status`. -/
def setStatus (status : NativeStatus) (result : Result) : Result :=
  { result with execution := result.execution.map fun metadata => { metadata with status := status } }

/-- `result.diagnostics.append(diagnostic)`. -/
def note (diagnostic : Diagnostic) (result : Result) : Result :=
  { result with diagnostics := result.diagnostics ++ [diagnostic] }

/-- `result.extensions[name] = value`. -/
def extend (name : String) (value : PyVal) (result : Result) : Result :=
  { result with extensions := result.extensions.set (PyStr.ofString name) value }

/-- `message.get("error")`, a text that is not empty. -/
def errorOf (message : PyDict) : Option PyStr := (message.str? "error").filter fun error => error ≠ []

/-- `message["raw"]`, a dictionary in every accepted message. -/
def rawOf (message : PyDict) : PyDict := (dict? message "raw").getD []

/-- What stands for a document that is not normalized. -/
def malformedResult (raw : PyDict) : Result where
  ok := false
  error := some (PyStr.ofString "Native JSON could not be normalized")
  raw := raw
  execution := some { status := .incomplete }
  diagnostics := [{
    message :=
      PyStr.ofString "The retained native document has invalid measurement field shapes."
    code := "execution.malformed_native_json"
    evidencePaths := [PyStr.ofString "/raw"] }]

/-- The `try` of `_decode_result`. -/
def decodeRaw (raw : PyDict) (error : Option PyStr) (role : ReportingRole) : Except Exc Result :=
  if raw = [] then
    .ok {
      ok := false
      error := some (error.getD (PyStr.ofString "No JSON returned by libiperf")) }
  else
    match resultFromIperfJson (.dict raw) (some role) with
    | .ok result => .ok result
    | .error e => if e.cls ∈ caughtClasses then .ok (malformedResult raw) else .error e

/-- `message[key]`, a number in every accepted message. -/
def timeOf (message : PyDict) (key : String) : Except Exc PyNum :=
  match number? message key with
  | some x => .ok x
  | none => .error ⟨.keyError, key⟩

/-- The role, the metadata and the times of the message. -/
def stamp (message : PyDict) (role : ReportingRole) (startedAt completedAt elapsed : PyNum)
    (result : Result) : Result :=
  let metadata := result.execution.getD
    { status := if result.ok = true then .completed else .incomplete }
  { result with
    reportingRole := some role
    startedAtSeconds := some startedAt
    completedAtSeconds := some completedAt
    execution := some { metadata with
      nativeVersion :=
        if metadata.nativeVersion.isNone = true then fieldValue message "native_version"
        else metadata.nativeVersion
      timing := { metadata.timing with
        startedAtSeconds := some startedAt
        completedAtSeconds := some completedAt
        elapsedSeconds := some elapsed } } }

/-- The error of the message, or else the missing document. -/
def settle (raw : PyDict) (error : Option PyStr) (result : Result) : Result :=
  match error with
  | some error =>
    note { message := error, severity := .error, code := "execution.native_error" }
      (setStatus .failed { result with ok := false, error := some error })
  | none => if raw = [] then setStatus .incomplete result else result

/-- The status of the native call. -/
def addNativeStatus (message : PyDict) (result : Result) : Result :=
  match message.get? "native_returncode" with
  | none => result
  | some code =>
    let result := extend "iperf3_lib.native_status"
      (.dict [("returncode", code), ("error_code", fieldValue message "native_error_code")]) result
    if (message.int? "native_returncode").any (· < 0) = true ∧
        equalsInt 0 (fieldValue message "native_error_code") = true then
      note {
        message := PyStr.ofString "The native call returned failure without setting its process-global error code; original native JSON is retained."
        code := "execution.native_error_detail_missing"
        evidencePaths := [PyStr.ofString "/extensions/iperf3_lib.native_status"] } result
    else result

/-- `event_delivery`. -/
def addDelivery (message : PyDict) (result : Result) : Result :=
  extend "iperf3_lib.event_delivery" (.dict
    [("emitted", (message.get? "events_emitted").getD (.int 0)),
      ("dropped", (message.get? "events_dropped").getD (.int 0)),
      ("queue_capacity", .int maxPendingEvents), ("queue_bytes", .int maxPendingEventBytes),
      ("event_bytes", .int maxEventBytes)]) result

/-- `json.loads(json.dumps(value))`. -/
def copy (maxStrDigits : ℕ) (value : PyVal) : Except Exc PyVal := do
  let text ← dump .standard (standardFaults maxStrDigits) 0 value
  loads (standardHooks maxStrDigits) text

/-- `not capture["complete_document"] and not capture["reconstruction_complete"]`. -/
def lostEvidence (capture : PyDict) : Bool :=
  bool? capture "complete_document" = some false && bool? capture "reconstruction_complete" = some false

/-- A capture that lost evidence. -/
def markPartial (result : Result) : Result :=
  let result := if statusOf result ≠ some .failed then setStatus .incomplete { result with ok := false }
    else result
  note {
    message := PyStr.ofString "Native event capture lost or malformed reconstruction evidence; retained measurements are partial."
    code := "execution.incomplete_capture"
    evidencePaths := [PyStr.ofString "/extensions/iperf3_lib.event_capture"] } result

/-- The receipt of the capture. -/
def addCapture (maxStrDigits : ℕ) (message : PyDict) (result : Result) : Except Exc Result :=
  match message.get? "capture" with
  | none => .ok result
  | some capture => do
    validateCapture capture
    let copied ← copy maxStrDigits capture
    let result := extend "iperf3_lib.event_capture" copied result
    return if lostEvidence ((dict? message "capture").getD []) = true then markPartial result
      else result

/-- A document that was put together from events. -/
def addReconstruction (message : PyDict) (result : Result) : Result :=
  let events := (message.get? "native_events").getD (.list [])
  if message.str? "raw_representation" = some (PyStr.ofString "reconstructed_events") ∧
      (rawOf message ≠ [] ∨ events ≠ .list []) then
    note {
      message := PyStr.ofString "This native version supplies streaming events without a complete final JSON document; raw is reconstructed from retained events."
      severity := .info
      code := "execution.reconstructed_json"
      evidencePaths := [PyStr.ofString "/extensions/iperf3_lib.native_json/events"] }
      (extend "iperf3_lib.native_json"
        (.dict [("representation", .lit "reconstructed_events"), ("events", events)]) result)
  else result

/-- `_decode_result`. -/
def decodeResult (maxStrDigits : ℕ) (message : PyDict) (role : ReportingRole) : Except Exc Result := do
  let raw := rawOf message
  let result ← decodeRaw raw (errorOf message) role
  let startedAt ← timeOf message "started_at"
  let completedAt ← timeOf message "completed_at"
  let elapsed ← timeOf message "elapsed"
  let result := settle raw (errorOf message) (stamp message role startedAt completedAt elapsed result)
  let result := extend "iperf3_lib.native_configuration"
    ((message.get? "evidence").getD (.dict [])) result
  let result := addDelivery message (addNativeStatus message result)
  let result ← addCapture maxStrDigits message result
  return addReconstruction message result

/-! ## What every step keeps -/

/-- The outcome agrees with itself. -/
structure Sound (r : Result) : Prop where
  isSome : (statusOf r).isSome = true
  ok_iff : r.ok = true ↔ statusOf r = some .completed
  clean : statusOf r = some .completed → r.error = none
  failed : statusOf r = some .failed → r.error ≠ none

namespace Sound

variable {r : Result}

theorem note (h : Sound r) (diagnostic : Diagnostic) : Sound (note diagnostic r) :=
  ⟨h.isSome, h.ok_iff, h.clean, h.failed⟩

theorem extend (h : Sound r) (name : String) (value : PyVal) : Sound (extend name value r) :=
  ⟨h.isSome, h.ok_iff, h.clean, h.failed⟩

theorem addNativeStatus (h : Sound r) (message : PyDict) : Sound (addNativeStatus message r) := by
  unfold Parent.addNativeStatus
  split
  · exact h
  · dsimp only
    split
    · exact (h.extend _ _).note _
    · exact h.extend _ _

theorem addReconstruction (h : Sound r) (message : PyDict) : Sound (addReconstruction message r) := by
  unfold Parent.addReconstruction
  dsimp only
  split
  · exact (h.extend _ _).note _
  · exact h

end Sound

theorem statusOf_setStatus {r : Result} (h : (statusOf r).isSome = true) (status : NativeStatus) :
    statusOf (setStatus status r) = some status := by
  obtain ⟨s, hs⟩ := Option.isSome_iff_exists.mp h
  obtain ⟨metadata, hmetadata, -⟩ := Option.map_eq_some_iff.mp hs
  rw [statusOf, setStatus, hmetadata]
  rfl

@[simp] theorem statusOf_note (diagnostic : Diagnostic) (r : Result) :
    statusOf (note diagnostic r) = statusOf r := rfl

@[simp] theorem statusOf_extend (name : String) (value : PyVal) (r : Result) :
    statusOf (extend name value r) = statusOf r := rfl

theorem statusOf_addNativeStatus (message : PyDict) (r : Result) :
    statusOf (addNativeStatus message r) = statusOf r := by
  unfold addNativeStatus
  split
  · rfl
  · dsimp only
    split <;> rfl

theorem statusOf_addReconstruction (message : PyDict) (r : Result) :
    statusOf (addReconstruction message r) = statusOf r := by
  unfold addReconstruction
  dsimp only
  split <;> rfl

/-! ## The receipt is copied -/

section Copies

variable {maxStrDigits : ℕ}

/-- A value that `json.dumps` writes and `json.loads` keeps. -/
def Copied (maxStrDigits : ℕ) (v : PyVal) : Prop :=
  v.All (Writable maxStrDigits) ∧ v.All (Kept (standardHooks maxStrDigits))

theorem copied_int (hm : 640 ≤ maxStrDigits) {n : ℤ} (hn : n.natAbs ≤ 2 ^ 64) :
    Copied maxStrDigits (.int n) := by
  have hdigits : (Nat.toDigits 10 n.natAbs).length ≤ 20 := by
    rw [Nat.length_toDigits_le_iff (by norm_num) (by norm_num)]
    exact lt_of_le_of_lt hn (by norm_num)
  exact ⟨le_trans hdigits (le_trans (by norm_num) hm), trivial⟩

/-- A dictionary with distinct names of the source as its keys is copied with its values. -/
theorem copied_dict {kvs : PyDict} (hnodup : kvs.keys.Nodup)
    (hkeys : ∀ key ∈ kvs.keys, ∃ name, key = PyStr.ofString name)
    (hvalues : ∀ kv ∈ kvs, Copied maxStrDigits kv.2) : Copied maxStrDigits (.dict kvs) := by
  have hread : PyDict.keys (asReadPairs kvs) = kvs.keys := by
    rw [asReadPairs_eq, PyDict.keys, List.map_map, PyDict.keys]
    refine List.map_congr_left fun kv hkv => ?_
    obtain ⟨name, hname⟩ := hkeys kv.1 (List.mem_map_of_mem hkv)
    rw [Function.comp_apply, hname, spelled_ofString]
  refine ⟨⟨trivial, PyVal.allPairs_iff.mpr fun kv hkv => ⟨trivial, (hvalues kv hkv).1⟩⟩,
    ?_, PyVal.allPairs_iff.mpr fun kv hkv => ⟨trivial, (hvalues kv hkv).2⟩⟩
  exact (accepts_standardHooks maxStrDigits).pairs _ (hread ▸ hnodup)

theorem exists_copy_of_copied {v : PyVal} (h : Copied maxStrDigits v) :
    ∃ copied, copy maxStrDigits v = .ok copied := by
  have haccepts : Accepts (standardHooks maxStrDigits) (standardFaults maxStrDigits) :=
    ⟨(accepts_standardHooks maxStrDigits).int, (accepts_standardHooks maxStrDigits).float,
      (accepts_standardHooks maxStrDigits).pairs⟩
  obtain ⟨text, htext, hloads⟩ := exists_copy haccepts h.2 h.1
  exact ⟨_, by rw [copy, htext, ok_bind, hloads]⟩

theorem copied_shortTexts {values : List PyVal} (h : values.all (isShortText 256) = true) :
    Copied maxStrDigits (.list values) := by
  have htext : ∀ value ∈ values, ∃ s, value = .str s := by
    intro value hvalue
    have hshort := List.all_eq_true.mp h value hvalue
    cases value with
    | str s => exact ⟨s, rfl⟩
    | none | bool | int | float | list | tuple | dict | obj => cases hshort
  constructor <;>
  · refine ⟨trivial, PyVal.allItems_iff.mpr fun value hvalue => ?_⟩
    obtain ⟨s, rfl⟩ := htext value hvalue
    trivial

theorem copied_limits (hm : 640 ≤ maxStrDigits) {limits : PyDict} (hnodup : limits.keys.Nodup)
    (h : isLimits (some (.dict limits)) = true) : Copied maxStrDigits (.dict limits) := by
  obtain ⟨hequal, hints⟩ := Bool.and_eq_true_iff.mp h
  obtain ⟨hkeys, hvalues⟩ := Bool.and_eq_true_iff.mp hequal
  have hmem : ∀ key ∈ limits.keys, ∃ limit ∈ captureLimits, limit.1 = key := by
    intro key hkey
    have hin := List.all_eq_true.mp (Bool.and_eq_true_iff.mp hkeys).2 key hkey
    exact List.mem_map.mp (List.contains_iff_mem.mp hin)
  refine copied_dict hnodup ?_ ?_
  · intro key hkey
    obtain ⟨limit, hlimit, rfl⟩ := hmem key hkey
    have hall : ∀ limit ∈ captureLimits, ∃ name, limit.1 = PyStr.ofString name := by
      simp only [captureLimits, List.forall_mem_cons, List.not_mem_nil, false_imp_iff, implies_true,
        and_true]
      exact ⟨⟨_, rfl⟩, ⟨_, rfl⟩, ⟨_, rfl⟩, ⟨_, rfl⟩, ⟨_, rfl⟩⟩
    exact hall limit hlimit
  · rintro ⟨key, value⟩ hkv
    obtain ⟨limit, hlimit, hname⟩ := hmem key (List.mem_map_of_mem hkv)
    dsimp only at hname ⊢
    subst hname
    have hvalue := List.all_eq_true.mp hvalues limit hlimit
    rw [PyDict.get?_of_mem hnodup hkv] at hvalue
    have hint := List.all_eq_true.mp hints _ hkv
    cases value with
    | int n =>
      obtain rfl : n = limit.2 := of_decide_eq_true hvalue
      have hbound : ∀ limit ∈ captureLimits, limit.2.natAbs ≤ 2 ^ 64 := by decide
      exact copied_int hm (hbound limit hlimit)
    | none | bool | float | str | list | tuple | dict | obj => cases hint

theorem isSource_of_consistent {capture : PyDict} (h : receiptConsistent capture = true) :
    isSource (capture.get? "complete_document_source") = true := by
  simp only [receiptConsistent, Bool.and_eq_true] at h
  exact h.1.1.2

/-- A receipt that lost evidence does not claim a complete reconstruction. -/
theorem reconstruction_of_consistent {capture : PyDict} (h : receiptConsistent capture = true)
    (hlost : counter capture "capture_dropped" ≠ 0 ∨ counter capture "malformed" ≠ 0 ∨
      counter capture "retention_dropped" ≠ 0) :
    bool? capture "reconstruction_complete" = some false := by
  simp only [receiptConsistent, Bool.and_eq_true, decide_eq_true_eq] at h
  rw [h.2, Option.some.injEq]
  rcases hlost with hne | hne | hne <;> simp [hne]

/-- A receipt that was let through is copied. -/
theorem copied_capture (hm : 640 ≤ maxStrDigits) {capture : PyDict}
    (hdistinct : (PyVal.dict capture).All DistinctKeys) (h : validateCapture (.dict capture) = .ok ()) :
    Copied maxStrDigits (.dict capture) := by
  obtain ⟨hshaped, hconsistent⟩ := validateCapture_eq_ok.mp h
  have hnodup : capture.keys.Nodup := hdistinct.self
  simp only [receiptShaped, Bool.and_eq_true] at hshaped
  obtain ⟨⟨⟨⟨⟨⟨⟨hkeys, hversion⟩, hcounters⟩, hcomplete⟩, hreconstruction⟩, hlimits⟩, hdiagnostics⟩,
    hgetter⟩ := hshaped
  have hmem : ∀ key ∈ capture.keys, key ∈ captureKeys := fun key hkey =>
    List.contains_iff_mem.mp (List.all_eq_true.mp (Bool.and_eq_true_iff.mp hkeys).2 key hkey)
  refine copied_dict hnodup ?_ ?_
  · intro key hkey
    have hall : ∀ key ∈ captureKeys, ∃ name, key = PyStr.ofString name := by
      simp only [captureKeys, captureCounters, List.cons_append, List.nil_append,
        List.forall_mem_cons, List.not_mem_nil, false_imp_iff, implies_true, and_true]
      exact ⟨⟨_, rfl⟩, ⟨_, rfl⟩, ⟨_, rfl⟩, ⟨_, rfl⟩, ⟨_, rfl⟩, ⟨_, rfl⟩, ⟨_, rfl⟩, ⟨_, rfl⟩, ⟨_, rfl⟩,
        ⟨_, rfl⟩, ⟨_, rfl⟩, ⟨_, rfl⟩, ⟨_, rfl⟩, ⟨_, rfl⟩⟩
    exact hall key (hmem key hkey)
  · rintro ⟨key, value⟩ hkv
    have hvalue := PyDict.get?_of_mem hnodup hkv
    have hinner : value.All DistinctKeys := (PyVal.allPairs_iff.mp hdistinct.2 _ hkv).2
    rcases List.mem_append.mp (hmem key (List.mem_map_of_mem hkv)) with hcounter | hother
    · have hcounter := List.all_eq_true.mp hcounters key hcounter
      rw [isCounter, PyDict.int?, hvalue] at hcounter
      cases value with
      | int n =>
        have hn : 0 ≤ n ∧ n ≤ maxCounter := of_decide_eq_true hcounter
        have hmax : maxCounter ≤ 2 ^ 64 := by decide
        exact copied_int hm (by omega)
      | none | bool | float | str | list | tuple | dict | obj => cases hcounter
    · simp only [List.mem_cons, List.not_mem_nil, or_false] at hother
      rcases hother with rfl | rfl | rfl | rfl | rfl | rfl | rfl
      · have hone := of_decide_eq_true hversion
        rw [PyDict.int?, hvalue] at hone
        cases value with
        | int n =>
          obtain rfl : n = 1 := Option.some.inj hone
          exact copied_int hm (by decide)
        | none | bool | float | str | list | tuple | dict | obj => cases hone
      · rw [bool?, hvalue] at hcomplete
        cases value with
        | bool b => exact ⟨trivial, trivial⟩
        | none | int | float | str | list | tuple | dict | obj => cases hcomplete
      · have hsource := isSource_of_consistent hconsistent
        rw [hvalue] at hsource
        cases value with
        | none => exact ⟨trivial, trivial⟩
        | str s => exact ⟨trivial, trivial⟩
        | bool | int | float | list | tuple | dict | obj => cases hsource
      · rw [hvalue] at hgetter
        cases value with
        | none => exact ⟨trivial, trivial⟩
        | str s => exact ⟨trivial, trivial⟩
        | bool | int | float | list | tuple | dict | obj => cases hgetter
      · rw [bool?, hvalue] at hreconstruction
        cases value with
        | bool b => exact ⟨trivial, trivial⟩
        | none | int | float | str | list | tuple | dict | obj => cases hreconstruction
      · rw [hvalue] at hdiagnostics
        cases value with
        | list values => exact copied_shortTexts (Bool.and_eq_true_iff.mp hdiagnostics).2
        | none | bool | int | float | str | tuple | dict | obj => cases hdiagnostics
      · rw [hvalue] at hlimits
        cases value with
        | dict limits => exact copied_limits hm hinner.self hlimits
        | none | bool | int | float | str | list | tuple | obj => cases hlimits

end Copies

/-! ## The outcome -/

section Outcome

variable {message raw : PyDict} {error : Option PyStr} {role : ReportingRole} {r : Result}

/-- The document is normalized or replaced; its outcome agrees with itself once it has metadata. -/
theorem decodeRaw_spec (raw : PyDict) (error : Option PyStr) (role : ReportingRole) :
    ∃ r, decodeRaw raw error role = .ok r ∧ r.ok = r.error.isNone ∧ (raw = [] → r.ok = false) ∧
      ((r.execution = none ∧ r.ok = false) ∨ ∃ metadata, r.execution = some metadata ∧
        (metadata.status = .completed ↔ r.error = none)) := by
  unfold decodeRaw
  by_cases hraw : raw = []
  · rw [if_pos hraw]
    exact ⟨_, rfl, rfl, fun _ => rfl, .inl ⟨rfl, rfl⟩⟩
  · rw [if_neg hraw]
    have hmeets := meets_resultFromIperfJson raw (some role)
    split
    · next r hr =>
      have hnormalized := hmeets.of_ok hr
      exact ⟨r, rfl, hnormalized.ok, fun h => absurd h hraw, .inr hnormalized.execution⟩
    · next e he =>
      have hcaught : e.cls ∈ caughtClasses := by
        rw [he] at hmeets
        exact hmeets
      rw [if_pos hcaught]
      refine ⟨_, rfl, rfl, fun _ => rfl, .inr ⟨_, rfl, ?_⟩⟩
      simp [malformedResult]

/-- With its metadata and times the result is sound. -/
theorem sound_stamp (hok : r.ok = r.error.isNone)
    (h : (r.execution = none ∧ r.ok = false) ∨ ∃ metadata, r.execution = some metadata ∧
      (metadata.status = .completed ↔ r.error = none)) (startedAt completedAt elapsed : PyNum) :
    Sound (stamp message role startedAt completedAt elapsed r) := by
  have hnone : r.ok = true ↔ r.error = none := by rw [hok, Option.isNone_iff_eq_none]
  rcases h with ⟨hexecution, hfalse⟩ | ⟨metadata, hexecution, hcompleted⟩
  · have hstatus : statusOf (stamp message role startedAt completedAt elapsed r) = some .incomplete := by
      rw [statusOf, stamp, hexecution, hfalse]
      rfl
    refine ⟨by rw [hstatus]; rfl, ?_, ?_, ?_⟩ <;> rw [hstatus]
    · change r.ok = true ↔ _
      rw [hfalse]
      decide
    · exact fun h => absurd h (by decide)
    · exact fun h => absurd h (by decide)
  · have hstatus : statusOf (stamp message role startedAt completedAt elapsed r) =
        some metadata.status := by
      rw [statusOf, stamp, hexecution]
      rfl
    refine ⟨by rw [hstatus]; rfl, ?_, ?_, ?_⟩ <;> rw [hstatus, Option.some.injEq]
    · exact hnone.trans hcompleted.symm
    · exact hcompleted.mp
    · intro hfailed herror
      have := hcompleted.mpr herror
      rw [this] at hfailed
      cases hfailed

/-- A given status without success is sound when an error stands behind a failure. -/
theorem sound_setStatus {status : NativeStatus} (h : (statusOf r).isSome = true) (hok : r.ok = false)
    (hstatus : status ≠ .completed) (hfailed : status = .failed → r.error ≠ none) :
    Sound (setStatus status r) := by
  have hset := statusOf_setStatus h status
  refine ⟨by rw [hset]; rfl, ?_, ?_, ?_⟩ <;> rw [hset, Option.some.injEq]
  · change r.ok = true ↔ _
    rw [hok]
    exact iff_of_false Bool.false_ne_true hstatus
  · exact fun h => absurd h hstatus
  · exact hfailed

/-- The message's own error and the missing document settle the outcome. -/
theorem settle_spec (h : Sound r) (hempty : raw = [] → r.ok = false) :
    Sound (settle raw error r) ∧ (error.isSome = true → statusOf (settle raw error r) = some .failed) ∧
      (raw = [] → statusOf (settle raw error r) ≠ some .completed) := by
  cases error with
  | some error =>
    have hset : ∀ status, statusOf (setStatus status { r with ok := false, error := some error }) =
        some status := statusOf_setStatus (r := { r with ok := false, error := some error }) h.isSome
    have hsound : Sound (setStatus .failed { r with ok := false, error := some error }) :=
      sound_setStatus h.isSome rfl (by decide) fun _ => Option.some_ne_none error
    refine ⟨hsound.note _, fun _ => hset .failed, fun _ => ?_⟩
    rw [settle, statusOf_note, hset]
    decide
  | none =>
    rw [settle]
    by_cases hraw : raw = []
    · rw [if_pos hraw]
      have hset := statusOf_setStatus h.isSome .incomplete
      have hsound : Sound (setStatus .incomplete r) :=
        sound_setStatus h.isSome (hempty hraw) (by decide) fun h => by cases h
      refine ⟨hsound, fun hsome => absurd hsome Bool.false_ne_true, fun _ => ?_⟩
      rw [hset]
      decide
    · rw [if_neg hraw]
      exact ⟨h, fun hsome => absurd hsome Bool.false_ne_true, fun h => absurd h hraw⟩

/-- A receipt of lost evidence takes back a success and nothing else. -/
theorem markPartial_spec (h : Sound r) :
    Sound (markPartial r) ∧ statusOf (markPartial r) ≠ some .completed ∧
      (statusOf r = some .failed → statusOf (markPartial r) = some .failed) := by
  unfold markPartial
  dsimp only
  by_cases hfailed : statusOf r = some .failed
  · rw [if_neg (not_not.mpr hfailed), statusOf_note, hfailed]
    exact ⟨h.note _, by decide, fun _ => rfl⟩
  · have hset : statusOf (setStatus .incomplete { r with ok := false }) = some .incomplete :=
      statusOf_setStatus (r := { r with ok := false }) h.isSome .incomplete
    rw [if_pos hfailed, statusOf_note, hset]
    have hsound : Sound (setStatus .incomplete { r with ok := false }) :=
      sound_setStatus h.isSome rfl (by decide) fun h => by cases h
    exact ⟨hsound.note _, by decide, fun h => absurd h hfailed⟩

/-- The receipt of an accepted message only takes back a success. -/
theorem addCapture_spec {maxStrDigits : ℕ} (hm : 640 ≤ maxStrDigits)
    (hdistinct : (PyVal.dict message).All DistinctKeys)
    (hcapture : ∀ capture, message.get? "capture" = some capture → validateCapture capture = .ok ())
    (h : Sound r) :
    ∃ r', addCapture maxStrDigits message r = .ok r' ∧ Sound r' ∧
      (statusOf r = some .failed → statusOf r' = some .failed) ∧
      (statusOf r ≠ some .completed → statusOf r' ≠ some .completed) ∧
      (lostEvidence ((dict? message "capture").getD []) = true → statusOf r' ≠ some .completed) := by
  unfold addCapture
  split
  · next hnone =>
    refine ⟨r, rfl, h, id, id, fun hlost => ?_⟩
    rw [dict?, hnone] at hlost
    cases hlost
  · next capture hsome =>
    have hvalid := hcapture capture hsome
    cases capture with
    | dict capture =>
      have hinner : (PyVal.dict capture).All DistinctKeys :=
        (PyVal.allPairs_iff.mp hdistinct.2 _ (PyDict.mem_of_get? hsome)).2
      obtain ⟨copied, hcopied⟩ := exists_copy_of_copied (copied_capture hm hinner hvalid)
      rw [hvalid, ok_bind, hcopied, ok_bind]
      refine ⟨_, rfl, ?_⟩
      have hextended := h.extend "iperf3_lib.event_capture" copied
      by_cases hlost : lostEvidence ((dict? message "capture").getD []) = true
      · rw [if_pos hlost]
        obtain ⟨hsound, hpartial, hfailed⟩ := markPartial_spec hextended
        exact ⟨hsound, hfailed, fun _ => hpartial, fun _ => hpartial⟩
      · rw [if_neg hlost]
        exact ⟨hextended, id, id, fun h => absurd h hlost⟩
    | none | bool | int | float | str | list | tuple | obj => cases hvalid

end Outcome

/-! ## Accepted messages -/

/-- An honest result of a message. -/
structure Honest (message : PyDict) (r : Result) : Prop where
  sound : Sound r
  reported : ∀ error, message.str? "error" = some error → error ≠ [] → statusOf r = some .failed
  empty : message.get? "raw" = some (.dict []) → statusOf r ≠ some .completed
  lost : ∀ capture, message.get? "capture" = some (.dict capture) →
    bool? capture "complete_document" = some false →
    counter capture "capture_dropped" ≠ 0 ∨ counter capture "malformed" ≠ 0 ∨
      counter capture "retention_dropped" ≠ 0 → statusOf r ≠ some .completed

/-- A finite number of a message. -/
theorem timeOf_of_finiteNumber {message : PyDict} {key : String}
    (h : finiteNumber (message.get? key) = true) : ∃ x, timeOf message key = .ok x := by
  unfold timeOf number?
  cases hvalue : message.get? (key : PyStr) with
  | none => rw [hvalue] at h; cases h
  | some value =>
    rw [hvalue] at h
    cases value with
    | int n => exact ⟨_, rfl⟩
    | float x => exact ⟨_, rfl⟩
    | none | bool | str | list | tuple | dict | obj => cases h

/-- The times of a result that was let through are finite numbers. -/
theorem finiteNumber_of_isResult {s : Responses} {message : PyDict} (h : s.isResult message = true)
    {key : String} (hkey : key ∈ ["started_at", "completed_at", "elapsed"]) :
    finiteNumber (message.get? key) = true := by
  unfold Responses.isResult at h
  split at h
  · simp only [Bool.and_eq_true] at h
    have htimes := List.all_eq_true.mp h.1.1.1.1.1.1.2
    simp only [List.mem_cons, List.not_mem_nil, or_false] at hkey
    rcases hkey with rfl | rfl | rfl <;> exact htimes _ (by simp)
  · cases h

/-- The receipt of a result that was let through has been checked. -/
theorem validateCapture_of_acceptResult {s s' : Responses} {message : PyDict}
    (h : s.acceptResult message = .ok s') {capture : PyVal}
    (hcapture : message.get? "capture" = some capture) : validateCapture capture = .ok () := by
  unfold Responses.acceptResult at h
  split at h
  · cases h
  · rw [hcapture, if_pos (.inl rfl), bind_unit_eq_ok] at h
    exact h.1

/-- What the parent has checked of a result. -/
theorem checked_of_accept {s s' : Responses} {message : PyDict} (h : s.accept message = (.ok (), s'))
    (hkind : message.str? "type" = some (PyStr.ofString "result")) :
    (∀ key ∈ (["started_at", "completed_at", "elapsed"] : List String),
      finiteNumber (message.get? key) = true) ∧
    ∀ capture, message.get? "capture" = some capture → validateCapture capture = .ok () := by
  have hresult : isKind "result" message = true := decide_eq_true hkind
  unfold Responses.accept at h
  split at h
  · cases h
  · split at h
    · next s'' hadmit =>
      obtain ⟨-, -, hbranches⟩ := Responses.admit_cases hadmit
      have hother : ∀ {kind : String} {P : Prop}, "result" ≠ kind → isKind kind message = true → P := by
        intro kind P hne hk
        have hfalse := isKind_eq_false hresult (PyStr.ofString_injective.ne hne)
        exact absurd (hk.symm.trans hfalse) (by decide)
      rcases hbranches with ⟨hk, -⟩ | ⟨hk, -⟩ | ⟨hk, -⟩ | ⟨-, haccept⟩ | ⟨hk, -⟩ | ⟨hk, -⟩
      · exact hother (by decide) hk
      · exact hother (by decide) hk
      · exact hother (by decide) hk
      · obtain ⟨hchecked, -⟩ := Responses.acceptResult_ok haccept
        exact ⟨fun key hkey => finiteNumber_of_isResult hchecked hkey,
          fun capture hcapture => validateCapture_of_acceptResult haccept hcapture⟩
      · exact hother (by decide) hk
      · exact hother (by decide) hk
    · cases h

theorem decodeResult_honest {maxStrDigits : ℕ} (hm : 640 ≤ maxStrDigits) {s s' : Responses}
    {message : PyDict} (hdistinct : (PyVal.dict message).All DistinctKeys)
    (haccept : s.accept message = (.ok (), s'))
    (hkind : message.str? "type" = some (PyStr.ofString "result")) (role : ReportingRole) :
    ∃ r, decodeResult maxStrDigits message role = .ok r ∧ Honest message r := by
  obtain ⟨htimes, hcapture⟩ := checked_of_accept haccept hkind
  obtain ⟨startedAt, hstarted⟩ := timeOf_of_finiteNumber (htimes "started_at" (by simp))
  obtain ⟨completedAt, hcompleted⟩ := timeOf_of_finiteNumber (htimes "completed_at" (by simp))
  obtain ⟨elapsed, helapsed⟩ := timeOf_of_finiteNumber (htimes "elapsed" (by simp))
  obtain ⟨r₀, hraw, hok, hempty, hmetadata⟩ := decodeRaw_spec (rawOf message) (errorOf message) role
  have hstamped : Sound (stamp message role startedAt completedAt elapsed r₀) :=
    sound_stamp hok hmetadata startedAt completedAt elapsed
  obtain ⟨hsettled, hfailed, hmissing⟩ :=
    @settle_spec _ (errorOf message) _ hstamped hempty
  set settled := settle (rawOf message) (errorOf message)
    (stamp message role startedAt completedAt elapsed r₀)
  set extended := addDelivery message (addNativeStatus message (extend "iperf3_lib.native_configuration"
    ((message.get? "evidence").getD (.dict [])) settled)) with hextended
  have hsound : Sound extended := ((hsettled.extend _ _).addNativeStatus message).extend _ _
  have hstatus : statusOf extended = statusOf settled := by
    rw [hextended, addDelivery, statusOf_extend, statusOf_addNativeStatus, statusOf_extend]
  obtain ⟨r, hadded, hlast, hkeeps, hnever, hlost⟩ := addCapture_spec hm hdistinct hcapture hsound
  refine ⟨addReconstruction message r, ?_, hlast.addReconstruction message, ?_, ?_, ?_⟩
  · rw [decodeResult, hraw, ok_bind, hstarted, ok_bind, hcompleted, ok_bind, helapsed, ok_bind]
    change (addCapture maxStrDigits message extended >>= _) = _
    rw [hadded]
    rfl
  · intro error herror hne
    have hsome : errorOf message = some error := by
      rw [errorOf, herror, Option.filter_some, if_pos (decide_eq_true hne)]
    rw [statusOf_addReconstruction]
    exact hkeeps (hstatus.trans (hfailed (by rw [hsome]; rfl)))
  · intro hdocument
    have hnone : rawOf message = [] := by rw [rawOf, dict?, hdocument]; rfl
    rw [statusOf_addReconstruction]
    exact hnever (hstatus ▸ hmissing hnone)
  · intro capture hreceipt hcomplete hdropped
    have hconsistent := (validateCapture_eq_ok.mp (hcapture _ hreceipt)).2
    rw [statusOf_addReconstruction]
    refine hlost ?_
    rw [dict?, hreceipt, Option.getD_some, lostEvidence, hcomplete,
      reconstruction_of_consistent hconsistent hdropped]
    rfl

/-! ## An accepted message -/

/-- The parent of a worker that is ready. -/
def readyParent : Responses where
  session := {
    requestId := List.replicate 32 (.scalar 'a')
    workerId := List.replicate 32 (.scalar 'b')
    requestId_nonce := by decide
    workerId_nonce := by decide }
  role := .client
  pid := 1
  liveEvents := false
  phase := .running
  producer := some [("native_version", .lit "3.22")]

/-- A result with a native error in its document. -/
def failedMessage : PyDict :=
  [("protocol_version", .int protocolVersion), ("request_id", .str (List.replicate 32 (.scalar 'a'))),
    ("worker_id", .str (List.replicate 32 (.scalar 'b'))), ("transport_sequence", .int 1),
    ("run_index", .int 1), ("type", .lit "result"), ("raw", .dict [("error", .int 0)]),
    ("error", .lit "unable to connect"), ("started_at", .float (.finite (.zero false))),
    ("completed_at", .float (.finite (.zero false))), ("elapsed", .float (.finite (.zero false))),
    ("native_version", .lit "3.22")]

/-- The document is refused by the normalizer, and the message reports an error. -/
theorem decodeResult_honest_failed :
    ∃ r, decodeResult 4300 failedMessage .client = .ok r ∧ Honest failedMessage r := by
  have haccept : (readyParent.accept failedMessage).1.isOk = true := by decide +kernel
  obtain ⟨_, haccept⟩ := isOk_iff.mp haccept
  refine decodeResult_honest (by decide) ?_ (Prod.ext haccept rfl) (by decide) .client
  refine ⟨show (PyDict.keys failedMessage).Nodup by decide, ?_⟩
  simp [failedMessage, PyVal.AllPairs, PyVal.All, DistinctKeys, PyVal.lit, PyDict.keys]

end Iperf3Lib.Parent
