import Iperf3Lib.Capture.Faithful
import Iperf3Lib.Capture.Strict

/-!
# What a lossless capture retains

When no payload was malformed and none was dropped, the evidence is the last document alone, or else
the envelopes and their projection. The charges for the payloads cover both.
-/

namespace Iperf3Lib.Capture

open Py Json Ipc PyVal

variable {config : CaptureConfig} {F : Faults Exc}

/-! ## Payloads -/

namespace NativePayload

/-- What the parser has established of a payload. -/
structure Read (F : Faults Exc) (p : NativePayload) : Prop where
  strict : Strict F (.dict p.data)
  part : (p.wrapped = true ∧ p.data.get? "data" = some p.part) ∨
    (p.kind = .complete ∧ p.part = .dict p.data)

theorem read_of_payload? {item : Captured} {p : NativePayload}
    (h : item.payload? config F = some p) : p.Read F := by
  unfold Captured.payload? at h
  split at h
  · next p' hread =>
    split at h
    · cases h
      unfold readPayload at hread
      rw [bind_eq_ok] at hread
      obtain ⟨data, hdata, hread⟩ := hread
      have hstrict := strict_of_nativeObject hdata
      split at hread
      · next name part _ hpart =>
        cases hread
        exact ⟨hstrict, .inl ⟨rfl, hpart⟩⟩
      · cases hread
      · cases hread
        exact ⟨hstrict, .inr ⟨rfl, rfl⟩⟩
    · cases h
  · cases h

theorem Read.all_part {p : NativePayload} (h : p.Read F) : p.part.All (StrictNode F) := by
  rcases h.part with ⟨-, hpart⟩ | ⟨-, hpart⟩
  · exact (allPairs_iff.mp h.strict.nodes.2 _ (PyDict.mem_of_get? hpart)).2
  · rw [hpart]
    exact h.strict.nodes

theorem Read.all_document {p : NativePayload} (h : p.Read F) {document : PyDict}
    (hdocument : p.document? = some document) : (PyVal.dict document).All (StrictNode F) := by
  have hpart := h.all_part
  unfold document? at hdocument
  split at hdocument
  · next hdict =>
    cases hdocument
    rw [hdict] at hpart
    exact hpart
  · cases hdocument

theorem Read.textSize_document {p : NativePayload} (h : p.Read F) {document : PyDict}
    (hdocument : p.document? = some document) :
    textSize (.dict document) ≤ textSize (.dict p.data) := by
  unfold document? at hdocument
  split at hdocument
  · next hdict =>
    cases hdocument
    rw [← hdict]
    rcases h.part with ⟨-, hpart⟩ | ⟨-, hpart⟩
    · exact textSize_le_of_mem (PyDict.mem_of_get? hpart)
    · rw [hpart]
  · cases hdocument

end NativePayload

/-- The values of strict JSON hold no surrogates. -/
theorem scalarStr_of_strict {v : PyVal} (h : v.All (StrictNode F)) : v.All ScalarStr := by
  refine All.and (fun v hv _ => ?_) h h
  cases v <;> first | exact hv | trivial

theorem isScalar_errorText {v : PyVal} (hv : v.All (StrictNode F)) {text : PyStr}
    (h : errorText F v = some text) : text.isScalar = true := by
  unfold errorText at h
  split at h
  · cases h
    exact hv.self
  · cases hdump : dump plainLayout F 0 v with
    | ok t =>
      rw [hdump] at h
      cases h
      exact isScalar_dump (scalarStr_of_strict hv) hdump
    | error e =>
      rw [hdump] at h
      cases h

theorem length_jsonBody {v : PyVal} {b : List UInt8} (h : jsonBody F v = some b) :
    b.length = textSize v := by
  unfold jsonBody at h
  split at h
  · next t ht =>
    rw [PyStr.length_utf8Encode h]
    exact utf8Len_dump ht
  · cases h

/-- The size that is charged is the size of the text. -/
theorem nativeSize_eq {v : PyVal} {n : ℕ} (h : nativeSize F v = some n) : n = textSize v := by
  obtain ⟨b, hb, rfl⟩ := Option.map_eq_some_iff.mp h
  exact length_jsonBody hb

/-! ## The reconstruction -/

/-- The last document among the payloads. -/
def lastDocument (ps : List NativePayload) : Option PyDict :=
  (ps.filterMap NativePayload.document?).getLast?

theorem lastDocument_concat (ps : List NativePayload) (p : NativePayload) :
    lastDocument (ps ++ [p]) = p.document?.or (lastDocument ps) := by
  unfold lastDocument
  rw [List.filterMap_append]
  cases hdocument : p.document? with
  | none => simp [hdocument]
  | some document => simp [hdocument]

theorem document?_eq_none {p : NativePayload} (h : p.kind ≠ .complete) :
    p.document? = Option.none := by
  cases hdocument : p.document? with
  | none => rfl
  | some document => exact absurd (kind_of_document? hdocument) h

theorem strict_str {s : PyStr} (h : s.isScalar = true) : (PyVal.str s).All (StrictNode F) := h

theorem all_dict_set {d : PyDict} (hd : (PyVal.dict d).All (StrictNode F)) {key : PyStr}
    (hkey : key.isScalar = true) {v : PyVal} (hv : v.All (StrictNode F)) :
    (PyVal.dict (PyDict.set d key v)).All (StrictNode F) :=
  ⟨PyDict.nodup_keys_set hd.1 key v, allPairs_set hd.2 hkey hv⟩

/-- The projection of an envelope stays strict. -/
theorem all_project {raw raw' : PyDict} (hraw : (PyVal.dict raw).All (StrictNode F))
    {p : NativePayload} (hp : p.Read F) (h : Parser.project F raw p = some raw') :
    (PyVal.dict raw').All (StrictNode F) := by
  have hset : ∀ key : String, (PyVal.dict (PyDict.set raw key p.part)).All (StrictNode F) :=
    fun key => all_dict_set hraw (PyStr.isScalar_ofString key) hp.all_part
  unfold Parser.project at h
  split at h
  · cases h
    exact hset _
  · unfold Parser.appendInterval at h
    split at h
    · cases h
      exact all_dict_set hraw (PyStr.isScalar_ofString _) ⟨trivial, hp.all_part, trivial⟩
    · next parts hparts =>
      cases h
      have hold := (allPairs_iff.mp hraw.2 _ (PyDict.mem_of_get? hparts)).2
      refine all_dict_set hraw (PyStr.isScalar_ofString _) ⟨trivial, allItems_iff.mpr fun x hx => ?_⟩
      rcases List.mem_append.mp hx with hx | hx
      · exact allItems_iff.mp hold.2 x hx
      · rw [List.mem_singleton.mp hx]
        exact hp.all_part
    · cases h
  · cases h
    exact hset _
  · obtain ⟨text, htext, rfl⟩ := Option.map_eq_some_iff.mp h
    exact all_dict_set hraw (PyStr.isScalar_ofString _)
      (strict_str (isScalar_errorText hp.all_part htext))
  · next hkind =>
    cases h
    rw [hkind]
    exact hset _
  · next hkind =>
    cases h
    rw [hkind]
    exact hset _
  · cases h
    exact hraw
  · cases h
    exact hraw

/-- What an envelope adds to the projection and to the envelopes is charged for. -/
theorem textSize_project {e : Evidence} {raw' : PyDict} {p : NativePayload} {required : ℕ}
    (hkind : p.kind ≠ .complete) (hrequired : e.required F p = some required)
    (h : Parser.project F e.raw p = some raw') :
    textSize (.dict raw') + textSize (.dict p.data) + 1 + e.retainedBytes ≤
      textSize (.dict e.raw) + required := by
  have hset : ∀ (key : PyStr) (v : PyVal), strSize key ≤ 20 →
      textSize (.dict (PyDict.set e.raw key v)) ≤ textSize (.dict e.raw) + 22 + textSize v :=
    fun key v hkey => (textSize_set_le e.raw key v).trans (by omega)
  unfold Evidence.required at hrequired
  obtain ⟨size, hsize, hrequired⟩ := Option.bind_eq_some_iff.mp hrequired
  rw [nativeSize_eq hsize] at hrequired
  -- all kinds but an error are charged for the part itself
  have hpart : p.kind ≠ .error →
      required = e.retainedBytes + textSize (.dict p.data) + textSize p.part + 128 := by
    intro herror
    split at hrequired
    · next hk => exact absurd hk hkind
    · next hk => exact absurd hk herror
    · obtain ⟨partSize, hpartSize, hrequired⟩ := Option.bind_eq_some_iff.mp hrequired
      cases hrequired
      rw [nativeSize_eq hpartSize]
  unfold Parser.project at h
  split at h
  · next hk =>
    cases h
    have := hset "start" p.part (by decide)
    have := hpart (by rw [hk]; decide)
    omega
  · next hk =>
    have hrequired := hpart (by rw [hk]; decide)
    unfold Parser.appendInterval at h
    split at h
    · cases h
      have := hset "intervals" (.list [p.part]) (by decide)
      have hsingle : textSize (.list [p.part]) = 2 + textSize p.part := by simp [textSize, itemsSize]
      omega
    · next parts hparts =>
      cases h
      have := textSize_set_of_get? hparts (.list (parts ++ [p.part]))
      have := textSize_concat parts p.part
      omega
    · cases h
  · next hk =>
    cases h
    have := hset "end" p.part (by decide)
    have := hpart (by rw [hk]; decide)
    omega
  · next hk =>
    obtain ⟨text, htext, rfl⟩ := Option.map_eq_some_iff.mp h
    rw [hk] at hrequired
    obtain ⟨text', htext', hrequired⟩ := Option.bind_eq_some_iff.mp hrequired
    cases Option.some.inj (htext.symm.trans htext')
    obtain ⟨errorSize, herrorSize, hrequired⟩ := Option.bind_eq_some_iff.mp hrequired
    cases hrequired
    rw [nativeSize_eq herrorSize]
    have := hset "error" (.str text) (by decide)
    omega
  · next hk =>
    cases h
    have := hset p.kind.text p.part (by rw [hk]; decide)
    have := hpart (by rw [hk]; decide)
    omega
  · next hk =>
    cases h
    have := hset p.kind.text p.part (by rw [hk]; decide)
    have := hpart (by rw [hk]; decide)
    omega
  · next hk => exact absurd hk hkind
  · next hk =>
    cases h
    have := hpart (by rw [hk]; exact NativeKind.noConfusion)
    omega

/-! ## Runs without a loss -/

/-- What the payloads of a lossless capture leave. -/
structure Retains (F : Faults Exc) (ps : List NativePayload) (e : Evidence) : Prop where
  complete : e.completeDocument = (lastDocument ps).isSome
  document : ∀ document, lastDocument ps = some document → e.raw = document ∧ e.nativeEvents = []
  envelopes : lastDocument ps = Option.none → (∀ key, e.raw.get? key = Evidence.folded F ps key) ∧
    e.nativeEvents = ps.map fun p => .dict p.data
  strict : (PyVal.dict e.raw).All (StrictNode F)
  charged : textSize (.dict e.raw) + textSize (.list e.nativeEvents) ≤ e.retainedBytes + 4

namespace Evidence

/-- A payload that is neither malformed nor dropped is advisory behind a document, or it is kept. -/
theorem absorb_lossless {e e' : Evidence} {item : Captured}
    (h : e.absorb config F item = some e') (hmalformed : e'.malformed = 0)
    (hretained : e'.retentionDropped = 0) :
    e.malformed = 0 ∧ e.retentionDropped = 0 ∧ ∃ p, item.payload? config F = some p ∧
      ((p.kind ≠ .complete ∧ e.completeDocument = true ∧ e' = e) ∨
      ((p.kind = .complete ∨ e.completeDocument = false) ∧
        ∃ required, e.required F p = some required ∧ required ≤ config.retainedLimit ∧
          keep F { latched F e p with retainedBytes := required } p item.sequence = some e')) := by
  have hkept : ∀ {e₀ e' : Evidence} {p : NativePayload} {sequence : ℕ},
      e₀.keep F p sequence = some e' →
      e'.malformed = e₀.malformed ∧ e'.retentionDropped = e₀.retentionDropped := by
    intro e₀ e' p sequence hkeep
    rcases keep_cases hkeep with ⟨document, -, rfl⟩ | ⟨-, raw, -, rfl⟩
    · exact ⟨rfl, rfl⟩
    · exact ⟨rfl, rfl⟩
  rcases absorb_cases h with ⟨-, rfl⟩ | ⟨p, hp, ⟨hkind, -, hcomplete, rfl⟩ | ⟨hkind, h⟩ |
    ⟨-, -, -, h⟩⟩
  · cases hmalformed
  · exact ⟨hmalformed, hretained, p, hp, .inl ⟨hkind, hcomplete, rfl⟩⟩
  · obtain ⟨required, hrequired, ⟨-, rfl⟩ | ⟨hlimit, hkeep⟩⟩ := retain_cases h
    · cases hretained
    · obtain ⟨hm, hr⟩ := hkept hkeep
      exact ⟨hm.symm.trans hmalformed, hr.symm.trans hretained, p, hp,
        .inr ⟨hkind, required, hrequired, hlimit, hkeep⟩⟩
  · obtain ⟨required, -, ⟨-, rfl⟩ | ⟨-, hkeep⟩⟩ := retain_cases h
    · cases hmalformed
    · cases (hkept hkeep).1.symm.trans hmalformed

end Evidence

namespace Retains

theorem empty : Retains F [] {} where
  complete := rfl
  document _ h := by cases h
  envelopes _ := ⟨fun key => by simp [Evidence.folded, Evidence.lastPart, Evidence.intervalParts], rfl⟩
  strict := ⟨List.nodup_nil, trivial⟩
  charged := by decide

/-- A kept document stands alone. -/
theorem keep_document {ps : List NativePayload} {e : Evidence} {p : NativePayload}
    (hp : p.Read F) {document : PyDict} (hdocument : p.document? = some document) {required : ℕ}
    (hrequired : e.required F p = some required) {sequence : ℕ} (error : Option PyStr) :
    Retains F (ps ++ [p]) { e with
      raw := document, nativeEvents := [], completeDocument := true, completeSequence := sequence
      nativeError := error, retainedBytes := required } where
  complete := by rw [lastDocument_concat, hdocument]; rfl
  document document' h := by
    rw [lastDocument_concat, hdocument] at h
    cases h
    exact ⟨rfl, rfl⟩
  envelopes h := by
    rw [lastDocument_concat, hdocument] at h
    cases h
  strict := hp.all_document hdocument
  charged := by
    unfold Evidence.required at hrequired
    rw [kind_of_document? hdocument] at hrequired
    obtain ⟨size, hsize, hrequired⟩ := Option.bind_eq_some_iff.mp hrequired
    cases hrequired
    rw [nativeSize_eq hsize]
    have hle := hp.textSize_document hdocument
    simp only [textSize, itemsSize, List.length_nil] at hle ⊢
    omega

/-- An envelope is kept beside its projection. -/
theorem keep_envelope {ps : List NativePayload} {e : Evidence} (h : Retains F ps e)
    {p : NativePayload} (hp : p.Read F) (hkind : p.kind ≠ .complete)
    (hincomplete : e.completeDocument = false) {required : ℕ}
    (hrequired : e.required F p = some required) {raw : PyDict}
    (hproject : Parser.project F e.raw p = some raw) (error : Option PyStr) :
    Retains F (ps ++ [p]) { e with
      raw := raw, nativeEvents := e.nativeEvents ++ [.dict p.data]
      nativeError := error, retainedBytes := required } := by
  have hnone : lastDocument ps = Option.none := by
    rw [← Option.isNone_iff_eq_none, ← Option.isSome_eq_false_iff, ← h.complete, hincomplete]
  have hlast : lastDocument (ps ++ [p]) = Option.none := by
    rw [lastDocument_concat, document?_eq_none hkind, hnone]
    rfl
  obtain ⟨hfolded, hevents⟩ := h.envelopes hnone
  exact {
    complete := by
      rw [hlast]
      exact hincomplete
    document := fun document hdocument => by
      rw [hlast] at hdocument
      cases hdocument
    envelopes := fun _ => by
      refine ⟨Evidence.folded_project hfolded hkind hproject, ?_⟩
      rw [List.map_append, ← hevents]
      rfl
    strict := all_project h.strict hp hproject
    charged := by
      have hcharged := h.charged
      have := textSize_project hkind hrequired hproject
      have := textSize_concat e.nativeEvents (.dict p.data)
      dsimp only
      omega }

/-- Nothing changes behind a document. -/
theorem advisory {ps : List NativePayload} {e : Evidence} (h : Retains F ps e)
    {p : NativePayload} (hkind : p.kind ≠ .complete) (hcomplete : e.completeDocument = true) :
    Retains F (ps ++ [p]) e := by
  have hlast : lastDocument (ps ++ [p]) = lastDocument ps := by
    rw [lastDocument_concat, document?_eq_none hkind]
    rfl
  have hsome : lastDocument ps ≠ Option.none := fun hnone => by
    have := h.complete
    rw [hnone, hcomplete] at this
    cases this
  exact {
    h with
    complete := by
      rw [hlast]
      exact h.complete
    document := fun document hdocument => h.document document (hlast ▸ hdocument)
    envelopes := fun hnone => absurd (hlast ▸ hnone) hsome }

/-- What a capture without a loss leaves of its payloads, all of which are well formed. -/
theorem of_absorbAll {items : List Captured} {e : Evidence}
    (h : Evidence.absorbAll config F items = some e) (hmalformed : e.malformed = 0)
    (hretained : e.retentionDropped = 0) :
    Retains F (items.filterMap (Captured.payload? config F)) e ∧
      e.retainedBytes ≤ config.retainedLimit := by
  induction items using List.reverseRecOn generalizing e with
  | nil =>
    cases h
    exact ⟨empty, Nat.zero_le _⟩
  | append_singleton items item ih =>
    rw [Evidence.absorbAll_concat] at h
    obtain ⟨e₀, he₀, habsorb⟩ := Option.bind_eq_some_iff.mp h
    obtain ⟨hm, hr, p, hp, hcase⟩ := Evidence.absorb_lossless habsorb hmalformed hretained
    obtain ⟨hretains, hbytes⟩ := ih he₀ hm hr
    have hread := NativePayload.read_of_payload? hp
    rw [List.filterMap_append, List.filterMap_cons_some hp, List.filterMap_nil]
    rcases hcase with ⟨hkind, hcomplete, rfl⟩ | ⟨hkind, required, hrequired, hlimit, hkeep⟩
    · exact ⟨hretains.advisory hkind hcomplete, hbytes⟩
    · rcases Evidence.keep_cases hkeep with ⟨document, hdocument, rfl⟩ | ⟨hnone, raw, hraw, rfl⟩
      · exact ⟨keep_document hread hdocument hrequired _, hlimit⟩
      · have hkind' : p.kind ≠ .complete := fun hcomplete => by
          obtain ⟨document, hdocument⟩ := document?_of_shaped (shaped_of_payload? hp) hcomplete
          rw [hdocument] at hnone
          cases hnone
        have hincomplete := hkind.resolve_left hkind'
        refine ⟨?_, hlimit⟩
        have hkept := hretains.keep_envelope hread hkind' hincomplete hrequired hraw
          (Evidence.latched F e₀ p).nativeError
        have hcomplete : (Evidence.latched F e₀ p).completeDocument = false := hincomplete
        rw [if_neg (Bool.eq_false_iff.mp hcomplete)]
        exact hkept

end Retains

/-! ## The projection as a value -/

/-- The members of a reconstruction. -/
def projectedKeys : List PyStr :=
  ["start", "intervals", "end", "error", "server_output_json", "server_output_text"]

/-- What a stream of envelopes leaves in the reconstruction. -/
def projection (F : Faults Exc) (ps : List NativePayload) : PyDict :=
  projectedKeys.filterMap fun key => (Evidence.folded F ps key).map fun v => (key, v)

theorem keys_filterMap (f : PyStr → Option PyVal) (keys : List PyStr) :
    (PyDict.keys (keys.filterMap fun key => (f key).map fun v => (key, v))).Sublist keys := by
  induction keys with
  | nil => exact .slnil
  | cons key keys ih =>
    cases hf : f key with
    | none =>
      rw [List.filterMap_cons_none (by rw [hf]; rfl)]
      exact ih.cons key
    | some v =>
      rw [List.filterMap_cons_some (by rw [hf]; rfl)]
      exact ih.cons_cons key

theorem nodup_projection (F : Faults Exc) (ps : List NativePayload) :
    (projection F ps).keys.Nodup :=
  (keys_filterMap _ _).nodup (by decide)

theorem get?_projection (F : Faults Exc) (ps : List NativePayload) (key : PyStr) :
    (projection F ps).get? key = Evidence.folded F ps key := by
  cases hfolded : Evidence.folded F ps key with
  | none =>
    rw [PyDict.get?_eq_none]
    intro hkey
    obtain ⟨kv, hkv, rfl⟩ := List.mem_map.mp hkey
    obtain ⟨key', -, hmap⟩ := List.mem_filterMap.mp hkv
    obtain ⟨v, hv, rfl⟩ := Option.map_eq_some_iff.mp hmap
    rw [hfolded] at hv
    cases hv
  | some v =>
    refine PyDict.get?_of_mem (nodup_projection F ps) (List.mem_filterMap.mpr ⟨key, ?_, ?_⟩)
    · by_contra hkey
      simp only [projectedKeys, List.mem_cons, List.not_mem_nil, or_false, not_or] at hkey
      obtain ⟨h₁, h₂, h₃, h₄, h₅, h₆⟩ := hkey
      unfold Evidence.folded at hfolded
      rw [if_neg h₁, if_neg h₂, if_neg h₃, if_neg h₄, if_neg h₅, if_neg h₆] at hfolded
      cases hfolded
    · rw [hfolded]
      rfl

/-- Dictionaries with the same items differ in their order at most. -/
theorem perm_of_get? {d e : PyDict} (hd : d.keys.Nodup) (he : e.keys.Nodup)
    (h : ∀ key, d.get? key = e.get? key) : d.Perm e := by
  refine (List.perm_ext_iff_of_nodup hd.of_map he.of_map).mpr fun ⟨key, v⟩ => ?_
  constructor
  · intro hmem
    exact PyDict.mem_of_get? ((h key).symm.trans (PyDict.get?_of_mem hd hmem))
  · intro hmem
    exact PyDict.mem_of_get? ((h key).trans (PyDict.get?_of_mem he hmem))

theorem isScalar_take {s : PyStr} (h : s.isScalar = true) (n : ℕ) :
    PyStr.isScalar (List.take n s) = true :=
  List.all_eq_true.mpr fun c hc => List.all_eq_true.mp h c (List.mem_of_mem_take hc)

/-- Every text holds scalars alone. -/
def Legible (texts : List PyStr) : Prop := ∀ text ∈ texts, text.isScalar = true

theorem Legible.concat {texts : List PyStr} (h : Legible texts) {text : PyStr}
    (htext : text.isScalar = true) : Legible (texts ++ [text]) := by
  intro t ht
  rcases List.mem_append.mp ht with ht | ht
  · exact h t ht
  · rw [List.mem_singleton.mp ht]
    exact htext

namespace Parser

theorem legible_diagnose {c : Parser} (h : Legible c.diagnosed) {message : PyStr}
    (hmessage : message.isScalar = true) : Legible (c.diagnose message).diagnosed :=
  h.concat (isScalar_take hmessage 256)

@[simp] theorem diagnosed_live (c : Parser) (kind : String) (data : PyVal) (item : Option Captured)
    (admitted : Bool) : (c.live config kind data item admitted).diagnosed = c.diagnosed := by
  unfold live
  split <;> rfl

end Parser

namespace EventCapture

theorem legible_foldl {messages diagnostics : List PyStr} (hmessages : Legible messages)
    (h : Legible diagnostics) : Legible (messages.foldl addDiagnostic diagnostics) := by
  induction messages generalizing diagnostics with
  | nil => exact h
  | cons message messages ih =>
    refine ih (fun text htext => hmessages text (List.mem_cons_of_mem _ htext)) ?_
    unfold addDiagnostic
    split
    · exact h.concat (isScalar_take (hmessages message List.mem_cons_self) 256)
    · exact h

/-- The diagnostics and what the parser diagnosed hold scalars alone. -/
def Diagnosed (c : EventCapture) : Prop := Legible c.diagnostics ∧ Legible c.parser.diagnosed

theorem Diagnosed.withParser {c : EventCapture} (h : c.Diagnosed) {parser : Parser}
    (hparser : Legible parser.diagnosed) : (c.withParser parser).Diagnosed :=
  ⟨legible_foldl (fun text htext => hparser text (List.mem_of_mem_drop htext)) h.1, hparser⟩

theorem Diagnosed.capture {c : EventCapture} (h : c.Diagnosed) (pointer : NativePointer)
    (offset arrived : PyFloat) : (c.capture config pointer offset arrived).Diagnosed := by
  have hfailed : ∀ typeName : String, (c.copyFailed typeName).Diagnosed := by
    intro typeName
    have hmessage : Legible [("Cannot copy native event: " : String) ++ PyStr.ofString typeName] := by
      intro text htext
      rw [List.mem_singleton.mp htext, PyStr.isScalar_append, PyStr.isScalar_ofString,
        PyStr.isScalar_ofString]
      rfl
    exact ⟨legible_foldl hmessage h.1, h.2⟩
  unfold EventCapture.capture
  split
  · exact hfailed _
  · split
    · exact hfailed _
    · split
      · exact h
      · exact h

theorem Diagnosed.conclude {c : EventCapture} (h : c.Diagnosed) (answers : Answers) :
    (c.conclude config answers).Diagnosed := by
  have hnotice : ∀ (parser : Parser) (stage : String) (dropped : ℕ) (admitted : Bool),
      (gapNotice config parser stage dropped admitted).diagnosed = parser.diagnosed := by
    intro parser stage dropped admitted
    unfold gapNotice
    split
    · rfl
    · exact Parser.diagnosed_live _ _ _ _ _
  refine h.withParser ?_
  rw [hnotice, hnotice]
  unfold checkLoss
  split
  · exact Parser.legible_diagnose h.2 (PyStr.isScalar_ofString _)
  · exact h.2

end EventCapture

end Iperf3Lib.Capture
