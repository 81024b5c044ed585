import Iperf3Lib.Capture.Retained

/-!
# What makes the event parser fail

The parser is meant to survive whatever the native library says. It appends the part of an interval
to the `intervals` of the reconstruction without having looked at them: they are a list where the
parser made them, but a complete document replaces the reconstruction as it is. Nothing else fails.
-/

namespace Iperf3Lib.Capture

open Py Json Ipc

variable {config : CaptureConfig} {F : Faults Exc}

/-! ## Texts of strict values -/

/-- A strict value is written in any layout. -/
theorem exists_dump (L : Layout) {v : PyVal} (hv : v.All (StrictNode F)) :
    ∀ d, ∃ t, dump L F d v = .ok t := by
  induction v with
  | none => exact fun _ => ⟨_, rfl⟩
  | bool b => exact fun _ => ⟨_, rfl⟩
  | int n => exact fun _ => ⟨_, if_pos hv⟩
  | float x =>
    obtain ⟨x, rfl⟩ : ∃ y, x = .finite y := by
      cases x <;> first | exact ⟨_, rfl⟩ | cases hv
    exact fun _ => ⟨_, rfl⟩
  | str s => exact fun _ => ⟨_, rfl⟩
  | list xs ih | tuple xs ih =>
    have hitems : ∀ ys : List PyVal, (∀ y ∈ ys, y ∈ xs) → ∀ d, ∃ t, dumpItems L F d ys = .ok t := by
      intro ys
      induction ys with
      | nil => exact fun _ _ => ⟨_, rfl⟩
      | cons y ys ihys =>
        intro hmem d
        obtain ⟨hy, hys⟩ := List.forall_mem_cons.mp hmem
        obtain ⟨t, ht⟩ := ih y hy (PyVal.allItems_iff.mp hv.2 y hy) (d + 1)
        obtain ⟨rest, hrest⟩ := ihys hys d
        rw [dumpItems, ht, hrest]
        exact ⟨_, rfl⟩
    intro d
    obtain ⟨body, hbody⟩ := hitems xs (fun _ hy => hy) d
    rw [dump, hbody]
    split <;> exact ⟨_, rfl⟩
  | dict kvs ih =>
    have hall := PyVal.allPairs_iff.mp hv.2
    have hpairs : ∀ rest : PyDict, (∀ kv ∈ rest, kv ∈ kvs) →
        ∀ d, ∃ t, dumpPairs L F d rest = .ok t := by
      intro rest
      induction rest with
      | nil => exact fun _ _ => ⟨_, rfl⟩
      | cons kv rest ihrest =>
        intro hmem d
        obtain ⟨hkv, hrest⟩ := List.forall_mem_cons.mp hmem
        obtain ⟨t, ht⟩ := ih kv hkv (hall kv hkv).2 (d + 1)
        obtain ⟨texts, htexts⟩ := ihrest hrest d
        rw [dumpPairs, ht, htexts]
        exact ⟨_, rfl⟩
    intro d
    obtain ⟨body, hbody⟩ := hpairs kvs (fun _ hkv => hkv) d
    rw [dump, hbody]
    split <;> exact ⟨_, rfl⟩
  | obj cls fields => exact absurd hv.self id

theorem nativeSize_strict {v : PyVal} (hv : v.All (StrictNode F)) :
    nativeSize F v = some (textSize v) := by
  obtain ⟨t, b, hencodes⟩ := encodes_of_strict hv
  have hsize : nativeSize F v = some b.length := by rw [nativeSize, hencodes.jsonBody]; rfl
  rw [hsize, ← nativeSize_eq hsize]

theorem exists_errorText {v : PyVal} (hv : v.All (StrictNode F)) : ∃ text, errorText F v = some text := by
  obtain ⟨t, ht⟩ := exists_dump plainLayout hv 0
  unfold errorText
  split
  · exact ⟨_, rfl⟩
  · exact ⟨t, by rw [ht]; rfl⟩

/-! ## One payload -/

/-- `intervals` is there, and no list. -/
def NoList (raw : PyDict) : Prop := ∃ v, raw.get? "intervals" = some v ∧ ∀ parts, v ≠ .list parts

/-- An interval that fits behind a reconstruction whose `intervals` is no list. -/
structure Clash (config : CaptureConfig) (F : Faults Exc) (e : Evidence) (item : Captured)
    (p : NativePayload) : Prop where
  payload : item.payload? config F = some p
  kind : p.kind = .interval
  fits : e.retainedBytes + textSize (.dict p.data) + textSize p.part + 128 ≤ config.retainedLimit
  intervals : NoList e.raw

theorem appendInterval_eq_none {raw : PyDict} {part : PyVal} :
    Parser.appendInterval raw part = none ↔ NoList raw := by
  unfold Parser.appendInterval NoList
  cases PyDict.get? raw "intervals" with
  | none => simp
  | some v => cases v <;> simp

theorem project_eq_none {raw : PyDict} {p : NativePayload} (hp : p.Read F) :
    Parser.project F raw p = none ↔ p.kind = .interval ∧ NoList raw := by
  obtain ⟨text, htext⟩ := exists_errorText hp.all_part
  unfold Parser.project
  split
  · next h => simp [h]
  · next h => simp [h, appendInterval_eq_none]
  · next h => simp [h]
  · next h => simp [h, htext]
  · next h => simp [h]
  · next h => simp [h]
  · next h => simp [h]
  · next h => simp [h]

namespace Evidence

/-- Every payload has a charge. -/
theorem exists_required (e : Evidence) {p : NativePayload} (hp : p.Read F) :
    ∃ required, e.required F p = some required ∧ (p.kind = .interval →
      required = e.retainedBytes + textSize (.dict p.data) + textSize p.part + 128) := by
  obtain ⟨text, htext⟩ := exists_errorText hp.all_part
  have hscalar : (PyVal.str text).All (StrictNode F) :=
    strict_str (isScalar_errorText hp.all_part htext)
  unfold required
  rw [nativeSize_strict hp.strict.nodes]
  cases hkind : p.kind with
  | complete => exact ⟨_, rfl, fun h => by cases h⟩
  | error =>
    simp only [htext, bind, Option.bind, nativeSize_strict hscalar]
    exact ⟨_, rfl, fun h => by cases h⟩
  | start | interval | finish | serverOutputJson | serverOutputText | other =>
    simp only [nativeSize_strict hp.all_part]
    exact ⟨_, rfl, fun _ => rfl⟩

theorem exists_latch (e : Evidence) {p : NativePayload} (hp : p.Read F) :
    ∃ error, e.latch F p = some { e with nativeError := error } := by
  unfold latch
  cases herror : e.nativeError with
  | some text => exact ⟨e.nativeError, rfl⟩
  | none =>
    have hobserved : p.observedError.All (StrictNode F) := by
      unfold NativePayload.observedError
      split
      · exact hp.all_part
      · next document hkind hpart =>
        have hdocument : (PyVal.dict document).All (StrictNode F) := hpart ▸ hp.all_part
        cases hget : PyDict.get? document "error" with
        | none => trivial
        | some v => exact (PyVal.allPairs_iff.mp hdocument.2 _ (PyDict.mem_of_get? hget)).2
      · trivial
    obtain ⟨text, htext⟩ := exists_errorText hobserved
    unfold NativePayload.reportedError
    rw [htext]
    by_cases htruthy : truthy p.observedError = true
    · rw [if_pos htruthy]
      exact ⟨_, rfl⟩
    · rw [if_neg htruthy]
      exact ⟨_, rfl⟩

theorem retain_eq_none (e : Evidence) {p : NativePayload} (hp : p.Read F) (sequence : ℕ) :
    e.retain config F p sequence = none ↔ p.kind = .interval ∧
      e.retainedBytes + textSize (.dict p.data) + textSize p.part + 128 ≤ config.retainedLimit ∧
      NoList e.raw := by
  obtain ⟨required, hrequired, hcharge⟩ := e.exists_required hp
  unfold retain
  rw [hrequired]
  dsimp only
  by_cases hlimit : required > config.retainedLimit
  · rw [if_pos hlimit]
    refine iff_of_false (by simp) ?_
    rintro ⟨hkind, hfits, -⟩
    have := hcharge hkind
    omega
  · rw [if_neg hlimit, keep]
    cases hdocument : p.document? with
    | some document =>
      refine iff_of_false (by simp) fun h => ?_
      have := kind_of_document? hdocument
      rw [h.1] at this
      cases this
    | none =>
      dsimp only
      rw [Option.map_eq_none_iff, project_eq_none hp]
      constructor
      · rintro ⟨hkind, hintervals⟩
        have := hcharge hkind
        exact ⟨hkind, by omega, hintervals⟩
      · rintro ⟨hkind, -, hintervals⟩
        exact ⟨hkind, hintervals⟩

/-- The evidence cannot absorb a payload exactly when the two clash. -/
theorem absorb_eq_none (e : Evidence) (item : Captured) :
    e.absorb config F item = none ↔ ∃ p, Clash config F e item p := by
  unfold absorb
  cases hpayload : item.payload? config F with
  | none =>
    refine iff_of_false (by simp) fun ⟨p, h⟩ => ?_
    cases hpayload.symm.trans h.payload
  | some p =>
    have hp := NativePayload.read_of_payload? hpayload
    have hclash : (∃ p, Clash config F e item p) ↔ p.kind = .interval ∧
        e.retainedBytes + textSize (.dict p.data) + textSize p.part + 128 ≤ config.retainedLimit ∧
        NoList e.raw := by
      constructor
      · rintro ⟨p', hpayload', hkind, hfits, hintervals⟩
        obtain rfl := Option.some.inj (hpayload.symm.trans hpayload')
        exact ⟨hkind, hfits, hintervals⟩
      · rintro ⟨hkind, hfits, hintervals⟩
        exact ⟨p, hpayload, hkind, hfits, hintervals⟩
    obtain ⟨error, hlatch⟩ := e.exists_latch hp
    rw [hclash]
    dsimp only
    rw [hlatch]
    dsimp only
    split_ifs with hbehind hmeasured
    · exact retain_eq_none _ hp _
    · refine iff_of_false (by simp) fun h => hmeasured ?_
      rw [h.1]
      rfl
    · exact retain_eq_none _ hp _

end Evidence

/-! ## Where such a reconstruction comes from -/

/-- The payload is a complete document whose `intervals` is no list. -/
def Captured.Unlisted (config : CaptureConfig) (F : Faults Exc) (item : Captured) : Prop :=
  ∃ p document, item.payload? config F = some p ∧ p.document? = some document ∧ NoList document

/-- Envelopes leave `intervals` a list. -/
theorem noList_of_project {raw raw' : PyDict} {p : NativePayload}
    (h : Parser.project F raw p = some raw') (hraw : NoList raw') : NoList raw := by
  have hset : ∀ (key : PyStr) (v : PyVal), PyStr.ofString "intervals" ≠ key →
      NoList (PyDict.set raw key v) → NoList raw := by
    rintro key v hkey ⟨w, hw, hlist⟩
    rw [PyDict.get?_set, if_neg (Ne.symm hkey)] at hw
    exact ⟨w, hw, hlist⟩
  unfold Parser.project at h
  split at h
  · cases h
    exact hset _ _ (by decide) hraw
  · unfold Parser.appendInterval at h
    obtain ⟨v, hv, hlist⟩ := hraw
    split at h
    all_goals
      cases h
      try rw [PyDict.get?_set, if_pos rfl] at hv
      try exact absurd (Option.some.inj hv).symm (hlist _)
  · cases h
    exact hset _ _ (by decide) hraw
  · obtain ⟨text, -, rfl⟩ := Option.map_eq_some_iff.mp h
    exact hset _ _ (by decide) hraw
  · next hkind =>
    cases h
    exact hset _ _ (by rw [hkind]; decide) hraw
  · next hkind =>
    cases h
    exact hset _ _ (by rw [hkind]; decide) hraw
  · cases h
    exact hraw
  · cases h
    exact hraw

namespace Evidence

theorem noList_of_absorb {e e' : Evidence} {item : Captured}
    (h : e.absorb config F item = some e') (he : NoList e'.raw) :
    NoList e.raw ∨ item.Unlisted config F := by
  unfold absorb at h
  cases hpayload : item.payload? config F with
  | none =>
    rw [hpayload] at h
    cases h
    exact .inl he
  | some p =>
    have hp := NativePayload.read_of_payload? hpayload
    have hretain : ∀ {e₀ : Evidence}, e₀.retain config F p item.sequence = some e' →
        NoList e₀.raw ∨ item.Unlisted config F := by
      intro e₀ hretain
      obtain ⟨required, hrequired, -⟩ := e₀.exists_required hp
      rw [retain, hrequired] at hretain
      dsimp only at hretain
      split at hretain
      · cases hretain
        exact .inl he
      · unfold keep at hretain
        cases hdocument : p.document? with
        | some document =>
          rw [hdocument] at hretain
          cases hretain
          exact .inr ⟨p, document, hpayload, hdocument, he⟩
        | none =>
          rw [hdocument] at hretain
          obtain ⟨raw, hproject, rfl⟩ := Option.map_eq_some_iff.mp hretain
          exact .inl (noList_of_project hproject he)
    obtain ⟨error, hlatch⟩ := e.exists_latch hp
    rw [hpayload] at h
    dsimp only at h
    rw [hlatch] at h
    dsimp only at h
    split at h
    · split at h
      · cases h
        exact .inl he
      · have hbehind := hretain h
        exact hbehind
    · have hbehind := hretain h
      exact hbehind

/-- The reconstruction has such an `intervals` from a document alone. -/
theorem noList_of_absorbAll {items : List Captured} {e : Evidence}
    (h : absorbAll config F items = some e) (he : NoList e.raw) :
    ∃ item ∈ items, item.Unlisted config F := by
  induction items using List.reverseRecOn generalizing e with
  | nil =>
    cases h
    obtain ⟨v, hv, -⟩ := he
    cases hv
  | append_singleton items item ih =>
    rw [absorbAll_concat] at h
    obtain ⟨e', he', habsorb⟩ := Option.bind_eq_some_iff.mp h
    rcases noList_of_absorb habsorb he with hprev | hitem
    · obtain ⟨item', hmem, hunlisted⟩ := ih he' hprev
      exact ⟨item', List.mem_append_left _ hmem, hunlisted⟩
    · exact ⟨item, List.mem_append_right _ List.mem_cons_self, hitem⟩

end Evidence

/-- `_consume` raises exactly when the payload clashes with the evidence so far. -/
theorem Parser.consume_eq_none (c : Parser) (item : Captured) (answers : Answers) :
    c.consume config F item answers = none ↔ ∃ p, Clash config F c.evidence item p := by
  rw [← Evidence.absorb_eq_none, ← evidence_consume, Option.map_eq_none_iff]

end Iperf3Lib.Capture
