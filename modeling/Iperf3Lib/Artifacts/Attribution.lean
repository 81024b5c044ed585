import Iperf3Lib.Artifacts.Envelope
import Iperf3Lib.Artifacts.Shapes
import Iperf3Lib.Artifacts.Tokens

/-!
# Unattributed data and its diagnostics

A stream with an unattributed summary requires a diagnostic about that stream. `_validate_result`
looks for a diagnostic whose path begins with the text `/streams/{index}`, and so does the path of
stream ten for stream one. An admitted artifact carries the diagnostics it requires exactly if each
stream that such a longer index stands in for has one of its own as well.
-/

namespace Iperf3Lib.Artifacts

open Py

/-! ## What the requirement is about -/

/-- The stream at an index has an unattributed summary. -/
def Unattributed (result : PyVal) (index : ℕ) : Prop :=
  ∃ streams stream summary, member "streams" result = some (.list streams) ∧
    streams[index]? = some stream ∧ member "unattributed" stream = some summary ∧
    summary.isNone = false

/-- Some diagnostic has the path. -/
def DiagnosticPath (result : PyVal) (path : PyStr) : Prop :=
  ∃ diagnostics, member "diagnostics" result = some (.list diagnostics) ∧
    ∃ diagnostic ∈ diagnostics, member "path" diagnostic = some (.str path)

/-- Some diagnostic points to the stream or below it. -/
def OwnDiagnostic (result : PyVal) (index : ℕ) : Prop :=
  ∃ path tokens, DiagnosticPath result path ∧
    pointer path [] = .ok (PyStr.ofString "streams" :: natText index :: tokens)

/-- Every unattributed summary carries its own diagnostic. -/
def Diagnosed (artifact : PyVal) : Prop :=
  ∀ result, member "result" artifact = some result →
    ∀ index, Unattributed result index → OwnDiagnostic result index

/-- Where the path of a diagnostic goes on behind the text of a stream's pointer by another character
than a slash, another diagnostic has that pointer, or goes on behind it by a slash. -/
def Separated (result : PyVal) : Prop :=
  ∀ index, Unattributed result index →
    (∃ c rest, DiagnosticPath result (streamPointer index ++ c :: rest) ∧ c ≠ .scalar '/') →
    DiagnosticPath result (streamPointer index) ∨
      ∃ rest, DiagnosticPath result (streamPointer index ++ .scalar '/' :: rest)

/-! ## The text of a stream's pointer -/

theorem streamPointer_eq (index : ℕ) :
    streamPointer index = pointerText [PyStr.ofString "streams", natText index] := by
  have hstreams : escape (PyStr.ofString "streams") = PyStr.ofString "streams" := by decide
  have htext : PyStr.ofString "/streams/" =
      .scalar '/' :: (PyStr.ofString "streams" ++ [.scalar '/']) := by decide
  rw [pointerText_cons, pointerText_cons, hstreams, escape_natText, streamPointer, htext]
  simp [pointerText]

/-- The pointers whose first two tokens name the stream. -/
theorem pointer_stream_iff {path : PyStr} {index : ℕ} {tokens : List PyStr} :
    pointer path [] = .ok (PyStr.ofString "streams" :: natText index :: tokens) ↔
      path = streamPointer index ++ pointerText tokens := by
  rw [pointer_eq_ok, streamPointer_eq, ← pointerText_append]
  rfl

/-- A valid pointer goes on behind a slash with a valid pointer. -/
theorem pointerText_of_append {tokens : List PyStr} {s rest : PyStr}
    (h : pointerText tokens = s ++ .scalar '/' :: rest) :
    ∃ more, pointerText more = .scalar '/' :: rest := by
  obtain ⟨-, hvalid, -⟩ : _ ∧ hasInvalidEscape (pointerText tokens) = false ∧ _ := by
    have hpointer : pointer (pointerText tokens) [] = .ok tokens := pointer_eq_ok.mpr rfl
    simpa only [pointer, bind_eq_ok, exists_unit, failIf_eq_ok, Bool.not_eq_true] using hpointer
  rw [h, hasInvalidEscape_append, Bool.or_eq_false_iff] at hvalid
  have hrest : pointer (.scalar '/' :: rest) [] =
      .ok ((((.scalar '/' :: rest : PyStr)).splitOn (.scalar '/')).tail.map unescape) := by
    simp only [pointer, bind_eq_ok, exists_unit, failIf_eq_ok, pure, Except.pure, Except.ok.injEq]
    refine ⟨by simp, ?_, by rw [if_neg (by simp)]⟩
    rw [hasInvalidEscape_other (by simp), hvalid.2]
    exact Bool.false_ne_true
  exact ⟨_, (pointer_eq_ok.mp hrest).symm⟩

/-- The paths about streams are pointers. -/
def ValidPaths (result : PyVal) : Prop :=
  ∀ path, DiagnosticPath result path → PyStr.ofString "/streams/" <+: path →
    ∃ tokens, path = pointerText tokens

/-- Its own diagnostics, by their texts. -/
theorem ownDiagnostic_iff {result : PyVal} (hvalid : ValidPaths result) (index : ℕ) :
    OwnDiagnostic result index ↔ DiagnosticPath result (streamPointer index) ∨
      ∃ rest, DiagnosticPath result (streamPointer index ++ .scalar '/' :: rest) := by
  constructor
  · rintro ⟨path, tokens, hpath, htokens⟩
    rw [pointer_stream_iff] at htokens
    subst htokens
    cases tokens with
    | nil =>
      rw [show pointerText [] = [] from rfl, List.append_nil] at hpath
      exact .inl hpath
    | cons token tokens => exact .inr ⟨_, hpath⟩
  · rintro (hpath | ⟨rest, hpath⟩)
    · exact ⟨_, [], hpath, pointer_stream_iff.mpr (List.append_nil _).symm⟩
    · have hprefix : PyStr.ofString "/streams/" <+: streamPointer index ++ .scalar '/' :: rest :=
        (List.prefix_append _ _).trans (List.prefix_append _ _)
      obtain ⟨tokens, htokens⟩ := hvalid _ hpath hprefix
      obtain ⟨more, hmore⟩ := pointerText_of_append htokens.symm
      exact ⟨_, more, hpath, pointer_stream_iff.mpr (by rw [hmore])⟩

/-! ## What validation finds -/

/-- The validator goes over every stream. -/
theorem validateStreams_getElem {result : PyVal} {start : ℕ} {sockets streams : List PyVal}
    (h : validateStreams result start sockets streams = .ok ()) {i : ℕ} {stream : PyVal}
    (hi : streams[i]? = some stream) : validateUnattributed result (start + i) stream = .ok () := by
  induction streams generalizing start sockets i with
  | nil => cases hi
  | cons first streams ih =>
    simp only [validateStreams, bind_eq_ok, exists_unit] at h
    obtain ⟨_, -, -, -, hfirst, hrest⟩ := h
    cases i with
    | zero =>
      obtain rfl := Option.some.inj hi
      exact hfirst
    | succ i =>
      have := ih hrest hi
      rwa [Nat.add_assoc, Nat.add_comm 1 i] at this

theorem anyM_eq_ok_true {f : PyVal → Except Exc Bool} {xs : List PyVal}
    (h : xs.anyM f = .ok true) : ∃ x ∈ xs, f x = .ok true := by
  induction xs with
  | nil => cases h
  | cons x xs ih =>
    rw [List.anyM, bind_eq_ok] at h
    obtain ⟨found, hfound, h⟩ := h
    cases found with
    | true => exact ⟨x, List.mem_cons_self, hfound⟩
    | false =>
      obtain ⟨y, hy, hfy⟩ := ih h
      exact ⟨y, List.mem_cons_of_mem _ hy, hfy⟩

/-- An admitted unattributed summary has a diagnostic whose path begins with its pointer. -/
theorem exists_path_of_validateUnattributed {result stream summary : PyVal} {index : ℕ}
    (h : validateUnattributed result index stream = .ok ())
    (hsummary : member "unattributed" stream = some summary) (hnone : summary.isNone = false) :
    ∃ rest, DiagnosticPath result (streamPointer index ++ rest) := by
  simp only [validateUnattributed, bind_eq_ok] at h
  obtain ⟨unattributed, hunattributed, h⟩ := h
  obtain rfl := Option.some.inj (hsummary.symm.trans (attr_eq_ok hunattributed))
  rw [if_pos hnone] at h
  obtain ⟨diagnosed, hdiagnosed, h⟩ := bind_eq_ok.mp h
  obtain rfl : diagnosed = true := by
    rw [failIf_eq_ok] at h
    exact Bool.not_eq_false _ ▸ h
  simp only [streamDiagnosed, bind_eq_ok] at hdiagnosed
  obtain ⟨value, hvalue, diagnostics, hdiagnostics, hany⟩ := hdiagnosed
  rw [PyVal.items_eq_ok] at hdiagnostics
  subst hdiagnostics
  obtain ⟨diagnostic, hmem, hbegins⟩ := anyM_eq_ok_true hany
  obtain ⟨path, hpath, hbegins⟩ := bind_eq_ok.mp hbegins
  have hbegins : beginsWithStream index path = true := Except.ok.inj hbegins
  cases path with
  | str path =>
    obtain ⟨rest, rfl⟩ := List.isPrefixOf_iff_prefix.mp hbegins
    exact ⟨rest, diagnostics, attr_eq_ok hvalue, diagnostic, hmem, attr_eq_ok hpath⟩
  | _ => cases hbegins

/-- An admitted result has a diagnostic that begins with the pointer of each unattributed stream. -/
theorem exists_path_of_validateResult {parse : IpParser} {maxStrDigits : ℕ} {result : PyVal}
    (h : validateResult parse maxStrDigits result = .ok ()) {index : ℕ}
    (hindex : Unattributed result index) :
    ∃ rest, DiagnosticPath result (streamPointer index ++ rest) := by
  obtain ⟨streams, stream, summary, hstreams, hstream, hsummary, hnone⟩ := hindex
  simp only [validateResult, bind_eq_ok, exists_unit] at h
  obtain ⟨execution, -, -, -, _, -, _, -, value, hvalue, items, hitems, _, -, _, -, -, hvalid, -⟩ := h
  obtain rfl := Option.some.inj (hstreams.symm.trans (attr_eq_ok hvalue))
  obtain rfl := PyVal.list.inj (PyVal.items_eq_ok.mp hitems)
  have hfound := validateStreams_getElem hvalid hstream
  rw [Nat.zero_add] at hfound
  exact exists_path_of_validateUnattributed hfound hsummary hnone

/-- On an admitted result the two conditions agree. -/
theorem diagnosed_iff_separated {parse : IpParser} {maxStrDigits : ℕ} {result : PyVal}
    (h : validateResult parse maxStrDigits result = .ok ()) (hvalid : ValidPaths result) :
    (∀ index, Unattributed result index → OwnDiagnostic result index) ↔ Separated result := by
  constructor
  · intro hown index hindex _
    exact (ownDiagnostic_iff hvalid index).mp (hown index hindex)
  · intro hseparated index hindex
    rw [ownDiagnostic_iff hvalid]
    obtain ⟨rest, hpath⟩ := exists_path_of_validateResult h hindex
    cases rest with
    | nil =>
      rw [List.append_nil] at hpath
      exact .inl hpath
    | cons c rest =>
      by_cases hc : c = .scalar '/'
      · subst hc
        exact .inr ⟨rest, hpath⟩
      · exact hseparated index hindex ⟨c, rest, hpath, hc⟩

/-! ## What conversion and migration keep -/

/-- The unattributed summaries and the paths about streams are the same. -/
structure Kept (before after : PyVal) : Prop where
  unattributed : ∀ index, Unattributed after index ↔ Unattributed before index
  paths : ∀ path, PyStr.ofString "/streams/" <+: path →
    (DiagnosticPath after path ↔ DiagnosticPath before path)

namespace Kept

variable {r s t : PyVal}

theorem refl (r : PyVal) : Kept r r := ⟨fun _ => Iff.rfl, fun _ _ => Iff.rfl⟩

theorem trans (h : Kept r s) (h' : Kept s t) : Kept r t :=
  ⟨fun i => (h'.unattributed i).trans (h.unattributed i),
    fun p hp => (h'.paths p hp).trans (h.paths p hp)⟩

theorem of_members (hstreams : member "streams" s = member "streams" r)
    (hdiagnostics : member "diagnostics" s = member "diagnostics" r) : Kept r s := by
  constructor
  · intro index
    rw [Unattributed, hstreams, Unattributed]
  · intro path _
    rw [DiagnosticPath, hdiagnostics, DiagnosticPath]

theorem validPaths (h : Kept r s) (hvalid : ValidPaths r) : ValidPaths s :=
  fun path hpath hprefix => hvalid path ((h.paths path hprefix).mp hpath) hprefix

/-- The condition is about what is kept. -/
theorem separated (h : Kept r s) : Separated s ↔ Separated r := by
  have hpaths : ∀ index rest, DiagnosticPath s (streamPointer index ++ rest) ↔
      DiagnosticPath r (streamPointer index ++ rest) := fun index rest =>
    h.paths _ ((List.prefix_append _ _).trans (List.prefix_append _ _))
  have hown : ∀ index, DiagnosticPath s (streamPointer index) ↔
      DiagnosticPath r (streamPointer index) := fun index =>
    h.paths _ (List.prefix_append _ _)
  simp only [Separated, h.unattributed, hpaths, hown]

end Kept

/-- Summaries are unattributed on both sides of a conversion. -/
theorem convert_unattributed {models : Bool} {x y : PyVal} {path : PyStr}
    (h : convert models streamStats x path = .ok y) :
    ∃ before after, member "unattributed" x = some before ∧ member "unattributed" y = some after ∧
      after.isNone = before.isNone := by
  obtain ⟨before, after, hbefore, hconvert, hafter⟩ := convert_member h (by decide)
    (show ("unattributed", Spec.optional sumStats) ∈ _ by simp)
  exact ⟨before, after, hbefore, hafter, convert_optional_model_isNone hconvert⟩

/-- The path of a diagnostic is the same on both sides of a conversion, and a pointer. -/
theorem convert_diagnosticPath {models : Bool} {x y : PyVal} {path : PyStr}
    (h : convert models diagnostic x path = .ok y) :
    member "path" y = some .none ∧ member "path" x = some .none ∨
      ∃ s tokens, member "path" x = some (.str s) ∧ member "path" y = some (.str s) ∧
        s = pointerText tokens := by
  obtain ⟨before, after, hbefore, hconvert, hafter⟩ := convert_member h (by decide)
    (show ("path", Spec.optional .pointer) ∈ _ by simp)
  rcases convert_optional_eq_ok hconvert with ⟨hnone, rfl⟩ | ⟨-, hconvert⟩
  · cases before with
    | none => exact .inl ⟨hafter, hbefore⟩
    | _ => cases hnone
  · obtain ⟨s, tokens, rfl, rfl, htokens⟩ := convert_pointer_eq_ok hconvert
    exact .inr ⟨s, tokens, hbefore, hafter, pointer_eq_ok.mp htokens⟩

/-- Conversion keeps the streams and the paths of the diagnostics. -/
theorem convert_kept {models : Bool} {value w : PyVal} {path : PyStr}
    (h : convert models result value path = .ok w) : Kept value w := by
  constructor
  · intro index
    obtain ⟨x, y, hx, hxy, hy⟩ := convert_member h (by decide)
      (show ("streams", Spec.array streamStats) ∈ _ by simp)
    obtain ⟨xs, ys, rfl, rfl, hitems⟩ := convert_array_eq_ok hxy
    constructor
    · rintro ⟨streams, stream, summary, hstreams, hstream, hsummary, hnone⟩
      obtain rfl := PyVal.list.inj (Option.some.inj (hy.symm.trans hstreams))
      obtain ⟨stream', hstream', _, hconvert⟩ := forall₂_getElem? hitems.flip hstream
      obtain ⟨before, after, hbefore, hafter, hsame⟩ := convert_unattributed hconvert
      obtain rfl := Option.some.inj (hafter.symm.trans hsummary)
      exact ⟨xs, stream', before, hx, hstream', hbefore, hsame ▸ hnone⟩
    · rintro ⟨streams, stream, summary, hstreams, hstream, hsummary, hnone⟩
      obtain rfl := PyVal.list.inj (Option.some.inj (hx.symm.trans hstreams))
      obtain ⟨stream', hstream', _, hconvert⟩ := forall₂_getElem? hitems hstream
      obtain ⟨before, after, hbefore, hafter, hsame⟩ := convert_unattributed hconvert
      obtain rfl := Option.some.inj (hbefore.symm.trans hsummary)
      exact ⟨ys, stream', after, hy, hstream', hafter, hsame.trans hnone⟩
  · intro p _
    obtain ⟨x, y, hx, hxy, hy⟩ := convert_member h (by decide)
      (show ("diagnostics", Spec.array diagnostic) ∈ _ by simp)
    obtain ⟨xs, ys, rfl, rfl, hitems⟩ := convert_array_eq_ok hxy
    constructor
    · rintro ⟨diagnostics, hdiagnostics, d, hd, hpath⟩
      obtain rfl := PyVal.list.inj (Option.some.inj (hy.symm.trans hdiagnostics))
      obtain ⟨d', hd', _, hconvert⟩ := exists_mem_of_forall₂ hitems.flip hd
      rcases convert_diagnosticPath hconvert with ⟨hnone, -⟩ | ⟨s, -, hbefore, hafter, -⟩
      · cases hnone.symm.trans hpath
      · obtain rfl := PyVal.str.inj (Option.some.inj (hafter.symm.trans hpath))
        exact ⟨xs, hx, d', hd', hbefore⟩
    · rintro ⟨diagnostics, hdiagnostics, d, hd, hpath⟩
      obtain rfl := PyVal.list.inj (Option.some.inj (hx.symm.trans hdiagnostics))
      obtain ⟨d', hd', _, hconvert⟩ := exists_mem_of_forall₂ hitems hd
      rcases convert_diagnosticPath hconvert with ⟨-, hnone⟩ | ⟨s, -, hbefore, hafter, -⟩
      · cases hnone.symm.trans hpath
      · obtain rfl := PyVal.str.inj (Option.some.inj (hbefore.symm.trans hpath))
        exact ⟨ys, hy, d', hd', hafter⟩

/-- The paths of a converted result are pointers. -/
theorem convert_validPaths {models : Bool} {value w : PyVal} {path : PyStr}
    (h : convert models result value path = .ok w) : ValidPaths w := by
  rintro p ⟨diagnostics, hdiagnostics, d, hd, hpath⟩ _
  obtain ⟨x, y, -, hxy, hy⟩ := convert_member h (by decide)
    (show ("diagnostics", Spec.array diagnostic) ∈ _ by simp)
  obtain ⟨xs, ys, rfl, rfl, hitems⟩ := convert_array_eq_ok hxy
  obtain rfl := PyVal.list.inj (Option.some.inj (hy.symm.trans hdiagnostics))
  obtain ⟨d', -, _, hconvert⟩ := exists_mem_of_forall₂ hitems.flip hd
  rcases convert_diagnosticPath hconvert with ⟨hnone, -⟩ | ⟨s, tokens, -, hafter, htokens⟩
  · cases hnone.symm.trans hpath
  · obtain rfl := PyVal.str.inj (Option.some.inj (hafter.symm.trans hpath))
    exact ⟨tokens, htokens⟩

/-! ## Compatibility metadata -/

theorem member_setattr {value x w : PyVal} {name : String} (h : setattr value name x = .ok w)
    (other : String) : member other w = if name = other then some x else member other value := by
  cases value with
  | obj cls fields =>
    obtain rfl := Except.ok.inj h
    rw [member, PyDict.get?_set]
    simp only [PyStr.ofString_inj]
    rfl
  | _ => cases h

/-- Another attribute than the streams and the diagnostics. -/
theorem setattr_kept {value x w : PyVal} {name : String} (h : setattr value name x = .ok w)
    (hstreams : name ≠ "streams") (hdiagnostics : name ≠ "diagnostics") : Kept value w :=
  .of_members (by rw [member_setattr h, if_neg hstreams]) (by rw [member_setattr h, if_neg hdiagnostics])

/-- A diagnostic about something else than a stream. -/
theorem appendDiagnostic_kept {value w : PyVal} {message code path : String} {evidence : List String}
    (h : appendDiagnostic value (compatibilityDiagnostic message code path evidence) = .ok w)
    (hpath : ¬ PyStr.ofString "/streams/" <+: PyStr.ofString path) : Kept value w := by
  simp only [appendDiagnostic, bind_eq_ok] at h
  obtain ⟨old, hold, diagnostics, hdiagnostics, hset⟩ := h
  rw [PyVal.items_eq_ok] at hdiagnostics
  subst hdiagnostics
  have hnew := member_setattr hset "diagnostics"
  rw [if_pos rfl] at hnew
  have hmember : member "path" (compatibilityDiagnostic message code path evidence) =
      some (.str path) := by
    have hname : ∀ name : String, name ≠ "path" → PyStr.ofString name ≠ PyStr.ofString "path" :=
      fun _ hne => mt PyStr.ofString_inj.mp hne
    change PyDict.get? _ _ = _
    simp only [List.map_cons]
    rw [PyDict.get?_cons_ne _ (hname "message" (by decide)),
      PyDict.get?_cons_ne _ (hname "severity" (by decide)),
      PyDict.get?_cons_ne _ (hname "code" (by decide)), PyDict.get?_cons_self]
  constructor
  · intro index
    rw [Unattributed, member_setattr hset, if_neg (by decide), Unattributed]
  · intro p hp
    constructor
    · rintro ⟨all, hall, d, hd, hdpath⟩
      obtain rfl := PyVal.list.inj (Option.some.inj (hnew.symm.trans hall))
      rcases List.mem_append.mp hd with hd | hd
      · exact ⟨diagnostics, attr_eq_ok hold, d, hd, hdpath⟩
      · rw [List.mem_singleton.mp hd, hmember] at hdpath
        obtain rfl := PyVal.str.inj (Option.some.inj hdpath)
        exact (hpath hp).elim
    · rintro ⟨all, hall, d, hd, hdpath⟩
      obtain rfl := PyVal.list.inj (Option.some.inj ((attr_eq_ok hold).symm.trans hall))
      exact ⟨_, hnew, d, List.mem_append_left _ hd, hdpath⟩

theorem addExecution_kept {value w : PyVal} (h : addExecution value = .ok w) : Kept value w := by
  simp only [addExecution, bind_eq_ok] at h
  obtain ⟨execution, -, h⟩ := h
  split at h
  · rw [Except.ok.inj h]
    exact .refl _
  · simp only [bind_eq_ok] at h
    obtain ⟨_, -, _, -, _, -, _, -, completed, -, r, hr, r', hr', h⟩ := h
    have hbefore : Kept value r' := (setattr_kept hr (by decide) (by decide)).trans
      (appendDiagnostic_kept hr' (by decide))
    split at h
    · rw [← Except.ok.inj h]
      exact hbefore
    · obtain ⟨r'', hr'', hset⟩ := bind_eq_ok.mp h
      exact (hbefore.trans (appendDiagnostic_kept hr'' (by decide))).trans
        (setattr_kept hset (by decide) (by decide))

theorem addFlow_kept {value w : PyVal} (h : addFlow value = .ok w) : Kept value w := by
  simp only [addFlow, bind_eq_ok] at h
  obtain ⟨_, -, _, -, _, -, h⟩ := h
  split at h
  · rw [Except.ok.inj h]
    exact .refl _
  · simp only [bind_eq_ok] at h
    obtain ⟨_, -, _, -, _, -, r, hr, h⟩ := h
    exact (setattr_kept hr (by decide) (by decide)).trans (appendDiagnostic_kept h (by decide))

theorem addCompatibility_kept {value w : PyVal} (h : addCompatibility value = .ok w) :
    Kept value w := by
  obtain ⟨r, hr, hw⟩ := bind_eq_ok.mp h
  exact (addExecution_kept hr).trans (addFlow_kept hw)

/-! ## Artifacts -/

/-- The result of an admitted artifact was admitted. -/
theorem validateResult_of_validateEnvelope {parse : IpParser} {maxStrDigits : ℕ} {artifact r : PyVal}
    (h : validateEnvelope parse maxStrDigits artifact = .ok ()) (hr : member "result" artifact = some r) :
    validateResult parse maxStrDigits r = .ok () := by
  simp only [validateEnvelope, bind_eq_ok] at h
  obtain ⟨version, -, h⟩ := h
  have hrest : ∃ r', artifact.attr "result" = .ok r' ∧
      validateResult parse maxStrDigits r' = .ok () := by
    split at h
    · obtain ⟨_, -, h⟩ := bind_eq_ok.mp h
      simp only [bind_eq_ok, exists_unit] at h
      obtain ⟨_, -, -, hr'⟩ := h
      exact hr'
    · simp only [bind_eq_ok, exists_unit] at h
      obtain ⟨_, -, -, hr'⟩ := h
      exact hr'
  obtain ⟨r', hr', hvalid⟩ := hrest
  obtain rfl := Option.some.inj ((attr_eq_ok hr').symm.trans hr)
  exact hvalid

theorem artifactFromDict_eq_ok {parse : IpParser} {maxStrDigits : ℕ} {mapping artifact : PyVal}
    (h : artifactFromDict parse maxStrDigits mapping = .ok artifact) :
    convert false resultArtifact mapping [] = .ok artifact ∧
      validateEnvelope parse maxStrDigits artifact = .ok () := by
  obtain ⟨data, -, h⟩ := bind_eq_ok.mp h
  split at h
  · cases h
  · obtain ⟨version, -, h⟩ := bind_eq_ok.mp h
    have hrest : ∃ a, convert false resultArtifact mapping [] = .ok a ∧
        validateEnvelope parse maxStrDigits a = .ok () ∧ a = artifact := by
      split at h
      · obtain ⟨_, -, h⟩ := bind_eq_ok.mp h
        simpa only [bind_eq_ok, exists_unit, pure, Except.pure, Except.ok.injEq] using h
      · simpa only [bind_eq_ok, exists_unit, pure, Except.pure, Except.ok.injEq] using h
    obtain ⟨_, hconvert, hvalid, rfl⟩ := hrest
    exact ⟨hconvert, hvalid⟩

/-- The condition on the result inside a mapping. -/
def ResultSeparated (value : PyVal) : Prop :=
  ∀ r, member "result" value = some r → Separated r

theorem diagnosed_fromDict_iff {parse : IpParser} {maxStrDigits : ℕ} {mapping artifact : PyVal}
    (h : artifactFromDict parse maxStrDigits mapping = .ok artifact) :
    Diagnosed artifact ↔ ResultSeparated mapping := by
  obtain ⟨hconvert, hvalid⟩ := artifactFromDict_eq_ok h
  obtain ⟨before, after, hbefore, hresult, hafter⟩ := convert_member hconvert (by decide)
    (show ("result", result) ∈ _ by simp)
  have hkept := convert_kept hresult
  have hiff := diagnosed_iff_separated (validateResult_of_validateEnvelope hvalid hafter)
    (convert_validPaths hresult)
  constructor
  · intro hown r hr
    obtain rfl := Option.some.inj (hbefore.symm.trans hr)
    exact hkept.separated.mp (hiff.mp (hown after hafter))
  · intro hseparated r hr
    obtain rfl := Option.some.inj (hafter.symm.trans hr)
    exact hiff.mpr (hkept.separated.mpr (hseparated before hbefore))

theorem diagnosed_fromResult_iff {parse : IpParser} {maxStrDigits : ℕ} {libraryVersion : PyStr}
    {value artifact : PyVal}
    (h : artifactFromResult parse maxStrDigits libraryVersion value = .ok artifact) :
    Diagnosed artifact ↔ Separated value := by
  simp only [artifactFromResult, bind_eq_ok, exists_unit, pure, Except.pure, Except.ok.injEq] at h
  obtain ⟨data, hdata, read, hread, snapshot, hsnapshot, hvalid, rfl⟩ := h
  have hmember : member "result" (newArtifact libraryVersion snapshot) = some snapshot := by
    change PyDict.get? _ _ = _
    simp only [List.map_cons]
    exact PyDict.get?_cons_self _ _ _
  have hkept : Kept value snapshot :=
    ((convert_kept hdata).trans (convert_kept hread)).trans (addCompatibility_kept hsnapshot)
  have hpaths : ValidPaths snapshot :=
    (addCompatibility_kept hsnapshot).validPaths (convert_validPaths hread)
  rw [← hkept.separated, ← diagnosed_iff_separated
    (validateResult_of_validateEnvelope hvalid hmember) hpaths]
  constructor
  · exact fun hown => hown snapshot hmember
  · intro hown r hr
    obtain rfl := Option.some.inj (hmember.symm.trans hr)
    exact hown

/-- An artifact that was read from a mapping, or made of a result, carries a diagnostic of its own
for each unattributed summary exactly if no longer index stands in for one. -/
theorem diagnosed_iff (parse : IpParser) (maxStrDigits : ℕ) :
    (∀ mapping artifact, artifactFromDict parse maxStrDigits mapping = .ok artifact →
      (Diagnosed artifact ↔ ResultSeparated mapping)) ∧
    (∀ libraryVersion value artifact,
      artifactFromResult parse maxStrDigits libraryVersion value = .ok artifact →
      (Diagnosed artifact ↔ Separated value)) :=
  ⟨fun _ _ h => diagnosed_fromDict_iff h, fun _ _ _ h => diagnosed_fromResult_iff h⟩

/-- The indices of ten streams have texts of one length, so that none stands in for another. -/
theorem separated_of_ten {r : PyVal} (hstreams : ∀ index, Unattributed r index → index < 10)
    (hpaths : ∀ path, DiagnosticPath r path → PyStr.ofString "/streams/" <+: path →
      ∃ index < 10, ∃ tokens, path = streamPointer index ++ pointerText tokens) : Separated r := by
  rintro index hindex ⟨c, rest, hpath, hc⟩
  have hlength : ∀ i < 10, (streamPointer i).length = 10 := by decide
  obtain ⟨other, hother, tokens, htokens⟩ := hpaths _ hpath
    ((List.prefix_append _ _).trans (List.prefix_append _ _))
  have hrest : c :: rest = pointerText tokens := (List.append_inj htokens
    ((hlength index (hstreams index hindex)).trans (hlength other hother).symm)).2
  cases tokens with
  | nil => cases hrest
  | cons token tokens => exact (hc (List.cons.inj hrest).1).elim

/-! ## Eleven streams -/

/-- `None` for each name. -/
def absent (names : List String) : List (String × PyVal) := names.map fun name => (name, .none)

/-- A stream without a direction, with its unattributed summary. -/
def plainStream (make : String → List (String × PyVal) → PyVal) (summary : PyVal) : PyVal :=
  make "StreamStats" (("direction", .str "unknown") ::
    absent ["stream_id", "sender", "receiver"] ++ [("unattributed", summary)])

/-- A completed run of eleven streams, as a mapping or as an instance. The second stream has an
unattributed summary, and the only diagnostic is about the last one. -/
def elevenStreams (make : String → List (String × PyVal) → PyVal) : PyVal :=
  make "Result"
    [("ok", .bool true), ("error", .none), ("raw", .dict []), ("end", .none), ("protocol", .none),
      ("bidirectional", .bool false), ("flows", .list []), ("intervals", .list []),
      ("diagnostics", .list [make "Diagnostic"
        [("message", .str "no sender"), ("severity", .str "warning"), ("code", .str "stream.sender"),
          ("path", .str "/streams/10"), ("evidence_paths", .list [])]]),
      ("started_at_seconds", .none), ("duration_seconds", .none), ("completed_at_seconds", .none),
      ("reporting_role", .none),
      ("execution", make "ExecutionMetadata"
        (("status", .str "completed") :: ("method", .str "unknown") ::
          ("timing", make "RunTiming" (absent ["started_at_seconds", "completed_at_seconds",
            "elapsed_seconds", "native_started_at_seconds", "requested_duration_seconds",
            "estimated_completed_at_seconds"])) ::
          ("configuration", make "ConfigurationSnapshot"
            [("requested", .none), ("effective", .dict [])]) ::
          absent ["native_version", "native_system_info", "python_version", "platform"])),
      ("streams", .list (plainStream make .none ::
        plainStream make (make "SumStats"
          (absent (measurements.map Prod.fst ++ ["direction", "observation", "tcp"]))) ::
        List.replicate 9 (plainStream make .none))),
      ("availability", .dict []), ("extensions", .dict []), ("cpu", .list [])]

/-- A dictionary in the place of an instance. -/
def mappingOf (_ : String) (fields : List (String × PyVal)) : PyVal :=
  .dict (fields.map fun field => (PyStr.ofString field.1, field.2))

/-- The artifact of the eleven streams as a mapping. -/
def elevenStreamsArtifact : PyVal :=
  mappingOf "ResultArtifact"
    [("result", elevenStreams mappingOf),
      ("producer", mappingOf "ArtifactProducer" [("name", .str "iperf3-lib"), ("version", .str "1")]),
      ("schema_version", .int 1), ("kind", .str "iperf3-lib.result"), ("extensions", .dict [])]

theorem exists_artifact_elevenStreams :
    ∃ artifact, artifactFromDict (fun _ => none) 4300 elevenStreamsArtifact = .ok artifact :=
  isOk_iff.mp (by decide +kernel)

/-- The path of stream ten begins with the text of stream one. -/
theorem not_separated_elevenStreams : ¬ Separated (elevenStreams mappingOf) := by
  intro h
  have hpath : ∀ path, DiagnosticPath (elevenStreams mappingOf) path →
      path = PyStr.ofString "/streams/10" := by
    rintro path ⟨diagnostics, hdiagnostics, d, hd, hdpath⟩
    obtain rfl := PyVal.list.inj (Option.some.inj hdiagnostics)
    rw [List.mem_singleton.mp hd] at hdpath
    exact (PyVal.str.inj (Option.some.inj hdpath)).symm
  have hfound := h 1 ⟨_, _, _, rfl, rfl, rfl, rfl⟩
    ⟨.scalar '0', [], ⟨_, rfl, _, List.mem_singleton_self _, rfl⟩, by decide⟩
  rcases hfound with hown | ⟨rest, hbelow⟩
  · exact absurd (hpath _ hown) (by decide)
  · have hget := congrArg (fun s : PyStr => s[10]?) (hpath _ hbelow)
    exact absurd (Option.some.inj hget) (by decide)

/-- An admitted artifact in which no diagnostic is about the unattributed stream. -/
theorem artifactFromDict_elevenStreams :
    ∃ artifact, artifactFromDict (fun _ => none) 4300 elevenStreamsArtifact = .ok artifact ∧
      ¬ Diagnosed artifact := by
  obtain ⟨artifact, h⟩ := exists_artifact_elevenStreams
  refine ⟨artifact, h, fun hown => not_separated_elevenStreams ?_⟩
  exact (diagnosed_fromDict_iff h).mp hown _ rfl

theorem diagnosed_iff_elevenStreams :
    (∃ artifact, artifactFromDict (fun _ => none) 4300 elevenStreamsArtifact = .ok artifact ∧
      (Diagnosed artifact ↔ ResultSeparated elevenStreamsArtifact)) ∧
    ∃ artifact, artifactFromResult (fun _ => none) 4300 (PyStr.ofString "1") (elevenStreams instance') =
        .ok artifact ∧ (Diagnosed artifact ↔ Separated (elevenStreams instance')) := by
  obtain ⟨artifact, h⟩ := exists_artifact_elevenStreams
  obtain ⟨made, hmade⟩ : ∃ made,
      artifactFromResult (fun _ => none) 4300 (PyStr.ofString "1") (elevenStreams instance') = .ok made :=
    isOk_iff.mp (by decide +kernel)
  exact ⟨⟨artifact, h, (diagnosed_iff _ _).1 _ _ h⟩, made, hmade, (diagnosed_iff _ _).2 _ _ _ hmade⟩

end Iperf3Lib.Artifacts
