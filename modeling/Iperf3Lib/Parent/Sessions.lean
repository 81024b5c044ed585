import Iperf3Lib.Parent.Responses
import Iperf3Lib.General.Except

/-!
# The sessions that a parent accepts

`admitted` lists what takes effect of frames from an untrusted worker and of the parent's own
continuations, up to the first frame that is rejected. `WellPlaced` says where an element may stand in
such a list, by what is in front of it and nothing else, and `admitted_wellFormed` is the theorem that
every element stands where it may.
-/

namespace Iperf3Lib.Parent

open Py Ipc

/-! ## What takes effect -/

/-- A call of the parent. -/
inductive Call where
  | accept (item : PyDict)
  | continueRun (keepRunning : Bool)

/-- What takes effect. -/
inductive Admitted where
  | frame (item : PyDict)
  | continued (keepRunning : Bool)

/-- What takes effect of some calls, up to the first frame that is rejected. A continuation that is
refused changes nothing. -/
def admitted (s : Responses) : List Call → List Admitted
  | [] => []
  | .accept item :: calls =>
    match s.accept item with
    | (.ok (), s') => .frame item :: admitted s' calls
    | (.error _, _) => []
  | .continueRun keepRunning :: calls =>
    match s.continueRun keepRunning with
    | .ok (_, s') => .continued keepRunning :: admitted s' calls
    | .error _ => admitted s calls

/-! ## Where it may stand -/

/-- The frame is of a type. -/
def isKind (kind : String) (item : PyDict) : Bool := item.str? "type" = some (kind : PyStr)

namespace Admitted

/-- A frame of a type. -/
def isKind (kind : String) : Admitted → Bool
  | .frame item => Parent.isKind kind item
  | .continued _ => false

/-- The next run is authorized. -/
def isNext : Admitted → Bool
  | .continued keepRunning => keepRunning
  | .frame _ => false

/-- No further run is wanted. -/
def isStop : Admitted → Bool
  | .continued keepRunning => !keepRunning
  | .frame _ => false

end Admitted

/-- The results so far. -/
def results (before : List Admitted) : ℕ := before.countP (Admitted.isKind "result")

/-- The runs that were authorized behind the first. -/
def continuations (before : List Admitted) : ℕ := before.countP Admitted.isNext

/-- A frame of a type is among them. -/
def Has (kind : String) (before : List Admitted) : Prop := ∃ x ∈ before, x.isKind kind = true

/-- The frames of the current run. -/
def currentRun (before : List Admitted) : List PyDict :=
  before.foldl (fun frames x =>
    match x with
    | .frame item => frames ++ [item]
    | .continued keepRunning => if keepRunning then [] else frames) []

/-- `item["arrival_offset_seconds"]`, by its value. -/
def arrival (item : PyDict) : Option ℚ := (number? item "arrival_offset_seconds").bind PyNum.value?

/-- No error, no terminal receipt and no refused continuation so far. -/
structure Alive (before : List Admitted) : Prop where
  ready : Has "ready" before
  error : ¬ Has "error" before
  terminal : ¬ Has "terminal" before
  stop : ∀ x ∈ before, x.isStop = false

/-- A run is going on: its result is still to come. -/
structure Inside (before : List Admitted) : Prop extends Alive before where
  pending : results before = continuations before

/-- The result of a run is there, and no continuation behind it. -/
structure Between (before : List Admitted) : Prop extends Alive before where
  settled : results before = continuations before + 1

/-- The capture of a result agrees with the live events of its run. -/
structure Agrees (frames : List PyDict) (capture : PyDict) : Prop where
  received : counter capture "live_emitted" =
    frames.countP (isKind "live_event") + counter capture "live_dropped"
  sequences : ∀ item ∈ frames, isKind "live_event" item = true → ∀ n,
    item.int? "capture_sequence" = some n → n ≤ counter capture "callbacks"
  gaps : ∀ item ∈ frames, isKind "live_event" item = true → item.int? "capture_sequence" = none →
    counter capture ((Responses.gap item).1 ++ ("_dropped" : String)) = (Responses.gap item).2

/-- A frame that may stand behind others, by its type. -/
inductive Admissible (liveEvents : Bool) (before : List Admitted) (item : PyDict) : Prop where
  /-- The only `ready`, in front of everything that a run consists of. -/
  | ready (kind : isKind "ready" item = true) (first : ¬ Has "ready" before)
      (event : ¬ Has "event" before) (live : ¬ Has "live_event" before)
      (result : ¬ Has "result" before)
  /-- An event of a run, behind those with smaller numbers. -/
  | event (kind : isKind "event" item = true) (inside : Inside before) (n : ℤ)
      (sequence : item.int? "sequence" = some n)
      (later : ∀ earlier ∈ currentRun before, isKind "event" earlier = true → ∀ m,
        earlier.int? "sequence" = some m → m < n)
  /-- A live event of a run: those in front of it are no gaps, captured earlier and arrived no later. -/
  | live (kind : isKind "live_event" item = true) (wanted : liveEvents = true)
      (inside : Inside before) (n : ℤ) (sequence : item.int? "capture_sequence" = some n) (q : ℚ)
      (offset : arrival item = some q)
      (later : ∀ earlier ∈ currentRun before, isKind "live_event" earlier = true →
        ∃ m p, earlier.int? "capture_sequence" = some m ∧ m < n ∧ arrival earlier = some p ∧ p ≤ q)
  /-- A gap of a run, one for each stage. -/
  | gap (kind : isKind "live_event" item = true) (wanted : liveEvents = true)
      (inside : Inside before) (sequence : item.int? "capture_sequence" = none)
      (stage : (Responses.gap item).1 = PyStr.ofString "capture" ∨
        (Responses.gap item).1 = PyStr.ofString "retention")
      (once : ∀ earlier ∈ currentRun before, isKind "live_event" earlier = true →
        earlier.int? "capture_sequence" = none →
          (Responses.gap earlier).1 ≠ (Responses.gap item).1)
  /-- The result of a run: the k-th one is that of the run k. -/
  | result (kind : isKind "result" item = true) (inside : Inside before)
      (run : item.int? "run_index" = some (results before + 1 : ℤ))
      (emitted : ∃ n, Responses.count? item "events_emitted" = some n ∧
        ∀ earlier ∈ currentRun before, isKind "event" earlier = true → ∀ m,
          earlier.int? "sequence" = some m → m ≤ n)
      (capture : (item.get? "capture").isSome = true ∨ liveEvents = true →
        ∃ capture, dict? item "capture" = some capture ∧ Agrees (currentRun before) capture)
  /-- The only error. -/
  | error (kind : isKind "error" item = true) (first : ¬ Has "error" before)
  /-- The terminal receipt counts the results and tells of the error. -/
  | terminal (kind : isKind "terminal" item = true)
      (runs : item.int? "runs" = some (results before : ℤ))
      (failed : Has "error" before → item.str? "status" = some (PyStr.ofString "failed"))
      (completed : ¬ Has "error" before → item.str? "status" = some (PyStr.ofString "completed"))

/-- Where an element may stand. Nothing stands behind a terminal receipt, every frame names the current
run, and a continuation follows the result of its run. -/
def WellPlaced (liveEvents : Bool) (before : List Admitted) : Admitted → Prop
  | .frame item => ¬ Has "terminal" before ∧
      item.int? "run_index" = some (continuations before + 1 : ℤ) ∧
      Admissible liveEvents before item
  | .continued _ => Between before

/-- Every element stands where it may. -/
def WellFormed (liveEvents : Bool) (trace : List Admitted) : Prop :=
  ∀ before x behind, trace = before ++ x :: behind → WellPlaced liveEvents before x

/-! ## One branch after the other -/

namespace Responses

variable {s s' : Responses} {item : PyDict}

theorem acceptReady_ok (h : s.acceptReady item = .ok s') :
    s.phase = .startup ∧ ∃ producer, s' = { s with producer := some producer, phase := .running } := by
  unfold acceptReady at h
  split at h
  · next producer _ =>
    split at h
    · next hready =>
      cases h
      exact ⟨hready.1, producer, rfl⟩
    · cases h
  · cases h

theorem acceptEvent_ok (h : s.acceptEvent item = .ok s') :
    s.phase = .running ∧ ∃ n, item.int? "sequence" = some n ∧ s.eventSequence < n ∧
      s' = { s with eventSequence := n } := by
  unfold acceptEvent at h
  split at h
  · next n hn =>
    split at h
    · next hevent =>
      cases h
      exact ⟨hevent.1, n, hn, hevent.2.2.2.1, rfl⟩
    · cases h
  · cases h

theorem acceptError_ok (h : s.acceptError item = .ok s') :
    s.failed = false ∧ s' = { s with failed := true, phase := .ending } := by
  unfold acceptError at h
  split at h
  · cases h
  · next herror =>
    cases h
    exact ⟨by simpa using fun hfailed => herror (.inl hfailed), rfl⟩

theorem acceptTerminal_ok (h : s.acceptTerminal item = .ok s') :
    s.phase = .ending ∧ item.int? "runs" = some (s.runs : ℤ) ∧
      item.str? "status" = some (statusText s.failed) ∧ s' = { s with phase := .terminal } := by
  unfold acceptTerminal at h
  split at h
  · cases h
  · next hterminal =>
    cases h
    simp only [not_or, not_not] at hterminal
    exact ⟨hterminal.1, hterminal.2.1, hterminal.2.2, rfl⟩

/-- A finite number has a value. -/
theorem exists_arrival (h : finiteNumber (item.get? "arrival_offset_seconds") = true) :
    ∃ q, arrival item = some q ∧ (arrivalOf item).value? = some q := by
  unfold arrival arrivalOf number?
  unfold finiteNumber at h
  split at h
  · exact ⟨_, rfl, rfl⟩
  · next x hx =>
    obtain ⟨hfinite, -⟩ := Bool.and_eq_true_iff.mp h
    obtain ⟨q, hq⟩ := Option.isSome_iff_exists.mp (PyNum.isSome_value?_of_isFinite hfinite)
    exact ⟨q, hq, hq⟩
  · cases h

theorem isAbsent_of_int? {key : PyStr} {n : ℤ} (h : item.int? key = some n) :
    isAbsent item key = false := by
  unfold PyDict.int? at h
  unfold isAbsent
  split at h
  · next m hm => rw [hm]
  · cases h

/-- A live frame has an arrival, or it is a gap. -/
theorem validateLiveFrame_ok (h : validateLiveFrame item = .ok ()) :
    (∃ n q, item.int? "capture_sequence" = some n ∧ arrival item = some q ∧
      (arrivalOf item).value? = some q) ∨
    (item.int? "capture_sequence" = none ∧ ((gap item).1 = PyStr.ofString "capture" ∨
      (gap item).1 = PyStr.ofString "retention")) := by
  unfold validateLiveFrame at h
  split at h
  · cases h
  split at h
  · cases h
  next hprovenance hpayload =>
  rw [not_not] at hprovenance hpayload
  unfold hasProvenance at hprovenance
  simp only [Bool.and_eq_true, Bool.or_eq_true, decide_eq_true_eq] at hprovenance
  obtain ⟨⟨⟨⟨hkind, -⟩, hoffset⟩, -⟩, hsequence⟩ := hprovenance
  unfold validPayload at hpayload
  cases hn : item.int? "capture_sequence" with
  | some n =>
    have habsent := isAbsent_of_int? hn
    have hnogap : item.str? "kind" ≠ some (("delivery_gap" : String) : PyStr) := by
      intro hgap
      rw [hgap, Option.getD_some, if_pos rfl, isGap, habsent] at hpayload
      cases hpayload
    obtain ⟨q, hq, hvalue⟩ := exists_arrival (hoffset.resolve_left hnogap)
    exact .inl ⟨n, q, rfl, hq, hvalue⟩
  | none =>
    have habsent : isAbsent item "capture_sequence" = true := by
      simpa [isSequence, hn] using hsequence
    refine .inr ⟨rfl, ?_⟩
    rw [habsent, if_pos rfl] at hpayload
    split at hpayload
    · unfold isGap at hpayload
      obtain ⟨-, hdata⟩ := Bool.and_eq_true_iff.mp hpayload
      split at hdata
      · next data hdict =>
        simp only [Bool.and_eq_true, Bool.or_eq_true, decide_eq_true_eq] at hdata
        have hgap : (gap item).1 = (PyDict.str? data "stage").getD [] := by
          unfold gap dict?
          rw [hdict]
          rfl
        rw [hgap]
        rcases hdata.1.2 with hstage | hstage
        · exact .inl (by rw [hstage]; rfl)
        · exact .inr (by rw [hstage]; rfl)
      · cases hdata
    · cases hpayload

theorem acceptLive_ok (h : s.acceptLive item = .ok s') :
    s.phase = .running ∧ s.liveEvents = true ∧
      ((∃ n q, item.int? "capture_sequence" = some n ∧ arrival item = some q ∧
        (arrivalOf item).value? = some q ∧ s.captureSequence < n ∧ s.captureGaps = [] ∧
        (arrivalOf item).lt s.arrivalOffset = false ∧ s' = { s with
          captureSequence := n
          arrivalOffset := arrivalOf item
          liveReceived := s.liveReceived + 1 }) ∨
      (item.int? "capture_sequence" = none ∧ ((gap item).1 = PyStr.ofString "capture" ∨
        (gap item).1 = PyStr.ofString "retention") ∧ (gap item).1 ∉ s.captureGaps.map Prod.fst ∧
        s' = { s with
          captureGaps := s.captureGaps ++ [gap item]
          liveReceived := s.liveReceived + 1 })) := by
  unfold acceptLive at h
  split at h
  · cases h
  next hrunning =>
  simp only [not_or, not_not] at hrunning
  rw [bind_unit_eq_ok] at h
  obtain ⟨hvalid, h⟩ := h
  refine ⟨hrunning.1, hrunning.2, ?_⟩
  rcases validateLiveFrame_ok hvalid with ⟨n, q, hn, hq, hvalue⟩ | ⟨hnone, hstage⟩
  · rw [hn] at h
    dsimp only at h
    split at h
    · cases h
    · next horder =>
      cases h
      simp only [not_or, not_le, not_not, Bool.not_eq_true] at horder
      exact .inl ⟨n, q, hn, hq, hvalue, horder.1, horder.2.1, horder.2.2, rfl⟩
  · rw [hnone] at h
    dsimp only at h
    split at h
    · cases h
    · next hnew =>
      cases h
      exact .inr ⟨hnone, hstage, hnew, rfl⟩

theorem acceptResult_ok (h : s.acceptResult item = .ok s') :
    s.isResult item = true ∧
      ((item.get? "capture").isSome = true ∨ s.liveEvents = true →
        ∃ capture, dict? item "capture" = some capture ∧ s.agrees capture = true) ∧
      s' = { s with runs := s.runs + 1, phase := settledPhase s.role } := by
  unfold acceptResult at h
  split at h
  · cases h
  next hresult =>
  refine ⟨not_not.mp hresult, ?_⟩
  by_cases hcapture : (item.get? "capture").isSome = true ∨ s.liveEvents = true
  · rw [if_pos hcapture, bind_unit_eq_ok] at h
    obtain ⟨hvalid, h⟩ := h
    have hdict : ∃ capture, dict? item "capture" = some capture := by
      unfold dict?
      cases hget : item.get? "capture" with
      | none =>
        rw [hget] at hvalid
        cases hvalid
      | some v =>
        rw [hget] at hvalid
        cases v <;> first | exact ⟨_, rfl⟩ | cases hvalid
    obtain ⟨capture, hdict⟩ := hdict
    rw [hdict, Option.getD_some] at h
    split at h
    · cases h
    · next hagrees =>
      cases h
      exact ⟨fun _ => ⟨capture, hdict, not_not.mp hagrees⟩, rfl⟩
  · rw [if_neg hcapture] at h
    cases h
    exact ⟨fun hwanted => absurd hwanted hcapture, rfl⟩

theorem isResult_spec (h : s.isResult item = true) : s.phase = .running ∧
    ∃ n, count? item "events_emitted" = some n ∧ s.eventSequence ≤ n := by
  unfold isResult at h
  split at h
  · next producer emitted dropped _ hemitted _ =>
    simp only [Bool.and_eq_true, decide_eq_true_eq] at h
    exact ⟨h.1.1.1.1.1.1.1.1.1.1, emitted, hemitted, h.1.1.1.1.2⟩
  · cases h

/-- A frame behind the check of the session is taken by the branch of its type. -/
theorem admit_cases (h : s.admitItem item = .ok s') :
    s.phase ≠ .terminal ∧ item.int? "run_index" = some (s.run : ℤ) ∧
      ((isKind "ready" item = true ∧ s.acceptReady item = .ok s') ∨
        (isKind "event" item = true ∧ s.acceptEvent item = .ok s') ∨
        (isKind "live_event" item = true ∧ s.acceptLive item = .ok s') ∨
        (isKind "result" item = true ∧ s.acceptResult item = .ok s') ∨
        (isKind "error" item = true ∧ s.acceptError item = .ok s') ∨
        (isKind "terminal" item = true ∧ s.acceptTerminal item = .ok s')) := by
  have hkind : ∀ kind : String, (kind : PyStr) ≠ [] →
      (item.str? "type").getD [] = (kind : PyStr) → isKind kind item = true := by
    intro kind hne hget
    unfold isKind
    cases htype : item.str? "type" with
    | none =>
      rw [htype] at hget
      exact absurd hget.symm hne
    | some text =>
      rw [htype] at hget
      exact decide_eq_true (congrArg some hget)
  unfold admitItem at h
  split at h
  · cases h
  next hphase =>
  split at h
  · cases h
  next hrun =>
  refine ⟨hphase, not_not.mp hrun, ?_⟩
  dsimp only at h
  split at h
  · next htype => exact .inl ⟨hkind _ (by decide) htype, h⟩
  split at h
  · next htype => exact .inr (.inl ⟨hkind _ (by decide) htype, h⟩)
  split at h
  · next htype => exact .inr (.inr (.inl ⟨hkind _ (by decide) htype, h⟩))
  split at h
  · next htype => exact .inr (.inr (.inr (.inl ⟨hkind _ (by decide) htype, h⟩)))
  split at h
  · next htype => exact .inr (.inr (.inr (.inr (.inl ⟨hkind _ (by decide) htype, h⟩))))
  split at h
  · next htype => exact .inr (.inr (.inr (.inr (.inr ⟨hkind _ (by decide) htype, h⟩))))
  · cases h

end Responses

/-! ## One more element -/

section History

variable {before : List Admitted} {item : PyDict} {keepRunning : Bool}

theorem isKind_eq_false {kind other : String} (h : isKind kind item = true)
    (hne : (kind : PyStr) ≠ other) : isKind other item = false := by
  rw [isKind, decide_eq_true_eq] at h
  rw [isKind, h, decide_eq_false_iff_not]
  exact fun heq => hne (Option.some.inj heq)

theorem results_frame : results (before ++ [.frame item]) =
    results before + if isKind "result" item = true then 1 else 0 := by
  rw [results, List.countP_append, List.countP_singleton]
  rfl

theorem results_continued : results (before ++ [.continued keepRunning]) = results before := by
  rw [results, List.countP_append, List.countP_singleton]
  rfl

theorem continuations_frame : continuations (before ++ [.frame item]) = continuations before := by
  rw [continuations, List.countP_append, List.countP_singleton]
  rfl

theorem continuations_continued : continuations (before ++ [.continued keepRunning]) =
    continuations before + if keepRunning = true then 1 else 0 := by
  rw [continuations, List.countP_append, List.countP_singleton]
  rfl

theorem currentRun_frame : currentRun (before ++ [.frame item]) = currentRun before ++ [item] := by
  rw [currentRun, List.foldl_append]
  rfl

theorem currentRun_continued : currentRun (before ++ [.continued keepRunning]) =
    if keepRunning = true then [] else currentRun before := by
  rw [currentRun, List.foldl_append]
  rfl

theorem has_frame {kind : String} :
    Has kind (before ++ [.frame item]) ↔ Has kind before ∨ isKind kind item = true := by
  simp only [Has, List.mem_append, List.mem_singleton, or_and_right, exists_or, exists_eq_left]
  rfl

theorem has_continued {kind : String} :
    Has kind (before ++ [.continued keepRunning]) ↔ Has kind before := by
  simp only [Has, List.mem_append, List.mem_singleton, or_and_right, exists_or, exists_eq_left]
  exact or_iff_left Bool.false_ne_true

theorem not_has_frame {kind other : String} (h : ¬ Has kind before) (hitem : isKind other item = true)
    (hne : (other : PyStr) ≠ kind) : ¬ Has kind (before ++ [.frame item]) := by
  rw [has_frame, isKind_eq_false hitem hne]
  exact not_or.mpr ⟨h, Bool.false_ne_true⟩

/-- A frame that is no error and no terminal receipt ends nothing. -/
theorem Alive.frame (h : Alive before) {kind : String} (hitem : isKind kind item = true)
    (herror : (kind : PyStr) ≠ ("error" : String)) (hterminal : (kind : PyStr) ≠ ("terminal" : String)) :
    Alive (before ++ [.frame item]) where
  ready := has_frame.mpr (.inl h.ready)
  error := not_has_frame h.error hitem herror
  terminal := not_has_frame h.terminal hitem hterminal
  stop x hx := by
    rcases List.mem_append.mp hx with hx | hx
    · exact h.stop x hx
    · rw [List.mem_singleton.mp hx]
      rfl

theorem Inside.frame (h : Inside before) {kind : String} (hitem : isKind kind item = true)
    (herror : (kind : PyStr) ≠ ("error" : String)) (hterminal : (kind : PyStr) ≠ ("terminal" : String))
    (hresult : (kind : PyStr) ≠ ("result" : String)) : Inside (before ++ [.frame item]) where
  toAlive := h.toAlive.frame hitem herror hterminal
  pending := by
    rw [results_frame, continuations_frame, isKind_eq_false hitem hresult]
    exact h.pending

end History

/-! ## The state and the history -/

/-- The state has kept track of the current run. -/
structure TracksRun (s : Responses) (frames : List PyDict) : Prop where
  events : ∀ item ∈ frames, isKind "event" item = true → ∀ n, item.int? "sequence" = some n →
    n ≤ s.eventSequence
  live : ∀ item ∈ frames, isKind "live_event" item = true → ∀ n,
    item.int? "capture_sequence" = some n → n ≤ s.captureSequence ∧
      ∃ p q, arrival item = some p ∧ s.arrivalOffset.value? = some q ∧ p ≤ q
  gaps : ∀ item ∈ frames, isKind "live_event" item = true → item.int? "capture_sequence" = none →
    Responses.gap item ∈ s.captureGaps
  received : s.liveReceived = frames.countP (isKind "live_event")
  offset : ∃ q, s.arrivalOffset.value? = some q

/-- The state has kept track of what took effect. -/
structure Tracks (s : Responses) (before : List Admitted) : Prop where
  run : s.run = continuations before + 1
  runs : s.runs = results before
  failed : s.failed = true ↔ Has "error" before
  terminal : s.phase ≠ .terminal → ¬ Has "terminal" before
  startup : s.phase = .startup → before = []
  running : s.phase = .running → Inside before
  continuation : s.phase = .continuation → Between before
  current : TracksRun s (currentRun before)

namespace TracksRun

variable {s : Responses} {frames : List PyDict} {item : PyDict}

theorem nil {s : Responses} (hreceived : s.liveReceived = 0)
    (hoffset : s.arrivalOffset = .float (.finite (.zero false))) : TracksRun s [] where
  events _ h := by cases h
  live _ h := by cases h
  gaps _ h := by cases h
  received := hreceived
  offset := ⟨_, by rw [hoffset]; rfl⟩

/-- A frame that is no event leaves the run as it is. -/
theorem other (h : TracksRun s frames) {kind : String} (hitem : isKind kind item = true)
    (hevent : (kind : PyStr) ≠ ("event" : String)) (hlive : (kind : PyStr) ≠ ("live_event" : String)) :
    TracksRun s (frames ++ [item]) where
  events := List.forall_mem_append.mpr ⟨h.events, fun x hx hkind => by
    rw [List.mem_singleton.mp hx, isKind_eq_false hitem hevent] at hkind
    cases hkind⟩
  live := List.forall_mem_append.mpr ⟨h.live, fun x hx hkind => by
    rw [List.mem_singleton.mp hx, isKind_eq_false hitem hlive] at hkind
    cases hkind⟩
  gaps := List.forall_mem_append.mpr ⟨h.gaps, fun x hx hkind => by
    rw [List.mem_singleton.mp hx, isKind_eq_false hitem hlive] at hkind
    cases hkind⟩
  received := by
    rw [List.countP_append, List.countP_singleton, isKind_eq_false hitem hlive]
    exact h.received
  offset := h.offset

end TracksRun

/-! ## Each branch keeps track -/

namespace Tracks

variable {s s' : Responses} {before : List Admitted} {item : PyDict}

theorem has_nil {kind : String} : ¬ Has kind [] := by
  rintro ⟨x, hx, -⟩
  cases hx

theorem ready (h : Tracks s before) (hkind : isKind "ready" item = true)
    (haccept : s.acceptReady item = .ok s') :
    Admissible s.liveEvents before item ∧ Tracks s' (before ++ [.frame item]) ∧
      s'.liveEvents = s.liveEvents := by
  obtain ⟨hphase, producer, rfl⟩ := Responses.acceptReady_ok haccept
  obtain rfl := h.startup hphase
  have halive : Alive ([] ++ [.frame item]) := {
    ready := has_frame.mpr (.inr hkind)
    error := not_has_frame has_nil hkind (by decide)
    terminal := not_has_frame has_nil hkind (by decide)
    stop := fun x hx => by
      rw [List.mem_singleton.mp hx]
      rfl }
  refine ⟨.ready hkind has_nil has_nil has_nil has_nil, ?_, rfl⟩
  exact {
    run := by
      rw [continuations_frame]
      exact h.run
    runs := by
      rw [results_frame, isKind_eq_false hkind (by decide)]
      exact h.runs
    failed := by
      rw [has_frame, isKind_eq_false hkind (by decide)]
      simpa using h.failed
    terminal := fun _ => halive.terminal
    startup := fun hstartup => by cases hstartup
    running := fun _ => {
      toAlive := halive
      pending := by
        rw [results_frame, continuations_frame, isKind_eq_false hkind (by decide)]
        rfl }
    continuation := fun hcontinuation => by cases hcontinuation
    current := by
      rw [currentRun_frame]
      have hother := h.current.other hkind (by decide) (by decide)
      exact ⟨hother.events, hother.live, hother.gaps, hother.received, hother.offset⟩ }

/-- A frame of a run that goes on. -/
theorem ongoing (h : Tracks s before) {kind : String} (hitem : isKind kind item = true)
    (herror : (kind : PyStr) ≠ ("error" : String)) (hterminal : (kind : PyStr) ≠ ("terminal" : String))
    (hresult : (kind : PyStr) ≠ ("result" : String)) (hrunning : s.phase = .running)
    (hrun : s'.run = s.run) (hruns : s'.runs = s.runs) (hfailed : s'.failed = s.failed)
    (hphase : s'.phase = s.phase) (hcurrent : TracksRun s' (currentRun before ++ [item])) :
    Tracks s' (before ++ [.frame item]) := by
  have hinside := h.running hrunning
  exact {
    run := by
      rw [continuations_frame, hrun]
      exact h.run
    runs := by
      rw [results_frame, isKind_eq_false hitem hresult, hruns]
      exact h.runs
    failed := by
      rw [has_frame, isKind_eq_false hitem herror, hfailed]
      simpa using h.failed
    terminal := fun _ => not_has_frame hinside.terminal hitem hterminal
    startup := fun hstartup => by
      rw [hphase, hrunning] at hstartup
      cases hstartup
    running := fun _ => hinside.frame hitem herror hterminal hresult
    continuation := fun hcontinuation => by
      rw [hphase, hrunning] at hcontinuation
      cases hcontinuation
    current := by
      rw [currentRun_frame]
      exact hcurrent }

theorem event (h : Tracks s before) (hkind : isKind "event" item = true)
    (haccept : s.acceptEvent item = .ok s') :
    Admissible s.liveEvents before item ∧ Tracks s' (before ++ [.frame item]) ∧
      s'.liveEvents = s.liveEvents := by
  obtain ⟨hphase, n, hn, hlater, rfl⟩ := Responses.acceptEvent_ok haccept
  refine ⟨.event hkind (h.running hphase) n hn fun earlier hmem hevent m hm => ?_, ?_, rfl⟩
  · exact (h.current.events earlier hmem hevent m hm).trans_lt hlater
  · refine h.ongoing hkind (by decide) (by decide) (by decide) hphase rfl rfl rfl rfl ?_
    have hnolive : isKind "live_event" item = false := isKind_eq_false hkind (by decide)
    refine ⟨List.forall_mem_append.mpr ⟨fun earlier hmem hevent m hm => ?_, ?_⟩,
      List.forall_mem_append.mpr ⟨h.current.live, ?_⟩,
      List.forall_mem_append.mpr ⟨h.current.gaps, ?_⟩, ?_, h.current.offset⟩
    · exact ((h.current.events earlier hmem hevent m hm).trans_lt hlater).le
    · intro x hx _ m hm
      rw [List.mem_singleton.mp hx, hn] at hm
      exact (Option.some.inj hm).ge
    · intro x hx hlive
      rw [List.mem_singleton.mp hx, hnolive] at hlive
      cases hlive
    · intro x hx hlive
      rw [List.mem_singleton.mp hx, hnolive] at hlive
      cases hlive
    · rw [List.countP_append, List.countP_singleton, hnolive]
      exact h.current.received

theorem live (h : Tracks s before) (hkind : isKind "live_event" item = true)
    (haccept : s.acceptLive item = .ok s') :
    Admissible s.liveEvents before item ∧ Tracks s' (before ++ [.frame item]) ∧
      s'.liveEvents = s.liveEvents := by
  have hnoevent : isKind "event" item = false := isKind_eq_false hkind (by decide)
  have hcount : (currentRun before ++ [item]).countP (isKind "live_event") =
      (currentRun before).countP (isKind "live_event") + 1 := by
    rw [List.countP_append, List.countP_singleton, if_pos hkind]
  have hevents : ∀ x ∈ [item], isKind "event" x = true → ∀ m, x.int? "sequence" = some m →
      m ≤ s.eventSequence := by
    intro x hx hevent
    rw [List.mem_singleton.mp hx, hnoevent] at hevent
    cases hevent
  obtain ⟨hphase, hwanted, ⟨n, q, hn, hq, hvalue, hlater, hnogaps, horder, rfl⟩ |
    ⟨hnone, hstage, hnew, rfl⟩⟩ := Responses.acceptLive_ok haccept
  · -- what was captured before has a smaller number and arrived no later
    have hbefore : ∀ earlier ∈ currentRun before, isKind "live_event" earlier = true → ∀ m,
        earlier.int? "capture_sequence" = some m →
          m < n ∧ ∃ p, arrival earlier = some p ∧ p ≤ q := by
      intro earlier hmem hlive m hm
      obtain ⟨hle, p, r, hp, hr, hpr⟩ := h.current.live earlier hmem hlive m hm
      refine ⟨hle.trans_lt hlater, p, hp, hpr.trans ?_⟩
      rw [PyNum.lt_of_value? hvalue hr] at horder
      simpa using horder
    refine ⟨.live hkind hwanted (h.running hphase) n hn q hq fun earlier hmem hlive => ?_, ?_, rfl⟩
    · cases hm : earlier.int? "capture_sequence" with
      | none =>
        have hgap := h.current.gaps earlier hmem hlive hm
        rw [hnogaps] at hgap
        cases hgap
      | some m =>
        obtain ⟨hlt, p, hp, hpq⟩ := hbefore earlier hmem hlive m hm
        exact ⟨m, p, rfl, hlt, hp, hpq⟩
    · refine h.ongoing hkind (by decide) (by decide) (by decide) hphase rfl rfl rfl rfl ?_
      refine ⟨List.forall_mem_append.mpr ⟨h.current.events, hevents⟩,
        List.forall_mem_append.mpr ⟨fun earlier hmem hlive m hm => ?_, fun x hx _ m hm => ?_⟩,
        List.forall_mem_append.mpr ⟨h.current.gaps, fun x hx _ hm => ?_⟩, ?_, ⟨q, hvalue⟩⟩
      · obtain ⟨hlt, p, hp, hpq⟩ := hbefore earlier hmem hlive m hm
        exact ⟨hlt.le, p, q, hp, hvalue, hpq⟩
      · rw [List.mem_singleton.mp hx] at hm ⊢
        exact ⟨(Option.some.inj (hn.symm.trans hm)).ge, q, q, hq, hvalue, le_refl q⟩
      · rw [List.mem_singleton.mp hx, hn] at hm
        cases hm
      · rw [hcount]
        exact congrArg (· + 1) h.current.received
  · refine ⟨.gap hkind hwanted (h.running hphase) hnone hstage fun earlier hmem hlive hm heq => ?_,
      ?_, rfl⟩
    · exact hnew (heq ▸ List.mem_map_of_mem (h.current.gaps earlier hmem hlive hm))
    · refine h.ongoing hkind (by decide) (by decide) (by decide) hphase rfl rfl rfl rfl ?_
      refine ⟨List.forall_mem_append.mpr ⟨h.current.events, hevents⟩,
        List.forall_mem_append.mpr ⟨h.current.live, fun x hx _ m hm => ?_⟩,
        List.forall_mem_append.mpr ⟨fun earlier hmem hlive hm => ?_, fun x hx _ _ => ?_⟩, ?_,
        h.current.offset⟩
      · rw [List.mem_singleton.mp hx, hnone] at hm
        cases hm
      · exact List.mem_append_left _ (h.current.gaps earlier hmem hlive hm)
      · rw [List.mem_singleton.mp hx]
        exact List.mem_append_right _ List.mem_cons_self
      · rw [hcount]
        exact congrArg (· + 1) h.current.received

theorem agrees (h : TracksRun s (currentRun before)) {capture : PyDict}
    (hagrees : s.agrees capture = true) : Agrees (currentRun before) capture := by
  unfold Responses.agrees at hagrees
  simp only [Bool.and_eq_true, decide_eq_true_eq, List.all_eq_true] at hagrees
  obtain ⟨⟨⟨hreceived, hcallbacks⟩, -⟩, hgaps⟩ := hagrees
  refine ⟨?_, fun item hitem hlive n hn => ?_, fun item hitem hlive hnone => ?_⟩
  · rw [← h.received]
    exact hreceived
  · exact (h.live item hitem hlive n hn).1.trans hcallbacks
  · exact hgaps _ (h.gaps item hitem hlive hnone)

theorem result (h : Tracks s before) (hkind : isKind "result" item = true)
    (hrun : item.int? "run_index" = some (s.run : ℤ)) (haccept : s.acceptResult item = .ok s') :
    Admissible s.liveEvents before item ∧ Tracks s' (before ++ [.frame item]) ∧
      s'.liveEvents = s.liveEvents := by
  obtain ⟨hresult, hcapture, rfl⟩ := Responses.acceptResult_ok haccept
  obtain ⟨hphase, n, hn, hemitted⟩ := Responses.isResult_spec hresult
  have hinside := h.running hphase
  have halive := hinside.toAlive.frame hkind (by decide) (by decide)
  refine ⟨.result hkind hinside ?_ ⟨n, hn, fun earlier hmem hevent m hm => ?_⟩ fun hwanted => ?_,
    ?_, rfl⟩
  · rw [hrun, h.run, hinside.pending]
    rfl
  · exact (h.current.events earlier hmem hevent m hm).trans hemitted
  · obtain ⟨capture, hdict, hagrees⟩ := hcapture hwanted
    exact ⟨capture, hdict, agrees h.current hagrees⟩
  · exact {
      run := by
        rw [continuations_frame]
        exact h.run
      runs := by
        rw [results_frame, if_pos hkind]
        exact congrArg (· + 1) h.runs
      failed := by
        rw [has_frame, isKind_eq_false hkind (by decide)]
        simpa using h.failed
      terminal := fun _ => halive.terminal
      startup := fun hstartup => by
        cases hrole : s.role <;> rw [hrole] at hstartup <;> cases hstartup
      running := fun hrunning => by
        cases hrole : s.role <;> rw [hrole] at hrunning <;> cases hrunning
      continuation := fun _ => {
        toAlive := halive
        settled := by
          rw [results_frame, continuations_frame, if_pos hkind, hinside.pending] }
      current := by
        rw [currentRun_frame]
        have hother := h.current.other hkind (by decide) (by decide)
        exact ⟨hother.events, hother.live, hother.gaps, hother.received, hother.offset⟩ }

theorem error (h : Tracks s before) (hterminal : s.phase ≠ .terminal)
    (hkind : isKind "error" item = true) (haccept : s.acceptError item = .ok s') :
    Admissible s.liveEvents before item ∧ Tracks s' (before ++ [.frame item]) ∧
      s'.liveEvents = s.liveEvents := by
  obtain ⟨hfailed, rfl⟩ := Responses.acceptError_ok haccept
  have hfirst : ¬ Has "error" before := by rw [← h.failed, hfailed]; exact Bool.false_ne_true
  refine ⟨.error hkind hfirst, ?_, rfl⟩
  exact {
    run := by
      rw [continuations_frame]
      exact h.run
    runs := by
      rw [results_frame, isKind_eq_false hkind (by decide)]
      exact h.runs
    failed := iff_of_true rfl (has_frame.mpr (.inr hkind))
    terminal := fun _ => not_has_frame (h.terminal hterminal) hkind (by decide)
    startup := fun hstartup => by cases hstartup
    running := fun hrunning => by cases hrunning
    continuation := fun hcontinuation => by cases hcontinuation
    current := by
      rw [currentRun_frame]
      have hother := h.current.other hkind (by decide) (by decide)
      exact ⟨hother.events, hother.live, hother.gaps, hother.received, hother.offset⟩ }

theorem closing (h : Tracks s before) (hkind : isKind "terminal" item = true)
    (haccept : s.acceptTerminal item = .ok s') :
    Admissible s.liveEvents before item ∧ Tracks s' (before ++ [.frame item]) ∧
      s'.liveEvents = s.liveEvents := by
  obtain ⟨hphase, hruns, hstatus, rfl⟩ := Responses.acceptTerminal_ok haccept
  refine ⟨.terminal hkind (by rw [hruns, h.runs]) (fun herror => ?_) (fun herror => ?_), ?_, rfl⟩
  · rw [hstatus, h.failed.mpr herror]
    rfl
  · have hcompleted : s.failed = false := by simpa using fun hfailed => herror (h.failed.mp hfailed)
    rw [hstatus, hcompleted]
    rfl
  · exact {
      run := by
        rw [continuations_frame]
        exact h.run
      runs := by
        rw [results_frame, isKind_eq_false hkind (by decide)]
        exact h.runs
      failed := by
        rw [has_frame, isKind_eq_false hkind (by decide)]
        simpa using h.failed
      terminal := fun hterminal => absurd rfl hterminal
      startup := fun hstartup => by cases hstartup
      running := fun hrunning => by cases hrunning
      continuation := fun hcontinuation => by cases hcontinuation
      current := by
        rw [currentRun_frame]
        have hother := h.current.other hkind (by decide) (by decide)
        exact ⟨hother.events, hother.live, hother.gaps, hother.received, hother.offset⟩ }

/-- A frame that is accepted stands where it may. -/
theorem accept (h : Tracks s before) (haccept : s.accept item = (.ok (), s')) :
    WellPlaced s.liveEvents before (.frame item) ∧ Tracks s' (before ++ [.frame item]) ∧
      s'.liveEvents = s.liveEvents := by
  unfold Responses.accept at haccept
  cases hvalid : s.session.validate item with
  | mk outcome session =>
    rw [hvalid] at haccept
    cases outcome with
    | error e => cases (Prod.mk.inj haccept).1
    | ok =>
      dsimp only at haccept
      cases htaken : ({ s with session := session } : Responses).admitItem item with
      | error e =>
        rw [htaken] at haccept
        cases (Prod.mk.inj haccept).1
      | ok s₁ =>
        rw [htaken] at haccept
        obtain rfl := (Prod.mk.inj haccept).2
        have hs : Tracks { s with session := session } before :=
          ⟨h.run, h.runs, h.failed, h.terminal, h.startup, h.running, h.continuation,
            ⟨h.current.events, h.current.live, h.current.gaps, h.current.received, h.current.offset⟩⟩
        obtain ⟨hphase, hrun, hbranch⟩ := Responses.admit_cases htaken
        have hplace : ∀ {P : Prop}, Admissible s.liveEvents before item ∧ P →
            WellPlaced s.liveEvents before (.frame item) ∧ P := by
          rintro P ⟨hadmissible, hrest⟩
          refine ⟨⟨h.terminal hphase, ?_, hadmissible⟩, hrest⟩
          rw [hrun]
          exact congrArg (fun n : ℕ => some (n : ℤ)) h.run
        rcases hbranch with ⟨hkind, hok⟩ | ⟨hkind, hok⟩ | ⟨hkind, hok⟩ | ⟨hkind, hok⟩ |
          ⟨hkind, hok⟩ | ⟨hkind, hok⟩
        · exact hplace (hs.ready hkind hok)
        · exact hplace (hs.event hkind hok)
        · exact hplace (hs.live hkind hok)
        · exact hplace (hs.result hkind hrun hok)
        · exact hplace (hs.error hphase hkind hok)
        · exact hplace (hs.closing hkind hok)

/-- A continuation follows a result, and the next run starts afresh. -/
theorem continueRun (h : Tracks s before) {keepRunning : Bool} {completed : ℕ}
    (haccept : s.continueRun keepRunning = .ok (completed, s')) :
    WellPlaced s.liveEvents before (.continued keepRunning) ∧
      Tracks s' (before ++ [.continued keepRunning]) ∧ s'.liveEvents = s.liveEvents := by
  unfold Responses.continueRun at haccept
  split at haccept
  · cases haccept
  next hphase =>
  have hbetween := h.continuation (not_not.mp hphase)
  have hterminal : ¬ Has "terminal" (before ++ [.continued keepRunning]) := by
    rw [has_continued]
    exact hbetween.terminal
  have hfailed : s.failed = true ↔ Has "error" (before ++ [.continued keepRunning]) := by
    rw [has_continued]
    exact h.failed
  have hruns : s.runs = results (before ++ [.continued keepRunning]) := by
    rw [results_continued]
    exact h.runs
  refine ⟨hbetween, ?_⟩
  cases keepRunning with
  | true =>
    cases haccept
    refine ⟨?_, rfl⟩
    exact {
      run := by
        rw [continuations_continued]
        exact congrArg (· + 1) h.run
      runs := hruns
      failed := hfailed
      terminal := fun _ => hterminal
      startup := fun hstartup => by cases hstartup
      running := fun _ => {
        ready := has_continued.mpr hbetween.ready
        error := has_continued.not.mpr hbetween.error
        terminal := hterminal
        stop := fun x hx => by
          rcases List.mem_append.mp hx with hx | hx
          · exact hbetween.stop x hx
          · rw [List.mem_singleton.mp hx]
            rfl
        pending := by
          rw [results_continued, continuations_continued, hbetween.settled]
          rfl }
      continuation := fun hcontinuation => by cases hcontinuation
      current := by
        rw [currentRun_continued]
        exact .nil rfl rfl }
  | false =>
    cases haccept
    refine ⟨?_, rfl⟩
    exact {
      run := by
        rw [continuations_continued]
        exact h.run
      runs := hruns
      failed := hfailed
      terminal := fun _ => hterminal
      startup := fun hstartup => by cases hstartup
      running := fun hrunning => by cases hrunning
      continuation := fun hcontinuation => by cases hcontinuation
      current := by
        rw [currentRun_continued]
        exact ⟨h.current.events, h.current.live, h.current.gaps, h.current.received,
          h.current.offset⟩ }

theorem initial (session : Session) (role : ReportingRole) (pid : ℤ) (liveEvents : Bool) :
    Tracks (.initial session role pid liveEvents) [] where
  run := rfl
  runs := rfl
  failed := iff_of_false Bool.false_ne_true has_nil
  terminal _ := has_nil
  startup _ := rfl
  running h := by cases h
  continuation h := by cases h
  current := .nil rfl rfl

/-- Every element that takes effect stands where it may. -/
theorem admitted (h : Tracks s before) (calls : List Call) :
    ∀ between x behind, admitted s calls = between ++ x :: behind →
      WellPlaced s.liveEvents (before ++ between) x := by
  induction calls generalizing s before with
  | nil =>
    intro between x behind hsplit
    cases between <;> cases hsplit
  | cons call calls ih =>
    have hfirst : ∀ {s₁ : Responses} {first : Admitted}, WellPlaced s.liveEvents before first →
        Tracks s₁ (before ++ [first]) → s₁.liveEvents = s.liveEvents → ∀ between x behind,
          first :: Parent.admitted s₁ calls = between ++ x :: behind →
            WellPlaced s.liveEvents (before ++ between) x := by
      intro s₁ first hplaced htracks hlive between x behind hsplit
      cases between with
      | nil =>
        obtain ⟨rfl, -⟩ := List.cons.inj hsplit
        rwa [List.append_nil]
      | cons y between =>
        obtain ⟨rfl, hrest⟩ := List.cons.inj hsplit
        have := ih htracks between x behind hrest
        rwa [hlive, List.append_assoc] at this
    intro between x behind hsplit
    cases call with
    | accept item =>
      rw [Parent.admitted] at hsplit
      cases haccept : s.accept item with
      | mk outcome s₁ =>
        rw [haccept] at hsplit
        cases outcome with
        | error e => cases between <;> cases hsplit
        | ok =>
          obtain ⟨hplaced, htracks, hlive⟩ := h.accept haccept
          exact hfirst hplaced htracks hlive between x behind hsplit
    | continueRun keepRunning =>
      rw [Parent.admitted] at hsplit
      cases hcontinue : s.continueRun keepRunning with
      | error e =>
        rw [hcontinue] at hsplit
        exact ih h between x behind hsplit
      | ok completed =>
        rw [hcontinue] at hsplit
        obtain ⟨hplaced, htracks, hlive⟩ := h.continueRun hcontinue
        exact hfirst hplaced htracks hlive between x behind hsplit

end Tracks

/-- Whatever a worker sends, and whenever the parent continues: everything that takes effect up to the
first rejected frame stands where it may. -/
theorem admitted_wellFormed (session : Session) (role : ReportingRole) (pid : ℤ) (liveEvents : Bool)
    (calls : List Call) :
    WellFormed liveEvents (admitted (.initial session role pid liveEvents) calls) :=
  (Tracks.initial session role pid liveEvents).admitted calls

end Iperf3Lib.Parent
