import Iperf3Lib.Parent.Changes

/-!
# Where the frames of a run are

A run ends with its result: nothing of the run is accepted behind it, and the next run begins once the
invoking thread has taken it. `Placed` says so of the pipeline, and every step keeps it.
-/

namespace Iperf3Lib.Parent

open Py Json Ipc Results

/-! ## Accepting a frame -/

/-- An event or a result. -/
def isPayload (item : PyDict) : Bool := isEvent item || isKind "result" item

theorem isPayload_of_isEvent {item : PyDict} (h : isEvent item = true) : isPayload item = true := by
  rw [isPayload, h]
  rfl

theorem isPayload_of_result {item : PyDict} (h : isKind "result" item = true) :
    isPayload item = true := by
  rw [isPayload, h, Bool.or_true]

theorem isEvent_of_ofRun {kind : String} {run : ℕ} {item : PyDict} (hkind : kind ∈ ["event", "live_event"])
    (h : ofRun kind run item = true) : isEvent item = true := by
  have hitem := (ofRun_iff.mp h).1
  rw [isEvent, Bool.or_eq_true]
  simp only [List.mem_cons, List.not_mem_nil, or_false] at hkind
  rcases hkind with rfl | rfl
  · exact .inl hitem
  · exact .inr hitem

/-- What an accepted frame changes, by its type. -/
inductive Effect (s s' : Responses) (item : PyDict) : Prop where
  | ready (kind : isPayload item = false) (before : s.phase = .startup) (after : s'.phase = .running)
      (runs : s'.runs = s.runs) (received : s'.liveReceived = s.liveReceived)
      (failed : s'.failed = s.failed)
  | native (kind : isKind "event" item = true) (before : s.phase = .running)
      (after : s'.phase = .running) (runs : s'.runs = s.runs)
      (received : s'.liveReceived = s.liveReceived) (failed : s'.failed = s.failed)
  | live (kind : isKind "live_event" item = true) (before : s.phase = .running)
      (after : s'.phase = .running) (runs : s'.runs = s.runs)
      (received : s'.liveReceived = s.liveReceived + 1) (failed : s'.failed = s.failed)
  | result (kind : isKind "result" item = true) (before : s.phase = .running)
      (after : s'.phase = .continuation ∨ s'.phase = .ending) (runs : s'.runs = s.runs + 1)
      (received : s'.liveReceived = s.liveReceived)
      (capture : s.liveEvents = true → ∃ capture, dict? item "capture" = some capture ∧
        counter capture "live_emitted" = s.liveReceived + counter capture "live_dropped" ∧
        0 ≤ counter capture "live_dropped") (failed : s'.failed = s.failed)
  | closing (kind : isPayload item = false) (after : s'.phase = .ending ∨ s'.phase = .terminal)
      (runs : s'.runs = s.runs) (received : s'.liveReceived = s.liveReceived)
      (cause : (isKind "error" item = true ∧ s'.failed = true) ∨
        (s.phase = .ending ∧ s'.failed = s.failed))

theorem not_payload {kind : String} {item : PyDict} (h : isKind kind item = true)
    (hevent : (kind : PyStr) ≠ ("event" : String)) (hlive : (kind : PyStr) ≠ ("live_event" : String))
    (hresult : (kind : PyStr) ≠ ("result" : String)) : isPayload item = false := by
  rw [isPayload, isEvent, isKind_eq_false h hevent, isKind_eq_false h hlive, isKind_eq_false h hresult]
  rfl

/-- A counter of a capture that was let through is not negative. -/
theorem counter_nonneg {capture : PyDict} (h : validateCapture (.dict capture) = .ok ()) {key : PyStr}
    (hkey : key ∈ captureCounters) : 0 ≤ counter capture key := by
  have hshaped := (validateCapture_eq_ok.mp h).1
  simp only [receiptShaped, Bool.and_eq_true] at hshaped
  have hcounter := List.all_eq_true.mp hshaped.1.1.1.1.1.2 key hkey
  unfold isCounter at hcounter
  unfold counter
  cases hn : capture.int? key with
  | none => exact le_refl 0
  | some n =>
    rw [hn] at hcounter
    exact (of_decide_eq_true hcounter : 0 ≤ n ∧ n ≤ maxCounter).1

theorem get?_of_dict? {item capture : PyDict} {key : PyStr} (h : dict? item key = some capture) :
    item.get? key = some (.dict capture) := by
  unfold dict? at h
  split at h
  · next hget => rw [hget, Option.some.inj h]
  · cases h

/-- A frame that is accepted names the current run. -/
theorem Responses.accept_effect {s s' : Responses} {item : PyDict}
    (h : s.accept item = (.ok (), s')) :
    item.int? "run_index" = some (s.run : ℤ) ∧ s'.run = s.run ∧ s'.liveEvents = s.liveEvents ∧
      Effect s s' item := by
  unfold Responses.accept at h
  split at h
  · cases h
  split at h
  · next session _ s₁ hadmit =>
    obtain rfl := (Prod.mk.inj h).2
    obtain ⟨-, hrun, hbranch⟩ := Responses.admit_cases hadmit
    refine ⟨hrun, ?_⟩
    rcases hbranch with ⟨hkind, hok⟩ | ⟨hkind, hok⟩ | ⟨hkind, hok⟩ | ⟨hkind, hok⟩ | ⟨hkind, hok⟩ |
      ⟨hkind, hok⟩
    · obtain ⟨hphase, producer, rfl⟩ := Responses.acceptReady_ok hok
      exact ⟨rfl, rfl, .ready (not_payload hkind (by decide) (by decide) (by decide)) hphase rfl rfl rfl
        rfl⟩
    · obtain ⟨hphase, n, -, -, rfl⟩ := Responses.acceptEvent_ok hok
      exact ⟨rfl, rfl, .native hkind hphase hphase rfl rfl rfl⟩
    · obtain ⟨hphase, -, ⟨n, q, -, -, -, -, -, -, rfl⟩ | ⟨-, -, -, rfl⟩⟩ := Responses.acceptLive_ok hok
      · exact ⟨rfl, rfl, .live hkind hphase hphase rfl rfl rfl⟩
      · exact ⟨rfl, rfl, .live hkind hphase hphase rfl rfl rfl⟩
    · obtain ⟨hresult, hcapture, rfl⟩ := Responses.acceptResult_ok hok
      refine ⟨rfl, rfl, .result hkind (Responses.isResult_spec hresult).1 ?_ rfl rfl (fun hlive => ?_) rfl⟩
      · change Responses.settledPhase s.role = _ ∨ Responses.settledPhase s.role = _
        cases s.role
        · exact .inr rfl
        · exact .inl rfl
      · obtain ⟨capture, hdict, hagrees⟩ := hcapture (.inr hlive)
        have hvalid := validateCapture_of_acceptResult hok (get?_of_dict? hdict)
        simp only [Responses.agrees, Bool.and_eq_true, decide_eq_true_eq] at hagrees
        exact ⟨capture, hdict, hagrees.1.1.1, counter_nonneg hvalid (by decide)⟩
    · obtain ⟨-, rfl⟩ := Responses.acceptError_ok hok
      exact ⟨rfl, rfl, .closing (not_payload hkind (by decide) (by decide) (by decide)) (.inl rfl) rfl rfl
        (.inl ⟨hkind, rfl⟩)⟩
    · obtain ⟨hphase, -, -, rfl⟩ := Responses.acceptTerminal_ok hok
      exact ⟨rfl, rfl, .closing (not_payload hkind (by decide) (by decide) (by decide)) (.inr rfl) rfl rfl
        (.inr ⟨hphase, rfl⟩)⟩
  · cases h

/-- What a continuation changes. -/
theorem Responses.continueRun_effect {s s' : Responses} {keepRunning : Bool} {completed : ℕ}
    (h : s.continueRun keepRunning = .ok (completed, s')) :
    s.phase = .continuation ∧ s'.runs = s.runs ∧ s'.liveEvents = s.liveEvents ∧
      s'.failed = s.failed ∧ ((keepRunning = true ∧ s'.run = s.run + 1 ∧ s'.phase = .running ∧ s'.liveReceived = 0) ∨
        (keepRunning = false ∧ s'.run = s.run ∧ s'.phase = .ending ∧
          s'.liveReceived = s.liveReceived)) := by
  unfold Responses.continueRun at h
  split at h
  · cases h
  next hphase =>
  refine ⟨not_not.mp hphase, ?_⟩
  split at h
  · next hkeep =>
    obtain rfl := (Prod.mk.inj (Except.ok.inj h)).2
    exact ⟨rfl, rfl, rfl, .inl ⟨hkeep, rfl, rfl, rfl⟩⟩
  · next hkeep =>
    obtain rfl := (Prod.mk.inj (Except.ok.inj h)).2
    exact ⟨rfl, rfl, rfl, .inr ⟨Bool.not_eq_true _ ▸ hkeep, rfl, rfl, rfl⟩⟩

/-! ## The invariant -/

/-- The second frame is no event of the run that the first one ends. -/
def InOrder (a b : PyDict) : Prop :=
  ∀ run, ofRun "result" run a = true → ofRun "event" run b = false ∧ ofRun "live_event" run b = false

/-- The results of the runs so far, where the frames of the current run are, and that the next run is
decided on behind the result. -/
structure Placed (x : Exchange) : Prop where
  runs_le : x.responses.runs ≤ x.responses.run
  run_le : x.responses.run ≤ x.responses.runs + 1
  /-- The result of the current run is still to come. -/
  pending : x.responses.phase = .startup ∨ x.responses.phase = .running →
    x.responses.runs < x.responses.run
  settled : x.responses.phase = .continuation → x.responses.run ≤ x.responses.runs
  once : ∀ run, countOfRun "result" run x.pipeline ≤ if run ≤ x.responses.runs then 1 else 0
  ordered : x.pipeline.Pairwise InOrder
  current : ∀ item ∈ x.inbox.queued ++ x.reader.held, isPayload item = true →
    item.int? "run_index" = some (x.responses.run : ℤ)
  /-- An event is held during the run only, and in front of a continuation a result only. -/
  held : ∀ item ∈ x.reader.held, (isEvent item = true → x.responses.phase = .running) ∧
    (x.responses.phase = .continuation → isKind "result" item = true)
  decided : ∀ completed, x.serving = .deciding completed →
    0 < countOfRun "result" x.responses.run x.results

namespace Placed

open Exchange

variable {c : Invocation} {x y : Exchange}

/-- A result that was read was taken. -/
theorem taken_of_results {run : ℕ} (h : 0 < countOfRun "result" run x.results) :
    0 < countOfRun "result" run x.taken := h.trans_le x.results_sublist.countP_le

/-- The result of a run that is still to come is nowhere. -/
theorem none_pending (h : Placed x) (hpending : x.responses.runs < x.responses.run) :
    countOfRun "result" x.responses.run x.pipeline = 0 := by
  have := h.once x.responses.run
  rw [if_neg (by omega)] at this
  exact Nat.le_zero.mp this

/-- Behind a result that was taken there are no events of its run. -/
theorem none_behind (h : Placed x) {run : ℕ} (htaken : 0 < countOfRun "result" run x.taken) :
    ∀ item ∈ x.inbox.queued ++ x.reader.held,
      ofRun "event" run item = false ∧ ofRun "live_event" run item = false := by
  intro item hitem
  obtain ⟨result, hresult, hrun⟩ := countOfRun_pos.mp htaken
  have hordered := h.ordered
  rw [pipeline, List.append_assoc] at hordered
  exact (List.pairwise_append.mp hordered).2.2 result hresult item hitem run hrun

/-- The result of a run is taken at most once, and then it is nowhere else. -/
theorem once_taken (h : Placed x) {run : ℕ} (htaken : 0 < countOfRun "result" run x.taken) :
    countOfRun "result" run x.inbox.queued = 0 ∧ countOfRun "result" run x.reader.held = 0 ∧
      countOfRun "result" run x.taken = 1 ∧ run ≤ x.responses.runs := by
  have hle := h.once run
  rw [pipeline, countOfRun_append, countOfRun_append] at hle
  split at hle
  · exact ⟨by omega, by omega, by omega, by assumption⟩
  · omega

/-- In front of the next run nothing of the current one is left. -/
theorem clear (h : Placed x) (hphase : x.responses.phase = .continuation)
    (hdecided : 0 < countOfRun "result" x.responses.run x.results) :
    x.reader.held = [] ∧ ∀ item ∈ x.inbox.queued, isPayload item = false := by
  obtain ⟨hqueued, hheld, -⟩ := h.once_taken (taken_of_results hdecided)
  constructor
  · -- what is held would be a second result of the run
    rw [List.eq_nil_iff_forall_not_mem]
    intro item hitem
    have hresult := (h.held item hitem).2 hphase
    have hrun := h.current item (List.mem_append_right _ hitem) (isPayload_of_result hresult)
    have := countOfRun_eq_zero.mp hheld item hitem
    rw [ofRun_iff.mpr ⟨hresult, hrun⟩] at this
    cases this
  · intro item hitem
    by_contra hpayload
    rw [Bool.not_eq_false] at hpayload
    have hrun := h.current item (List.mem_append_left _ hitem) hpayload
    obtain ⟨hevent, hlive⟩ := h.none_behind (taken_of_results hdecided) item (List.mem_append_left _ hitem)
    have hresult := countOfRun_eq_zero.mp hqueued item hitem
    rw [isPayload, isEvent, Bool.or_eq_true, Bool.or_eq_true] at hpayload
    rcases hpayload with (hkind | hkind) | hkind
    · rw [ofRun_iff.mpr ⟨hkind, hrun⟩] at hevent
      cases hevent
    · rw [ofRun_iff.mpr ⟨hkind, hrun⟩] at hlive
      cases hlive
    · rw [ofRun_iff.mpr ⟨hkind, hrun⟩] at hresult
      cases hresult

/-! ## One step after the other -/

/-- A frame may disappear from the hands of the reading thread, and the invoking thread may leave. -/
theorem less (h : Placed x) (hresponses : y.responses.run = x.responses.run ∧
      y.responses.runs = x.responses.runs ∧ y.responses.phase = x.responses.phase)
    (htaken : y.taken = x.taken) (hresults : y.results = x.results)
    (hqueued : y.inbox.queued.Sublist x.inbox.queued)
    (hheld : y.reader.held = x.reader.held ∨ y.reader.held = [])
    (hserving : y.serving = x.serving ∨ ∀ completed, y.serving ≠ .deciding completed) : Placed y := by
  obtain ⟨hrun, hruns, hphase⟩ := hresponses
  have hheld' : y.reader.held.Sublist x.reader.held := by
    rcases hheld with hheld | hheld
    · rw [hheld]
    · rw [hheld]
      exact List.nil_sublist _
  have hsublist : y.pipeline.Sublist x.pipeline := by
    rw [pipeline, pipeline, htaken]
    exact ((List.Sublist.refl _).append hqueued).append hheld'
  exact {
    runs_le := by
      rw [hrun, hruns]
      exact h.runs_le
    run_le := by
      rw [hrun, hruns]
      exact h.run_le
    pending := by
      rw [hrun, hruns, hphase]
      exact h.pending
    settled := by
      rw [hrun, hruns, hphase]
      exact h.settled
    once := fun run => by
      rw [hruns]
      exact (hsublist.countP_le).trans (h.once run)
    ordered := h.ordered.sublist hsublist
    current := fun item hitem => by
      rw [hrun]
      exact h.current item ((hqueued.append hheld').subset hitem)
    held := fun item hitem => by
      rw [hphase]
      exact h.held item (hheld'.subset hitem)
    decided := fun completed hdeciding => by
      rw [hrun, hresults]
      rcases hserving with hserving | hserving
      · exact h.decided completed (hserving ▸ hdeciding)
      · exact absurd hdeciding (hserving completed) }

/-- A frame that is accepted is in the hands of the reading thread. -/
theorem accepted (h : Placed x) {item : PyDict} (hheld : x.reader.held = [])
    (hrun : item.int? "run_index" = some (x.responses.run : ℤ))
    (hsame : y.responses.run = x.responses.run) (heffect : Effect x.responses y.responses item)
    (htaken : y.taken = x.taken) (hresults : y.results = x.results) (hinbox : y.inbox = x.inbox)
    (hitem : y.reader.held = [item])
    (hserving : y.serving = x.serving) : Placed y := by
  have hpipeline : y.pipeline = x.pipeline ++ [item] := by
    rw [pipeline, pipeline, htaken, hinbox, hheld, hitem, List.append_nil]
  have hother : ∀ {kind : String} {run : ℕ}, ofRun kind run item = true → run = x.responses.run := by
    intro kind run hof
    have := (ofRun_iff.mp hof).2.symm.trans hrun
    exact Int.ofNat.inj (Option.some.inj this)
  have hruns := h.runs_le
  have hnext := h.run_le
  have hpending := h.pending
  -- the run goes on when an event or its result is accepted
  have hopen : isPayload item = true → x.responses.phase = .running := by
    intro hpayload
    cases heffect with
    | ready kind => rw [hpayload] at kind; cases kind
    | native _ before => exact before
    | live _ before => exact before
    | result _ before => exact before
    | closing kind => rw [hpayload] at kind; cases kind
  exact {
    runs_le := by
      rw [hsame]
      cases heffect with
      | ready _ _ _ runs => rw [runs]; exact hruns
      | native _ _ _ runs => rw [runs]; exact hruns
      | live _ _ _ runs => rw [runs]; exact hruns
      | result _ before _ runs =>
        rw [runs]
        exact hpending (.inr before)
      | closing _ _ runs => rw [runs]; exact hruns
    run_le := by
      rw [hsame]
      cases heffect with
      | ready _ _ _ runs => rw [runs]; exact hnext
      | native _ _ _ runs => rw [runs]; exact hnext
      | live _ _ _ runs => rw [runs]; exact hnext
      | result _ _ _ runs =>
        rw [runs]
        exact hnext.trans (Nat.le_succ _)
      | closing _ _ runs => rw [runs]; exact hnext
    pending := fun hphase => by
      rw [hsame]
      cases heffect with
      | ready _ before _ runs => rw [runs]; exact hpending (.inl before)
      | native _ before _ runs => rw [runs]; exact hpending (.inr before)
      | live _ before _ runs => rw [runs]; exact hpending (.inr before)
      | result _ _ after =>
        rcases after with hafter | hafter <;> rw [hafter] at hphase <;> simp at hphase
      | closing _ after =>
        rcases after with hafter | hafter <;> rw [hafter] at hphase <;> simp at hphase
    settled := fun hphase => by
      rw [hsame]
      cases heffect with
      | ready _ _ after => rw [after] at hphase; cases hphase
      | native _ _ after => rw [after] at hphase; cases hphase
      | live _ _ after => rw [after] at hphase; cases hphase
      | result _ _ _ runs =>
        rw [runs]
        exact hnext
      | closing _ after => rcases after with hafter | hafter <;> rw [hafter] at hphase <;> cases hphase
    once := fun run => by
      rw [hpipeline, countOfRun_append, countOfRun_singleton]
      have hle := h.once run
      cases heffect with
      | result kind before _ runs =>
        rw [runs]
        have hlt := hpending (.inr before)
        by_cases hof : ofRun "result" run item = true
        · obtain rfl := hother hof
          rw [h.none_pending hlt, if_pos hof, if_pos (by omega)]
        · rw [if_neg hof]
          split at hle <;> split <;> omega
      | ready kind _ _ runs | closing kind _ runs =>
        rw [runs, if_neg]
        · exact hle
        · intro hof
          rw [isPayload_of_result (ofRun_iff.mp hof).1] at kind
          cases kind
      | native kind _ _ runs | live kind _ _ runs =>
        rw [runs, if_neg]
        · exact hle
        · intro hof
          have hevent : isEvent item = true := by rw [isEvent, kind]; simp
          rw [not_event_of_result (ofRun_iff.mp hof).1] at hevent
          cases hevent
    ordered := by
      rw [hpipeline]
      refine List.pairwise_append.mpr ⟨h.ordered, List.pairwise_singleton _ _, fun a ha b hb => ?_⟩
      rw [List.mem_singleton.mp hb]
      intro run hresult
      -- an event is accepted while the result of its run is nowhere
      have hnone : ∀ kind ∈ ["event", "live_event"], ofRun kind run item = false := by
        intro kind hkind
        by_contra hof
        rw [Bool.not_eq_false] at hof
        obtain rfl := hother hof
        have hphase := hopen (isPayload_of_isEvent (isEvent_of_ofRun hkind hof))
        have := countOfRun_eq_zero.mp (h.none_pending (hpending (.inr hphase))) a ha
        rw [hresult] at this
        cases this
      exact ⟨hnone _ (by simp), hnone _ (by simp)⟩
    current := fun frame hframe hpayload => by
      rw [hsame]
      rw [hinbox, hitem] at hframe
      rcases List.mem_append.mp hframe with hframe | hframe
      · exact h.current frame (List.mem_append_left _ hframe) hpayload
      · rw [List.mem_singleton.mp hframe]
        exact hrun
    held := fun frame hframe => by
      rw [hitem] at hframe
      rw [List.mem_singleton.mp hframe]
      cases heffect with
      | ready kind _ after =>
        refine ⟨fun _ => after, fun hphase => ?_⟩
        rw [after] at hphase
        cases hphase
      | native _ _ after =>
        refine ⟨fun _ => after, fun hphase => ?_⟩
        rw [after] at hphase
        cases hphase
      | live _ _ after =>
        refine ⟨fun _ => after, fun hphase => ?_⟩
        rw [after] at hphase
        cases hphase
      | result kind =>
        refine ⟨fun hevent => ?_, fun _ => kind⟩
        rw [not_event_of_result kind] at hevent
        cases hevent
      | closing kind after =>
        refine ⟨fun hevent => ?_, fun hphase => ?_⟩
        · rw [isPayload_of_isEvent hevent] at kind
          cases kind
        · rcases after with hafter | hafter <;> rw [hafter] at hphase <;> cases hphase
    decided := fun completed hdeciding => by
      rw [hsame, hresults]
      exact h.decided completed (hserving ▸ hdeciding) }

/-- A frame that is put moves from the hands of the reading thread into the inbox. -/
theorem moved (h : Placed x) {item queued : PyDict} (hheld : x.reader.held = [item])
    (hsame : ∀ kind run, ofRun kind run queued = ofRun kind run item)
    (hpayload : isPayload queued = isPayload item)
    (hrun : queued.int? "run_index" = item.int? "run_index") (hresponses : y.responses = x.responses)
    (htaken : y.taken = x.taken) (hresults : y.results = x.results)
    (hqueued : y.inbox.queued = x.inbox.queued ++ [queued])
    (hempty : y.reader.held = []) (hserving : y.serving = x.serving) : Placed y := by
  have hx : x.pipeline = (x.taken ++ x.inbox.queued) ++ [item] := by rw [pipeline, hheld]
  have hy : y.pipeline = (x.taken ++ x.inbox.queued) ++ [queued] := by
    rw [pipeline, hempty, htaken, hqueued, List.append_nil, List.append_assoc]
  have hordered := h.ordered
  rw [hx, List.pairwise_append] at hordered
  exact {
    runs_le := hresponses ▸ h.runs_le
    run_le := hresponses ▸ h.run_le
    pending := hresponses ▸ h.pending
    settled := hresponses ▸ h.settled
    once := fun run => by
      have hle := h.once run
      rw [hx, countOfRun_append, countOfRun_singleton] at hle
      rw [hy, countOfRun_append, countOfRun_singleton, hresponses, hsame]
      exact hle
    ordered := by
      rw [hy]
      refine List.pairwise_append.mpr ⟨hordered.1, List.pairwise_singleton _ _, fun a ha b hb => ?_⟩
      rw [List.mem_singleton.mp hb]
      intro run hresult
      rw [hsame, hsame]
      exact hordered.2.2 a ha item (List.mem_singleton_self _) run hresult
    current := fun frame hframe hpayload' => by
      rw [hqueued, hempty, List.append_nil] at hframe
      rw [hresponses]
      rcases List.mem_append.mp hframe with hframe | hframe
      · exact h.current frame (List.mem_append_left _ hframe) hpayload'
      · rw [List.mem_singleton.mp hframe] at hpayload' ⊢
        rw [hrun]
        refine h.current item (List.mem_append_right _ ?_) (hpayload ▸ hpayload')
        rw [hheld]
        exact List.mem_singleton_self _
    held := fun frame hframe => by
      rw [hempty] at hframe
      cases hframe
    decided := fun completed hdeciding => by
      rw [hresponses, hresults]
      exact h.decided completed (hserving ▸ hdeciding) }

/-- A frame that is taken was the oldest in the inbox. -/
theorem took (h : Placed x) {item : PyDict} {rest : List PyDict}
    (hx : x.inbox.queued = item :: rest) (hresponses : y.responses = x.responses)
    (htaken : y.taken = x.taken ++ [item]) (hqueued : y.inbox.queued = rest)
    (hreader : y.reader = x.reader) (more : List PyDict) (hresults : y.results = x.results ++ more)
    (hserving : y.serving = x.serving ∨ (∀ completed, y.serving ≠ .deciding completed) ∨
      (isKind "result" item = true ∧ more = [item])) : Placed y := by
  have hpipeline : y.pipeline = x.pipeline := by
    rw [pipeline, pipeline, htaken, hqueued, hreader, hx]
    simp
  exact {
    runs_le := hresponses ▸ h.runs_le
    run_le := hresponses ▸ h.run_le
    pending := hresponses ▸ h.pending
    settled := hresponses ▸ h.settled
    once := fun run => by
      rw [hpipeline, hresponses]
      exact h.once run
    ordered := by
      rw [hpipeline]
      exact h.ordered
    current := fun frame hframe => by
      rw [hresponses]
      refine h.current frame ?_
      rw [hqueued, hreader] at hframe
      rw [hx]
      exact List.mem_cons_of_mem _ hframe
    held := by
      rw [hreader, hresponses]
      exact h.held
    decided := fun completed hdeciding => by
      rw [hresponses, hresults, countOfRun_append]
      rcases hserving with hserving | hserving | ⟨hresult, rfl⟩
      · exact Nat.add_pos_left (h.decided completed (hserving ▸ hdeciding)) _
      · exact absurd hdeciding (hserving completed)
      · have hitem : item ∈ x.inbox.queued := hx ▸ List.mem_cons_self
        have hrun := h.current item (List.mem_append_left _ hitem) (isPayload_of_result hresult)
        rw [countOfRun_singleton, if_pos (ofRun_iff.mpr ⟨hresult, hrun⟩)]
        exact Nat.succ_pos _ }

/-- The next run begins where nothing of the last one is left. -/
theorem continued (h : Placed x) {keepRunning completed : Bool} {run : ℕ}
    (hserving : x.serving = .deciding completed)
    (hcontinue : x.responses.continueRun keepRunning = .ok (run, y.responses))
    (hlog : y.log = x.log) (hinbox : y.inbox = x.inbox) (hreader : y.reader = x.reader)
    (hpolling : y.serving = .polling) : Placed y := by
  obtain ⟨hphase, hruns, -, -, heffect⟩ := Responses.continueRun_effect hcontinue
  obtain ⟨hheld, hqueued⟩ := h.clear hphase (h.decided completed hserving)
  have htaken : y.taken = x.taken := by rw [taken, taken, hlog]
  have hpipeline : y.pipeline = x.pipeline := by rw [pipeline, pipeline, htaken, hinbox, hreader]
  have hsettled := h.settled hphase
  have hle := h.runs_le
  exact {
    runs_le := by
      rcases heffect with ⟨-, hrun, -⟩ | ⟨-, hrun, -⟩ <;> omega
    run_le := by
      rcases heffect with ⟨-, hrun, -⟩ | ⟨-, hrun, -⟩ <;> omega
    pending := fun hphase' => by
      rcases heffect with ⟨-, hrun, -⟩ | ⟨-, hrun, hending, -⟩
      · omega
      · rw [hending] at hphase'
        simp at hphase'
    settled := fun hphase' => by
      rcases heffect with ⟨-, -, hrunning, -⟩ | ⟨-, -, hending, -⟩
      · rw [hrunning] at hphase'
        cases hphase'
      · rw [hending] at hphase'
        cases hphase'
    once := fun run => by
      rw [hpipeline, hruns]
      exact h.once run
    ordered := by
      rw [hpipeline]
      exact h.ordered
    current := fun frame hframe hpayload => by
      rw [hinbox, hreader, hheld, List.append_nil] at hframe
      rw [hqueued frame hframe] at hpayload
      cases hpayload
    held := fun frame hframe => by
      rw [hreader, hheld] at hframe
      cases hframe
    decided := fun _ hdeciding => by
      rw [hpolling] at hdeciding
      cases hdeciding }

end Placed

/-- The invariant of the places is kept. -/
theorem Placed.change {c : Invocation} {x y : Exchange} (h : Placed x) (hchange : Exchange.Change c x y) :
    Placed y := by
  have hlog : ∀ f : Note → Option PyDict, (∀ item, f (.accepted item) = none) →
      (∀ item, f (.lost item) = none) → ∀ item,
        (x.log ++ [Note.accepted item]).filterMap f = x.log.filterMap f ∧
          (x.log ++ [Note.lost item]).filterMap f = x.log.filterMap f := by
    intro f haccepted hlost item
    simp [haccepted, hlost]
  cases hchange with
  | quiet responses queued _ held serving log =>
    obtain ⟨session, hresponses⟩ := responses
    exact h.less (by rw [hresponses]; exact ⟨rfl, rfl, rfl⟩)
      (Exchange.select_same log) (Exchange.select_same log)
      (queued ▸ List.Sublist.refl _) (held.imp_right And.left) serving
  | accepted item held accept inbox holding serving log =>
    obtain ⟨hrun, hsame, -, heffect⟩ := Responses.accept_effect accept
    refine h.accepted held hrun hsame heffect ?_ ?_ inbox holding serving
    · rw [Exchange.taken, log]
      exact (hlog _ (fun _ => rfl) (fun _ => rfl) item).1
    · rw [Exchange.results, log]
      exact (hlog _ (fun _ => rfl) (fun _ => rfl) item).1
  | lost item held event responses inbox empty serving log =>
    refine h.less (by rw [responses]; exact ⟨rfl, rfl, rfl⟩) ?_ ?_ ?_ (.inr empty) (.inl serving)
    · rw [Exchange.taken, log]
      exact (hlog _ (fun _ => rfl) (fun _ => rfl) item).2
    · rw [Exchange.results, log]
      exact (hlog _ (fun _ => rfl) (fun _ => rfl) item).2
    · rw [inbox, queued_drop]
  | queued item held _ responses queued _ empty serving log =>
    exact h.moved held (fun _ _ => rfl) rfl rfl responses (Exchange.select_same log)
      (Exchange.select_same log) queued empty serving
  | stamped item held _ responses queued _ empty serving log =>
    refine h.moved held (fun kind run => ofRun_stampDropped kind run item _ _) ?_ ?_ responses
      (Exchange.select_same log) (Exchange.select_same log)
      queued empty serving
    · rw [isPayload, Inbox.isEvent_stampDropped, Inbox.isKind_stampDropped, isPayload]
    · rw [PyDict.int?, PyDict.int?, Inbox.get?_stampDropped _ _ (PyStr.ofString_injective.ne (by decide))
        (PyStr.ofString_injective.ne (by decide))]
  | taken item rest polling queued inbox behind _ handled =>
    have hshared := handled.shared
    obtain ⟨notes, hnotes, -, -, hitem⟩ := handled.notes
    refine h.took queued hshared.responses ?_ (by rw [hshared.inbox]; exact behind) hshared.reader
      (notes.filterMap Note.resultItem) ?_ ?_
    · rw [Exchange.taken, hnotes, List.filterMap_append, hitem]
      rfl
    · rw [Exchange.results, hnotes, List.filterMap_append]
      rfl
    · cases handled with
      | control _ _ beside => exact .inl beside.serving
      | native _ beside => exact .inl beside.serving
      | live _ beside => exact .inl beside.serving
      | ignored _ beside => exact .inl beside.serving
      | unprojected _ _ _ serving => exact .inl serving
      | result kind _ result _ _ events log =>
        refine .inr (.inr ⟨kind, ?_⟩)
        rw [List.append_cancel_left (hnotes.symm.trans log)]
        simp [Note.resultItem, List.filterMap_map, Function.comp_def]
      | unreadable _ _ serving =>
        refine .inr (.inl ?_)
        rw [serving]
        simp
  | continued completed keepRunning run deciding _ continueRun inbox reader polling log =>
    exact h.continued deciding continueRun log inbox reader polling

end Iperf3Lib.Parent
