import Iperf3Lib.Parent.Reported

/-!
# Conservation of events

The invariants of the exchange need each other, so that they are kept together: `Accounted` holds in
every interleaving of the threads. `exchange_accounts` reads off it that the events of a run add up:
those that the worker emitted are those that it dropped, that the inbox had no room for, that the
projector refused and that the application got.
-/

namespace Iperf3Lib.Parent

open Py Json Ipc Results Exchange

variable {c : Invocation} {x y : Exchange}

/-! ## The inbox -/

theorem balanced_accept {item : PyDict} {size : ℕ} (h : x.inbox.Balanced) :
    (x.accept item size).inbox.Balanced := by
  unfold Exchange.accept
  split <;> exact h

theorem balanced_put {item : PyDict} {size : ℕ} (h : x.inbox.Balanced) :
    (x.put item size).inbox.Balanced := by
  unfold Exchange.put
  split
  · next inbox hput => exact h.put hput
  · exact h

theorem balanced_finish (h : x.inbox.Balanced) : x.finish.inbox.Balanced := by
  unfold Exchange.finish
  split
  · exact h.finish _
  · exact h.finish _
  · split
    · exact h.finish _
    · exact h
  · exact h

/-- Whatever is polled, the inbox is the one behind `get`. -/
theorem inbox_poll (c : Invocation) (x : Exchange) (returncode : ℤ) :
    (x.poll c returncode).inbox = x.inbox.get.2 := by
  unfold poll
  split
  · next message inbox hget =>
    rw [hget]
    exact (handled c { x with inbox := inbox } message).shared.inbox
  · next hget => rw [hget]
  · next hget =>
    rw [hget]
    unfold handleEof
    split <;> rfl
  · next hget => rw [hget]

theorem balanced_get (h : x.inbox.Balanced) : x.inbox.get.2.Balanced := by
  unfold Inbox.get
  split
  · exact h
  split
  · next hitems => exact h.pop hitems
  · split <;> exact h

theorem balanced_continueRun {completed stop : Bool} (h : x.inbox.Balanced) :
    (x.continueRun c completed stop).inbox.Balanced := by
  unfold Exchange.continueRun
  split <;> exact h

/-- Every step keeps the counters of the inbox. -/
theorem balanced_step (h : x.inbox.Balanced) (action : Action) : (step c x action).inbox.Balanced := by
  cases action with
  | accept item size =>
    unfold step
    dsimp only
    split
    · exact balanced_accept h
    · exact h
  | put =>
    unfold step
    dsimp only
    split
    · exact balanced_put h
    · exact h
  | fail failure =>
    unfold step
    dsimp only
    split <;> exact h
  | finish => exact balanced_finish h
  | poll returncode =>
    unfold step
    dsimp only
    split
    · rw [inbox_poll]
      exact balanced_get h
    · exact h
  | decide stop =>
    unfold step
    dsimp only
    split
    · exact balanced_continueRun h
    · exact h
  | leave =>
    unfold step
    dsimp only
    split <;> exact h

/-! ## All invariants -/

/-- The invariants of the exchange. -/
structure Accounted (c : Invocation) (x : Exchange) : Prop where
  balanced : x.inbox.Balanced
  placed : Placed x
  flowing : Flowing c x
  noted : Noted c x
  attributed : Attributed c x
  reported : Reported c x

/-- In front of the first frame there is nothing but the state of the worker. -/
theorem initial_spec (c : Invocation) (session : Session) (pid : ℤ) :
    let x := initial c session pid
    x.responses = .initial session c.role pid c.onLiveEvent ∧ x.inbox = {} ∧ x.reader.held = [] ∧
      (∀ completed, x.serving ≠ .deciding completed) ∧ x.projectionDropped = 0 ∧
      ∃ states : List LiveEvent, x.log = states.map .state := by
  set x : Exchange := ({
    responses := .initial session c.role pid c.onLiveEvent
    projector := { role := c.role } } : Exchange) with hx
  have hbeside := beside_deliverLive c x.advance (.state (x.stateEvent c .starting))
  have hlog : ∃ states : List LiveEvent, (x.deliverState c .starting).log = states.map .state := by
    rcases log_deliverLive c x.advance (.state (x.stateEvent c .starting)) with hlog | ⟨hlog, -⟩
    · exact ⟨[x.stateEvent c .starting], hlog⟩
    · exact ⟨[], hlog⟩
  have hheld : (x.deliverState c .starting).reader.held = [] := by
    rw [deliverState, hbeside.reader]
    rfl
  have hserving : ∀ completed, (x.deliverState c .starting).serving ≠ .deciding completed := by
    intro completed
    rw [deliverState, hbeside.serving]
    simp [advance, hx]
  dsimp only
  unfold initial
  dsimp only
  rw [← hx]
  split
  · exact ⟨hbeside.responses, hbeside.inbox, rfl, by simp, hbeside.projectionDropped, hlog⟩
  · exact ⟨hbeside.responses, hbeside.inbox, hheld, hserving, hbeside.projectionDropped, hlog⟩

/-- States tell nothing of frames and results. -/
theorem select_initial {α : Type} (c : Invocation) (session : Session) (pid : ℤ) {f : Note → Option α}
    (hf : ∀ event, f (.state event) = none) : (initial c session pid).log.filterMap f = [] := by
  obtain ⟨-, -, -, -, -, states, hlog⟩ := initial_spec c session pid
  rw [hlog, List.filterMap_map]
  exact List.filterMap_eq_nil_iff.mpr fun event _ => hf event

namespace Accounted

theorem initial (c : Invocation) (session : Session) (pid : ℤ) :
    Accounted c (Exchange.initial c session pid) := by
  obtain ⟨hresponses, hinbox, hheld, hserving, hdropped, states, hlog⟩ := initial_spec c session pid
  have htaken : (Exchange.initial c session pid).taken = [] := select_initial c session pid fun _ => rfl
  have haccepted : (Exchange.initial c session pid).accepted = [] :=
    select_initial c session pid fun _ => rfl
  have hlost : (Exchange.initial c session pid).lost = [] := select_initial c session pid fun _ => rfl
  have hunprojected : (Exchange.initial c session pid).unprojected = [] :=
    select_initial c session pid fun _ => rfl
  have hignored : (Exchange.initial c session pid).ignored = [] :=
    select_initial c session pid fun _ => rfl
  have hgap : (Exchange.initial c session pid).log.filterMap Note.gapEvent = [] :=
    select_initial c session pid fun _ => rfl
  set x := Exchange.initial c session pid
  have hqueued : x.inbox.queued = [] := by
    rw [hinbox]
    rfl
  have hpipeline : x.pipeline = [] := by rw [Exchange.pipeline, htaken, hqueued, hheld]; rfl
  have hgaps : ∀ run, x.gaps run = [] := fun run => by rw [Exchange.gaps, hgap]; rfl
  have hstates : ∀ note ∈ x.log, ∃ event, note = .state event := by
    intro note hnote
    rw [hlog] at hnote
    obtain ⟨event, -, rfl⟩ := List.mem_map.mp hnote
    exact ⟨event, rfl⟩
  exact {
    balanced := hinbox ▸ .empty
    placed := {
      runs_le := by rw [hresponses]; exact Nat.zero_le 1
      run_le := by rw [hresponses]; exact le_refl 1
      pending := fun _ => by rw [hresponses]; exact Nat.zero_lt_one
      settled := fun hphase => by rw [hresponses] at hphase; cases hphase
      once := fun run => by rw [hpipeline]; exact Nat.zero_le _
      ordered := hpipeline ▸ List.Pairwise.nil
      current := by simp [hqueued, hheld]
      held := by simp [hheld]
      decided := fun completed hdeciding => absurd hdeciding (hserving completed) }
    flowing := {
      wanted := by rw [hresponses]; rfl
      future := fun _ _ _ => by rw [haccepted]; rfl
      received := by rw [haccepted, hresponses]; rfl
      kept := fun _ _ _ => by rw [haccepted, hlost, Exchange.events, hpipeline]; rfl
      inOrder := by rw [Exchange.events, hpipeline]; exact List.nil_sublist _ }
    noted := {
      typed := fun note hnote => by
        obtain ⟨event, rfl⟩ := hstates note hnote
        trivial
      heard := fun _ => by simp [hignored] }
    attributed := {
      drops := fun kind _ => by
        rw [hinbox, hlost, countOfRun_nil, ite_self, Inbox.dropsOf]
        exact ite_self 0
      projection := fun _ => by rw [hdropped, hunprojected, countOfRun_nil, ite_self] }
    reported := {
      emitted := fun _ => by simp [hpipeline]
      stamped := by simp [htaken, hqueued]
      silent := fun run _ => hgaps run
      told := fun _ item result hmem => by
        obtain ⟨event, hevent⟩ := hstates _ hmem
        cases hevent } }

/-- Every step keeps the invariants. -/
theorem step (h : Accounted c x) (action : Action) : Accounted c (Exchange.step c x action) := by
  have hchange := change_step c x action
  exact {
    balanced := balanced_step h.balanced action
    placed := h.placed.change hchange
    flowing := h.flowing.change hchange
    noted := h.noted.change hchange
    attributed := h.attributed.change h.placed h.flowing hchange
    reported := h.reported.change h.placed h.flowing h.attributed hchange }

/-- Every interleaving keeps them. -/
theorem run (h : Accounted c x) (actions : List Action) : Accounted c (Exchange.run c x actions) := by
  induction actions generalizing x with
  | nil => exact h
  | cons action actions ih => exact ih (h.step action)

/-- Nothing of a run is on its way any more once its result was read. -/
theorem settled (h : Accounted c x) {run : ℕ} (hread : 0 < countOfRun "result" run x.results)
    (kind : String) (hkind : kind ∈ ["event", "live_event"]) :
    countOfRun kind run x.accepted = countOfRun kind run x.lost + countOfRun kind run x.taken := by
  have hnone : countOfRun kind run (x.inbox.queued ++ x.reader.held) = 0 := by
    refine countOfRun_eq_zero.mpr fun item hitem => ?_
    obtain ⟨hevent, hlive⟩ := h.placed.none_behind (Placed.taken_of_results hread) item hitem
    simp only [List.mem_cons, List.not_mem_nil, or_false] at hkind
    rcases hkind with rfl | rfl
    · exact hevent
    · exact hlive
  rw [h.flowing.kept kind hkind, Exchange.events, countOfRun_filter hkind, Exchange.pipeline,
    List.append_assoc, countOfRun_append _ _ x.taken, hnone, Nat.add_zero]

/-- The events that a callback wants were handed on or not projected, unless a callback has raised. -/
theorem handed (h : Accounted c x) (hok : x.callbackError = false) (run : ℕ) :
    (c.onLiveEvent = true → countOfRun "live_event" run x.taken =
      countOfRun "live_event" run x.handedLive + countOfRun "live_event" run x.unprojected) ∧
    (c.onEvent = true →
      countOfRun "event" run x.taken = countOfRun "event" run x.handedNative) := by
  have hheard := h.noted.heard hok
  constructor
  · intro hlive
    have htaken := Noted.taken_eq "live_event" (by simp) run h.noted.typed
    have hnative : countOfRun "live_event" run x.handedNative = 0 :=
      Noted.none_of_kind (by decide) h.noted.kind_handedNative run
    have hignored : countOfRun "live_event" run x.ignored = 0 :=
      countOfRun_eq_zero.mpr fun item hitem => by
        by_contra hof
        have := (hheard item hitem).2 (ofRun_iff.mp (Bool.not_eq_false _ ▸ hof)).1
        rw [hlive] at this
        cases this
    change countOfRun "live_event" run x.taken = countOfRun "live_event" run x.handedLive +
      countOfRun "live_event" run x.handedNative + countOfRun "live_event" run x.unprojected +
        countOfRun "live_event" run x.ignored at htaken
    omega
  · intro hevent
    have htaken := Noted.taken_eq "event" (by simp) run h.noted.typed
    have hlive : countOfRun "event" run x.handedLive = 0 :=
      Noted.none_of_kind (by decide) h.noted.kind_handedLive run
    have hunprojected : countOfRun "event" run x.unprojected = 0 :=
      Noted.none_of_kind (by decide) h.noted.kind_unprojected run
    have hignored : countOfRun "event" run x.ignored = 0 :=
      countOfRun_eq_zero.mpr fun item hitem => by
        by_contra hof
        have := (hheard item hitem).1 (ofRun_iff.mp (Bool.not_eq_false _ ▸ hof)).1
        rw [hevent] at this
        cases this
    change countOfRun "event" run x.taken = countOfRun "event" run x.handedLive +
      countOfRun "event" run x.handedNative + countOfRun "event" run x.unprojected +
        countOfRun "event" run x.ignored at htaken
    omega

end Accounted

/-! ## The accounts of a result -/

/-- What a result tells about the events of its run is what became of them. -/
structure Conserves (c : Invocation) (x : Exchange) (run : ℕ) (item : PyDict) (result : Result) :
    Prop where
  live : c.onLiveEvent = true → ∃ delivery : PyDict,
    result.extensions.get? "iperf3_lib.live_delivery" = some (.dict delivery) ∧
      counter delivery "parent_dropped" = countOfRun "live_event" run x.lost ∧
      counter delivery "projection_dropped" = countOfRun "live_event" run x.unprojected ∧
      counter delivery "emitted" = counter delivery "worker_dropped" +
        counter delivery "parent_dropped" + counter delivery "projection_dropped" +
          countOfRun "live_event" run x.handedLive ∧
      x.gaps run = announced (stagesOf delivery)
  native : ∃ delivery : PyDict,
    result.extensions.get? "iperf3_lib.event_delivery" = some (.dict delivery) ∧
      counter delivery "dropped" =
        (Responses.count? item "events_dropped").getD 0 + countOfRun "event" run x.lost
  handed : c.onEvent = true → countOfRun "event" run x.accepted =
    countOfRun "event" run x.lost + countOfRun "event" run x.handedNative

/-- Unless a callback raised, a result that was read accounts for the events of its run. -/
theorem Accounted.conserves (h : Accounted c x) {item : PyDict} {result : Result} {run : ℕ}
    (hok : x.callbackError = false) (hread : .result item result ∈ x.log)
    (hrun : ofRun "result" run item = true) : Conserves c x run item result := by
  have hresults : item ∈ x.results := List.mem_filterMap.mpr ⟨_, hread, rfl⟩
  have hcount : 0 < countOfRun "result" run x.results := countOfRun_pos.mpr ⟨item, hresults, hrun⟩
  have htaken : item ∈ x.taken := x.results_sublist.subset hresults
  obtain ⟨htold, htoldLive⟩ := h.reported.told hok item result hread run hrun
  have hstamped := h.reported.stamped item (List.mem_append_left _ htaken) run hrun
  obtain ⟨hhandedLive, hhandedNative⟩ := h.handed hok run
  refine ⟨fun hlive => ?_, ?_, fun hevent => ?_⟩
  · obtain ⟨delivery, hdelivery, hemitted, hworker, hparent, hprojection, hgaps⟩ := htoldLive hlive
    have hpipeline : item ∈ x.pipeline := by
      rw [Exchange.pipeline, List.append_assoc]
      exact List.mem_append_left _ htaken
    have haccepted := (h.reported.emitted hlive item hpipeline run hrun).live
    have hsettled := h.settled hcount "live_event" (by simp)
    have hhanded := hhandedLive hlive
    rw [hstamped.live] at hparent
    refine ⟨delivery, hdelivery, hparent, hprojection, ?_, hgaps⟩
    rw [hemitted, haccepted, hworker, hparent, hprojection, hsettled, hhanded]
    push_cast
    ring
  · obtain ⟨delivery, hdelivery, -, hdropped⟩ := htold
    rw [hstamped.native] at hdropped
    exact ⟨delivery, hdelivery, hdropped⟩
  · have hsettled := h.settled hcount "event" (by simp)
    rw [hsettled, hhandedNative hevent]

/-- However the threads interleave: unless a callback raised, the account of every result that was read
is about the events of its own run, which are all accounted for. -/
theorem exchange_accounts (c : Invocation) (session : Session) (pid : ℤ) (actions : List Action)
    {item : PyDict} {result : Result} {run : ℕ}
    (hok : (Exchange.run c (initial c session pid) actions).callbackError = false)
    (hread : .result item result ∈ (Exchange.run c (initial c session pid) actions).log)
    (hrun : ofRun "result" run item = true) :
    Conserves c (Exchange.run c (initial c session pid) actions) run item result :=
  ((Accounted.initial c session pid).run actions).conserves hok hread hrun

/-- However the threads interleave: the events and the control frames in the inbox are within the limits
of their number and their bytes, which the counters of the inbox tell. -/
theorem inbox_within_limits (c : Invocation) (session : Session) (pid : ℤ) (actions : List Action) :
    let q := (Exchange.run c (initial c session pid) actions).inbox
    Inbox.countOf true q.items ≤ maxPendingEvents ∧ Inbox.bytesOf true q.items ≤ maxPendingEventBytes ∧
      Inbox.countOf false q.items ≤ maxPendingControls ∧
        Inbox.bytesOf false q.items ≤ maxPendingControlBytes ∧
          q.events = Inbox.countOf true q.items ∧ q.eventBytes = Inbox.bytesOf true q.items ∧
            q.controls = Inbox.countOf false q.items ∧ q.controlBytes = Inbox.bytesOf false q.items ∧
              ∀ entry ∈ q.items, entry.2.2 = isEvent entry.1 := by
  intro q
  have h : q.Balanced := ((Accounted.initial c session pid).run actions).balanced
  refine ⟨h.events ▸ h.events_le, h.eventBytes ▸ h.eventBytes_le, h.controls ▸ h.controls_le,
    h.controlBytes ▸ h.controlBytes_le, h.events, h.eventBytes, h.controls, h.controlBytes, h.marked⟩

/-! ## A busy exchange -/

/-- The session of a client. -/
def clientSession : Session where
  requestId := List.replicate 32 (.scalar 'c')
  workerId := List.replicate 32 (.scalar 'd')
  requestId_nonce := by decide
  workerId_nonce := by decide

/-- An application with all callbacks, which never raise. -/
def listener : Invocation where
  role := .client
  options := .dict []
  onEvent := true
  onResult := true
  onLiveEvent := true
  maxRuns := none
  maxStrDigits := 4300
  faults := standardFaults 4300
  raises _ := false

/-- A frame of the first run. -/
def frameOf (sequence : ℤ) (kind : String) (fields : PyDict) : PyDict :=
  ([("protocol_version", .int protocolVersion), ("request_id", .str clientSession.requestId),
    ("worker_id", .str clientSession.workerId), ("transport_sequence", .int sequence),
    ("run_index", .int 1), ("type", .lit kind)] : PyDict) ++ fields

/-- A live event that the library does not know. -/
def foreignFrame (sequence captureSequence : ℤ) : PyDict :=
  frameOf sequence "live_event" [("kind", .lit "unknown"),
    ("data", .dict [("native_kind", .lit "extra"), ("payload", .none)]),
    ("capture_sequence", .int captureSequence), ("arrival_offset_seconds", .int 0), ("time", .int 0)]

/-- A result behind two live events. -/
def resultFrame (sequence : ℤ) : PyDict :=
  frameOf sequence "result" [("raw", .dict []), ("error", .lit "unable to connect"),
    ("started_at", .int 0), ("completed_at", .int 0), ("elapsed", .int 0), ("native_version", .lit "3.22"),
    ("capture", .dict [("schema_version", .int 1), ("callbacks", .int 2), ("copied", .int 2),
      ("capture_dropped", .int 0), ("malformed", .int 0), ("retention_dropped", .int 0),
      ("live_emitted", .int 2), ("live_dropped", .int 0), ("complete_document", .bool false),
      ("complete_document_source", .none), ("getter_error", .none),
      ("reconstruction_complete", .bool true), ("diagnostics", .list []),
      ("limits", .dict [("payload_bytes", .int 8388608), ("pending_bytes", .int 16777216),
        ("pending_items", .int 256), ("retained_bytes", .int 12582912), ("diagnostics", .int 8)])])]

/-- The second live event is too long for the inbox, and the first one is taken while the reading thread
holds the result. -/
def busyExchange : List Action :=
  [.accept (frameOf 1 "ready" [("pid", .int 1), ("producer", .dict [("package_version", .lit "1"),
      ("python_version", .lit "3"), ("native_version", .lit "3.22"), ("library_selector", .dict [])])]) 300,
    .put, .poll 0, .accept (foreignFrame 2 1) 300, .put, .accept (foreignFrame 3 2) 100000000, .put,
    .accept (resultFrame 4) 900, .poll 0, .put, .poll 0]

theorem exchange_accounts_busy : ∃ item result,
    Conserves listener (Exchange.run listener (initial listener clientSession 1) busyExchange) 1 item
      result := by
  set x := Exchange.run listener (initial listener clientSession 1) busyExchange with hx
  have hrun : (x.results.filter (ofRun "result" 1)).length = 1 ∧ x.callbackError = false := by
    rw [hx]
    decide +kernel
  obtain ⟨hread, hok⟩ := hrun
  obtain ⟨item, hitem⟩ := List.length_pos_iff_exists_mem.mp (hread ▸ Nat.one_pos)
  obtain ⟨hitem, hrun⟩ := List.mem_filter.mp hitem
  obtain ⟨note, hnote, hselected⟩ := List.mem_filterMap.mp hitem
  obtain ⟨result, rfl⟩ : ∃ result, note = .result item result := by
    cases note <;> cases hselected
    exact ⟨_, rfl⟩
  exact ⟨item, result, exchange_accounts listener clientSession 1 busyExchange hok hnote hrun⟩

end Iperf3Lib.Parent
