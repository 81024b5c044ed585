import Iperf3Lib.Parent.Accounts

/-!
# What the results tell about their events

A result carries the counters of the worker, those of the inbox and those of the projector. `Reported`
says that they are about the frames of the result's own run, and that gaps are announced for the
events that were dropped and for no others.
-/

namespace Iperf3Lib.Parent

open Py Json Ipc Results Exchange

/-! ## The extensions of a result -/

theorem get?_extend (name key : String) (value : PyVal) (result : Result) :
    (extend name value result).extensions.get? key =
      if name = key then some value else result.extensions.get? key := by
  rw [extend, PyDict.get?_set]
  simp only [PyStr.ofString_injective.eq_iff]

section Extensions

variable {c : Invocation} {x : Exchange} {message : PyDict} {result : Result}

theorem extensions_markPartial (result : Result) :
    (markPartial result).extensions = result.extensions := by
  unfold markPartial note setStatus
  dsimp only
  split <;> rfl

/-- The worker's counts of native events are handed on. -/
theorem delivery_decodeResult {maxStrDigits : ℕ} {role : ReportingRole}
    (h : decodeResult maxStrDigits message role = .ok result) :
    ∃ delivery : PyDict, result.extensions.get? "iperf3_lib.event_delivery" = some (.dict delivery) ∧
      delivery.get? "emitted" = some ((message.get? "events_emitted").getD (.int 0)) := by
  unfold decodeResult at h
  obtain ⟨_, -, h⟩ := bind_eq_ok.mp h
  obtain ⟨_, -, h⟩ := bind_eq_ok.mp h
  obtain ⟨_, -, h⟩ := bind_eq_ok.mp h
  obtain ⟨_, -, h⟩ := bind_eq_ok.mp h
  obtain ⟨captured, hcapture, h⟩ := bind_eq_ok.mp h
  obtain rfl := Except.ok.inj h
  set delivered := addDelivery message _ with hdelivered
  have hdelivery : ∃ delivery : PyDict,
      delivered.extensions.get? "iperf3_lib.event_delivery" = some (.dict delivery) ∧
        delivery.get? "emitted" = some ((message.get? "events_emitted").getD (.int 0)) := by
    rw [hdelivered, addDelivery, get?_extend, if_pos rfl]
    exact ⟨_, rfl, rfl⟩
  have hcaptured : captured.extensions.get? "iperf3_lib.event_delivery" =
      delivered.extensions.get? "iperf3_lib.event_delivery" := by
    unfold addCapture at hcapture
    split at hcapture
    · rw [Except.ok.inj hcapture]
    · obtain ⟨_, -, hcapture⟩ := bind_eq_ok.mp hcapture
      obtain ⟨copied, -, hcapture⟩ := bind_eq_ok.mp hcapture
      rw [← Except.ok.inj hcapture]
      split
      · rw [extensions_markPartial, get?_extend, if_neg (by decide)]
      · rw [get?_extend, if_neg (by decide)]
  have hreconstructed : (addReconstruction message captured).extensions.get?
      "iperf3_lib.event_delivery" = captured.extensions.get? "iperf3_lib.event_delivery" := by
    unfold addReconstruction note
    dsimp only
    split
    · exact (get?_extend _ _ _ _).trans (if_neg (by decide))
    · rfl
  rw [hreconstructed, hcaptured]
  exact hdelivery

/-- The account of the live events is beside that of the native ones. -/
theorem get?_addLiveDelivery (c : Invocation) (x : Exchange) (message : PyDict) (result : Result) :
    (x.addLiveDelivery c message result).extensions.get? "iperf3_lib.event_delivery" =
      result.extensions.get? "iperf3_lib.event_delivery" ∧
    (c.onLiveEvent = true → (x.addLiveDelivery c message result).extensions.get?
      "iperf3_lib.live_delivery" = some (.dict (x.liveDelivery message))) := by
  unfold addLiveDelivery note
  dsimp only
  split
  · split
    · exact ⟨(get?_extend _ _ _ _).trans (if_neg (by decide)),
        fun _ => (get?_extend _ _ _ _).trans (if_pos rfl)⟩
    · exact ⟨(get?_extend _ _ _ _).trans (if_neg (by decide)),
        fun _ => (get?_extend _ _ _ _).trans (if_pos rfl)⟩
  · next hlive => exact ⟨rfl, fun h => absurd h hlive⟩

/-- A result that was read carries both accounts. -/
theorem readResult_extensions (h : x.readResult c message = .ok result) :
    (∃ delivery : PyDict, result.extensions.get? "iperf3_lib.event_delivery" = some (.dict delivery) ∧
      delivery.get? "emitted" = some ((message.get? "events_emitted").getD (.int 0)) ∧
      counter delivery "dropped" =
        (Responses.count? message "events_dropped").getD 0 + counter message "_parent_dropped") ∧
    (c.onLiveEvent = true →
      result.extensions.get? "iperf3_lib.live_delivery" = some (.dict (x.liveDelivery message))) := by
  unfold readResult at h
  obtain ⟨decoded, hdecoded, h⟩ := bind_eq_ok.mp h
  obtain ⟨producer, -, h⟩ := bind_eq_ok.mp h
  obtain ⟨configured, hconfigured, h⟩ := bind_eq_ok.mp h
  obtain ⟨dropped, hdropped, h⟩ := bind_eq_ok.mp h
  obtain rfl := Except.ok.inj h
  obtain ⟨delivery, hdelivery, hemitted⟩ := delivery_decodeResult hdecoded
  have hconfigured : configured.extensions.get? "iperf3_lib.event_delivery" = some (.dict delivery) := by
    unfold addServerConfig at hconfigured
    split at hconfigured
    · rw [← Except.ok.inj hconfigured, get?_extend, if_neg (by decide)]
      exact hdelivery
    · obtain ⟨options, -, hconfigured⟩ := bind_eq_ok.mp hconfigured
      rw [← Except.ok.inj hconfigured, get?_extend, if_neg (by decide), get?_extend, if_neg (by decide)]
      exact hdelivery
  unfold addDropped at hdropped
  rw [hconfigured] at hdropped
  dsimp only at hdropped
  obtain rfl := Except.ok.inj hdropped
  obtain ⟨hsame, hlive⟩ := get?_addLiveDelivery c x message (extend "iperf3_lib.event_delivery"
    (.dict (PyDict.set delivery "dropped" (.int ((Responses.count? message "events_dropped").getD 0 +
      counter message "_parent_dropped")))) configured)
  refine ⟨⟨PyDict.set delivery "dropped" (.int ((Responses.count? message "events_dropped").getD 0 +
    counter message "_parent_dropped")), ?_, ?_, ?_⟩, hlive⟩
  · rw [hsame, get?_extend, if_pos rfl]
  · rw [PyDict.get?_set, if_neg (PyStr.ofString_injective.ne (by decide))]
    exact hemitted
  · rw [counter, PyDict.int?, PyDict.get?_set, if_pos rfl]
    rfl

end Extensions

/-! ## Gaps -/

/-- A gap that a callback got. -/
def Note.gapEvent : Note → Option LiveEvent
  | gap event => some event
  | _ => none

theorem gapEvent_gaps (events : List LiveEvent) :
    (events.map Note.gap).filterMap Note.gapEvent = events := by
  rw [List.filterMap_map]
  exact List.filterMap_some

theorem unprojectedItem_gaps (events : List LiveEvent) :
    (events.map Note.gap).filterMap Note.unprojectedItem = [] := by
  rw [List.filterMap_map]
  exact List.filterMap_eq_nil_iff.mpr fun _ _ => rfl

/-- The gaps that were announced for a run. -/
def Exchange.gaps (x : Exchange) (run : ℕ) : List LivePayload :=
  ((x.log.filterMap Note.gapEvent).filter fun event => event.runIndex = some (run : ℤ)).map
    LiveEvent.payload

/-- The gaps for the numbers of dropped events that are not zero. -/
def announced (stages : List (String × ℤ)) : List LivePayload :=
  (stages.filter fun stage => stage.2 ≠ 0).map fun stage =>
    .deliveryGap (.lit stage.1) (.int stage.2)

theorem payload_gapEvents (identity : LiveEvent) (stages : List (String × ℤ))
    (hstages : ∀ stage ∈ stages, 0 ≤ stage.2) (sequence : ℕ) :
    (gapEvents identity sequence stages).map LiveEvent.payload = announced stages := by
  induction stages generalizing sequence with
  | nil => rfl
  | cons stage stages ih =>
    obtain ⟨hstage, hrest⟩ := List.forall_mem_cons.mp hstages
    rw [gapEvents, announced]
    by_cases hzero : stage.2 = 0
    · rw [if_pos hzero, List.filter_cons_of_neg (by simpa using hzero)]
      exact ih hrest sequence
    · rw [if_neg hzero, List.filter_cons_of_pos (by simpa using hzero), List.map_cons, List.map_cons,
        ih hrest]
      refine congrArg (· :: _) ?_
      change LivePayload.deliveryGap (.lit stage.1) (.int (stage.2.toNat : ℤ)) = _
      rw [Int.toNat_of_nonneg hstage]

/-! ## The invariant -/

/-- The stages of an account. -/
def stagesOf (delivery : PyDict) : List (String × ℤ) :=
  [("worker_delivery", counter delivery "worker_dropped"),
    ("parent_delivery", counter delivery "parent_dropped"),
    ("projection", counter delivery "projection_dropped")]

/-- The live events of a run as the worker counts them: those that were accepted and those that it
dropped itself. -/
structure Emitted (x : Exchange) (run : ℕ) (item : PyDict) : Prop where
  live : counter ((dict? item "capture").getD []) "live_emitted" =
    countOfRun "live_event" run x.accepted +
      counter ((dict? item "capture").getD []) "live_dropped"
  nonneg : 0 ≤ counter ((dict? item "capture").getD []) "live_dropped"

/-- The events of a run that the inbox dropped. -/
structure Stamped (x : Exchange) (run : ℕ) (item : PyDict) : Prop where
  native : counter item "_parent_dropped" = countOfRun "event" run x.lost
  live : counter item "_parent_live_dropped" = countOfRun "live_event" run x.lost

/-- What a result tells about a run. -/
structure Told (c : Invocation) (x : Exchange) (run : ℕ) (item : PyDict) (result : Result) : Prop where
  native : ∃ delivery : PyDict,
    result.extensions.get? "iperf3_lib.event_delivery" = some (.dict delivery) ∧
      delivery.get? "emitted" = some ((item.get? "events_emitted").getD (.int 0)) ∧
      counter delivery "dropped" =
        (Responses.count? item "events_dropped").getD 0 + counter item "_parent_dropped"
  live : c.onLiveEvent = true → ∃ delivery : PyDict,
    result.extensions.get? "iperf3_lib.live_delivery" = some (.dict delivery) ∧
      counter delivery "emitted" = counter ((dict? item "capture").getD []) "live_emitted" ∧
      counter delivery "worker_dropped" = counter ((dict? item "capture").getD []) "live_dropped" ∧
      counter delivery "parent_dropped" = counter item "_parent_live_dropped" ∧
      counter delivery "projection_dropped" = countOfRun "live_event" run x.unprojected ∧
      x.gaps run = announced (stagesOf delivery)

/-- A result is about the frames of its own run, wherever it is, and gaps are announced with a result
only. -/
structure Reported (c : Invocation) (x : Exchange) : Prop where
  emitted : c.onLiveEvent = true → ∀ item ∈ x.pipeline, ∀ run, ofRun "result" run item = true →
    Emitted x run item
  stamped : ∀ item ∈ x.taken ++ x.inbox.queued, ∀ run, ofRun "result" run item = true →
    Stamped x run item
  silent : ∀ run, countOfRun "result" run x.results = 0 → x.gaps run = []
  told : x.callbackError = false → ∀ item result, .result item result ∈ x.log → ∀ run,
    ofRun "result" run item = true → Told c x run item result

namespace Reported

variable {c : Invocation} {x y : Exchange}

theorem accepted_handled {item : PyDict} (h : Handled c item x y) : y.accepted = x.accepted := by
  obtain ⟨notes, hnotes, haccepted, -, -⟩ := h.notes
  exact select_append hnotes haccepted

theorem emitted_change (h : Reported c x) (hplaced : Placed x) (hflowing : Flowing c x)
    (hlive : c.onLiveEvent = true) (hchange : Change c x y) : ∀ item ∈ y.pipeline, ∀ run,
      ofRun "result" run item = true → Emitted y run item := by
  intro item hitem run hof
  have hsame : y.accepted = x.accepted → item ∈ x.pipeline → Emitted y run item := by
    intro haccepted hmem
    have hemitted := h.emitted hlive item hmem run hof
    exact ⟨by rw [haccepted]; exact hemitted.live, hemitted.nonneg⟩
  cases hchange with
  | quiet _ queued _ held _ log =>
    have htaken : y.taken = x.taken := select_same log
    refine hsame (select_same log) ?_
    rw [Exchange.pipeline, htaken, queued] at hitem
    rcases List.mem_append.mp hitem with hitem | hitem
    · exact List.mem_append_left _ hitem
    · rcases held with held | ⟨held, -⟩
      · exact List.mem_append_right _ (held ▸ hitem)
      · rw [held] at hitem
        cases hitem
  | accepted frame held accept inbox holding _ log =>
    obtain ⟨hrun, hsameRun, hwanted, heffect⟩ := Responses.accept_effect accept
    have htaken : y.taken = x.taken := select_append log rfl
    have haccepted : y.accepted = x.accepted ++ [frame] := by
      rw [Exchange.accepted, log, List.filterMap_append]
      rfl
    have hpipeline : y.pipeline = x.pipeline ++ [frame] := by
      rw [Exchange.pipeline, htaken, inbox, holding, Exchange.pipeline, held, List.append_nil]
    rw [hpipeline] at hitem
    rcases List.mem_append.mp hitem with hmem | hmem
    · -- a live event is accepted while the result of its run is nowhere
      have hnone : countOfRun "live_event" run [frame] = 0 := by
        rw [countOfRun_singleton, if_neg]
        intro hframe
        obtain ⟨hkind, hindex⟩ := ofRun_iff.mp hframe
        obtain rfl := Int.ofNat.inj (Option.some.inj (hindex.symm.trans hrun))
        have hphase : x.responses.phase = .running := by
          cases heffect with
          | live _ before => exact before
          | native kind => rw [isKind_eq_false kind (by decide)] at hkind; cases hkind
          | result kind => rw [isKind_eq_false kind (by decide)] at hkind; cases hkind
          | ready kind | closing kind =>
            rw [isPayload_of_isEvent (isEvent_of_ofRun (by simp) hframe)] at kind
            cases kind
        have := countOfRun_eq_zero.mp (hplaced.none_pending (hplaced.pending (.inr hphase))) item hmem
        rw [hof] at this
        cases this
      have hemitted := h.emitted hlive item hmem run hof
      refine ⟨?_, hemitted.nonneg⟩
      rw [haccepted, countOfRun_append, hnone, Nat.add_zero]
      exact hemitted.live
    · rw [List.mem_singleton.mp hmem] at hof ⊢
      obtain ⟨hkind, hindex⟩ := ofRun_iff.mp hof
      obtain rfl := Int.ofNat.inj (Option.some.inj (hindex.symm.trans hrun))
      cases heffect with
      | result _ _ _ _ _ capture =>
        obtain ⟨receipt, hdict, hemitted, hnonneg⟩ := capture (hflowing.wanted.trans hlive)
        have hnone : countOfRun "live_event" x.responses.run [frame] = 0 := by
          rw [countOfRun_singleton, ofRun, isKind_eq_false hkind (by decide)]
          rfl
        refine ⟨?_, ?_⟩
        · rw [hdict, haccepted, countOfRun_append, hnone, Nat.add_zero, hflowing.received]
          exact hemitted
        · rw [hdict]
          exact hnonneg
      | native kind => rw [isKind_eq_false kind (by decide)] at hkind; cases hkind
      | live kind => rw [isKind_eq_false kind (by decide)] at hkind; cases hkind
      | ready kind | closing kind => rw [isPayload_of_result hkind] at kind; cases kind
  | lost frame held _ _ inbox empty _ log =>
    have htaken : y.taken = x.taken := select_append log rfl
    have hqueued : y.inbox.queued = x.inbox.queued := by rw [inbox, queued_drop]
    refine hsame (select_append log rfl) ?_
    rw [Exchange.pipeline, htaken, hqueued, empty, List.append_nil] at hitem
    exact List.mem_append_left _ hitem
  | queued frame held _ _ queued _ empty _ log =>
    have htaken : y.taken = x.taken := select_same log
    refine hsame (select_same log) ?_
    rw [Exchange.pipeline, htaken, queued, empty, List.append_nil, ← List.append_assoc] at hitem
    rw [Exchange.pipeline, held]
    exact hitem
  | stamped frame held result _ queued _ empty _ log =>
    have htaken : y.taken = x.taken := select_same log
    have haccepted : y.accepted = x.accepted := select_same log
    rw [Exchange.pipeline, htaken, queued, empty, List.append_nil, ← List.append_assoc] at hitem
    rcases List.mem_append.mp hitem with hitem | hitem
    · exact hsame haccepted (List.mem_append_left _ hitem)
    · rw [List.mem_singleton.mp hitem] at hof ⊢
      rw [ofRun_stampDropped] at hof
      have hmem : frame ∈ x.pipeline := by
        rw [Exchange.pipeline, held]
        exact List.mem_append_right _ (List.mem_singleton_self frame)
      have hemitted := h.emitted hlive frame hmem run hof
      have hdict : dict? (stampDropped frame x.inbox.dropped x.inbox.liveDropped) "capture" =
          dict? frame "capture" := by
        rw [dict?, dict?, Inbox.get?_stampDropped _ _ (PyStr.ofString_injective.ne (by decide))
          (PyStr.ofString_injective.ne (by decide))]
      refine ⟨?_, ?_⟩ <;> rw [hdict]
      · rw [haccepted]
        exact hemitted.live
      · exact hemitted.nonneg
  | taken frame rest _ queued inbox behind _ handled =>
    refine hsame (accepted_handled (x := { x with inbox := inbox }) handled) ?_
    rw [Exchange.pipeline, Attributed.taken_queued queued behind handled, handled.shared.reader] at hitem
    exact hitem
  | continued _ _ _ _ _ _ inbox reader _ log =>
    refine hsame (select_same log) ?_
    rw [Exchange.pipeline, inbox, reader, Exchange.taken, log] at hitem
    exact hitem

theorem stamped_change (h : Reported c x) (hplaced : Placed x) (hattributed : Attributed c x)
    (hchange : Change c x y) : ∀ item ∈ y.taken ++ y.inbox.queued, ∀ run,
      ofRun "result" run item = true → Stamped y run item := by
  intro item hitem run hof
  have hsame : y.lost = x.lost → item ∈ x.taken ++ x.inbox.queued → Stamped y run item := by
    intro hlost hmem
    have hstamped := h.stamped item hmem run hof
    exact ⟨by rw [hlost]; exact hstamped.native, by rw [hlost]; exact hstamped.live⟩
  cases hchange with
  | quiet _ queued _ _ _ log =>
    refine hsame (select_same log) ?_
    rw [Exchange.taken, log, queued] at hitem
    exact hitem
  | accepted _ _ _ inbox _ _ log =>
    refine hsame (select_append log rfl) ?_
    have htaken : y.taken = x.taken := select_append log rfl
    rw [htaken, inbox] at hitem
    exact hitem
  | lost frame held event _ inbox _ _ log =>
    have htaken : y.taken = x.taken := select_append log rfl
    have hqueued : y.inbox.queued = x.inbox.queued := by rw [inbox, queued_drop]
    have hlost : y.lost = x.lost ++ [frame] := by
      rw [Exchange.lost, log, List.filterMap_append]
      rfl
    rw [htaken, hqueued] at hitem
    obtain ⟨hindex, hnone⟩ := Attributed.none_of_held hplaced held event
    -- the frame is of the current run, and the item ends an earlier one
    have hother : ∀ kind, ofRun kind run frame = false := by
      intro kind
      by_contra hframe
      rw [Bool.not_eq_false] at hframe
      obtain rfl := Int.ofNat.inj (Option.some.inj ((ofRun_iff.mp hframe).2.symm.trans hindex))
      have := countOfRun_eq_zero.mp hnone item (List.mem_append_left _ hitem)
      rw [hof] at this
      cases this
    have hstamped := h.stamped item hitem run hof
    refine ⟨?_, ?_⟩ <;> rw [hlost, countOfRun_append, countOfRun_singleton, hother, if_neg (by decide),
      Nat.add_zero]
    · exact hstamped.native
    · exact hstamped.live
  | queued frame _ result _ queued _ _ _ log =>
    have htaken : y.taken = x.taken := select_same log
    refine hsame (select_same log) ?_
    rw [htaken, queued, ← List.append_assoc] at hitem
    rcases List.mem_append.mp hitem with hitem | hitem
    · exact hitem
    · rw [List.mem_singleton.mp hitem, ofRun, result] at hof
      cases hof
  | stamped frame held result responses queued _ _ _ log =>
    have htaken : y.taken = x.taken := select_same log
    have hlost : y.lost = x.lost := select_same log
    rw [htaken, queued, ← List.append_assoc] at hitem
    rcases List.mem_append.mp hitem with hitem | hitem
    · exact hsame hlost hitem
    · rw [List.mem_singleton.mp hitem] at hof ⊢
      rw [ofRun_stampDropped] at hof
      have hmem : frame ∈ x.reader.held := held ▸ List.mem_singleton_self frame
      have hindex := hplaced.current frame (List.mem_append_right _ hmem) (isPayload_of_result result)
      obtain rfl := Int.ofNat.inj (Option.some.inj ((ofRun_iff.mp hof).2.symm.trans hindex))
      -- the held result is the only one of its run
      have hnone : countOfRun "result" x.responses.run (x.taken ++ x.inbox.queued) = 0 := by
        have honce := hplaced.once x.responses.run
        rw [Exchange.pipeline, held, countOfRun_append, countOfRun_singleton, if_pos hof] at honce
        split at honce <;> omega
      have hdrops : ∀ kind ∈ ["event", "live_event"],
          x.inbox.dropsOf kind = countOfRun kind x.responses.run x.lost := fun kind hkind => by
        rw [hattributed.drops kind hkind, if_pos hnone]
      refine ⟨?_, ?_⟩
      · rw [Inbox.parentDropped_stampDropped, hlost, ← hdrops "event" (by simp)]
        rfl
      · rw [Inbox.parentLiveDropped_stampDropped, hlost, ← hdrops "live_event" (by simp)]
        rfl
  | taken frame rest _ queued inbox behind _ handled =>
    refine hsame (Attributed.lost_handled (x := { x with inbox := inbox }) handled) ?_
    rw [Attributed.taken_queued queued behind handled] at hitem
    exact hitem
  | continued _ _ _ _ _ _ inbox _ _ log =>
    refine hsame (select_same log) ?_
    rw [inbox, Exchange.taken, log] at hitem
    exact hitem

/-- More notes bring the gaps among them. -/
theorem gaps_append {notes : List Note} (hlog : y.log = x.log ++ notes) (run : ℕ) :
    y.gaps run = x.gaps run ++ ((notes.filterMap Note.gapEvent).filter fun event =>
      event.runIndex = some (run : ℤ)).map LiveEvent.payload := by
  rw [Exchange.gaps, hlog, List.filterMap_append, List.filter_append, List.map_append, Exchange.gaps]

/-- A step that announces nothing: at most a live event is taken and not projected. -/
structure Silent (x y : Exchange) (notes : List Note) : Prop where
  log : y.log = x.log ++ notes
  gaps : notes.filterMap Note.gapEvent = []
  results : ∀ item result, .result item result ∉ notes
  unprojected : notes.filterMap Note.unprojectedItem = [] ∨ ∃ item ∈ x.inbox.queued,
    isKind "live_event" item = true ∧ notes.filterMap Note.unprojectedItem = [item]
  error : y.callbackError = false → x.callbackError = false

/-- A step that reads a result. -/
structure Reads (c : Invocation) (x y : Exchange) (item : PyDict) (result : Result)
    (events : List LiveEvent) : Prop where
  queued : item ∈ x.inbox.queued
  kind : isKind "result" item = true
  read : x.readResult c item = .ok result
  log : y.log = x.log ++ .result item result :: events.map .gap
  run : ∀ event ∈ events, event.runIndex = item.int? "run_index"
  gaps : c.onLiveEvent = true → y.callbackError = false →
    events = gapEvents (x.identity c item) x.deliverySequence (x.stages item)
  error : y.callbackError = false → x.callbackError = false

theorem silent_or_reads (hchange : Change c x y) :
    (∃ notes, Silent x y notes) ∨ ∃ item result events, Reads c x y item result events := by
  have hquiet : y.log = x.log → y.callbackError = x.callbackError → Silent x y [] :=
    fun hlog herror => ⟨by rw [hlog, List.append_nil], rfl, by simp, .inl rfl, fun h => herror ▸ h⟩
  cases hchange with
  | quiet _ _ _ _ _ log _ error => exact .inl ⟨_, hquiet log error⟩
  | accepted _ _ _ _ _ _ log _ error =>
    exact .inl ⟨_, log, rfl, by simp, .inl rfl, fun h => error ▸ h⟩
  | lost _ _ _ _ _ _ _ log _ error =>
    exact .inl ⟨_, log, rfl, by simp, .inl rfl, fun h => error ▸ h⟩
  | queued _ _ _ _ _ _ _ _ log _ error => exact .inl ⟨_, hquiet log error⟩
  | stamped _ _ _ _ _ _ _ _ log _ error => exact .inl ⟨_, hquiet log error⟩
  | continued _ _ _ _ _ _ _ _ _ log _ error => exact .inl ⟨_, hquiet log error⟩
  | taken item rest _ queued inbox _ _ handled =>
    have herror : y.callbackError = false → x.callbackError = false := by
      intro hok
      by_contra hraised
      rw [handled.shared.error (Bool.not_eq_false _ ▸ hraised)] at hok
      cases hok
    have hmem : item ∈ x.inbox.queued := queued ▸ List.mem_cons_self
    cases handled with
    | control _ _ _ _ log =>
      exact .inl ⟨_, log, by simp [Note.gapEvent], by simp, .inl (by simp [Note.unprojectedItem]), herror⟩
    | native _ _ _ log => exact .inl ⟨_, log, rfl, by simp, .inl rfl, herror⟩
    | live _ _ _ log => exact .inl ⟨_, log, rfl, by simp, .inl rfl, herror⟩
    | ignored _ _ log => exact .inl ⟨_, log, rfl, by simp, .inl rfl, herror⟩
    | unprojected kind _ _ _ log =>
      exact .inl ⟨_, log, rfl, by simp, .inr ⟨item, hmem, kind, rfl⟩, herror⟩
    | unreadable _ _ _ log => exact .inl ⟨_, log, rfl, by simp, .inl rfl, herror⟩
    | result kind _ result read _ events log run _ gaps =>
      exact .inr ⟨item, result, events, hmem, kind, read, log, run, gaps, herror⟩

theorem silent_change (h : Reported c x) (hplaced : Placed x) (hchange : Change c x y) :
    ∀ run, countOfRun "result" run y.results = 0 → y.gaps run = [] := by
  intro run hnone
  rcases silent_or_reads hchange with ⟨notes, hsilent⟩ | ⟨item, result, events, hreads⟩
  · have hresults : notes.filterMap Note.resultItem = [] := by
      rw [List.filterMap_eq_nil_iff]
      intro note hnote
      cases note with
      | result item result => exact absurd hnote (hsilent.results item result)
      | _ => rfl
    rw [Exchange.results, hsilent.log, List.filterMap_append, hresults, List.append_nil] at hnone
    rw [gaps_append hsilent.log, hsilent.gaps, h.silent run hnone]
    rfl
  · have hindex := hplaced.current item (List.mem_append_left _ hreads.queued)
      (isPayload_of_result hreads.kind)
    have hresults : y.results = x.results ++ [item] := by
      rw [Exchange.results, hreads.log, List.filterMap_append]
      simp [Note.resultItem, Exchange.results]
    rw [hresults, countOfRun_append, countOfRun_singleton] at hnone
    have hother : run ≠ x.responses.run := by
      rintro rfl
      rw [if_pos (ofRun_iff.mpr ⟨hreads.kind, hindex⟩)] at hnone
      omega
    rw [gaps_append hreads.log, h.silent run (by omega), List.nil_append, List.map_eq_nil_iff,
      List.filter_eq_nil_iff]
    intro event hevent
    have hgap : event ∈ events := by
      simpa [Note.gapEvent, List.filterMap_map, Function.comp_def] using hevent
    rw [hreads.run event hgap, hindex, decide_eq_true_eq, Option.some.injEq, Nat.cast_inj]
    exact hother.symm

/-- What is told about a run stays so while nothing of it is refused or announced. -/
theorem told_of_same {run : ℕ} {item : PyDict} {result : Result} (h : Told c x run item result)
    (hunprojected : countOfRun "live_event" run y.unprojected =
      countOfRun "live_event" run x.unprojected) (hgaps : y.gaps run = x.gaps run) :
    Told c y run item result := by
  refine ⟨h.native, fun hlive => ?_⟩
  obtain ⟨delivery, hdelivery, hemitted, hworker, hparent, hprojection, hannounced⟩ := h.live hlive
  exact ⟨delivery, hdelivery, hemitted, hworker, hparent, hunprojected ▸ hprojection,
    hgaps ▸ hannounced⟩

/-- A result that is read tells about its run. -/
theorem told_of_reads (h : Reported c x) (hplaced : Placed x) (hattributed : Attributed c x)
    {item : PyDict} {result : Result} {events : List LiveEvent} (hreads : Reads c x y item result events)
    (hok : y.callbackError = false) : Told c y x.responses.run item result := by
  have hindex := hplaced.current item (List.mem_append_left _ hreads.queued)
    (isPayload_of_result hreads.kind)
  have hof : ofRun "result" x.responses.run item = true := ofRun_iff.mpr ⟨hreads.kind, hindex⟩
  obtain ⟨hnative, hextension⟩ := readResult_extensions hreads.read
  refine ⟨hnative, fun hlive => ⟨x.liveDelivery item, hextension hlive, counter_eq rfl, counter_eq rfl,
    counter_eq rfl, ?_, ?_⟩⟩
  · -- the projector counts since the last result
    have hnone : countOfRun "result" x.responses.run x.results = 0 := by
      by_contra hread
      have := (hplaced.once_taken (Placed.taken_of_results (Nat.pos_of_ne_zero hread))).1
      rw [countOfRun_eq_zero] at this
      rw [this item hreads.queued] at hof
      cases hof
    have hunprojected : y.unprojected = x.unprojected := by
      rw [Exchange.unprojected, hreads.log, List.filterMap_append]
      simp [Note.unprojectedItem, Exchange.unprojected]
    have hcount := hattributed.projection hlive
    rw [if_pos hnone] at hcount
    rw [hunprojected, ← hcount]
    exact counter_eq rfl
  · have hnone : x.gaps x.responses.run = [] := h.silent _ (by
      by_contra hread
      have := (hplaced.once_taken (Placed.taken_of_results (Nat.pos_of_ne_zero hread))).1
      rw [countOfRun_eq_zero] at this
      rw [this item hreads.queued] at hof
      cases hof)
    have hselected : (Note.result item result :: events.map Note.gap).filterMap Note.gapEvent =
        events := by
      rw [List.filterMap_cons_none rfl, gapEvent_gaps]
    rw [gaps_append hreads.log, hnone, hselected, List.nil_append,
      List.filter_eq_self.mpr fun event hevent => by rw [hreads.run event hevent, hindex]; simp,
      hreads.gaps hlive hok, payload_gapEvents]
    · exact congrArg announced rfl
    · have hpipeline : item ∈ x.pipeline :=
        List.mem_append_left _ (List.mem_append_right _ hreads.queued)
      have hemitted := h.emitted hlive item hpipeline _ hof
      have hstamped := h.stamped item (List.mem_append_right _ hreads.queued) _ hof
      simp only [stages, List.forall_mem_cons, List.not_mem_nil, false_imp_iff, implies_true, and_true]
      refine ⟨hemitted.nonneg, ?_, Int.natCast_nonneg _⟩
      rw [hstamped.live]
      exact Int.natCast_nonneg _

theorem told_change (h : Reported c x) (hplaced : Placed x) (hattributed : Attributed c x)
    (hchange : Change c x y) (hok : y.callbackError = false) :
    ∀ item result, .result item result ∈ y.log → ∀ run, ofRun "result" run item = true →
      Told c y run item result := by
  intro item result hmem run hof
  rcases silent_or_reads hchange with ⟨notes, hsilent⟩ | ⟨frame, read, events, hreads⟩
  · rw [hsilent.log] at hmem
    have hmem := (List.mem_append.mp hmem).resolve_right (hsilent.results item result)
    refine told_of_same (h.told (hsilent.error hok) item result hmem run hof) ?_ ?_
    · rw [Exchange.unprojected, hsilent.log, List.filterMap_append, countOfRun_append]
      rcases hsilent.unprojected with hnone | ⟨live, hlive, hkind, hnone⟩
      · rw [hnone]
        rfl
      · -- an event of the run is not taken behind its result
        have hread : 0 < countOfRun "result" run x.results :=
          countOfRun_pos.mpr ⟨item, List.mem_filterMap.mpr ⟨_, hmem, rfl⟩, hof⟩
        have hother := (hplaced.none_behind (Placed.taken_of_results hread) live
          (List.mem_append_left _ hlive)).2
        rw [hnone, countOfRun_singleton, hother]
        rfl
    · rw [gaps_append hsilent.log, hsilent.gaps]
      exact List.append_nil _
  · have hindex := hplaced.current frame (List.mem_append_left _ hreads.queued)
      (isPayload_of_result hreads.kind)
    rw [hreads.log] at hmem
    rcases List.mem_append.mp hmem with hmem | hmem
    · have hread : 0 < countOfRun "result" run x.results :=
        countOfRun_pos.mpr ⟨item, List.mem_filterMap.mpr ⟨_, hmem, rfl⟩, hof⟩
      -- the result of the current run is still in the inbox, so that this is another run
      have hother : run ≠ x.responses.run := by
        rintro rfl
        have := countOfRun_eq_zero.mp (hplaced.once_taken (Placed.taken_of_results hread)).1 frame
          hreads.queued
        rw [ofRun_iff.mpr ⟨hreads.kind, hindex⟩] at this
        cases this
      refine told_of_same (h.told (hreads.error hok) item result hmem run hof) ?_ ?_
      · rw [Exchange.unprojected, hreads.log, List.filterMap_append, List.filterMap_cons_none rfl,
          unprojectedItem_gaps, List.append_nil, Exchange.unprojected]
      · have hselected : (Note.result frame read :: events.map Note.gap).filterMap Note.gapEvent =
            events := by
          rw [List.filterMap_cons_none rfl, gapEvent_gaps]
        rw [gaps_append hreads.log, hselected, List.filter_eq_nil_iff.mpr, List.map_nil, List.append_nil]
        intro event hevent
        rw [hreads.run event hevent, hindex, decide_eq_true_eq, Option.some.injEq, Nat.cast_inj]
        exact hother.symm
    · obtain ⟨rfl, rfl⟩ : item = frame ∧ result = read := by simpa using hmem
      obtain rfl := Int.ofNat.inj (Option.some.inj ((ofRun_iff.mp hof).2.symm.trans hindex))
      exact told_of_reads h hplaced hattributed hreads hok

theorem change (h : Reported c x) (hplaced : Placed x) (hflowing : Flowing c x)
    (hattributed : Attributed c x) (hchange : Change c x y) : Reported c y :=
  ⟨fun hlive => h.emitted_change hplaced hflowing hlive hchange,
    h.stamped_change hplaced hattributed hchange, h.silent_change hplaced hchange,
    fun hok => h.told_change hplaced hattributed hchange hok⟩

end Reported

end Iperf3Lib.Parent
