import Iperf3Lib.Parent.Placed

/-!
# The flow of events

An event that was accepted is lost in front of the inbox, or it is on its way to the application in the
order of acceptance. `Flowing` balances the events of every run, and every step keeps it.
-/

namespace Iperf3Lib.Parent

open Py Json Ipc Results

namespace Exchange

/-- The events that were accepted and not lost, oldest first. -/
def events (x : Exchange) : List PyDict := x.pipeline.filter isEvent

/-- Among events only the events count. -/
theorem countOfRun_filter {kind : String} (hkind : kind ∈ ["event", "live_event"]) (run : ℕ)
    (items : List PyDict) : countOfRun kind run (items.filter isEvent) = countOfRun kind run items := by
  rw [countOfRun, List.countP_filter, countOfRun]
  refine List.countP_congr fun item _ => ?_
  rw [Bool.and_eq_true]
  exact ⟨And.left, fun h => ⟨h, isEvent_of_ofRun hkind h⟩⟩

/-! ## The flow of events -/

/-- What a step does to the events. -/
inductive Flow (x y : Exchange) : Prop where
  | same (accepted : y.accepted = x.accepted) (lost : y.lost = x.lost) (events : y.events = x.events)
  | entered (item : PyDict) (accepted : y.accepted = x.accepted ++ [item]) (lost : y.lost = x.lost)
      (events : y.events = x.events ++ [item].filter isEvent)
  | dropped (item : PyDict) (accepted : y.accepted = x.accepted) (lost : y.lost = x.lost ++ [item])
      (events : x.events = y.events ++ [item])

variable {c : Invocation} {x y : Exchange}

theorem Change.flow (h : Change c x y) : Flow x y := by
  cases h with
  | quiet _ queued _ held _ log =>
    refine .same (select_same log) (select_same log)
      ?_
    rw [events, pipeline, Exchange.taken, log, queued, events, pipeline, Exchange.taken, List.filter_append,
      List.filter_append _ x.reader.held]
    rcases held with held | ⟨held, -, hcontrol⟩
    · rw [held]
    · have hnone : x.reader.held.filter isEvent = [] :=
        List.filter_eq_nil_iff.mpr fun item hitem => by rw [hcontrol item hitem]; decide
      rw [held, hnone]
      rfl
  | accepted item held _ inbox holding _ log =>
    refine .entered item (by rw [Exchange.accepted, log, List.filterMap_append]; rfl)
      (select_append log rfl) ?_
    have htaken : y.taken = x.taken := select_append log rfl
    rw [events, pipeline, htaken, inbox, holding, List.filter_append, events, pipeline, held,
      List.append_nil]
  | lost item held event _ inbox empty _ log =>
    refine .dropped item (select_append log rfl)
      (by rw [Exchange.lost, log, List.filterMap_append]; rfl) ?_
    have htaken : y.taken = x.taken := select_append log rfl
    have hqueued : y.inbox.queued = x.inbox.queued := by rw [inbox, queued_drop]
    rw [events, pipeline, held, List.filter_append, events, pipeline, htaken, hqueued, empty,
      List.append_nil, List.filter_cons_of_pos event, List.filter_nil]
  | queued item held _ _ queued _ empty _ log =>
    refine .same (select_same log) (select_same log)
      ?_
    rw [events, pipeline, Exchange.taken, log, queued, empty, events, pipeline, Exchange.taken, held, List.append_nil,
      List.append_assoc]
  | stamped item held result _ queued _ empty _ log =>
    refine .same (select_same log) (select_same log)
      ?_
    have hcontrol := not_event_of_result result
    have hstamped := Inbox.isEvent_stampDropped item x.inbox.dropped x.inbox.liveDropped
    rw [events, pipeline, Exchange.taken, log, queued, empty, events, pipeline, Exchange.taken, held, List.append_nil,
      ← List.append_assoc, List.filter_append, List.filter_append _ [item],
      List.filter_cons_of_neg (by rw [hstamped, hcontrol]; decide),
      List.filter_cons_of_neg (by rw [hcontrol]; decide)]
  | taken item rest _ queued inbox behind _ handled =>
    obtain ⟨notes, hnotes, haccepted, hlost, hitem⟩ := handled.notes
    have hshared := handled.shared
    refine .same (select_append hnotes haccepted)
      (select_append hnotes hlost) ?_
    rw [events, events, pipeline, pipeline, Exchange.taken, hnotes, List.filterMap_append, hitem, hshared.inbox,
      hshared.reader, behind, queued, Exchange.taken]
    simp
  | continued _ _ _ _ _ _ inbox reader _ log =>
    refine .same (select_same log) (select_same log)
      ?_
    rw [events, pipeline, Exchange.taken, log, inbox, reader, events, pipeline, Exchange.taken]

end Exchange

open Exchange

/-- Every event that was accepted is lost or on its way, in the order of acceptance, and the counter of
the session is that of its run. -/
structure Flowing (c : Invocation) (x : Exchange) : Prop where
  wanted : x.responses.liveEvents = c.onLiveEvent
  future : ∀ kind run, x.responses.run < run → countOfRun kind run x.accepted = 0
  received : countOfRun "live_event" x.responses.run x.accepted = x.responses.liveReceived
  kept : ∀ kind ∈ ["event", "live_event"], ∀ run, countOfRun kind run x.accepted =
    countOfRun kind run x.lost + countOfRun kind run x.events
  inOrder : x.events.Sublist x.accepted

namespace Flowing

variable {c : Invocation} {x y : Exchange}

/-- Nothing of a later run is lost or on its way. -/
theorem none_later (h : Flowing c x) {kind : String} (hkind : kind ∈ ["event", "live_event"]) (run : ℕ)
    (hrun : x.responses.run < run) :
    countOfRun kind run x.lost = 0 ∧ countOfRun kind run x.events = 0 := by
  have := h.kept kind hkind run
  rw [h.future kind run hrun] at this
  omega

theorem change (h : Flowing c x) (hchange : Change c x y) : Flowing c y := by
  have hkept : ∀ kind ∈ ["event", "live_event"], ∀ run, countOfRun kind run y.accepted =
      countOfRun kind run y.lost + countOfRun kind run y.events := by
    intro kind hkind run
    have hbefore := h.kept kind hkind run
    cases hchange.flow with
    | same accepted lost events => rwa [accepted, lost, events]
    | entered item accepted lost events =>
      rw [accepted, lost, events, countOfRun_append, countOfRun_append, countOfRun_filter hkind]
      omega
    | dropped item accepted lost events =>
      rw [events, countOfRun_append] at hbefore
      rw [accepted, lost, countOfRun_append]
      omega
  have hinOrder : y.events.Sublist y.accepted := by
    cases hchange.flow with
    | same accepted _ events => rw [accepted, events]; exact h.inOrder
    | entered item accepted _ events =>
      rw [accepted, events]
      exact h.inOrder.append List.filter_sublist
    | dropped item accepted _ events =>
      rw [accepted]
      refine List.Sublist.trans ?_ h.inOrder
      rw [events]
      exact List.sublist_append_left _ _
  -- the log of accepted frames and the session change when a frame is accepted or a run begins
  have hquiet : y.accepted = x.accepted → y.responses.run = x.responses.run →
      y.responses.liveReceived = x.responses.liveReceived →
      y.responses.liveEvents = x.responses.liveEvents → Flowing c y :=
    fun haccepted hrun hreceived hwanted => {
      wanted := hwanted.trans h.wanted
      future := by
        rw [hrun, haccepted]
        exact h.future
      received := by
        rw [hrun, haccepted, hreceived]
        exact h.received
      kept := hkept
      inOrder := hinOrder }
  cases hchange with
  | quiet responses _ _ _ _ log =>
    obtain ⟨session, hresponses⟩ := responses
    refine hquiet ?_ ?_ ?_ ?_ <;> first | rw [Exchange.accepted, Exchange.accepted, log] | rw [hresponses]
  | accepted item held accept _ _ _ log =>
    obtain ⟨hrun, hsame, hwanted, heffect⟩ := Responses.accept_effect accept
    have haccepted : y.accepted = x.accepted ++ [item] := by
      rw [Exchange.accepted, log, List.filterMap_append]
      rfl
    refine ⟨hwanted.trans h.wanted, fun kind run hlater => ?_, ?_, hkept, hinOrder⟩
    · rw [hsame] at hlater
      rw [haccepted, countOfRun_append, h.future kind run hlater, countOfRun_singleton, if_neg]
      intro hof
      have := Int.ofNat.inj (Option.some.inj ((ofRun_iff.mp hof).2.symm.trans hrun))
      omega
    · rw [haccepted, hsame, countOfRun_append, h.received, countOfRun_singleton]
      have hother : ∀ kind : String, (kind : PyStr) ≠ ("live_event" : String) → isKind kind item = true →
          ofRun "live_event" x.responses.run item = false := fun kind hne hkind => by
        rw [ofRun, isKind_eq_false hkind hne]
        rfl
      have hcontrol : isPayload item = false → ofRun "live_event" x.responses.run item = false := by
        intro hpayload
        by_contra hof
        rw [Bool.not_eq_false] at hof
        rw [isPayload_of_isEvent (isEvent_of_ofRun (by simp) hof)] at hpayload
        cases hpayload
      cases heffect with
      | ready kind _ _ _ received => rw [hcontrol kind, received]; rfl
      | native kind _ _ _ received => rw [hother _ (by decide) kind, received]; rfl
      | live kind _ _ _ received => rw [ofRun_iff.mpr ⟨kind, hrun⟩, received]; rfl
      | result kind _ _ _ received => rw [hother _ (by decide) kind, received]; rfl
      | closing kind _ _ received => rw [hcontrol kind, received]; rfl
  | lost item _ _ responses _ _ _ log =>
    refine hquiet ?_ ?_ ?_ ?_ <;> first
      | rw [responses]
      | exact select_append log rfl
  | queued _ _ _ responses _ _ _ _ log | stamped _ _ _ responses _ _ _ _ log =>
    refine hquiet ?_ ?_ ?_ ?_ <;> first | rw [Exchange.accepted, Exchange.accepted, log] | rw [responses]
  | taken item rest _ _ inbox _ _ handled =>
    have hshared := handled.shared
    obtain ⟨notes, hnotes, haccepted, -, -⟩ := handled.notes
    refine hquiet ?_ ?_ ?_ ?_ <;> first
      | rw [hshared.responses]
      | exact select_append hnotes haccepted
  | continued _ _ _ _ _ continueRun _ _ _ log =>
    obtain ⟨-, -, hwanted, -, heffect⟩ := Responses.continueRun_effect continueRun
    have haccepted : y.accepted = x.accepted := select_same log
    rcases heffect with ⟨-, hrun, -, hreceived⟩ | ⟨-, hrun, -, hreceived⟩
    · refine ⟨hwanted.trans h.wanted, fun kind run hlater => ?_, ?_, hkept, hinOrder⟩
      · rw [haccepted]
        exact h.future kind run (by omega)
      · rw [haccepted, hreceived, hrun]
        exact h.future _ _ (Nat.lt_succ_self _)
    · exact hquiet haccepted hrun hreceived hwanted

end Flowing

end Iperf3Lib.Parent
