import Iperf3Lib.Parent.Answered

/-!
# The order of delivery

The worker numbers what it captured, and the parent what it hands on. `delivered_in_order` says that
the application sees both numbers increase: nothing is handed on twice or out of turn, whatever the
inbox drops in between.
-/

namespace Iperf3Lib.Parent

open Py Json Ipc Results Exchange

variable {c : Invocation} {x y : Exchange}

/-- The first frame is of an earlier run, or was captured earlier in the same run. -/
def Captured (a b : PyDict) : Prop :=
  ∀ i j, a.int? "run_index" = some i → b.int? "run_index" = some j → i ≤ j ∧
    (i = j → ∀ m n, a.int? "capture_sequence" = some m → b.int? "capture_sequence" = some n → m < n)

/-- The live frames that were accepted. -/
def Exchange.acceptedLive (x : Exchange) : List PyDict := x.accepted.filter (isKind "live_event")

/-- A live frame moves the capture on, and no other frame does. -/
theorem Responses.accept_captures {s s' : Responses} {item : PyDict}
    (h : s.accept item = (.ok (), s')) :
    s.captureSequence ≤ s'.captureSequence ∧ (isKind "live_event" item = true →
      ∀ n, item.int? "capture_sequence" = some n → s.captureSequence < n ∧ n = s'.captureSequence) := by
  have hother : ∀ {kind : String}, isKind kind item = true → (kind : PyStr) ≠ ("live_event" : String) →
      isKind "live_event" item = true → ∀ n, item.int? "capture_sequence" = some n →
        s.captureSequence < n ∧ n = s'.captureSequence := fun hkind hne hlive => by
    rw [isKind_eq_false hkind hne] at hlive
    cases hlive
  unfold Responses.accept at h
  split at h
  · cases h
  split at h
  · next session _ s₁ hadmit =>
    obtain rfl := (Prod.mk.inj h).2
    obtain ⟨-, -, hbranch⟩ := Responses.admit_cases hadmit
    rcases hbranch with ⟨hkind, hok⟩ | ⟨hkind, hok⟩ | ⟨hkind, hok⟩ | ⟨hkind, hok⟩ | ⟨hkind, hok⟩ |
      ⟨hkind, hok⟩
    · obtain ⟨-, producer, rfl⟩ := Responses.acceptReady_ok hok
      exact ⟨le_refl _, hother hkind (by decide)⟩
    · obtain ⟨-, n, -, -, rfl⟩ := Responses.acceptEvent_ok hok
      exact ⟨le_refl _, hother hkind (by decide)⟩
    · obtain ⟨-, -, ⟨n, q, hn, -, -, hlt, -, -, rfl⟩ | ⟨hnone, -, -, rfl⟩⟩ := Responses.acceptLive_ok hok
      · refine ⟨hlt.le, fun _ m hm => ?_⟩
        obtain rfl := Option.some.inj (hn.symm.trans hm)
        exact ⟨hlt, rfl⟩
      · refine ⟨le_refl _, fun _ m hm => ?_⟩
        rw [hnone] at hm
        cases hm
    · obtain ⟨-, -, rfl⟩ := Responses.acceptResult_ok hok
      exact ⟨le_refl _, hother hkind (by decide)⟩
    · obtain ⟨-, rfl⟩ := Responses.acceptError_ok hok
      exact ⟨le_refl _, hother hkind (by decide)⟩
    · obtain ⟨-, -, -, rfl⟩ := Responses.acceptTerminal_ok hok
      exact ⟨le_refl _, hother hkind (by decide)⟩
  · cases h

/-- The live frames that were accepted are in the order of their capture. -/
structure Capturing (x : Exchange) : Prop where
  named : ∀ item ∈ x.acceptedLive, ∃ run : ℕ, run ≤ x.responses.run ∧
    item.int? "run_index" = some (run : ℤ)
  behind : ∀ item ∈ x.acceptedLive, item.int? "run_index" = some (x.responses.run : ℤ) →
    ∀ n, item.int? "capture_sequence" = some n → n ≤ x.responses.captureSequence
  ordered : x.acceptedLive.Pairwise Captured

namespace Capturing

/-- Nothing is accepted, and the capture of the run stays. -/
theorem same (h : Capturing x) (haccepted : y.accepted = x.accepted)
    (hrun : y.responses.run = x.responses.run)
    (hcapture : y.responses.captureSequence = x.responses.captureSequence) : Capturing y := by
  have hlive : y.acceptedLive = x.acceptedLive := by rw [acceptedLive, haccepted, acceptedLive]
  refine ⟨?_, ?_, hlive ▸ h.ordered⟩
  · rw [hlive, hrun]
    exact h.named
  · rw [hlive, hrun, hcapture]
    exact h.behind

theorem accepted (h : Capturing x) {item : PyDict}
    (haccept : x.responses.accept item = (.ok (), y.responses))
    (haccepted : y.accepted = x.accepted ++ [item]) : Capturing y := by
  obtain ⟨hrun, hsame, -⟩ := Responses.accept_effect haccept
  obtain ⟨hle, hcaptures⟩ := Responses.accept_captures haccept
  by_cases hkind : isKind "live_event" item = true
  · have hlive : y.acceptedLive = x.acceptedLive ++ [item] := by
      rw [acceptedLive, haccepted, List.filter_append, List.filter_cons_of_pos hkind]
      rfl
    refine ⟨?_, ?_, ?_⟩
    · rw [hlive, hsame]
      refine List.forall_mem_append.mpr ⟨h.named, fun frame hframe => ?_⟩
      rw [List.mem_singleton.mp hframe]
      exact ⟨x.responses.run, le_refl _, hrun⟩
    · rw [hlive, hsame]
      refine List.forall_mem_append.mpr ⟨fun frame hframe hindex n hn => ?_, fun frame hframe _ n hn => ?_⟩
      · exact (h.behind frame hframe hindex n hn).trans hle
      · rw [List.mem_singleton.mp hframe] at hn
        exact (hcaptures hkind n hn).2.le
    · rw [hlive, List.pairwise_append]
      refine ⟨h.ordered, List.pairwise_singleton _ _, fun frame hframe last hlast => ?_⟩
      rw [List.mem_singleton.mp hlast]
      intro i j hi hj
      obtain ⟨run, hbound, hindex⟩ := h.named frame hframe
      obtain rfl := Option.some.inj (hi.symm.trans hindex)
      obtain rfl := Option.some.inj (hj.symm.trans hrun)
      refine ⟨Int.ofNat_le.mpr hbound, fun hequal m n hm hn => ?_⟩
      -- the capture of the run is behind what was accepted of it
      rw [hequal] at hindex
      exact (h.behind frame hframe hindex m hm).trans_lt (hcaptures hkind n hn).1
  · have hlive : y.acceptedLive = x.acceptedLive := by
      rw [acceptedLive, haccepted, List.filter_append, List.filter_cons_of_neg hkind, acceptedLive]
      exact List.append_nil _
    refine ⟨?_, ?_, hlive ▸ h.ordered⟩
    · rw [hlive, hsame]
      exact h.named
    · rw [hlive, hsame]
      exact fun frame hframe hindex n hn => (h.behind frame hframe hindex n hn).trans hle

theorem change (h : Capturing x) (hchange : Change c x y) : Capturing y := by
  cases hchange with
  | quiet responses _ _ _ _ log =>
    obtain ⟨session, hresponses⟩ := responses
    exact h.same (select_same log) (by rw [hresponses]) (by rw [hresponses])
  | accepted item _ accept _ _ _ log =>
    refine h.accepted accept ?_
    rw [Exchange.accepted, log, List.filterMap_append]
    rfl
  | lost _ _ _ responses _ _ _ log =>
    exact h.same (select_append log rfl) (by rw [responses]) (by rw [responses])
  | queued _ _ _ responses _ _ _ _ log | stamped _ _ _ responses _ _ _ _ log =>
    exact h.same (select_same log) (by rw [responses]) (by rw [responses])
  | taken _ _ _ _ _ _ _ handled =>
    have hresponses := handled.shared.responses
    obtain ⟨_, hnotes, haccepted, -⟩ := handled.notes
    exact h.same (select_append hnotes haccepted) (by rw [hresponses]) (by rw [hresponses])
  | continued _ keepRunning _ _ _ continueRun _ _ _ log =>
    have haccepted : y.accepted = x.accepted := select_same log
    have hlive : y.acceptedLive = x.acceptedLive := by rw [acceptedLive, haccepted, acceptedLive]
    cases keepRunning with
    | false =>
      unfold Responses.continueRun at continueRun
      split at continueRun
      · cases continueRun
      have hresponses := (Prod.mk.inj (Except.ok.inj continueRun)).2
      exact h.same haccepted (by rw [← hresponses]) (by rw [← hresponses])
    | true =>
      obtain ⟨-, -, -, -, ⟨-, hrun, -⟩ | ⟨hkeep, -⟩⟩ := Responses.continueRun_effect continueRun
      · refine ⟨fun item hitem => ?_, fun item hitem hindex => ?_, hlive ▸ h.ordered⟩
        · rw [hlive] at hitem
          obtain ⟨run, hle, hnamed⟩ := h.named item hitem
          exact ⟨run, by omega, hnamed⟩
        · -- nothing of the next run was accepted
          rw [hlive] at hitem
          obtain ⟨run, hle, hnamed⟩ := h.named item hitem
          have := Int.ofNat.inj (Option.some.inj (hnamed.symm.trans hindex))
          omega
      · cases hkeep

theorem initial (c : Invocation) (session : Session) (pid : ℤ) : Capturing (initial c session pid) := by
  have hnone : (Exchange.initial c session pid).acceptedLive = [] := by
    rw [acceptedLive, Exchange.accepted, select_initial c session pid fun _ => rfl]
    rfl
  exact ⟨by simp [hnone], by simp [hnone], hnone ▸ .nil⟩

theorem run (h : Capturing x) (actions : List Action) : Capturing (Exchange.run c x actions) := by
  induction actions generalizing x with
  | nil => exact h
  | cons action actions ih => exact ih (h.change (change_step c x action))

end Capturing

/-- What was handed on was taken. -/
theorem handedLive_sublist (x : Exchange) : x.handedLive.Sublist x.taken :=
  filterMap_sublist (fun note _ h => by cases note <;> first | exact h | cases h) x.log

/-- However the threads interleave: the live events that the application gets are those of accepted
frames, in the order of acceptance and of capture, and their delivery numbers increase. -/
theorem delivered_in_order (c : Invocation) (session : Session) (pid : ℤ) (actions : List Action) :
    let x := Exchange.run c (initial c session pid) actions
    x.handedLive.Sublist x.acceptedLive ∧ x.handedLive.Pairwise Captured ∧
      (∀ item event, .live item event ∈ x.log → ∃ n payload,
        event = LiveProjector.envelope item n payload) ∧
        x.heard.Pairwise fun a b => a.deliverySequence < b.deliverySequence := by
  intro x
  have h : Tracked c x := (Tracked.initial c session pid).run actions
  have hordered : Capturing x := (Capturing.initial c session pid).run actions
  have hsublist : x.handedLive.Sublist x.acceptedLive := by
    have hkinds := h.accounted.noted.kind_handedLive
    -- a live event is not dropped by either filter
    have hlive : x.handedLive.filter (isKind "live_event") = x.handedLive :=
      List.filter_eq_self.mpr hkinds
    have hevents : x.handedLive.filter isEvent = x.handedLive :=
      List.filter_eq_self.mpr fun item hitem => by rw [isEvent, hkinds item hitem, Bool.or_true]
    have htaken : x.taken.Sublist x.pipeline := by
      rw [Exchange.pipeline, List.append_assoc]
      exact List.sublist_append_left _ _
    have haccepted : x.handedLive.Sublist x.accepted := by
      rw [← hevents]
      exact (((handedLive_sublist x).trans htaken).filter _).trans h.accounted.flowing.inOrder
    rw [← hlive]
    exact haccepted.filter _
  refine ⟨hsublist, hordered.ordered.sublist hsublist, fun item event hmem => ?_,
    h.remembered.numbered.increasing⟩
  exact (h.accounted.noted.typed _ hmem).2

end Iperf3Lib.Parent
