import Iperf3Lib.Parent.Pipeline

/-!
# What a step of the exchange can do

`Change` lists it, with what every part of the exchange is behind the step. The invariants are proved
against this list.
-/

namespace Iperf3Lib.Parent

open Py Json Ipc Results

theorem not_result_of_isEvent {item : PyDict} (h : isEvent item = true) :
    isKind "result" item = false := by
  rw [isEvent, Bool.or_eq_true] at h
  rcases h with h | h <;> exact isKind_eq_false h (by decide)

theorem not_event_of_result {item : PyDict} (h : isKind "result" item = true) :
    isEvent item = false := by
  rw [isEvent, isKind_eq_false h (by decide), isKind_eq_false h (by decide)]
  rfl

/-- A frame that is rejected changes nothing but the session. -/
theorem Responses.accept_error {s s' : Responses} {item : PyDict} {e : Exc}
    (h : s.accept item = (.error e, s')) : ∃ session, s' = { s with session := session } := by
  unfold Responses.accept at h
  split at h
  · exact ⟨_, ((Prod.mk.inj h).2).symm⟩
  split at h
  · cases h
  · exact ⟨_, ((Prod.mk.inj h).2).symm⟩

namespace Exchange

/-! ## The list -/

/-- What a step of the exchange can do. -/
inductive Change (c : Invocation) (x y : Exchange) : Prop where
  /-- No frame moves, except that a control frame may be refused. -/
  | quiet (responses : ∃ session, y.responses = { x.responses with session := session })
      (queued : y.inbox.queued = x.inbox.queued)
      (drops : y.inbox.dropped = x.inbox.dropped ∧ y.inbox.liveDropped = x.inbox.liveDropped)
      (held : y.reader.held = x.reader.held ∨
        (y.reader.held = [] ∧ (∃ e, y.reader = .failing e) ∧ ∀ item ∈ x.reader.held, isEvent item = false))
      (serving : y.serving = x.serving ∨ ∀ completed, y.serving ≠ .deciding completed)
      (log : y.log = x.log) (projection : y.projectionDropped = x.projectionDropped)
      (error : y.callbackError = x.callbackError)
  | accepted (item : PyDict) (held : x.reader.held = [])
      (accept : x.responses.accept item = (.ok (), y.responses)) (inbox : y.inbox = x.inbox)
      (holding : y.reader.held = [item]) (serving : y.serving = x.serving)
      (log : y.log = x.log ++ [.accepted item])
      (projection : y.projectionDropped = x.projectionDropped)
      (error : y.callbackError = x.callbackError)
  | lost (item : PyDict) (held : x.reader.held = [item]) (event : isEvent item = true)
      (responses : y.responses = x.responses) (inbox : y.inbox = x.inbox.drop item)
      (empty : y.reader.held = []) (serving : y.serving = x.serving)
      (log : y.log = x.log ++ [.lost item])
      (projection : y.projectionDropped = x.projectionDropped)
      (error : y.callbackError = x.callbackError)
  | queued (item : PyDict) (held : x.reader.held = [item]) (result : isKind "result" item = false)
      (responses : y.responses = x.responses) (queued : y.inbox.queued = x.inbox.queued ++ [item])
      (drops : y.inbox.dropped = x.inbox.dropped ∧ y.inbox.liveDropped = x.inbox.liveDropped)
      (empty : y.reader.held = []) (serving : y.serving = x.serving) (log : y.log = x.log)
      (projection : y.projectionDropped = x.projectionDropped)
      (error : y.callbackError = x.callbackError)
  /-- A result takes the dropped events along. -/
  | stamped (item : PyDict) (held : x.reader.held = [item]) (result : isKind "result" item = true)
      (responses : y.responses = x.responses)
      (queued : y.inbox.queued =
        x.inbox.queued ++ [stampDropped item x.inbox.dropped x.inbox.liveDropped])
      (drops : y.inbox.dropped = 0 ∧ y.inbox.liveDropped = 0) (empty : y.reader.held = [])
      (serving : y.serving = x.serving) (log : y.log = x.log)
      (projection : y.projectionDropped = x.projectionDropped)
      (error : y.callbackError = x.callbackError)
  | taken (item : PyDict) (rest : List PyDict) (polling : x.serving = .polling)
      (queued : x.inbox.queued = item :: rest) (inbox : Inbox)
      (behind : inbox.queued = rest)
      (drops : inbox.dropped = x.inbox.dropped ∧ inbox.liveDropped = x.inbox.liveDropped)
      (handled : Handled c item { x with inbox := inbox } y)
  | continued (completed keepRunning : Bool) (run : ℕ) (deciding : x.serving = .deciding completed)
      (keep : ∃ stop, keepRunning = x.keepRunning c completed stop)
      (continueRun : x.responses.continueRun keepRunning = .ok (run, y.responses))
      (inbox : y.inbox = x.inbox) (reader : y.reader = x.reader) (polling : y.serving = .polling)
      (log : y.log = x.log) (projection : y.projectionDropped = x.projectionDropped)
      (error : y.callbackError = x.callbackError)

/-! ## Every step is on it -/

variable {c : Invocation} {x : Exchange}

theorem Change.refl : Change c x x :=
  .quiet ⟨x.responses.session, rfl⟩ rfl ⟨rfl, rfl⟩ (.inl rfl) (.inl rfl) rfl rfl rfl

theorem change_accept {item : PyDict} {size : ℕ} (hreader : x.reader = .reading) :
    Change c x (x.accept item size) := by
  have hheld : x.reader.held = [] := by rw [hreader]; rfl
  unfold Exchange.accept
  split
  · next responses haccept =>
    exact .accepted item hheld haccept rfl rfl rfl rfl rfl rfl
  · next e responses haccept =>
    exact .quiet (Responses.accept_error haccept) rfl ⟨rfl, rfl⟩ (.inl hheld.symm) (.inl rfl) rfl rfl rfl

theorem queued_pushControl (q : Inbox) {item : PyDict} (size : ℕ) (hresult : isKind "result" item = false) :
    (q.pushControl item size).queued = q.queued ++ [item] ∧
      (q.pushControl item size).dropped = q.dropped ∧
        (q.pushControl item size).liveDropped = q.liveDropped := by
  unfold Inbox.pushControl
  rw [if_neg (by rw [hresult]; decide)]
  exact ⟨List.map_append, rfl, rfl⟩

theorem stamped_pushControl (q : Inbox) {item : PyDict} (size : ℕ) (hresult : isKind "result" item = true) :
    (q.pushControl item size).queued = q.queued ++ [stampDropped item q.dropped q.liveDropped] ∧
      (q.pushControl item size).dropped = 0 ∧ (q.pushControl item size).liveDropped = 0 := by
  unfold Inbox.pushControl
  rw [if_pos hresult]
  exact ⟨List.map_append, rfl, rfl⟩

theorem change_put {item : PyDict} {size : ℕ} (hreader : x.reader = .holding item size) :
    Change c x (x.put item size) := by
  have hheld : x.reader.held = [item] := by rw [hreader]; rfl
  unfold Exchange.put overflows
  cases hput : x.inbox.put item size with
  | error e =>
    have hcontrol : isEvent item = false := by
      unfold Inbox.put at hput
      split at hput
      · cases hput
      · next hevent => exact Bool.not_eq_true _ ▸ hevent
    refine .quiet ⟨x.responses.session, rfl⟩ rfl ⟨rfl, rfl⟩ (.inr ⟨rfl, ⟨e, rfl⟩, fun frame hframe => ?_⟩)
      (.inl rfl) rfl rfl rfl
    rw [hheld] at hframe
    rw [List.mem_singleton.mp hframe, hcontrol]
  | ok inbox =>
    dsimp only
    unfold Inbox.put at hput
    split at hput
    · next hevent =>
      obtain rfl := Except.ok.inj hput
      by_cases hfull : x.inbox.full size = true
      · rw [if_pos hfull, if_pos (by rw [hevent, hfull]; rfl)]
        exact .lost item hheld hevent rfl rfl rfl rfl rfl rfl rfl
      · rw [if_neg hfull, if_neg (by rw [hevent, Bool.true_and]; exact hfull)]
        exact .queued item hheld (not_result_of_isEvent hevent) rfl List.map_append ⟨rfl, rfl⟩ rfl rfl rfl
          rfl rfl
    · next hevent =>
      split at hput
      · cases hput
      obtain rfl := Except.ok.inj hput
      have hlog : ¬ (isEvent item && x.inbox.full size) = true := by
        rw [Bool.and_eq_true]
        exact fun h => hevent h.1
      rw [if_neg hlog]
      by_cases hresult : isKind "result" item = true
      · obtain ⟨hqueued, hdrops⟩ := stamped_pushControl x.inbox size hresult
        exact .stamped item hheld hresult rfl hqueued hdrops rfl rfl rfl rfl rfl
      · have hresult := Bool.not_eq_true _ ▸ hresult
        obtain ⟨hqueued, hdrops⟩ := queued_pushControl x.inbox size hresult
        exact .queued item hheld hresult rfl hqueued hdrops rfl rfl rfl rfl rfl

theorem change_finish : Change c x x.finish := by
  -- nothing is held in front of a failure or the end
  have hfinish : ∀ failure serving, x.reader.held = [] → x.serving = serving → Change c x
      { x with inbox := x.inbox.finish failure, reader := .finished, serving := serving } :=
    fun _ _ hheld hserving => .quiet ⟨x.responses.session, rfl⟩ rfl ⟨rfl, rfl⟩ (.inl hheld.symm)
      (.inl hserving.symm) rfl rfl rfl
  unfold Exchange.finish
  cases hreader : x.reader with
  | reading =>
    have hheld : x.reader.held = [] := by rw [hreader]; rfl
    cases hserving : x.serving with
    | left => exact hfinish none _ hheld hserving
    | polling | deciding =>
      dsimp only
      split
      · exact hfinish none _ hheld hserving
      · exact .refl
  | failing e => exact hfinish (some e) x.serving (by rw [hreader]; rfl) rfl
  | holding | finished => exact .refl

theorem change_poll (hpolling : x.serving = .polling) (returncode : ℤ) :
    Change c x (x.poll c returncode) := by
  unfold poll Inbox.get
  split
  · next hget =>
    split at hget
    · cases hget
    split at hget
    · next item size event items hitems =>
      obtain ⟨hitem, rfl⟩ := Prod.mk.inj hget
      obtain rfl := Got.item.inj hitem
      have hpop : (x.inbox.pop size event items).items = items ∧
          (x.inbox.pop size event items).dropped = x.inbox.dropped ∧
          (x.inbox.pop size event items).liveDropped = x.inbox.liveDropped := by
        unfold Inbox.pop
        split <;> exact ⟨rfl, rfl, rfl⟩
      refine .taken item (items.map Prod.fst) hpolling ?_ _ ?_ hpop.2 (handled c _ item)
      · rw [Inbox.queued, hitems]
        rfl
      · rw [Inbox.queued, hpop.1]
    · split at hget <;> cases (Prod.mk.inj hget).1
  · next hget =>
    split at hget
    · obtain ⟨-, rfl⟩ := Prod.mk.inj hget
      exact .quiet ⟨x.responses.session, rfl⟩ rfl ⟨rfl, rfl⟩ (.inl rfl) (.inr (by simp)) rfl rfl rfl
    split at hget
    · cases (Prod.mk.inj hget).1
    · split at hget <;> cases (Prod.mk.inj hget).1
  · next hget =>
    split at hget
    · cases (Prod.mk.inj hget).1
    split at hget
    · cases (Prod.mk.inj hget).1
    split at hget
    · obtain ⟨-, rfl⟩ := Prod.mk.inj hget
      unfold handleEof
      split <;>
      exact .quiet ⟨x.responses.session, rfl⟩ rfl ⟨rfl, rfl⟩ (.inl rfl) (.inr (by simp)) rfl rfl rfl
    · cases (Prod.mk.inj hget).1
  · next hget =>
    split at hget
    · cases (Prod.mk.inj hget).1
    split at hget
    · cases (Prod.mk.inj hget).1
    split at hget
    · cases (Prod.mk.inj hget).1
    · obtain ⟨-, rfl⟩ := Prod.mk.inj hget
      exact .refl

theorem change_continueRun {completed : Bool} (hdeciding : x.serving = .deciding completed)
    (stop : Bool) : Change c x (x.continueRun c completed stop) := by
  unfold Exchange.continueRun
  split
  · next run responses hcontinue =>
    exact .continued completed _ run hdeciding ⟨stop, rfl⟩ hcontinue rfl rfl rfl rfl rfl rfl
  · exact .quiet ⟨x.responses.session, rfl⟩ rfl ⟨rfl, rfl⟩ (.inl rfl) (.inr (by simp)) rfl rfl rfl

/-- Every step is one of the changes. -/
theorem change_step (c : Invocation) (x : Exchange) (action : Action) :
    Change c x (step c x action) := by
  cases action with
  | accept item size =>
    unfold step
    dsimp only
    split
    · next hreader => exact change_accept hreader
    · exact .refl
  | put =>
    unfold step
    dsimp only
    split
    · next hreader => exact change_put hreader
    · exact .refl
  | fail failure =>
    unfold step
    dsimp only
    split
    · next hreader =>
      refine .quiet ⟨x.responses.session, rfl⟩ rfl ⟨rfl, rfl⟩ (.inl ?_) (.inl rfl) rfl rfl rfl
      rw [hreader]
      rfl
    · exact .refl
  | finish => exact change_finish
  | poll returncode =>
    unfold step
    dsimp only
    split
    · next hpolling => exact change_poll hpolling returncode
    · exact .refl
  | decide stop =>
    unfold step
    dsimp only
    split
    · next hdeciding => exact change_continueRun hdeciding stop
    · exact .refl
  | leave =>
    unfold step
    dsimp only
    split
    · exact .refl
    · exact .quiet ⟨x.responses.session, rfl⟩ rfl ⟨rfl, rfl⟩ (.inl rfl) (.inr (by simp)) rfl rfl rfl

end Exchange

end Iperf3Lib.Parent
