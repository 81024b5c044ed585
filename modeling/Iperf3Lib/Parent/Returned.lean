import Iperf3Lib.Parent.Conservation
import Iperf3Lib.Parent.Memory

/-!
# What a returned result means

`run_worker` returns once the inbox has ended. `returned_completes` says what that takes: the worker
has sent its terminal receipt, no callback raised, every run that was authorized has its result, and
everything that was accepted has reached the loop or is counted as lost.
-/

namespace Iperf3Lib.Parent

open Py Json Ipc Results Exchange

variable {c : Invocation} {x y : Exchange}

/-! ## The end of the inbox -/

/-- The inbox ends when the reading thread does: behind a failure, behind the terminal receipt, or
once the loop is left. A result is returned at that end. -/
structure Closing (x : Exchange) : Prop where
  failure : x.inbox.failure.isSome = true → x.reader = .finished
  finished : x.inbox.finished = true → x.reader = .finished
  ended : x.inbox.finished = true → x.inbox.failure = none →
    x.responses.phase = .terminal ∨ ∃ returned, x.serving = .left returned
  returned : ∀ result, x.serving = .left (some result) → x.reader = .finished ∧
    x.inbox.items = [] ∧ x.inbox.failure = none ∧ x.responses.phase = .terminal ∧
      x.workerError = none ∧ x.callbackError = false ∧ x.lastResult = some result

theorem flags_put {q q' : Inbox} {item : PyDict} {size : ℕ} (h : q.put item size = .ok q') :
    q'.failure = q.failure ∧ q'.finished = q.finished := by
  unfold Inbox.put at h
  split at h
  · obtain rfl := Except.ok.inj h
    split
    · unfold Inbox.drop
      split <;> exact ⟨rfl, rfl⟩
    · exact ⟨rfl, rfl⟩
  · split at h
    · cases h
    · obtain rfl := Except.ok.inj h
      unfold Inbox.pushControl
      split <;> exact ⟨rfl, rfl⟩

theorem flags_get (q : Inbox) : q.get.2.failure = q.failure ∧ q.get.2.finished = q.finished := by
  unfold Inbox.get Inbox.pop
  split
  · exact ⟨rfl, rfl⟩
  split
  · split <;> exact ⟨rfl, rfl⟩
  · split <;> exact ⟨rfl, rfl⟩

/-- A message never makes the loop return a result. -/
theorem serving_handled {message : PyDict} (h : Handled c message x y) (hpolling : x.serving = .polling)
    (result : Result) : y.serving ≠ .left (some result) := by
  have hsame : y.serving = x.serving → y.serving ≠ .left (some result) := fun hserving => by
    rw [hserving, hpolling]
    simp
  cases h with
  | control _ _ beside => exact hsame beside.serving
  | native _ beside => exact hsame beside.serving
  | live _ beside => exact hsame beside.serving
  | ignored _ beside => exact hsame beside.serving
  | unprojected _ _ _ serving => exact hsame serving
  | result _ _ _ _ serving =>
    rw [serving, servingBehind]
    cases c.role <;> simp
  | unreadable _ _ serving => rw [serving]; simp

namespace Closing

/-- While the reading thread works, nothing has ended. -/
theorem of_working (hreader : x.reader ≠ .finished) (h : Closing x) (hinbox : y.inbox.failure =
      x.inbox.failure ∧ y.inbox.finished = x.inbox.finished) (hserving : y.serving = x.serving) :
    Closing y where
  failure hfailure := absurd (h.failure (hinbox.1 ▸ hfailure)) hreader
  finished hfinished := absurd (h.finished (hinbox.2 ▸ hfinished)) hreader
  ended hfinished := absurd (h.finished (hinbox.2 ▸ hfinished)) hreader
  returned result hreturned := absurd (h.returned result (hserving ▸ hreturned)).1 hreader

theorem accept (h : Closing x) {item : PyDict} {size : ℕ} (hreader : x.reader = .reading) :
    Closing (x.accept item size) := by
  unfold Exchange.accept
  split
  · exact h.of_working (by rw [hreader]; simp) ⟨rfl, rfl⟩ rfl
  · exact h.of_working (by rw [hreader]; simp) ⟨rfl, rfl⟩ rfl

theorem put (h : Closing x) {item : PyDict} {size : ℕ} (hreader : x.reader = .holding item size) :
    Closing (x.put item size) := by
  unfold Exchange.put
  split
  · next hput => exact h.of_working (by rw [hreader]; simp) (flags_put hput) rfl
  · exact h.of_working (by rw [hreader]; simp) ⟨rfl, rfl⟩ rfl

theorem finish (h : Closing x) : Closing x.finish := by
  have hnone : ∀ result, x.reader ≠ .finished → x.serving ≠ .left (some result) :=
    fun result hreader hreturned => hreader (h.returned result hreturned).1
  unfold Exchange.finish
  split
  · next hreader =>
    exact ⟨fun _ => rfl, fun _ => rfl, fun _ hfailure => (by cases hfailure),
      fun result hreturned => absurd hreturned (hnone result (by rw [hreader]; simp))⟩
  · next returned hreader hserving =>
    exact ⟨fun _ => rfl, fun _ => rfl, fun _ _ => .inr ⟨returned, hserving⟩,
      fun result hreturned => absurd hreturned (hnone result (by rw [hreader]; simp))⟩
  · next hreader _ =>
    split
    · next hphase =>
      exact ⟨fun _ => rfl, fun _ => rfl, fun _ _ => .inl hphase,
        fun result hreturned => absurd hreturned (hnone result (by rw [hreader]; simp))⟩
    · exact h
  · exact h

theorem poll (h : Closing x) (hpolling : x.serving = .polling) (returncode : ℤ) :
    Closing (x.poll c returncode) := by
  have hended : x.inbox.finished = true → x.inbox.failure = none → x.responses.phase = .terminal := by
    intro hfinished hfailure
    rcases h.ended hfinished hfailure with hphase | ⟨returned, hleft⟩
    · exact hphase
    · rw [hpolling] at hleft
      cases hleft
  have hflags := flags_get x.inbox
  -- whatever is got, the reading thread and the session stay where they are
  have hkeep : ∀ y : Exchange, y.inbox = x.inbox.get.2 → y.reader = x.reader →
      y.responses = x.responses → (∀ result, y.serving ≠ .left (some result)) → Closing y := by
    intro y hinbox hreader hresponses hserving
    refine ⟨fun hfailure => ?_, fun hfinished => ?_, fun hfinished hfailure => ?_,
      fun result hreturned => absurd hreturned (hserving result)⟩
    · rw [hinbox, hflags.1] at hfailure
      rw [hreader, h.failure hfailure]
    · rw [hinbox, hflags.2] at hfinished
      rw [hreader, h.finished hfinished]
    · rw [hinbox, hflags.2] at hfinished
      rw [hinbox, hflags.1] at hfailure
      rw [hresponses]
      exact .inl (hended hfinished hfailure)
  have hpolled := inbox_poll c x returncode
  unfold Exchange.poll at hpolled ⊢
  split
  · next message inbox hget =>
    have hhandled := handled c { x with inbox := inbox } message
    refine hkeep _ ?_ hhandled.shared.reader hhandled.shared.responses (serving_handled hhandled hpolling)
    rw [hget] at hpolled
    rw [hget]
    exact hpolled
  · next hget => exact hkeep _ (by rw [hget]) rfl rfl (by simp)
  · next inbox hget =>
    -- the inbox has ended: this is where a result is returned
    unfold handleEof
    split
    · exact hkeep _ (by rw [hget]) rfl rfl (by simp)
    · next hquiet =>
      rw [not_or, not_or, Bool.not_eq_true, Bool.not_eq_true, Option.isSome_eq_false_iff,
        Option.isNone_iff_eq_none] at hquiet
      obtain ⟨hinbox, hitems, hfinished, hfailure⟩ : inbox = x.inbox ∧ x.inbox.items = [] ∧
          x.inbox.finished = true ∧ x.inbox.failure = none := by
        unfold Inbox.get at hget
        split at hget
        · cases (Prod.mk.inj hget).1
        next hfailure =>
        split at hget
        · cases (Prod.mk.inj hget).1
        next hitems =>
        split at hget
        · next hfinished => exact ⟨(Prod.mk.inj hget).2.symm, hitems, hfinished, hfailure⟩
        · cases (Prod.mk.inj hget).1
      subst hinbox
      refine ⟨h.failure, h.finished, fun _ _ => .inl (hended hfinished hfailure), fun result hreturned => ?_⟩
      exact ⟨h.finished hfinished, hitems, hfailure, hended hfinished hfailure, hquiet.1, hquiet.2.2,
        Serving.left.inj hreturned⟩
  · next hget => exact hkeep _ (by rw [hget]) rfl rfl (by rw [hpolling]; simp)

theorem continueRun (h : Closing x) {completed stop : Bool} (hdeciding : x.serving = .deciding completed) :
    Closing (x.continueRun c completed stop) := by
  have hnone : ∀ result, x.serving ≠ .left (some result) := fun result => by rw [hdeciding]; simp
  unfold Exchange.continueRun
  split
  · next run responses hcontinue =>
    obtain ⟨hphase, -⟩ := Responses.continueRun_effect hcontinue
    refine ⟨h.failure, h.finished, fun hfinished hfailure => ?_, fun result hreturned => (by cases hreturned)⟩
    rcases h.ended hfinished hfailure with hterminal | ⟨returned, hleft⟩
    · rw [hphase] at hterminal
      cases hterminal
    · rw [hdeciding] at hleft
      cases hleft
  · exact ⟨h.failure, h.finished, fun _ _ => .inr ⟨_, rfl⟩, fun result hreturned => (by cases hreturned)⟩

theorem step (h : Closing x) (action : Action) : Closing (Exchange.step c x action) := by
  cases action with
  | accept item size =>
    unfold Exchange.step
    dsimp only
    split
    · next hreader => exact h.accept hreader
    · exact h
  | put =>
    unfold Exchange.step
    dsimp only
    split
    · next hreader => exact h.put hreader
    · exact h
  | fail failure =>
    unfold Exchange.step
    dsimp only
    split
    · next hreader => exact h.of_working (by rw [hreader]; simp) ⟨rfl, rfl⟩ rfl
    · exact h
  | finish => exact h.finish
  | poll returncode =>
    unfold Exchange.step
    dsimp only
    split
    · next hpolling => exact h.poll hpolling returncode
    · exact h
  | decide stop =>
    unfold Exchange.step
    dsimp only
    split
    · next hdeciding => exact h.continueRun hdeciding
    · exact h
  | leave =>
    unfold Exchange.step
    dsimp only
    split
    · exact h
    · exact ⟨h.failure, h.finished, fun _ _ => .inr ⟨_, rfl⟩, fun result hreturned => (by cases hreturned)⟩

theorem initial (c : Invocation) (session : Session) (pid : ℤ) : Closing (initial c session pid) := by
  obtain ⟨-, hinbox, -⟩ := initial_spec c session pid
  have hnone : ∀ result, (Exchange.initial c session pid).serving ≠ .left (some result) := by
    intro result
    unfold Exchange.initial
    dsimp only
    split
    · simp
    · rw [deliverState, (beside_deliverLive c _ _).serving]
      simp [advance]
  exact ⟨fun hfailure => (by rw [hinbox] at hfailure; cases hfailure),
    fun hfinished => (by rw [hinbox] at hfinished; cases hfinished),
    fun hfinished => (by rw [hinbox] at hfinished; cases hfinished),
    fun result hreturned => absurd hreturned (hnone result)⟩

end Closing

/-! ## What stays -/

/-- A frame was refused, or the transport broke. -/
def Broken (x : Exchange) : Prop := (∃ e, x.reader = .failing e) ∨ x.inbox.failure.isSome = true

/-- What broke stays broken. -/
theorem broken_step (h : Closing x) (hbroken : Broken x) (action : Action) : Broken (step c x action) := by
  -- the reading thread fails or has finished
  have hreader : x.reader ≠ .reading ∧ ∀ item size, x.reader ≠ .holding item size := by
    rcases hbroken with ⟨e, hreader⟩ | hfailure
    · rw [hreader]
      exact ⟨by simp, by simp⟩
    · rw [h.failure hfailure]
      exact ⟨by simp, by simp⟩
  cases action with
  | accept item size =>
    unfold step
    dsimp only
    split
    · next hreading => exact absurd hreading hreader.1
    · exact hbroken
  | put =>
    unfold step
    dsimp only
    split
    · next item size hholding => exact absurd hholding (hreader.2 item size)
    · exact hbroken
  | fail failure =>
    unfold step
    dsimp only
    split
    · next hreading => exact absurd hreading hreader.1
    · exact hbroken
  | finish =>
    unfold step Exchange.finish
    dsimp only
    split
    · exact .inr rfl
    · next hreading _ => exact absurd hreading hreader.1
    · next hreading _ => exact absurd hreading hreader.1
    · exact hbroken
  | poll returncode =>
    unfold step
    dsimp only
    split
    · rcases hbroken with ⟨e, hfailing⟩ | hfailure
      · refine .inl ⟨e, ?_⟩
        unfold poll
        split
        · next message inbox _ =>
          exact (handled c { x with inbox := inbox } message).shared.reader.trans hfailing
        · exact hfailing
        · unfold handleEof
          split <;> exact hfailing
        · exact hfailing
      · refine .inr ?_
        rw [inbox_poll, (flags_get x.inbox).1]
        exact hfailure
    · exact hbroken
  | decide stop =>
    unfold step
    dsimp only
    split
    · unfold Exchange.continueRun
      split <;> exact hbroken
    · exact hbroken
  | leave =>
    unfold step
    dsimp only
    split <;> exact hbroken

/-- A loop that was left is never entered again. -/
theorem left_step {returned : Option Result} (h : x.serving = .left returned) (action : Action) :
    (step c x action).serving = .left returned := by
  cases action with
  | accept item size =>
    unfold step Exchange.accept
    dsimp only
    split
    · split <;> exact h
    · exact h
  | put =>
    unfold step Exchange.put
    dsimp only
    split
    · split <;> exact h
    · exact h
  | fail failure =>
    unfold step
    dsimp only
    split <;> exact h
  | finish =>
    unfold step Exchange.finish
    dsimp only
    split
    · exact h
    · exact h
    · split <;> exact h
    · exact h
  | poll returncode =>
    unfold step
    dsimp only
    rw [h]
    exact h
  | decide stop =>
    unfold step
    dsimp only
    rw [h]
    exact h
  | leave =>
    unfold step
    dsimp only
    rw [h]
    exact h

/-! ## Everything arrives -/

/-- Unless the transport broke, every frame that was accepted is lost or on its way. -/
def Arriving (x : Exchange) : Prop := Broken x ∨ ∀ kind run, countOfRun kind run x.accepted =
  countOfRun kind run x.lost + countOfRun kind run x.pipeline

theorem Arriving.change (h : Arriving x) (hchange : Change c x y) (hbroken : Broken x → Broken y) :
    Arriving y := by
  rcases h with h | h
  · exact .inl (hbroken h)
  have hsame : y.accepted = x.accepted → y.lost = x.lost →
      (∀ kind run, countOfRun kind run y.pipeline = countOfRun kind run x.pipeline) → Arriving y :=
    fun haccepted hlost hpipeline => .inr fun kind run => by
      rw [haccepted, hlost, hpipeline]
      exact h kind run
  cases hchange with
  | quiet _ queued _ held _ log =>
    rcases held with held | ⟨-, hfailing, -⟩
    · refine hsame (select_same log) (select_same log) fun kind run => ?_
      rw [Exchange.pipeline, Exchange.taken, log, queued, held, Exchange.pipeline, Exchange.taken]
    · exact .inl (.inl hfailing)
  | accepted item held _ inbox holding _ log =>
    have htaken : y.taken = x.taken := select_append log rfl
    have hlost : y.lost = x.lost := select_append log rfl
    have haccepted : y.accepted = x.accepted ++ [item] := by
      rw [Exchange.accepted, log, List.filterMap_append]
      rfl
    refine .inr fun kind run => ?_
    have hcount := h kind run
    rw [Exchange.pipeline, held, List.append_nil] at hcount
    rw [haccepted, hlost, countOfRun_append, Exchange.pipeline, htaken, inbox, holding, countOfRun_append]
    omega
  | lost item held _ _ inbox empty _ log =>
    have htaken : y.taken = x.taken := select_append log rfl
    have haccepted : y.accepted = x.accepted := select_append log rfl
    have hlost : y.lost = x.lost ++ [item] := by
      rw [Exchange.lost, log, List.filterMap_append]
      rfl
    refine .inr fun kind run => ?_
    have hcount := h kind run
    rw [Exchange.pipeline, held, countOfRun_append] at hcount
    rw [haccepted, hlost, countOfRun_append, Exchange.pipeline, htaken, inbox, queued_drop, empty,
      List.append_nil]
    omega
  | queued item held _ _ queued _ empty _ log =>
    refine hsame (select_same log) (select_same log) fun kind run => ?_
    rw [Exchange.pipeline, Exchange.taken, log, queued, empty, Exchange.pipeline, Exchange.taken, held,
      List.append_nil, List.append_assoc]
  | stamped item held _ _ queued _ empty _ log =>
    refine hsame (select_same log) (select_same log) fun kind run => ?_
    rw [Exchange.pipeline, Exchange.taken, log, queued, empty, Exchange.pipeline, Exchange.taken, held,
      List.append_nil, ← List.append_assoc, countOfRun_append, countOfRun_append _ _ _ [item],
      countOfRun_singleton, ofRun_stampDropped, countOfRun_singleton]
  | taken item rest _ queued inbox behind _ handled =>
    obtain ⟨notes, hnotes, haccepted, hlost, -⟩ := handled.notes
    refine hsame (select_append hnotes haccepted) (select_append hnotes hlost) fun kind run => ?_
    rw [Exchange.pipeline, Attributed.taken_queued queued behind handled, handled.shared.reader,
      Exchange.pipeline]
  | continued _ _ _ _ _ _ inbox reader _ log =>
    refine hsame (select_same log) (select_same log) fun kind run => ?_
    rw [Exchange.pipeline, Exchange.taken, log, inbox, reader, Exchange.pipeline, Exchange.taken]

end Iperf3Lib.Parent
