import Iperf3Lib.Parent.Changes

/-!
# What the loop remembers

The invoking thread numbers the live events that it hands on and keeps the number of the results, the
last one and the error of the worker. `Advances` says what a part of the loop adds to the log and that
the memory follows it.
-/

namespace Iperf3Lib.Parent

open Py Json Ipc Results

/-- A result that was read. -/
def Note.resultRead : Note → Option Result
  | result _ read => some read
  | _ => none

/-- A live event that a callback got. -/
def Note.heard : Note → Option LiveEvent
  | live _ event | state event | gap event => some event
  | _ => none

namespace Exchange

/-- The results that were read. -/
def resultsRead (x : Exchange) : List Result := x.log.filterMap Note.resultRead

/-- The live events that a callback got. -/
def heard (x : Exchange) : List LiveEvent := x.log.filterMap Note.heard

/-- Live events whose numbers lie behind the first one, up to the last one, and increase. -/
structure Numbered (first last : ℕ) (events : List LiveEvent) : Prop where
  le : first ≤ last
  bounds : ∀ event ∈ events, first < event.deliverySequence ∧ event.deliverySequence ≤ last
  increasing : events.Pairwise fun a b => a.deliverySequence < b.deliverySequence

namespace Numbered

theorem nil {first last : ℕ} (h : first ≤ last) : Numbered first last [] := ⟨h, by simp, .nil⟩

theorem single {first : ℕ} {event : LiveEvent} (h : event.deliverySequence = first + 1) :
    Numbered first (first + 1) [event] :=
  ⟨Nat.le_succ _, by simp [h], List.pairwise_singleton _ _⟩

theorem append {first middle last : ℕ} {events events' : List LiveEvent}
    (h : Numbered first middle events) (h' : Numbered middle last events') :
    Numbered first last (events ++ events') := by
  refine ⟨h.le.trans h'.le, ?_, List.pairwise_append.mpr ⟨h.increasing, h'.increasing, ?_⟩⟩
  · refine List.forall_mem_append.mpr ⟨fun event hevent => ?_, fun event hevent => ?_⟩
    · exact ⟨(h.bounds event hevent).1, (h.bounds event hevent).2.trans h'.le⟩
    · exact ⟨h.le.trans_lt (h'.bounds event hevent).1, (h'.bounds event hevent).2⟩
  · intro a ha b hb
    exact (h.bounds a ha).2.trans_lt (h'.bounds b hb).1

end Numbered

/-- A part of the loop adds notes, and the memory follows. -/
structure Advances (x y : Exchange) (notes : List Note) : Prop where
  log : y.log = x.log ++ notes
  count : y.count = x.count + (notes.filterMap Note.resultRead).length
  last : y.lastResult = (notes.filterMap Note.resultRead).getLast?.or x.lastResult
  worker : x.workerError.isSome = true → y.workerError.isSome = true
  failed : ∀ item ∈ notes.filterMap Note.takenItem, isKind "error" item = true →
    y.workerError.isSome = true
  numbered : Numbered x.deliverySequence y.deliverySequence (notes.filterMap Note.heard)

namespace Advances

variable {x y z : Exchange} {notes notes' : List Note}

/-- Nothing is remembered. -/
theorem same (hlog : y.log = x.log) (hcount : y.count = x.count) (hlast : y.lastResult = x.lastResult)
    (hworker : y.workerError = x.workerError) (hsequence : y.deliverySequence = x.deliverySequence) :
    Advances x y [] :=
  ⟨by rw [hlog, List.append_nil], hcount, hlast, fun h => by rwa [hworker], by simp,
    .nil hsequence.ge⟩

theorem trans (h : Advances x y notes) (h' : Advances y z notes') : Advances x z (notes ++ notes') where
  log := by rw [h'.log, h.log, List.append_assoc]
  count := by rw [h'.count, h.count, List.filterMap_append, List.length_append, Nat.add_assoc]
  last := by
    rw [h'.last, h.last, List.filterMap_append, List.getLast?_append, Option.or_assoc]
  worker hx := h'.worker (h.worker hx)
  failed := by
    rw [List.filterMap_append]
    exact List.forall_mem_append.mpr ⟨fun item hitem hkind => h'.worker (h.failed item hitem hkind),
      h'.failed⟩
  numbered := by
    rw [List.filterMap_append]
    exact h.numbered.append h'.numbered

/-- A live event that is handed on, when a callback wants it, takes the next number. -/
theorem deliver (c : Invocation) (x : Exchange) (note : Note) {event : LiveEvent}
    (hheard : note.heard = some event) (hsequence : event.deliverySequence = x.deliverySequence + 1)
    (hread : note.resultRead = none) (herror : ∀ item, note.takenItem = some item →
      isKind "error" item = false) :
    Advances x (x.advance.deliverLive c note) [note] ∨ Advances x (x.advance.deliverLive c note) [] := by
  unfold deliverLive call
  split
  · refine .inl ⟨rfl, ?_, ?_, id, ?_, ?_⟩
    · rw [List.filterMap_cons_none hread]
      rfl
    · rw [List.filterMap_cons_none hread]
      rfl
    · intro item hitem hkind
      obtain ⟨other, hother, hitem⟩ := List.mem_filterMap.mp hitem
      rw [List.mem_singleton.mp hother] at hitem
      rw [herror item hitem] at hkind
      cases hkind
    · rw [List.filterMap_cons_some hheard]
      exact .single hsequence
  · exact .inr ⟨(List.append_nil _).symm, rfl, rfl, id, by simp, .nil (Nat.le_succ _)⟩

end Advances

variable {c : Invocation} {x : Exchange}

/-- What is neither a result nor the error of the worker is only noted. -/
theorem advances_note {y : Exchange} {note : Note} (hlog : y.log = x.log ++ [note])
    (hcount : y.count = x.count) (hlast : y.lastResult = x.lastResult)
    (hworker : y.workerError = x.workerError) (hsequence : x.deliverySequence ≤ y.deliverySequence)
    (hread : note.resultRead = none) (hheard : note.heard = none)
    (herror : ∀ item, note.takenItem = some item → isKind "error" item = false) :
    Advances x y [note] where
  log := hlog
  count := by
    rw [List.filterMap_cons_none hread]
    exact hcount
  last := by
    rw [List.filterMap_cons_none hread]
    exact hlast
  worker h := by rwa [hworker]
  failed item hitem hkind := by
    obtain ⟨other, hother, hitem⟩ := List.mem_filterMap.mp hitem
    rw [List.mem_singleton.mp hother] at hitem
    rw [herror item hitem] at hkind
    cases hkind
  numbered := by
    rw [List.filterMap_cons_none hheard]
    exact .nil hsequence

/-- The gaps behind a result are numbered one after the other. -/
theorem advances_gaps (c : Invocation) (identity : LiveEvent) (stages : List (String × ℤ)) (x : Exchange) :
    ∃ notes, Advances x (stages.foldl (deliverGap c identity) x) notes ∧
      notes.filterMap Note.resultRead = [] := by
  induction stages generalizing x with
  | nil => exact ⟨[], .same rfl rfl rfl rfl rfl, rfl⟩
  | cons stage stages ih =>
    rw [List.foldl_cons]
    obtain ⟨notes, hrest, hread⟩ := ih (deliverGap c identity x stage)
    have hfirst : ∃ notes, Advances x (deliverGap c identity x stage) notes ∧
        notes.filterMap Note.resultRead = [] := by
      unfold deliverGap
      split
      · exact ⟨[], .same rfl rfl rfl rfl rfl, rfl⟩
      · rcases Advances.deliver c x (.gap (makeDeliveryGapEvent stage.1 stage.2.toNat
          (x.deliverySequence + 1) (some identity))) rfl rfl rfl (by simp [Note.takenItem]) with h | h
        · exact ⟨_, h, rfl⟩
        · exact ⟨_, h, rfl⟩
    obtain ⟨notes', hfirst, hread'⟩ := hfirst
    exact ⟨notes' ++ notes, hfirst.trans hrest, by rw [List.filterMap_append, hread', hread]; rfl⟩

theorem advances_ready {message : PyDict} (hkind : isKind "error" message = false) :
    ∃ notes, Advances x (({ x with log := x.log ++ [.control message] } : Exchange).deliverState c .ready)
      notes := by
  have hnoted : Advances x { x with log := x.log ++ [.control message] } [.control message] :=
    advances_note rfl rfl rfl rfl (le_refl _) rfl rfl fun item hitem => by
      obtain rfl := Option.some.inj hitem
      exact hkind
  rcases Advances.deliver c { x with log := x.log ++ [.control message] }
    (.state (({ x with log := x.log ++ [.control message] } : Exchange).stateEvent c .ready)) rfl
    rfl rfl (by simp [Note.takenItem]) with h | h
  · exact ⟨_, hnoted.trans h⟩
  · exact ⟨_, hnoted.trans h⟩

theorem advances_event {message : PyDict} (hkind : isKind "error" message = false) :
    ∃ notes, Advances x (x.handleEvent c message) notes := by
  unfold handleEvent call
  split
  · refine ⟨_, advances_note rfl rfl rfl rfl (le_refl _) rfl rfl fun item hitem => ?_⟩
    obtain rfl := Option.some.inj hitem
    exact hkind
  · refine ⟨_, advances_note rfl rfl rfl rfl (le_refl _) rfl rfl fun item hitem => ?_⟩
    obtain rfl := Option.some.inj hitem
    exact hkind

theorem advances_live {message : PyDict} (hkind : isKind "error" message = false) :
    ∃ notes, Advances x (x.handleLive c message) notes := by
  have herror : ∀ item, some message = some item → isKind "error" item = false := fun item hitem => by
    rw [← Option.some.inj hitem]
    exact hkind
  unfold handleLive
  split
  · dsimp only
    split
    · next event projector hproject =>
      have hevent : (x.advance.projector.project c.faults message x.advance.deliverySequence).1 =
          .ok event := congrArg Prod.fst hproject
      obtain ⟨payload, rfl⟩ := LiveProjector.project_envelope hevent
      -- the projector and its counter are no memory of the loop
      set y : Exchange := { x with
        projector := projector
        projectionMalformed := x.projectionMalformed +
          if isMalformedProjection message (LiveProjector.envelope message x.advance.deliverySequence
            payload) then 1 else 0 } with hy
      have hsame : Advances x y [] := .same rfl rfl rfl rfl rfl
      rcases Advances.deliver c y (.live message (LiveProjector.envelope message
        x.advance.deliverySequence payload)) rfl rfl rfl herror with h | h
      · exact ⟨_, hsame.trans h⟩
      · exact ⟨_, hsame.trans h⟩
    · exact ⟨_, advances_note rfl rfl rfl rfl (Nat.le_succ _) rfl rfl herror⟩
  · exact ⟨_, advances_note rfl rfl rfl rfl (le_refl _) rfl rfl herror⟩

theorem advances_deliverGaps (c : Invocation) (x : Exchange) (message : PyDict) :
    ∃ notes, Advances x (x.deliverGaps c message) notes ∧ notes.filterMap Note.resultRead = [] := by
  unfold deliverGaps
  split
  · obtain ⟨notes, h, hread⟩ := advances_gaps c (x.identity c message) (x.stages message) x
    exact ⟨notes, ⟨h.log, h.count, h.last, h.worker, h.failed, h.numbered⟩, hread⟩
  · exact ⟨[], .same rfl rfl rfl rfl rfl, rfl⟩

theorem memory_deliverResult (c : Invocation) (x : Exchange) : (x.deliverResult c).log = x.log ∧ (x.deliverResult c).count = x.count ∧
    (x.deliverResult c).lastResult = x.lastResult ∧ (x.deliverResult c).workerError = x.workerError ∧
    (x.deliverResult c).deliverySequence = x.deliverySequence := by
  unfold deliverResult
  split <;> exact ⟨rfl, rfl, rfl, rfl, rfl⟩

theorem advances_result {message : PyDict} {result : Result} (hkind : isKind "error" message = false) :
    ∃ notes, Advances x (x.handleResult c message result) notes := by
  unfold handleResult
  dsimp only
  set x₁ : Exchange := { x with lastResult := some result, log := x.log ++ [.result message result] }
  obtain ⟨notes, hgaps, hread⟩ := advances_deliverGaps c x₁ message
  set x₂ := x₁.deliverGaps c message
  obtain ⟨hlog, hcount, hlast, hworker, hsequence⟩ := memory_deliverResult c
    { x₂ with count := x₂.count + 1, serving := servingBehind c result }
  have hall : (Note.result message result :: notes).filterMap Note.resultRead = [result] := by
    exact congrArg (result :: ·) hread
  refine ⟨.result message result :: notes, ?_, ?_, ?_, fun h => ?_, ?_, ?_⟩
  · rw [hlog]
    change x₂.log = _
    rw [hgaps.log, List.append_assoc]
    rfl
  · rw [hcount, hall]
    change x₂.count + 1 = _
    rw [hgaps.count, hread]
    rfl
  · rw [hlast, hall]
    change x₂.lastResult = _
    rw [hgaps.last, hread]
    rfl
  · rw [hworker]
    exact hgaps.worker h
  · rw [hworker]
    refine List.forall_mem_cons.mpr ⟨fun herror => ?_, hgaps.failed⟩
    rw [hkind] at herror
    cases herror
  · rw [List.filterMap_cons_none rfl, hsequence]
    exact hgaps.numbered

/-- Whatever the loop does with a message, the memory follows the log. -/
theorem advances_handle (c : Invocation) (x : Exchange) (message : PyDict) :
    ∃ notes, Advances x (x.handle c message) notes := by
  have hkind : ∀ kind : String, (message.str? "type").getD [] = (kind : PyStr) → (kind : PyStr) ≠ [] →
      (kind : PyStr) ≠ ("error" : String) → isKind "error" message = false := by
    intro kind hget hne hother
    rw [isKind, decide_eq_false_iff_not]
    intro htype
    rw [htype] at hget
    exact hother hget.symm
  unfold handle
  dsimp only
  split
  · next h => exact advances_ready (hkind _ h (by decide) (by decide))
  split
  · next h => exact advances_event (hkind _ h (by decide) (by decide))
  split
  · next h => exact advances_live (hkind _ h (by decide) (by decide))
  split
  · next h =>
    have herror := hkind _ h (by decide) (by decide)
    split
    · exact advances_result herror
    · exact ⟨_, advances_note rfl rfl rfl rfl (le_refl _) rfl rfl fun item hitem => by
        rw [← Option.some.inj hitem]
        exact herror⟩
  split
  · exact ⟨[.control message], rfl, rfl, rfl, fun _ => rfl, fun _ _ _ => rfl, .nil (le_refl _)⟩
  · next h =>
    refine ⟨_, advances_note rfl rfl rfl rfl (le_refl _) rfl rfl fun item hitem => ?_⟩
    rw [← Option.some.inj hitem, isKind, decide_eq_false_iff_not]
    intro htype
    exact h (by rw [htype]; rfl)

/-- What the reading thread notes is no memory of the loop. -/
theorem advances_put {item : PyDict} {size : ℕ} : ∃ notes, Advances x (x.put item size) notes := by
  unfold Exchange.put
  split
  · split
    · exact ⟨_, advances_note rfl rfl rfl rfl (le_refl _) rfl rfl (by simp [Note.takenItem])⟩
    · exact ⟨[], .same rfl rfl rfl rfl rfl⟩
  · exact ⟨[], .same rfl rfl rfl rfl rfl⟩

theorem advances_accept {item : PyDict} {size : ℕ} : ∃ notes, Advances x (x.accept item size) notes := by
  unfold Exchange.accept
  split
  · exact ⟨_, advances_note rfl rfl rfl rfl (le_refl _) rfl rfl (by simp [Note.takenItem])⟩
  · exact ⟨[], .same rfl rfl rfl rfl rfl⟩

theorem advances_poll (returncode : ℤ) : ∃ notes, Advances x (x.poll c returncode) notes := by
  unfold poll
  split
  · next message inbox _ =>
    obtain ⟨notes, h⟩ := advances_handle c { x with inbox := inbox } message
    exact ⟨notes, h.log, h.count, h.last, h.worker, h.failed, h.numbered⟩
  · exact ⟨[], .same rfl rfl rfl rfl rfl⟩
  · unfold handleEof
    split <;> exact ⟨[], .same rfl rfl rfl rfl rfl⟩
  · exact ⟨[], .same rfl rfl rfl rfl rfl⟩

/-- In every step the memory follows the log. -/
theorem advances_step (c : Invocation) (x : Exchange) (action : Action) :
    ∃ notes, Advances x (step c x action) notes := by
  have hsame : ∃ notes, Advances x x notes := ⟨[], .same rfl rfl rfl rfl rfl⟩
  cases action with
  | accept item size =>
    unfold step
    dsimp only
    split
    · exact advances_accept
    · exact hsame
  | put =>
    unfold step
    dsimp only
    split
    · exact advances_put
    · exact hsame
  | fail failure =>
    unfold step
    dsimp only
    split
    · exact ⟨[], .same rfl rfl rfl rfl rfl⟩
    · exact hsame
  | finish =>
    unfold step Exchange.finish
    dsimp only
    split
    · exact ⟨[], .same rfl rfl rfl rfl rfl⟩
    · exact ⟨[], .same rfl rfl rfl rfl rfl⟩
    · split
      · exact ⟨[], .same rfl rfl rfl rfl rfl⟩
      · exact hsame
    · exact hsame
  | poll returncode =>
    unfold step
    dsimp only
    split
    · exact advances_poll returncode
    · exact hsame
  | decide stop =>
    unfold step
    dsimp only
    split
    · unfold Exchange.continueRun
      split <;> exact ⟨[], .same rfl rfl rfl rfl rfl⟩
    · exact hsame
  | leave =>
    unfold step
    dsimp only
    split
    · exact hsame
    · exact ⟨[], .same rfl rfl rfl rfl rfl⟩

/-! ## The memory of a whole exchange -/

/-- The memory is that of the log. -/
structure Remembered (x : Exchange) : Prop where
  count : x.count = x.resultsRead.length
  last : x.lastResult = x.resultsRead.getLast?
  worker : ∀ item ∈ x.taken, isKind "error" item = true → x.workerError.isSome = true
  numbered : Numbered 0 x.deliverySequence x.heard

theorem Remembered.advance {y : Exchange} {notes : List Note} (h : Remembered x)
    (hadvances : Advances x y notes) : Remembered y where
  count := by
    rw [hadvances.count, h.count, resultsRead, resultsRead, hadvances.log, List.filterMap_append,
      List.length_append]
  last := by
    rw [hadvances.last, h.last, resultsRead, resultsRead, hadvances.log, List.filterMap_append,
      List.getLast?_append]
  worker item hitem hkind := by
    rw [Exchange.taken, hadvances.log, List.filterMap_append] at hitem
    rcases List.mem_append.mp hitem with hitem | hitem
    · exact hadvances.worker (h.worker item hitem hkind)
    · exact hadvances.failed item hitem hkind
  numbered := by
    rw [heard, hadvances.log, List.filterMap_append]
    exact h.numbered.append hadvances.numbered

theorem Remembered.initial (c : Invocation) (session : Session) (pid : ℤ) :
    Remembered (initial c session pid) := by
  unfold Exchange.initial
  dsimp only
  set x : Exchange := ({
    responses := .initial session c.role pid c.onLiveEvent
    projector := { role := c.role } } : Exchange)
  have hempty : Remembered x := ⟨rfl, rfl, by simp [Exchange.taken, x], .nil (le_refl _)⟩
  have hstarted : Remembered (x.deliverState c .starting) := by
    rcases Advances.deliver c x (.state (x.stateEvent c .starting)) rfl rfl rfl
      (by simp [Note.takenItem]) with h | h
    · exact hempty.advance h
    · exact hempty.advance h
  split
  · exact ⟨hstarted.count, hstarted.last, hstarted.worker, hstarted.numbered⟩
  · exact hstarted

end Exchange

end Iperf3Lib.Parent
