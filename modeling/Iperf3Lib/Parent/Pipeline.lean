import Iperf3Lib.Parent.Exchange

/-!
# The frames between the worker and the application

`pipeline` lists the frames that were accepted and not lost, in the order in which they were accepted:
those that were taken, those in the inbox and the one that the reading thread holds. `Change` says once
what a step of the exchange can do to it.
-/

namespace Iperf3Lib.Parent

open Py Json Ipc Results

/-! ## Frames of a run -/

/-- A frame of a type and a run. -/
def ofRun (kind : String) (run : ℕ) (item : PyDict) : Bool :=
  isKind kind item && item.int? "run_index" = some (run : ℤ)

theorem ofRun_iff {kind : String} {run : ℕ} {item : PyDict} :
    ofRun kind run item = true ↔ isKind kind item = true ∧ item.int? "run_index" = some (run : ℤ) := by
  rw [ofRun, Bool.and_eq_true, decide_eq_true_eq]

/-- The frames of a type and a run. -/
def countOfRun (kind : String) (run : ℕ) (items : List PyDict) : ℕ := items.countP (ofRun kind run)

@[simp] theorem countOfRun_nil (kind : String) (run : ℕ) : countOfRun kind run [] = 0 := rfl

@[simp] theorem countOfRun_append (kind : String) (run : ℕ) (items items' : List PyDict) :
    countOfRun kind run (items ++ items') = countOfRun kind run items + countOfRun kind run items' :=
  List.countP_append

theorem countOfRun_singleton (kind : String) (run : ℕ) (item : PyDict) :
    countOfRun kind run [item] = if ofRun kind run item then 1 else 0 := List.countP_singleton

theorem countOfRun_eq_zero {kind : String} {run : ℕ} {items : List PyDict} :
    countOfRun kind run items = 0 ↔ ∀ item ∈ items, ofRun kind run item = false := by
  rw [countOfRun, List.countP_eq_zero]
  simp only [Bool.not_eq_true]

theorem countOfRun_pos {kind : String} {run : ℕ} {items : List PyDict} :
    0 < countOfRun kind run items ↔ ∃ item ∈ items, ofRun kind run item = true :=
  List.countP_pos_iff

theorem ofRun_stampDropped (kind : String) (run : ℕ) (item : PyDict) (m n : ℕ) :
    ofRun kind run (stampDropped item m n) = ofRun kind run item := by
  rw [ofRun, Inbox.isKind_stampDropped, ofRun, PyDict.int?, PyDict.int?,
    Inbox.get?_stampDropped m n (PyStr.ofString_injective.ne (by decide))
      (PyStr.ofString_injective.ne (by decide))]

/-! ## What became of the frames -/

namespace Note

def acceptedItem : Note → Option PyDict
  | accepted item => some item
  | _ => none

def lostItem : Note → Option PyDict
  | lost item => some item
  | _ => none

def unprojectedItem : Note → Option PyDict
  | unprojected item => some item
  | _ => none

/-- The frame of a live event that was handed on. -/
def liveItem : Note → Option PyDict
  | live item _ => some item
  | _ => none

/-- The frame of a native event that was handed on. -/
def nativeItem : Note → Option PyDict
  | native item _ => some item
  | _ => none

def ignoredItem : Note → Option PyDict
  | ignored item => some item
  | _ => none

/-- The frame of a result that was read. -/
def resultItem : Note → Option PyDict
  | result item _ => some item
  | _ => none

/-- The frame that was taken out of the inbox. -/
def takenItem : Note → Option PyDict
  | ignored item | unprojected item | live item _ | native item _ | result item _ | unreadable item
  | control item => some item
  | accepted _ | lost _ | state _ | gap _ => none

end Note

/-- What one function selects of the log, the other selects as well. -/
theorem filterMap_sublist {α β : Type} {f g : α → Option β} (h : ∀ a b, f a = some b → g a = some b)
    (xs : List α) : (xs.filterMap f).Sublist (xs.filterMap g) := by
  induction xs with
  | nil => exact List.Sublist.slnil
  | cons a xs ih =>
    rw [List.filterMap_cons, List.filterMap_cons]
    cases hf : f a with
    | none =>
      cases g a with
      | none => exact ih
      | some b => exact ih.cons b
    | some b =>
      rw [h a b hf]
      exact ih.cons_cons b

/-- The frame in the hands of the reading thread. -/
def Reading.held : Reading → List PyDict
  | holding item _ => [item]
  | reading | failing _ | finished => []

/-- The frames in the inbox. -/
def Inbox.queued (q : Inbox) : List PyDict := q.items.map Prod.fst

/-- A frame that is dropped leaves the others. -/
theorem queued_drop (q : Inbox) (item : PyDict) : (q.drop item).queued = q.queued := by
  unfold Inbox.drop
  split <;> rfl

namespace Exchange

def accepted (x : Exchange) : List PyDict := x.log.filterMap Note.acceptedItem
def lost (x : Exchange) : List PyDict := x.log.filterMap Note.lostItem
def unprojected (x : Exchange) : List PyDict := x.log.filterMap Note.unprojectedItem
def handedLive (x : Exchange) : List PyDict := x.log.filterMap Note.liveItem
def handedNative (x : Exchange) : List PyDict := x.log.filterMap Note.nativeItem
def ignored (x : Exchange) : List PyDict := x.log.filterMap Note.ignoredItem
def results (x : Exchange) : List PyDict := x.log.filterMap Note.resultItem
def taken (x : Exchange) : List PyDict := x.log.filterMap Note.takenItem

/-- What the new notes do not show stays as it is. -/
theorem select_append {f : Note → Option PyDict} {notes : List Note} {x y : Exchange}
    (hlog : y.log = x.log ++ notes) (hnone : notes.filterMap f = []) :
    y.log.filterMap f = x.log.filterMap f := by
  rw [hlog, List.filterMap_append, hnone, List.append_nil]

theorem select_same {f : Note → Option PyDict} {x y : Exchange} (hlog : y.log = x.log) :
    y.log.filterMap f = x.log.filterMap f := by rw [hlog]

theorem results_sublist (x : Exchange) : x.results.Sublist x.taken :=
  filterMap_sublist (fun note _ h => by cases note <;> first | exact h | cases h) x.log

theorem unprojected_sublist (x : Exchange) : x.unprojected.Sublist x.taken :=
  filterMap_sublist (fun note _ h => by cases note <;> first | exact h | cases h) x.log

/-- The frames behind the reading thread's check, oldest first. -/
def pipeline (x : Exchange) : List PyDict := x.taken ++ x.inbox.queued ++ x.reader.held

/-! ## What a callback changes -/

section Callbacks

variable (c : Invocation) (x : Exchange)

/-- Nothing but the log, the callbacks and the deliveries differs. -/
structure Beside (x y : Exchange) : Prop where
  responses : y.responses = x.responses
  inbox : y.inbox = x.inbox
  reader : y.reader = x.reader
  serving : y.serving = x.serving
  projectionDropped : y.projectionDropped = x.projectionDropped
  error : x.callbackError = true → y.callbackError = true

namespace Beside

theorem refl (x : Exchange) : Beside x x := ⟨rfl, rfl, rfl, rfl, rfl, id⟩

theorem trans {x y z : Exchange} (h : Beside x y) (h' : Beside y z) : Beside x z :=
  ⟨h'.responses.trans h.responses, h'.inbox.trans h.inbox, h'.reader.trans h.reader,
    h'.serving.trans h.serving, h'.projectionDropped.trans h.projectionDropped, h'.error ∘ h.error⟩

end Beside

theorem beside_advance : Beside x x.advance := ⟨rfl, rfl, rfl, rfl, rfl, id⟩

theorem beside_deliverLive (note : Note) : Beside x (x.deliverLive c note) := by
  unfold deliverLive call
  split
  · next h => exact ⟨rfl, rfl, rfl, rfl, rfl, fun herror => absurd herror h.2⟩
  · exact .refl x

/-- What is delivered is the end of the log, unless the callback is not there or has raised. -/
theorem log_deliverLive (note : Note) :
    (x.deliverLive c note).log = x.log ++ [note] ∨
      ((x.deliverLive c note).log = x.log ∧ (x.deliverLive c note).callbackError = x.callbackError ∧
        (c.onLiveEvent = false ∨ x.callbackError = true)) := by
  unfold deliverLive call
  split
  · exact .inl rfl
  · next h =>
    refine .inr ⟨rfl, rfl, ?_⟩
    simpa only [not_and_or, not_not, Bool.not_eq_true, Bool.not_eq_false] using h

theorem deliverySequence_deliverLive (note : Note) :
    (x.deliverLive c note).deliverySequence = x.deliverySequence := by
  unfold deliverLive call
  split <;> rfl

end Callbacks

/-! ## The gaps behind a result -/

/-- The gaps that the numbers of dropped events call for. -/
def gapEvents (identity : LiveEvent) : ℕ → List (String × ℤ) → List LiveEvent
  | _, [] => []
  | sequence, stage :: stages =>
    if stage.2 = 0 then gapEvents identity sequence stages
    else makeDeliveryGapEvent stage.1 stage.2.toNat (sequence + 1) (some identity) ::
      gapEvents identity (sequence + 1) stages

variable {c : Invocation} {x : Exchange}

/-- A gap is delivered, or the callback has raised before. -/
theorem deliverGap_spec (hlive : c.onLiveEvent = true) (identity : LiveEvent) (stage : String × ℤ) :
    Beside x (deliverGap c identity x stage) ∧
      ∃ events, (deliverGap c identity x stage).log = x.log ++ events.map .gap ∧
        (∀ event ∈ events, event.runIndex = identity.runIndex) ∧
        ((deliverGap c identity x stage).callbackError = false →
          events = gapEvents identity x.deliverySequence [stage]) := by
  unfold deliverGap
  split
  · next hzero =>
    refine ⟨.refl x, [], (List.append_nil _).symm, by simp, fun _ => ?_⟩
    rw [gapEvents, if_pos hzero, gapEvents]
  · next hzero =>
    refine ⟨(beside_advance x).trans (beside_deliverLive c _ _), ?_⟩
    set event := makeDeliveryGapEvent stage.1 stage.2.toNat (x.deliverySequence + 1) (some identity)
    have hexpected : gapEvents identity x.deliverySequence [stage] = [event] := by
      rw [gapEvents, if_neg hzero, gapEvents]
    rw [hexpected]
    rcases log_deliverLive c x.advance (.gap event) with hnote | ⟨hnote, herror, hfailed⟩
    · exact ⟨[event], hnote, by simp [event, makeDeliveryGapEvent], fun _ => rfl⟩
    · refine ⟨[], by rw [hnote, List.map_nil, List.append_nil]; rfl, by simp, fun hok => ?_⟩
      rcases hfailed with hnone | hraised
      · rw [hlive] at hnone
        cases hnone
      · rw [herror, hraised] at hok
        cases hok

theorem deliverySequence_deliverGap (identity : LiveEvent) (stage : String × ℤ) :
    (deliverGap c identity x stage).deliverySequence =
      if stage.2 = 0 then x.deliverySequence else x.deliverySequence + 1 := by
  unfold deliverGap
  split
  · rfl
  · exact deliverySequence_deliverLive c _ _

/-- The gaps are delivered in order, all of them unless a callback raises. -/
theorem deliverGap_fold (hlive : c.onLiveEvent = true) (identity : LiveEvent)
    (stages : List (String × ℤ)) (x : Exchange) :
    Beside x (stages.foldl (deliverGap c identity) x) ∧
      ∃ events, (stages.foldl (deliverGap c identity) x).log = x.log ++ events.map .gap ∧
        (∀ event ∈ events, event.runIndex = identity.runIndex) ∧
        ((stages.foldl (deliverGap c identity) x).callbackError = false →
          events = gapEvents identity x.deliverySequence stages) := by
  induction stages generalizing x with
  | nil => exact ⟨.refl x, [], (List.append_nil _).symm, by simp, fun _ => rfl⟩
  | cons stage stages ih =>
    rw [List.foldl_cons]
    obtain ⟨hfirst, events, hlog, hrun, hall⟩ := deliverGap_spec hlive identity stage (x := x)
    obtain ⟨hrest, events', hlog', hrun', hall'⟩ := ih (deliverGap c identity x stage)
    refine ⟨hfirst.trans hrest, events ++ events', ?_, List.forall_mem_append.mpr ⟨hrun, hrun'⟩,
      fun hok => ?_⟩
    · rw [hlog', hlog, List.append_assoc, List.map_append]
    · have hbefore : (deliverGap c identity x stage).callbackError = false := by
        by_contra hraised
        rw [hrest.error (Bool.not_eq_false _ ▸ hraised)] at hok
        cases hok
      rw [hall hbefore, hall' hok, deliverySequence_deliverGap]
      by_cases hzero : stage.2 = 0 <;> simp [gapEvents, hzero]

/-! ## What the loop does with a message -/

/-- The threads share the same, and a callback that raised stays raised. -/
structure SameShared (x y : Exchange) : Prop where
  responses : y.responses = x.responses
  inbox : y.inbox = x.inbox
  reader : y.reader = x.reader
  error : x.callbackError = true → y.callbackError = true

theorem Beside.sameShared {x y : Exchange} (h : Beside x y) : SameShared x y :=
  ⟨h.responses, h.inbox, h.reader, h.error⟩

/-- What the loop does with a message, by its type. -/
inductive Handled (c : Invocation) (message : PyDict) (x y : Exchange) : Prop where
  | control (event : isEvent message = false) (result : isKind "result" message = false)
      (beside : Beside x y) (states : List LiveEvent)
      (log : y.log = x.log ++ .control message :: states.map .state)
  | native (kind : isKind "event" message = true) (beside : Beside x y) (event : NativeEvent)
      (log : y.log = x.log ++ [.native message event])
  | live (kind : isKind "live_event" message = true) (beside : Beside x y)
      (payload : LiveEventKind × LivePayload)
      (log : y.log = x.log ++
        [.live message (LiveProjector.envelope message (x.deliverySequence + 1) payload)])
  | ignored (event : isEvent message = true) (beside : Beside x y)
      (log : y.log = x.log ++ [.ignored message])
      (native : isKind "event" message = true → c.onEvent = false ∨ x.callbackError = true)
      (live : isKind "live_event" message = true → c.onLiveEvent = false ∨ x.callbackError = true)
  | unprojected (kind : isKind "live_event" message = true) (wanted : c.onLiveEvent = true)
      (shared : SameShared x y) (serving : y.serving = x.serving)
      (log : y.log = x.log ++ [.unprojected message])
      (dropped : y.projectionDropped = x.projectionDropped + 1)
  | result (kind : isKind "result" message = true) (shared : SameShared x y) (result : Result)
      (read : x.readResult c message = .ok result) (serving : y.serving = servingBehind c result)
      (events : List LiveEvent)
      (log : y.log = x.log ++ .result message result :: events.map .gap)
      (run : ∀ event ∈ events, event.runIndex = message.int? "run_index")
      (dropped : c.onLiveEvent = true → y.projectionDropped = 0)
      (gaps : c.onLiveEvent = true → y.callbackError = false →
        events = gapEvents (x.identity c message) x.deliverySequence (x.stages message))
  | unreadable (kind : isKind "result" message = true) (shared : SameShared x y)
      (serving : y.serving = .left none) (log : y.log = x.log ++ [.unreadable message])
      (dropped : y.projectionDropped = x.projectionDropped)

/-- The notes of a message tell that it was taken. -/
theorem Handled.notes {message : PyDict} {y : Exchange} (h : Handled c message x y) :
    ∃ notes, y.log = x.log ++ notes ∧ notes.filterMap Note.acceptedItem = [] ∧
      notes.filterMap Note.lostItem = [] ∧ notes.filterMap Note.takenItem = [message] := by
  cases h with
  | control _ _ _ states log =>
    exact ⟨_, log, by simp [Note.acceptedItem],
      by simp [Note.lostItem],
      by simp [Note.takenItem, List.filterMap_map, Function.comp_def]⟩
  | native _ _ _ log => exact ⟨_, log, rfl, rfl, rfl⟩
  | live _ _ _ log => exact ⟨_, log, rfl, rfl, rfl⟩
  | ignored _ _ log => exact ⟨_, log, rfl, rfl, rfl⟩
  | unprojected _ _ _ _ log => exact ⟨_, log, rfl, rfl, rfl⟩
  | result _ _ _ _ _ events log =>
    exact ⟨_, log, by simp [Note.acceptedItem],
      by simp [Note.lostItem],
      by simp [Note.takenItem, List.filterMap_map, Function.comp_def]⟩
  | unreadable _ _ _ log => exact ⟨_, log, rfl, rfl, rfl⟩

theorem Handled.shared {message : PyDict} {y : Exchange} (h : Handled c message x y) :
    SameShared x y := by
  cases h with
  | control _ _ beside => exact beside.sameShared
  | native _ beside => exact beside.sameShared
  | live _ beside => exact beside.sameShared
  | ignored _ beside => exact beside.sameShared
  | unprojected _ _ shared => exact shared
  | result _ shared => exact shared
  | unreadable _ shared => exact shared

theorem beside_call (h : x.callbackError = false) (note : Note) : Beside x (x.call c note) :=
  ⟨rfl, rfl, rfl, rfl, rfl, fun herror => by rw [h] at herror; cases herror⟩

/-- A callback that is not called is not there or has raised. -/
theorem not_called {wanted : Bool} (h : ¬ (wanted = true ∧ ¬ x.callbackError = true)) :
    wanted = false ∨ x.callbackError = true := by
  simpa only [not_and_or, not_not, Bool.not_eq_true, Bool.not_eq_false] using h

theorem handled_event {message : PyDict} (hkind : isKind "event" message = true) :
    Handled c message x (x.handleEvent c message) := by
  unfold handleEvent
  split
  · next h => exact .native hkind (beside_call (Bool.not_eq_true _ ▸ h.2) _) _ rfl
  · next h =>
    refine .ignored (by rw [isEvent, hkind]; rfl) ⟨rfl, rfl, rfl, rfl, rfl, id⟩ rfl
      (fun _ => not_called h) fun hlive => ?_
    rw [isKind_eq_false hkind (by decide)] at hlive
    cases hlive

theorem handled_live {message : PyDict} (hkind : isKind "live_event" message = true) :
    Handled c message x (x.handleLive c message) := by
  unfold handleLive
  split
  · next h =>
    have hok : x.callbackError = false := Bool.not_eq_true _ ▸ h.2
    dsimp only
    split
    · next event projector hproject =>
      have hevent : (x.advance.projector.project c.faults message x.advance.deliverySequence).1 =
          .ok event := congrArg Prod.fst hproject
      obtain ⟨payload, rfl⟩ := LiveProjector.project_envelope hevent
      have hcall : ∀ y note, y.callbackError = x.callbackError →
          deliverLive c y note = y.call c note := fun y note hsame => by
        rw [deliverLive, if_pos ⟨h.1, hsame ▸ h.2⟩]
      rw [hcall _ _ ?_]
      · exact .live hkind
          ⟨rfl, rfl, rfl, rfl, rfl, fun herror => by rw [hok] at herror; cases herror⟩ payload rfl
      · rfl
    · exact .unprojected hkind h.1 ⟨rfl, rfl, rfl, id⟩ rfl rfl rfl
  · next h =>
    refine .ignored (by rw [isEvent, hkind]; simp) ⟨rfl, rfl, rfl, rfl, rfl, id⟩ rfl
      (fun hevent => ?_) fun _ => not_called h
    rw [isKind_eq_false hkind (by decide)] at hevent
    cases hevent

theorem shared_deliverResult : SameShared x (x.deliverResult c) := by
  unfold deliverResult
  split
  · next h => exact ⟨rfl, rfl, rfl, fun herror => absurd herror h.2⟩
  · exact ⟨rfl, rfl, rfl, id⟩

/-- `on_result` changes nothing else. -/
theorem deliverResult_spec : (x.deliverResult c).log = x.log ∧
    (x.deliverResult c).serving = x.serving ∧
    (x.deliverResult c).projectionDropped = x.projectionDropped := by
  unfold deliverResult
  split <;> exact ⟨rfl, rfl, rfl⟩

theorem handled_result {message : PyDict} {result : Result} (hkind : isKind "result" message = true)
    (hread : x.readResult c message = .ok result) :
    Handled c message x (x.handleResult c message result) := by
  unfold handleResult
  dsimp only
  set x₁ : Exchange := { x with lastResult := some result, log := x.log ++ [.result message result] }
  set x₂ := x₁.deliverGaps c message with hx₂
  set x₃ : Exchange := { x₂ with count := x₂.count + 1, serving := servingBehind c result }
  have hshared : SameShared x₃ (x₃.deliverResult c) := shared_deliverResult
  obtain ⟨hlog, hserving, hdropped⟩ := deliverResult_spec (c := c) (x := x₃)
  cases hlive : c.onLiveEvent with
  | false =>
    have hgaps : x₂ = x₁ := by rw [hx₂, deliverGaps, if_neg (by rw [hlive]; decide)]
    have hbeside : SameShared x x₂ := by
      rw [hgaps]
      exact ⟨rfl, rfl, rfl, id⟩
    have hlog₂ : x₂.log = x.log ++ [.result message result] := by rw [hgaps]
    exact .result hkind ⟨hshared.responses.trans hbeside.responses,
      hshared.inbox.trans hbeside.inbox, hshared.reader.trans hbeside.reader,
      fun herror => hshared.error (hbeside.error herror)⟩ result hread hserving []
      (hlog.trans hlog₂) (by simp) (fun h => by rw [hlive] at h; cases h)
      fun h => by rw [hlive] at h; cases h
  | true =>
    obtain ⟨hbeside, events, hevents, hrun, hall⟩ :=
      deliverGap_fold hlive (x₁.identity c message) (x₁.stages message) x₁
    have hgaps : x₂ = { (x₁.stages message).foldl (deliverGap c (x₁.identity c message)) x₁ with
        projectionDropped := 0
        projectionMalformed := 0 } := by rw [hx₂, deliverGaps, if_pos hlive]
    have hbeside₂ : SameShared x x₂ := by
      rw [hgaps]
      exact ⟨hbeside.responses, hbeside.inbox, hbeside.reader, hbeside.error⟩
    have hlog₂ : x₂.log = x.log ++ .result message result :: events.map .gap := by
      rw [hgaps]
      refine hevents.trans ?_
      rw [List.append_assoc]
      rfl
    have hzero : x₂.projectionDropped = 0 := by rw [hgaps]
    have herror₂ : x₂.callbackError =
        ((x₁.stages message).foldl (deliverGap c (x₁.identity c message)) x₁).callbackError := by
      rw [hgaps]
    refine .result hkind ⟨hshared.responses.trans hbeside₂.responses,
      hshared.inbox.trans hbeside₂.inbox, hshared.reader.trans hbeside₂.reader,
      fun herror => hshared.error (hbeside₂.error herror)⟩ result hread hserving events
      (hlog.trans hlog₂) hrun (fun _ => hdropped.trans hzero) fun _ hok => hall ?_
    by_contra hraised
    have := hshared.error (herror₂.trans (Bool.not_eq_false _ ▸ hraised))
    rw [hok] at this
    cases this

/-- Every message is handled by the branch of its type. -/
theorem handled (c : Invocation) (x : Exchange) (message : PyDict) :
    Handled c message x (x.handle c message) := by
  have hkind : ∀ kind : String, (kind : PyStr) ≠ [] →
      (message.str? "type").getD [] = (kind : PyStr) → isKind kind message = true := by
    intro kind hne hget
    unfold isKind
    cases htype : message.str? "type" with
    | none =>
      rw [htype] at hget
      exact absurd hget.symm hne
    | some text =>
      rw [htype] at hget
      exact decide_eq_true (congrArg some hget)
  have hother : ∀ kind : String, (message.str? "type").getD [] ≠ (kind : PyStr) →
      isKind kind message = false := by
    intro kind hne
    rw [isKind, decide_eq_false_iff_not]
    intro htype
    rw [htype] at hne
    exact hne rfl
  unfold handle
  dsimp only
  split
  · next hready =>
    have hready := hkind _ (by decide) hready
    have hlog := log_deliverLive c ({ x with log := x.log ++ [.control message] } : Exchange).advance
      (.state (({ x with log := x.log ++ [.control message] } : Exchange).stateEvent c .ready))
    have hbeside := beside_deliverLive c
      ({ x with log := x.log ++ [.control message] } : Exchange).advance
      (.state (({ x with log := x.log ++ [.control message] } : Exchange).stateEvent c .ready))
    have hstates : ∃ states : List LiveEvent,
        (({ x with log := x.log ++ [.control message] } : Exchange).deliverState c .ready).log =
          x.log ++ .control message :: states.map .state := by
      rcases hlog with hlog | ⟨hlog, -⟩
      · exact ⟨[_], hlog.trans (by rw [advance, List.append_assoc]; rfl)⟩
      · exact ⟨[], hlog⟩
    obtain ⟨states, hstates⟩ := hstates
    refine .control ?_ (isKind_eq_false hready (by decide)) ?_ states hstates
    · rw [isEvent, isKind_eq_false hready (by decide), isKind_eq_false hready (by decide)]
      rfl
    · exact ⟨hbeside.responses, hbeside.inbox, hbeside.reader, hbeside.serving,
        hbeside.projectionDropped, hbeside.error⟩
  split
  · next hevent => exact handled_event (hkind _ (by decide) hevent)
  split
  · next hlive => exact handled_live (hkind _ (by decide) hlive)
  split
  · next hresult =>
    split
    · next result hread => exact handled_result (hkind _ (by decide) hresult) hread
    · exact .unreadable (hkind _ (by decide) hresult) ⟨rfl, rfl, rfl, id⟩ rfl rfl rfl
  next hevent hlive hresult =>
  have hcontrol : isEvent message = false := by
    rw [isEvent, hother _ hevent, hother _ hlive]
    rfl
  split
  · exact .control hcontrol (hother _ hresult) ⟨rfl, rfl, rfl, rfl, rfl, id⟩ [] rfl
  · exact .control hcontrol (hother _ hresult) ⟨rfl, rfl, rfl, rfl, rfl, id⟩ [] rfl

end Exchange

end Iperf3Lib.Parent
