import Iperf3Lib.Parent.Balance

/-!
# The running counters

An event that was taken was handed on, refused by the projector or ignored, and `Noted` says for what
reason. `Attributed` relates the counters of the inbox and of the loop to the frames of the current
run.
-/

namespace Iperf3Lib.Parent

open Py Json Ipc Results Exchange

/-! ## What was handed on -/

/-- The note is about a frame of its type, and a live event is that of its frame. -/
def Note.Typed : Note → Prop
  | live item event => isKind "live_event" item = true ∧
      ∃ n payload, event = LiveProjector.envelope item n payload
  | native item _ => isKind "event" item = true
  | unprojected item => isKind "live_event" item = true
  | lost item | ignored item => isEvent item = true
  | control item => isEvent item = false
  | result item _ | unreadable item => isKind "result" item = true
  | accepted _ | state _ | gap _ => True

/-- Every note is about a frame of its type, and an event is ignored for a callback that is not there
or has raised. -/
structure Noted (c : Invocation) (x : Exchange) : Prop where
  typed : ∀ note ∈ x.log, note.Typed
  heard : x.callbackError = false → ∀ item ∈ x.ignored,
    (isKind "event" item = true → c.onEvent = false) ∧
      (isKind "live_event" item = true → c.onLiveEvent = false)

namespace Noted

variable {c : Invocation} {x y : Exchange}

theorem handled (h : Noted c x) {message : PyDict} (hhandled : Handled c message x y) : Noted c y := by
  have herror : y.callbackError = false → x.callbackError = false := by
    intro hok
    by_contra hraised
    rw [hhandled.shared.error (Bool.not_eq_false _ ▸ hraised)] at hok
    cases hok
  have hnotes : ∀ notes, y.log = x.log ++ notes → (∀ note ∈ notes, note.Typed) →
      notes.filterMap Note.ignoredItem = [] → Noted c y := by
    intro notes hlog htyped hignored
    refine ⟨?_, fun hok item hitem => h.heard (herror hok) item ?_⟩
    · rw [hlog]
      exact List.forall_mem_append.mpr ⟨h.typed, htyped⟩
    · rw [Exchange.ignored, hlog, List.filterMap_append, hignored, List.append_nil] at hitem
      exact hitem
  cases hhandled with
  | control event _ _ states log =>
    refine hnotes _ log ?_ (by simp [Note.ignoredItem])
    rw [List.forall_mem_cons]
    exact ⟨event, by simp [Note.Typed]⟩
  | native kind _ _ log => exact hnotes _ log (by simpa [Note.Typed] using kind) rfl
  | live kind _ payload log =>
    refine hnotes _ log (fun note hnote => ?_) rfl
    rw [List.mem_singleton.mp hnote]
    exact ⟨kind, _, payload, rfl⟩
  | ignored event _ log native live =>
    refine ⟨?_, fun hok item hitem => ?_⟩
    · rw [log]
      exact List.forall_mem_append.mpr ⟨h.typed, by simpa [Note.Typed] using event⟩
    · rw [Exchange.ignored, log, List.filterMap_append] at hitem
      rcases List.mem_append.mp hitem with hitem | hitem
      · exact h.heard (herror hok) item hitem
      · rw [List.mem_singleton.mp hitem]
        have hnot : x.callbackError ≠ true := by rw [herror hok]; decide
        exact ⟨fun hkind => (native hkind).resolve_right hnot,
          fun hkind => (live hkind).resolve_right hnot⟩
  | unprojected kind _ _ _ log => exact hnotes _ log (by simpa [Note.Typed] using kind) rfl
  | result kind _ _ _ _ events log =>
    refine hnotes _ log ?_ (by simp [Note.ignoredItem])
    rw [List.forall_mem_cons]
    exact ⟨kind, by simp [Note.Typed]⟩
  | unreadable kind _ _ log => exact hnotes _ log (by simpa [Note.Typed] using kind) rfl

theorem change (h : Noted c x) (hchange : Change c x y) : Noted c y := by
  have hnotes : ∀ notes, y.log = x.log ++ notes → (∀ note ∈ notes, note.Typed) →
      notes.filterMap Note.ignoredItem = [] → y.callbackError = x.callbackError → Noted c y := by
    intro notes hlog htyped hignored herror
    refine ⟨?_, fun hok item hitem => h.heard (herror ▸ hok) item ?_⟩
    · rw [hlog]
      exact List.forall_mem_append.mpr ⟨h.typed, htyped⟩
    · rw [Exchange.ignored, hlog, List.filterMap_append, hignored, List.append_nil] at hitem
      exact hitem
  cases hchange with
  | quiet _ _ _ _ _ log _ error => exact hnotes [] (by rw [log, List.append_nil]) (by simp) rfl error
  | accepted _ _ _ _ _ _ log _ error => exact hnotes _ log (by simp [Note.Typed]) rfl error
  | lost _ _ event _ _ _ _ log _ error => exact hnotes _ log (by simpa [Note.Typed] using event) rfl error
  | queued _ _ _ _ _ _ _ _ log _ error => exact hnotes [] (by rw [log, List.append_nil]) (by simp) rfl error
  | stamped _ _ _ _ _ _ _ _ log _ error => exact hnotes [] (by rw [log, List.append_nil]) (by simp) rfl error
  | taken item rest _ _ inbox _ _ hhandled =>
    exact handled (x := { x with inbox := inbox }) ⟨h.typed, h.heard⟩ hhandled
  | continued _ _ _ _ _ _ _ _ _ log _ error => exact hnotes [] (by rw [log, List.append_nil]) (by simp) rfl error

/-- An event that was taken was handed on, not projected or ignored. -/
theorem taken_eq (kind : String) (hkind : kind ∈ ["event", "live_event"]) (run : ℕ) {log : List Note}
    (htyped : ∀ note ∈ log, note.Typed) :
    countOfRun kind run (log.filterMap Note.takenItem) =
      countOfRun kind run (log.filterMap Note.liveItem) +
        countOfRun kind run (log.filterMap Note.nativeItem) +
        countOfRun kind run (log.filterMap Note.unprojectedItem) +
        countOfRun kind run (log.filterMap Note.ignoredItem) := by
  have hcons : ∀ (item : PyDict) items, countOfRun kind run (item :: items) =
      countOfRun kind run [item] + countOfRun kind run items := fun item items => by
    rw [← countOfRun_append, List.singleton_append]
  have hcontrol : ∀ {item}, isEvent item = false → countOfRun kind run [item] = 0 := by
    intro item hevent
    refine countOfRun_eq_zero.mpr fun frame hframe => ?_
    rw [List.mem_singleton.mp hframe]
    by_contra hof
    rw [isEvent_of_ofRun hkind (Bool.not_eq_false _ ▸ hof)] at hevent
    cases hevent
  induction log with
  | nil => rfl
  | cons note log ih =>
    obtain ⟨hnote, hlog⟩ := List.forall_mem_cons.mp htyped
    have hrest := ih hlog
    cases note with
    | accepted | lost | state | gap => exact hrest
    | live item | native item | unprojected item | ignored item =>
      simp only [List.filterMap_cons, Note.takenItem, Note.liveItem, Note.nativeItem,
        Note.unprojectedItem, Note.ignoredItem]
      rw [hcons _ (List.filterMap _ log), hrest, hcons _ (List.filterMap _ log)]
      omega
    | control item =>
      simp only [List.filterMap_cons, Note.takenItem, Note.liveItem, Note.nativeItem,
        Note.unprojectedItem, Note.ignoredItem]
      rw [hcons _ (List.filterMap _ log), hrest, hcontrol hnote, zero_add]
    | result item | unreadable item =>
      simp only [List.filterMap_cons, Note.takenItem, Note.liveItem, Note.nativeItem,
        Note.unprojectedItem, Note.ignoredItem]
      rw [hcons _ (List.filterMap _ log), hrest, hcontrol (not_event_of_result hnote), zero_add]

/-- What a function selects of the log is of a type. -/
theorem kind_of_mem (h : Noted c x) {f : Note → Option PyDict} {kind : String}
    (hf : ∀ note item, note.Typed → f note = some item → isKind kind item = true) :
    ∀ item ∈ x.log.filterMap f, isKind kind item = true := by
  intro item hitem
  obtain ⟨note, hnote, hselected⟩ := List.mem_filterMap.mp hitem
  exact hf note item (h.typed note hnote) hselected

theorem kind_handedLive (h : Noted c x) : ∀ item ∈ x.handedLive, isKind "live_event" item = true :=
  h.kind_of_mem fun note item htyped hselected => by
    cases note <;> cases hselected
    exact htyped.1

theorem kind_handedNative (h : Noted c x) : ∀ item ∈ x.handedNative, isKind "event" item = true :=
  h.kind_of_mem fun note item htyped hselected => by
    cases note <;> cases hselected
    exact htyped

theorem kind_unprojected (h : Noted c x) : ∀ item ∈ x.unprojected, isKind "live_event" item = true :=
  h.kind_of_mem fun note item htyped hselected => by
    cases note <;> cases hselected
    exact htyped

/-- Frames of one type are no frames of another. -/
theorem none_of_kind {kind other : String} (hne : (kind : PyStr) ≠ other) {items : List PyDict}
    (hitems : ∀ item ∈ items, isKind kind item = true) (run : ℕ) : countOfRun other run items = 0 :=
  countOfRun_eq_zero.mpr fun item hitem => by
    rw [ofRun, isKind_eq_false (hitems item hitem) hne]
    rfl

end Noted

/-! ## The running counters -/

/-- The counter of dropped events of a type. -/
def Inbox.dropsOf (q : Inbox) (kind : String) : ℕ :=
  if kind = "live_event" then q.liveDropped else q.dropped

theorem dropsOf_drop {q : Inbox} {item : PyDict} (hevent : isEvent item = true) {kind : String}
    (hkind : kind ∈ ["event", "live_event"]) :
    (q.drop item).dropsOf kind = q.dropsOf kind + if isKind kind item = true then 1 else 0 := by
  simp only [List.mem_cons, List.not_mem_nil, or_false] at hkind
  rw [isEvent, Bool.or_eq_true] at hevent
  unfold Inbox.drop Inbox.dropsOf
  rcases hkind with rfl | rfl <;> rcases hevent with h | h
  · rw [isKind_eq_false h (show (("event" : String) : PyStr) ≠ ("live_event" : String) by decide), h]
    rfl
  · rw [isKind_eq_false h (show (("live_event" : String) : PyStr) ≠ ("event" : String) by decide), h]
    rfl
  · rw [isKind_eq_false h (show (("event" : String) : PyStr) ≠ ("live_event" : String) by decide)]
    rfl
  · rw [h]
    rfl

/-- The counters are those of the current run: the inbox counts until the result is there, and the
projector until it is read. -/
structure Attributed (c : Invocation) (x : Exchange) : Prop where
  drops : ∀ kind ∈ ["event", "live_event"], x.inbox.dropsOf kind =
    if countOfRun "result" x.responses.run (x.taken ++ x.inbox.queued) = 0 then
      countOfRun kind x.responses.run x.lost else 0
  projection : c.onLiveEvent = true → x.projectionDropped =
    if countOfRun "result" x.responses.run x.results = 0 then
      countOfRun "live_event" x.responses.run x.unprojected else 0

namespace Attributed

variable {c : Invocation} {x y : Exchange}

/-- While an event is held, the result of the run is nowhere. -/
theorem none_of_held (h : Placed x) {item : PyDict} (hheld : x.reader.held = [item])
    (hevent : isEvent item = true) : item.int? "run_index" = some (x.responses.run : ℤ) ∧
      countOfRun "result" x.responses.run x.pipeline = 0 := by
  have hitem : item ∈ x.reader.held := hheld ▸ List.mem_singleton_self item
  exact ⟨h.current item (List.mem_append_right _ hitem) (isPayload_of_isEvent hevent),
    h.none_pending (h.pending (.inr ((h.held item hitem).1 hevent)))⟩

/-- A frame that is taken leaves the frames that were taken or are queued as they are. -/
theorem taken_queued {item : PyDict} {rest : List PyDict} {inbox : Inbox}
    (hqueued : x.inbox.queued = item :: rest) (hbehind : inbox.queued = rest)
    (h : Handled c item { x with inbox := inbox } y) :
    y.taken ++ y.inbox.queued = x.taken ++ x.inbox.queued := by
  obtain ⟨notes, hnotes, -, -, hitem⟩ := h.notes
  rw [Exchange.taken, hnotes, List.filterMap_append, hitem, h.shared.inbox, hbehind, hqueued,
    Exchange.taken, List.append_assoc]
  rfl

theorem lost_handled {item : PyDict} (h : Handled c item x y) : y.lost = x.lost := by
  obtain ⟨notes, hnotes, -, hlost, -⟩ := h.notes
  exact select_append hnotes hlost

theorem drops_change (h : Attributed c x) (hplaced : Placed x) (hflowing : Flowing c x)
    (hchange : Change c x y) : ∀ kind ∈ ["event", "live_event"], y.inbox.dropsOf kind =
      if countOfRun "result" y.responses.run (y.taken ++ y.inbox.queued) = 0 then
        countOfRun kind y.responses.run y.lost else 0 := by
  intro kind hkind
  have hdrops := h.drops kind hkind
  have hsame : y.inbox.dropped = x.inbox.dropped ∧ y.inbox.liveDropped = x.inbox.liveDropped →
      y.inbox.dropsOf kind = x.inbox.dropsOf kind := fun hd => by
    rw [Inbox.dropsOf, Inbox.dropsOf, hd.1, hd.2]
  cases hchange with
  | quiet responses queued drops _ _ log =>
    obtain ⟨session, hresponses⟩ := responses
    have htaken : y.taken = x.taken := select_same log
    have hlost : y.lost = x.lost := select_same log
    rw [hsame drops, hdrops, hresponses, queued, htaken, hlost]
  | accepted item _ accept inbox _ _ log =>
    obtain ⟨-, hrun, -⟩ := Responses.accept_effect accept
    have htaken : y.taken = x.taken := select_append log rfl
    have hlost : y.lost = x.lost := select_append log rfl
    rw [hsame (by rw [inbox]; exact ⟨rfl, rfl⟩), hdrops, hrun, inbox, htaken, hlost]
  | lost item held event responses inbox _ _ log =>
    obtain ⟨hrun, hnone⟩ := none_of_held hplaced held event
    rw [Exchange.pipeline, countOfRun_append] at hnone
    have htaken : y.taken = x.taken := select_append log rfl
    have hqueued : y.inbox.queued = x.inbox.queued := by rw [inbox, queued_drop]
    have hlost : y.lost = x.lost ++ [item] := by
      rw [Exchange.lost, log, List.filterMap_append]
      rfl
    have hof : ofRun kind x.responses.run item = isKind kind item := by
      rw [ofRun, decide_eq_true hrun, Bool.and_true]
    have hpending : countOfRun "result" x.responses.run (x.taken ++ x.inbox.queued) = 0 := by omega
    rw [if_pos hpending] at hdrops
    rw [responses, htaken, hqueued, if_pos hpending, hlost, countOfRun_append kind, inbox,
      dropsOf_drop event hkind, hdrops, countOfRun_singleton, hof]
  | queued item _ result responses queued drops _ _ log =>
    have hnone : countOfRun "result" x.responses.run [item] = 0 :=
      countOfRun_eq_zero.mpr fun frame hframe => by
        rw [List.mem_singleton.mp hframe, ofRun, result]
        rfl
    have htaken : y.taken = x.taken := select_same log
    have hlost : y.lost = x.lost := select_same log
    rw [hsame drops, hdrops, responses, htaken, queued, hlost, ← List.append_assoc,
      countOfRun_append _ _ _ [item], hnone, Nat.add_zero]
  | stamped item held result responses queued drops =>
    have hzero : y.inbox.dropsOf kind = 0 := by
      rw [Inbox.dropsOf, drops.1, drops.2, ite_self]
    have hitem : item ∈ x.reader.held := held ▸ List.mem_singleton_self item
    have hrun := hplaced.current item (List.mem_append_right _ hitem) (isPayload_of_result result)
    rw [hzero, if_neg]
    rw [responses, queued, ← List.append_assoc, countOfRun_append, countOfRun_singleton,
      ofRun_stampDropped, if_pos (ofRun_iff.mpr ⟨result, hrun⟩)]
    exact Nat.succ_ne_zero _
  | taken item rest _ queued inbox behind drops handled =>
    rw [hsame (by rw [handled.shared.inbox]; exact drops), hdrops, taken_queued queued behind handled,
      lost_handled handled, handled.shared.responses]
    rfl
  | continued completed keepRunning run deciding _ continueRun inbox _ _ log =>
    obtain ⟨hphase, hruns, -, -, heffect⟩ := Responses.continueRun_effect continueRun
    have htaken : y.taken = x.taken := select_same log
    have hlost : y.lost = x.lost := select_same log
    rw [inbox, htaken, hlost]
    rcases heffect with ⟨-, hrun, -⟩ | ⟨-, hrun, -⟩
    · -- the inbox counts nothing behind the result, and there is nothing yet of the next run
      have hread := Placed.taken_of_results (hplaced.decided completed deciding)
      rw [if_neg (by rw [countOfRun_append]; omega)] at hdrops
      have hnone := (hflowing.none_later hkind y.responses.run (by omega)).1
      rw [hdrops, hnone, ite_self]
    · rw [hdrops, hrun]

theorem projection_change (h : Attributed c x) (hplaced : Placed x) (hflowing : Flowing c x)
    (hlive : c.onLiveEvent = true) (hchange : Change c x y) : y.projectionDropped =
      if countOfRun "result" y.responses.run y.results = 0 then
        countOfRun "live_event" y.responses.run y.unprojected else 0 := by
  have hprojection := h.projection hlive
  have hsame : y.results = x.results → y.unprojected = x.unprojected →
      y.responses.run = x.responses.run → y.projectionDropped = x.projectionDropped →
        y.projectionDropped = if countOfRun "result" y.responses.run y.results = 0 then
          countOfRun "live_event" y.responses.run y.unprojected else 0 :=
    fun hresults hunprojected hrun hdropped => by
      rw [hresults, hunprojected, hrun, hdropped, hprojection]
  have hlog : ∀ notes, y.log = x.log ++ notes → notes.filterMap Note.resultItem = [] →
      notes.filterMap Note.unprojectedItem = [] →
        y.results = x.results ∧ y.unprojected = x.unprojected := by
    intro notes hnotes hresults hunprojected
    rw [Exchange.results, hnotes, List.filterMap_append, hresults, Exchange.unprojected, hnotes,
      List.filterMap_append, hunprojected, List.append_nil, List.append_nil]
    exact ⟨rfl, rfl⟩
  cases hchange with
  | quiet responses _ _ _ _ log projection =>
    obtain ⟨session, hresponses⟩ := responses
    obtain ⟨hresults, hunprojected⟩ := hlog [] (by rw [log, List.append_nil]) rfl rfl
    exact hsame hresults hunprojected (by rw [hresponses]) projection
  | accepted item _ accept _ _ _ log projection =>
    obtain ⟨hresults, hunprojected⟩ := hlog _ log rfl rfl
    exact hsame hresults hunprojected (Responses.accept_effect accept).2.1 projection
  | lost item _ _ responses _ _ _ log projection =>
    obtain ⟨hresults, hunprojected⟩ := hlog _ log rfl rfl
    exact hsame hresults hunprojected (by rw [responses]) projection
  | queued _ _ _ responses _ _ _ _ log projection | stamped _ _ _ responses _ _ _ _ log projection =>
    obtain ⟨hresults, hunprojected⟩ := hlog [] (by rw [log, List.append_nil]) rfl rfl
    exact hsame hresults hunprojected (by rw [responses]) projection
  | taken item rest _ queued inbox behind _ handled =>
    have hrun : y.responses.run = x.responses.run := by rw [handled.shared.responses]
    have hqueued : item ∈ x.inbox.queued ++ x.reader.held := by
      rw [queued]
      exact List.mem_cons_self
    cases handled with
    | control _ _ beside states log =>
      obtain ⟨hresults, hunprojected⟩ := hlog _ log (by simp [Note.resultItem])
        (by simp [Note.unprojectedItem])
      exact hsame hresults hunprojected hrun beside.projectionDropped
    | native _ beside _ log =>
      obtain ⟨hresults, hunprojected⟩ := hlog _ log rfl rfl
      exact hsame hresults hunprojected hrun beside.projectionDropped
    | live _ beside _ log =>
      obtain ⟨hresults, hunprojected⟩ := hlog _ log rfl rfl
      exact hsame hresults hunprojected hrun beside.projectionDropped
    | ignored _ beside log =>
      obtain ⟨hresults, hunprojected⟩ := hlog _ log rfl rfl
      exact hsame hresults hunprojected hrun beside.projectionDropped
    | unreadable _ _ _ log dropped =>
      obtain ⟨hresults, hunprojected⟩ := hlog _ log rfl rfl
      exact hsame hresults hunprojected hrun dropped
    | unprojected kind _ _ _ log dropped =>
      have hindex := hplaced.current item hqueued
        (isPayload_of_isEvent (by rw [isEvent, kind, Bool.or_true]))
      -- the result of the run cannot have been read in front of an event of the run
      have hnone : countOfRun "result" x.responses.run x.results = 0 := by
        by_contra hread
        have := (hplaced.none_behind (Placed.taken_of_results (Nat.pos_of_ne_zero hread)) item
          hqueued).2
        rw [ofRun_iff.mpr ⟨kind, hindex⟩] at this
        cases this
      have hresults : y.results = x.results := select_append log rfl
      have hunprojected : y.unprojected = x.unprojected ++ [item] := by
        rw [Exchange.unprojected, log, List.filterMap_append]
        rfl
      rw [if_pos hnone] at hprojection
      rw [dropped, hresults, hrun, if_pos hnone, hunprojected, countOfRun_append, countOfRun_singleton,
        if_pos (ofRun_iff.mpr ⟨kind, hindex⟩)]
      exact congrArg (· + 1) hprojection
    | result kind _ _ _ _ events log _ dropped =>
      have hindex := hplaced.current item hqueued (isPayload_of_result kind)
      have hresults : y.results = x.results ++ [item] := by
        rw [Exchange.results, log, List.filterMap_append]
        simp [Note.resultItem, Exchange.results]
      rw [dropped hlive, hrun, if_neg]
      rw [hresults, countOfRun_append, countOfRun_singleton, if_pos (ofRun_iff.mpr ⟨kind, hindex⟩)]
      exact Nat.succ_ne_zero _
  | continued completed keepRunning run deciding _ continueRun _ _ _ log projection =>
    obtain ⟨-, -, -, -, heffect⟩ := Responses.continueRun_effect continueRun
    obtain ⟨hresults, hunprojected⟩ := hlog [] (by rw [log, List.append_nil]) rfl rfl
    rcases heffect with ⟨-, hrun, -⟩ | ⟨-, hrun, -⟩
    · have hread := hplaced.decided completed deciding
      rw [if_neg (Nat.pos_iff_ne_zero.mp hread)] at hprojection
      have hnone : countOfRun "live_event" y.responses.run x.events = 0 :=
        (hflowing.none_later (by simp) y.responses.run (by omega)).2
      have hevents : countOfRun "live_event" y.responses.run x.unprojected ≤
          countOfRun "live_event" y.responses.run x.events := by
        rw [Exchange.events, countOfRun_filter (by simp), Exchange.pipeline, List.append_assoc,
          countOfRun_append]
        exact (x.unprojected_sublist.countP_le).trans (Nat.le_add_right _ _)
      rw [projection, hprojection, hunprojected, Nat.le_zero.mp (hevents.trans_eq hnone), ite_self]
    · exact hsame hresults hunprojected hrun projection

theorem change (h : Attributed c x) (hplaced : Placed x) (hflowing : Flowing c x)
    (hchange : Change c x y) : Attributed c y :=
  ⟨h.drops_change hplaced hflowing hchange,
    fun hlive => h.projection_change hplaced hflowing hlive hchange⟩

end Attributed

end Iperf3Lib.Parent
