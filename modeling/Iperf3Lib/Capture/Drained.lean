import Iperf3Lib.Capture.Faithful

/-!
# A drained capture

The interleaving of the native thread, the parser and the owner. `Ledger` relates the capture to the
fates of the callbacks so far: the parser has absorbed what was kept, in order, and the last loss is
known by its sequence number. Behind the drain the evidence is that of all payloads, complete only
when no later one was lost.
-/

namespace Iperf3Lib.Capture

open Py Json Ipc

variable {config : CaptureConfig} {F : Faults Exc}

/-! ## The source of a document -/

/-- The completeness names its source. -/
def Parser.Sourced (c : Parser) : Prop :=
  c.completeDocumentSource = if c.completeDocument then some .callback else none

namespace Parser

theorem sourced_incomplete (c : Parser) (message : PyStr) :
    (c.incomplete.diagnose message).Sourced := rfl

theorem sourced_contradict (c : Parser) : c.contradict.Sourced := rfl

theorem sourced_live {c : Parser} (h : c.Sourced) (kind : String) (data : PyVal)
    (item : Option Captured) (admitted : Bool) : (c.live config kind data item admitted).Sourced := by
  unfold live
  split
  · exact h
  · exact h

theorem sourced_countEvent {c : Parser} (h : c.Sourced) (p : NativePayload) (item : Captured)
    (admitted : Bool) : (c.countEvent config p item admitted).Sourced := by
  unfold countEvent
  dsimp only
  split
  · split
    · exact h
    · exact h
  · exact h

theorem sourced_reject (c : Parser) (item : Captured) (diagnosis : PyStr) (errorType : String)
    (admitted : Bool) : (c.reject config item diagnosis errorType admitted).Sourced :=
  sourced_live (sourced_incomplete _ _) _ _ _ _

theorem sourced_latch {c c' : Parser} (h : c.Sourced) {p : NativePayload}
    (hlatch : c.latch F p = some c') : c'.Sourced := by
  unfold latch at hlatch
  split at hlatch
  · cases hlatch
    exact h
  · obtain ⟨text, -, rfl⟩ := Option.map_eq_some_iff.mp hlatch
    exact h

theorem sourced_retain {c c' : Parser} (h : c.Sourced) {p : NativePayload} {item : Captured}
    (hretain : c.retain config F p item = some c') : c'.Sourced := by
  unfold retain at hretain
  split at hretain
  · cases hretain
  · split at hretain
    · cases hretain
      by_cases hkind : p.kind = .complete
      · rw [if_pos hkind]
        rfl
      · rw [if_neg hkind]
        exact h
    · unfold keep at hretain
      split at hretain
      · cases hretain
        rfl
      · obtain ⟨raw, -, rfl⟩ := Option.map_eq_some_iff.mp hretain
        exact h

theorem sourced_consume {c c' : Parser} (h : c.Sourced) {item : Captured} {answers : Answers}
    (hconsume : c.consume config F item answers = some c') : c'.Sourced := by
  unfold consume at hconsume
  split at hconsume
  · cases hconsume
    exact sourced_reject _ _ _ _ _
  · next p _ =>
    dsimp only at hconsume
    split at hconsume
    · cases hconsume
      exact sourced_reject _ _ _ _ _
    · split at hconsume
      · cases hconsume
      · next c₁ hlatch =>
        have hcount : (c.countEvent config p item answers.legacy).Sourced :=
          sourced_countEvent h p item answers.legacy
        have hlive : ∀ kind data admitted,
            (c₁.live config kind data (some item) admitted).Sourced := fun kind data admitted =>
          sourced_live (sourced_latch hcount hlatch) kind data (some item) admitted
        split at hconsume
        · split at hconsume
          · cases hconsume
            exact hlive _ _ _
          · exact sourced_retain (sourced_contradict _) hconsume
        · exact sourced_retain (hlive _ _ _) hconsume

end Parser

/-! ## Captures -/

/-- The entry of a callback that was kept. -/
def Fate.kept? : Fate → Option Captured
  | .kept item => some item
  | .lost => none

theorem fate_lost {c c' : EventCapture} (h : c'.queue = c.queue) :
    CaptureWorld.fate c c' = .lost := by
  unfold CaptureWorld.fate
  rw [h, List.drop_length]

theorem fate_kept {c c' : EventCapture} {item : Captured} (h : c'.queue = c.queue ++ [item]) :
    CaptureWorld.fate c c' = .kept item := by
  unfold CaptureWorld.fate
  rw [h, List.drop_left]

/-- A callback is lost and noted, or it is queued under the next sequence number. -/
theorem EventCapture.capture_cases (c c' : EventCapture) (pointer : NativePointer)
    (offset arrived : PyFloat) (h : c.capture config pointer offset arrived = c') :
    c'.parser = c.parser ∧ c'.closed = c.closed ∧ c'.callbacks = c.callbacks + 1 ∧
      (c'.queue = c.queue ∧ c'.lastCaptureLoss = c.callbacks + 1 ∨
      ∃ item, c'.queue = c.queue ++ [item] ∧ item.sequence = c.callbacks + 1 ∧
        c'.lastCaptureLoss = c.lastCaptureLoss) := by
  subst h
  cases pointer with
  | fails typeName => exact ⟨rfl, rfl, rfl, .inl ⟨rfl, rfl⟩⟩
  | copies copied =>
    unfold capture
    dsimp only
    split
    · exact ⟨rfl, rfl, rfl, .inl ⟨rfl, rfl⟩⟩
    · split
      · exact ⟨rfl, rfl, rfl, .inl ⟨rfl, rfl⟩⟩
      · exact ⟨rfl, rfl, rfl, .inr ⟨_, rfl, rfl, rfl⟩⟩

/-! ## The ledger -/

/-- The evidence once the losses are compared with the sequence number of the document. -/
def Evidence.settled (e : Evidence) (loss : ℕ) : Evidence :=
  { e with completeDocument := e.completeDocument && !decide (loss > e.completeSequence) }

namespace EventCapture

theorem evidence_gapNotice (parser : Parser) (stage : String) (dropped : ℕ) (admitted : Bool) :
    (gapNotice config parser stage dropped admitted).evidence = parser.evidence := by
  unfold gapNotice
  split
  · rfl
  · exact Parser.evidence_live _ _ _ _ _

theorem sourced_gapNotice {parser : Parser} (h : parser.Sourced) (stage : String) (dropped : ℕ)
    (admitted : Bool) : (gapNotice config parser stage dropped admitted).Sourced := by
  unfold gapNotice
  split
  · exact h
  · exact Parser.sourced_live h _ _ _ _

theorem evidence_conclude (c : EventCapture) (answers : Answers) :
    (c.conclude config answers).parser.evidence = c.parser.evidence.settled c.lastCaptureLoss := by
  have hloss : c.checkLoss.evidence = c.parser.evidence.settled c.lastCaptureLoss := by
    unfold checkLoss Evidence.settled
    change _ = { c.parser.evidence with
      completeDocument := c.parser.completeDocument &&
        !decide (c.lastCaptureLoss > c.parser.completeSequence) }
    by_cases hlate : c.lastCaptureLoss > c.parser.completeSequence
    · rw [decide_eq_true hlate, Bool.not_true, Bool.and_false]
      cases hcomplete : c.parser.completeDocument with
      | true => rw [if_pos ⟨rfl, hlate⟩, Parser.evidence_diagnose, Parser.evidence_incomplete]
      | false =>
        rw [if_neg fun h => Bool.false_ne_true h.1, ← hcomplete]
        rfl
    · rw [decide_eq_false hlate, Bool.not_false, Bool.and_true, if_neg fun h => hlate h.2]
      rfl
  exact (evidence_gapNotice _ _ _ _).trans ((evidence_gapNotice _ _ _ _).trans hloss)

theorem sourced_conclude (c : EventCapture) (answers : Answers) (h : c.parser.Sourced) :
    (c.conclude config answers).parser.Sourced := by
  refine sourced_gapNotice (sourced_gapNotice ?_ _ _ _) _ _ _
  unfold checkLoss
  split
  · exact Parser.sourced_incomplete _ _
  · exact h

end EventCapture

namespace CaptureWorld

/-- The entries that were kept, in the order of their capture. -/
def kept (w : CaptureWorld) : List Captured := w.history.filterMap Fate.kept?

/-- How the capture agrees with the fates of the callbacks. -/
structure Ledger (config : CaptureConfig) (F : Faults Exc) (w : CaptureWorld) : Prop where
  callbacks : w.capture.callbacks = w.history.length
  sequence : ∀ i item, w.history[i]? = some (.kept item) → item.sequence = i + 1
  loss_le : ∀ i, w.history[i]? = some .lost → i + 1 ≤ w.capture.lastCaptureLoss
  loss : w.capture.lastCaptureLoss = 0 ∨
    ∃ i, w.history[i]? = some .lost ∧ w.capture.lastCaptureLoss = i + 1
  closed : w.phase ≠ .failed → w.capture.closed = w.ended
  sourced : w.capture.parser.Sourced
  running : w.phase = .running → ∃ done, w.kept = done ++ w.capture.queue ∧
    Evidence.absorbAll config F done = some w.capture.parser.evidence
  finished : w.phase = .finished → w.ended = true ∧
    ∃ e, Evidence.absorbAll config F w.kept = some e ∧
      w.capture.parser.evidence = e.settled w.capture.lastCaptureLoss

theorem getElem?_concat {α : Type} {l : List α} {a b : α} {i : ℕ} (h : (l ++ [a])[i]? = some b) :
    l[i]? = some b ∨ i = l.length ∧ a = b := by
  by_cases hi : i < l.length
  · exact .inl ((List.getElem?_append_left hi).symm.trans h)
  · refine .inr ?_
    have hlength := (List.getElem?_eq_some_iff.mp h).1
    rw [List.length_append, List.length_singleton] at hlength
    obtain rfl : i = l.length := by omega
    rw [List.getElem?_concat_length] at h
    exact ⟨rfl, Option.some.inj h⟩

namespace Ledger

variable {w : CaptureWorld}

theorem empty : Ledger config F {} where
  callbacks := rfl
  sequence i item h := by simp at h
  loss_le i h := by simp at h
  loss := .inl rfl
  closed _ := rfl
  sourced := rfl
  running _ := ⟨[], rfl, rfl⟩
  finished h := by cases h

theorem capture (h : Ledger config F w) (pointer : NativePointer) (offset arrived : PyFloat) :
    Ledger config F (w.step config F (.capture pointer offset arrived)) := by
  unfold step
  dsimp only
  split
  · exact h
  · next hopen =>
    have hfinished : w.phase ≠ .finished := fun hphase => hopen (h.finished hphase).1
    obtain ⟨hparser, hclosed, hcallbacks, hcase⟩ := w.capture.capture_cases _ pointer offset arrived
      (rfl : w.capture.capture config pointer offset arrived = _)
    rcases hcase with ⟨hqueue, hloss⟩ | ⟨item, hqueue, hsequence, hloss⟩
    · rw [fate_lost hqueue]
      exact {
        callbacks := by
          rw [hcallbacks, h.callbacks, List.length_append]
          rfl
        sequence := fun i item hi => by
          rcases getElem?_concat hi with hi | ⟨-, hi⟩
          · exact h.sequence i item hi
          · cases hi
        loss_le := fun i hi => by
          rw [hloss, h.callbacks]
          rcases getElem?_concat hi with hi | ⟨rfl, -⟩
          · exact Nat.succ_le_succ (Nat.le_of_lt (List.getElem?_eq_some_iff.mp hi).1)
          · exact Nat.le_refl _
        loss := .inr ⟨w.history.length, List.getElem?_concat_length, by rw [hloss, h.callbacks]⟩
        closed := fun hphase => hclosed.trans (h.closed hphase)
        sourced := hparser ▸ h.sourced
        running := fun hphase => by
          obtain ⟨done, hdone, habsorbed⟩ := h.running hphase
          refine ⟨done, ?_, hparser ▸ habsorbed⟩
          rw [hqueue, kept, List.filterMap_append]
          exact (List.append_nil _).trans hdone
        finished := fun hphase => absurd hphase hfinished }
    · rw [fate_kept hqueue]
      exact {
        callbacks := by
          rw [hcallbacks, h.callbacks, List.length_append]
          rfl
        sequence := fun i item' hi => by
          rcases getElem?_concat hi with hi | ⟨rfl, hfate⟩
          · exact h.sequence i item' hi
          · cases hfate
            rw [hsequence, h.callbacks]
        loss_le := fun i hi => by
          rw [hloss]
          rcases getElem?_concat hi with hi | ⟨-, hi⟩
          · exact h.loss_le i hi
          · cases hi
        loss := by
          rw [hloss]
          refine h.loss.imp_right ?_
          rintro ⟨i, hi, heq⟩
          exact ⟨i, (List.getElem?_append_left (List.getElem?_eq_some_iff.mp hi).1).trans hi, heq⟩
        closed := fun hphase => hclosed.trans (h.closed hphase)
        sourced := hparser ▸ h.sourced
        running := fun hphase => by
          obtain ⟨done, hdone, habsorbed⟩ := h.running hphase
          refine ⟨done, ?_, hparser ▸ habsorbed⟩
          rw [hqueue, ← List.append_assoc, ← hdone, kept, List.filterMap_append]
          rfl
        finished := fun hphase => absurd hphase hfinished }

/-- The parser takes the head of the queue. -/
theorem parse (h : Ledger config F w) (answers : Answers) :
    Ledger config F (w.step config F (.parse answers)) := by
  unfold step
  dsimp only
  split
  · next item queue hphase hqueue =>
    split
    · next parser hconsume =>
      exact {
        h with
        sourced := Parser.sourced_consume h.sourced hconsume
        running := fun _ => by
          obtain ⟨done, hdone, habsorbed⟩ := h.running hphase
          refine ⟨done ++ [item], ?_, ?_⟩
          · rw [List.append_assoc]
            exact hdone.trans (congrArg _ hqueue)
          · rw [Evidence.absorbAll_concat, habsorbed, Option.bind_some]
            have hevidence :
                (w.capture.parser.consume config F item answers).map Parser.evidence = _ :=
              Parser.evidence_consume w.capture.parser item answers
            rw [← hevidence]
            exact congrArg _ hconsume
        finished := fun hphase' => by
          rw [hphase] at hphase'
          cases hphase' }
    · exact {
        h with
        closed := fun hphase' => absurd rfl hphase'
        running := fun hphase' => by cases hphase'
        finished := fun hphase' => by cases hphase' }
  · exact h

/-- The parser drains the queue behind the close. -/
theorem finish (h : Ledger config F w) (answers : Answers) :
    Ledger config F (w.step config F (.finish answers)) := by
  unfold step
  dsimp only
  split
  · next hdrained =>
    obtain ⟨hphase, hclosed, hqueue⟩ := hdrained
    obtain ⟨done, hdone, habsorbed⟩ := h.running hphase
    rw [hqueue, List.append_nil] at hdone
    exact {
      h with
      closed := fun _ => h.closed (by rw [hphase]; decide)
      sourced := EventCapture.sourced_conclude _ answers h.sourced
      running := fun hphase' => by cases hphase'
      finished := fun _ => by
        refine ⟨(h.closed (by rw [hphase]; decide)).symm.trans hclosed, _, hdone ▸ habsorbed, ?_⟩
        exact EventCapture.evidence_conclude _ answers }
  · exact h

theorem close (h : Ledger config F w) : Ledger config F (w.step config F .close) where
  __ := h
  closed _ := rfl
  finished hphase := ⟨rfl, (h.finished hphase).2⟩

theorem run (h : Ledger config F w) (actions : List CaptureAction) :
    Ledger config F (w.run config F actions) := by
  unfold CaptureWorld.run
  induction actions generalizing w with
  | nil => exact h
  | cons action actions ih =>
    refine ih ?_
    cases action with
    | capture pointer offset arrived => exact h.capture pointer offset arrived
    | parse answers => exact h.parse answers
    | finish answers => exact h.finish answers
    | close => exact h.close

end Ledger

end CaptureWorld

/-! ## What the drained capture says -/

namespace CaptureWorld

/-- The payloads of the callbacks that were kept. -/
def payloads (config : CaptureConfig) (F : Faults Exc) (w : CaptureWorld) : List NativePayload :=
  w.kept.filterMap (Captured.payload? config F)

end CaptureWorld

end Iperf3Lib.Capture
