import Iperf3Lib.Capture.Survival
import Iperf3Lib.Worker.Result

/-!
# Publishing a result

Behind a native run the worker closes the capture, and hands the result to the transport only when the
parser did not fail. `publish_iff` says which payloads make it fail: an interval that follows a
complete document whose `intervals` is no list. `published_of_lists` says so of the payloads alone.
-/

namespace Iperf3Lib.Capture

open Py Json Ipc

variable {config : CaptureConfig} {F : Faults Exc}

/-! ## Runs of the capture -/

namespace CaptureWorld

/-- `close()` behind the join. -/
def close (w : CaptureWorld) : Except Exc Unit :=
  if w.phase = .failed then .error ⟨.iperfLibraryError, "Native event parser failed"⟩ else .ok ()

/-- What the parser takes up next. -/
def next? (w : CaptureWorld) : Option Captured :=
  if w.phase = .running then w.capture.queue.head? else none

/-- Every payload that the parser takes up meets a condition on the parser in front of it. -/
def Always (config : CaptureConfig) (F : Faults Exc)
    (P : Parser → Captured → Answers → Prop) (actions : List CaptureAction) : Prop :=
  ∀ before answers behind, actions = before ++ .parse answers :: behind →
    ∀ item, (run config F {} before).next? = some item →
      P (run config F {} before).capture.parser item answers

theorem run_concat (w : CaptureWorld) (actions : List CaptureAction) (action : CaptureAction) :
    w.run config F (actions ++ [action]) = (w.run config F actions).step config F action := by
  unfold run
  rw [List.foldl_append]
  rfl

theorem Always.init {P : Parser → Captured → Answers → Prop} {actions : List CaptureAction}
    {action : CaptureAction} (h : Always config F P (actions ++ [action])) :
    Always config F P actions := by
  rintro before answers behind rfl item hitem
  exact h before answers (behind ++ [action]) (by simp) item hitem

theorem kept_step (w : CaptureWorld) (action : CaptureAction) :
    w.kept <+: (w.step config F action).kept := by
  have hsame : ∀ w' : CaptureWorld, w'.history = w.history → w.kept <+: w'.kept := by
    intro w' h
    rw [kept, kept, h]
  cases action with
  | capture pointer offset arrived =>
    simp only [step]
    split
    · exact List.prefix_rfl
    · simp only [kept, List.filterMap_append]
      exact List.prefix_append _ _
  | parse answers =>
    simp only [step]
    split
    · split <;> exact hsame _ rfl
    · exact List.prefix_rfl
  | finish answers =>
    simp only [step]
    split <;> exact hsame _ rfl
  | close => exact hsame _ rfl

/-- What was kept stays kept. -/
theorem kept_run (w : CaptureWorld) (actions : List CaptureAction) :
    w.kept <+: (w.run config F actions).kept := by
  induction actions generalizing w with
  | nil => exact List.prefix_rfl
  | cons action actions ih => exact (kept_step w action).trans (ih _)

/-- The parser's `intervals` is no list only behind a document that has it so. -/
theorem unlisted_of_noList {actions : List CaptureAction} {item : Captured}
    (hnext : (run config F {} actions).next? = some item)
    (h : NoList (run config F {} actions).capture.parser.raw) :
    ∃ item ∈ (run config F {} actions).kept, item.Unlisted config F := by
  have hledger : (run config F {} actions).Ledger config F := Ledger.empty.run actions
  have hphase : (run config F {} actions).phase = .running := by
    by_contra hphase
    rw [next?, if_neg hphase] at hnext
    cases hnext
  obtain ⟨done, hkept, habsorb⟩ := hledger.running hphase
  obtain ⟨item, hitem, hunlisted⟩ := Evidence.noList_of_absorbAll habsorb h
  exact ⟨item, hkept ▸ List.mem_append_left _ hitem, hunlisted⟩

/-- Only a call of `_consume` that raises makes the parser fail. -/
theorem step_not_failed {w : CaptureWorld} (h : w.phase ≠ .failed) {action : CaptureAction}
    (hconsume : ∀ answers, action = .parse answers → ∀ item, w.next? = some item →
      (w.capture.parser.consume config F item answers).isSome) :
    (w.step config F action).phase ≠ .failed := by
  cases action with
  | capture pointer offset arrived =>
    simp only [step]
    split
    · exact h
    · exact h
  | parse answers =>
    simp only [step]
    split
    · next item queue hphase hqueue =>
      have hnext : w.next? = some item := by rw [next?, if_pos hphase, hqueue]; rfl
      obtain ⟨parser, hparser⟩ := Option.isSome_iff_exists.mp (hconsume answers rfl item hnext)
      simp only [hparser]
      exact h
    · exact h
  | finish answers =>
    simp only [step]
    split
    · simp
    · exact h
  | close => exact h

/-- A run whose calls of `_consume` all return leaves the parser without a failure. -/
theorem run_not_failed {actions : List CaptureAction}
    (h : Always config F (fun parser item answers => (parser.consume config F item answers).isSome)
      actions) : (run config F {} actions).phase ≠ .failed := by
  induction actions using List.reverseRecOn with
  | nil => exact fun hphase => by cases hphase
  | append_singleton actions action ih =>
    rw [run_concat]
    refine step_not_failed (ih h.init) fun answers haction item hitem => ?_
    exact h actions answers [] (by rw [haction]) item hitem

end CaptureWorld

end Iperf3Lib.Capture

namespace Iperf3Lib.Worker

open Py Json Ipc Capture

variable {config : CaptureConfig} {F : Faults Exc}

/-! ## The result -/

/-- The part of `execute` between the native call and the transport. -/
def publish (config : CaptureConfig) (r : NativeRun F) (w : CaptureWorld) : Except Exc PyDict := do
  w.close
  return resultMessage config r (recovered config r w.capture)

/-- No payload makes the parser fail. -/
structure Published (config : CaptureConfig) (F : Faults Exc) (actions : List CaptureAction) :
    Prop where
  consumes : CaptureWorld.Always config F
    (fun parser item answers => (parser.consume config F item answers).isSome) actions
  alive : (CaptureWorld.run config F {} actions).phase ≠ .failed
  closes : (CaptureWorld.run config F {} actions).close = .ok ()
  published : ∀ r : NativeRun F, ∃ message,
    publish config r (CaptureWorld.run config F {} actions) = .ok message

/-- The result is published whatever the payloads are, exactly when the parser takes up no interval
that fits behind a reconstruction whose `intervals` is no list. -/
theorem publish_iff (config : CaptureConfig) (F : Faults Exc) (actions : List CaptureAction) :
    Published config F actions ↔
      CaptureWorld.Always config F
        (fun parser item _ => ¬ ∃ p, Clash config F parser.evidence item p) actions := by
  have hconsumes : ∀ (parser : Parser) item answers, (parser.consume config F item answers).isSome ↔
      ¬ ∃ p, Clash config F parser.evidence item p := by
    intro parser item answers
    rw [← Parser.consume_eq_none parser item answers]
    exact Option.isSome_iff_ne_none
  constructor
  · intro h before answers behind hactions item hitem
    exact (hconsumes _ _ _).mp (h.consumes before answers behind hactions item hitem)
  · intro h
    have hall : CaptureWorld.Always config F
        (fun parser item answers => (parser.consume config F item answers).isSome) actions :=
      fun before answers behind hactions item hitem =>
        (hconsumes _ _ _).mpr (h before answers behind hactions item hitem)
    have halive := CaptureWorld.run_not_failed hall
    have hcloses : (CaptureWorld.run config F {} actions).close = .ok () := if_neg halive
    refine ⟨hall, halive, hcloses, fun r => ?_⟩
    rw [publish, hcloses]
    exact ⟨_, rfl⟩

/-- The result is published when no document that the capture kept has an `intervals` other than a
list. -/
theorem published_of_lists {actions : List CaptureAction}
    (h : ∀ item ∈ (CaptureWorld.run config F {} actions).kept, ¬ item.Unlisted config F) :
    Published config F actions := by
  rw [publish_iff]
  rintro before answers behind rfl item hitem ⟨p, hclash⟩
  obtain ⟨item', hmem, hunlisted⟩ := CaptureWorld.unlisted_of_noList hitem hclash.intervals
  have hkept := @CaptureWorld.kept_run config F
    (CaptureWorld.run config F {} before) (.parse answers :: behind)
  rw [CaptureWorld.run, CaptureWorld.run, ← List.foldl_append] at hkept
  exact h item' (hkept.subset hmem) hunlisted

/-- `{"intervals":{}}`. -/
def objectIntervals : List UInt8 :=
  [123, 34, 105, 110, 116, 101, 114, 118, 97, 108, 115, 34, 58, 123, 125, 125]

/-- `{"event":"interval","data":{}}`. -/
def emptyInterval : List UInt8 :=
  [123, 34, 101, 118, 101, 110, 116, 34, 58, 34, 105, 110, 116, 101, 114, 118, 97, 108, 34, 44, 34,
    100, 97, 116, 97, 34, 58, 123, 125, 125]

/-- An interval behind a document whose `intervals` is an object. -/
def intervalBehindObject : List CaptureAction :=
  [.capture (.copies objectIntervals) .nan .nan, .parse {},
    .capture (.copies emptyInterval) .nan .nan, .parse {}, .close]

/-- It makes the parser fail, and its result is lost. -/
theorem publish_interval_behind_object :
    ¬ Published (runConfig false false) (faults 4300) intervalBehindObject ∧
      (publish (runConfig false false) quietRun
        (CaptureWorld.run (runConfig false false) (faults 4300) {} intervalBehindObject)).isOk =
          false := by
  refine ⟨fun h => h.alive ?_, ?_⟩ <;> decide +kernel

end Iperf3Lib.Worker
