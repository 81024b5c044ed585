import Iperf3Lib.Execution
import Iperf3Lib.PartialEvents

/-!
# What the validators share

The validators of the reports are written separately for each kind of history. They fail with a path,
and they look alike at texts, statuses and retained events.
-/

namespace Iperf3Lib

open Py Ipc

/-! ## Failing checks -/

/-- `_fail(path, message)`. -/
def fail {α : Type} (path message : String) : Except Exc α :=
  .error ⟨.reportValidationError, ((if path = "" then "/" else path) ++ ": " ++ message : String)⟩

/-- `if condition: _fail(path, message)`. -/
def failIf (condition : Prop) [Decidable condition] (path message : String) : Except Exc Unit :=
  if condition then fail path message else .ok ()

theorem failIf_eq_ok {condition : Prop} [Decidable condition] {path message : String} :
    failIf condition path message = .ok () ↔ ¬ condition := by
  unfold failIf fail
  split <;> simp_all

/-- `assert value is not None`. -/
def assertSome {α : Type} (value : Option α) : Except Exc α :=
  match value with
  | some a => .ok a
  | none => .error ⟨.assertionError, ""⟩

/-! ## Statuses -/

/-- `record.status in _INTERRUPTED`. -/
def TrialStatus.isInterrupted : TrialStatus → Bool
  | .cancelled | .timedOut | .cleanupFailed => true
  | _ => false

/-! ## Texts -/

theorem Py.PyStr.hasText_append (s t : PyStr) : (s ++ t).hasText = (s.hasText || t.hasText) := by
  rw [PyStr.hasText, List.any_append, PyStr.hasText, PyStr.hasText]

/-- The name of a type has a dot in it. -/
theorem Raised.hasText_typeName (error : Raised) :
    error.toTrialException.typeName.hasText = true := by
  have hdot : (PyChar.scalar '.').isSpace = false := by decide +kernel
  rw [toTrialException, PyStr.hasText_append, PyStr.hasText, PyStr.hasText, List.any_cons, hdot]
  simp

/-- What was not retained of a result is described by texts. -/
theorem hasText_diagnostics (fields : ReturnedFields) :
    (retainUnencodableResult fields).2 ≠ [] ∧
      ∀ item ∈ (retainUnencodableResult fields).2, item.hasText = true := by
  have hfirst : PyStr.hasText
      ("Returned result could not be encoded as a canonical artifact; JSON-safe fields are retained separately." : String) =
        true := by decide +kernel
  have hsnapshot : PyStr.hasText (PyStr.ofString "Result snapshot failed: ") = true := by
    decide +kernel
  have hfield : PyStr.hasText (PyStr.ofString "Returned result field ") = true := by decide +kernel
  have hfold : ∀ (items : PyDict) (retained : PyDict × List PyStr),
      (retained.2 ≠ [] ∧ ∀ item ∈ retained.2, item.hasText = true) →
      (items.foldl retainField retained).2 ≠ [] ∧
        ∀ item ∈ (items.foldl retainField retained).2, item.hasText = true := by
    intro items
    induction items with
    | nil => exact fun _ h => h
    | cons kv items ih =>
      intro retained h
      refine ih _ ?_
      unfold retainField
      split
      · exact h
      · refine ⟨by simp, fun item hitem => ?_⟩
        rcases List.mem_append.mp hitem with hold | hnew
        · exact h.2 item hold
        · rw [List.mem_singleton.mp hnew, PyStr.hasText_append, PyStr.hasText_append, hfield]
          rfl
  refine hfold _ _ ⟨by simp, ?_⟩
  intro item hitem
  rcases List.mem_cons.mp hitem with rfl | hitem
  · exact hfirst
  · obtain ⟨text, -, rfl⟩ := Option.mem_map.mp (Option.mem_toList.mp hitem)
    rw [PyStr.hasText_append, hsnapshot]
    rfl

/-! ## Partial events -/

/-- The loop of `_events` over the retained events: the total of their frames. -/
def sumFrames (maxStrDigits : ℕ) (path : String) :
    ℕ → ℤ → ℕ → List NativeEvent → Except Exc ℕ
  | _, _, total, [] => .ok total
  | index, previous, total, event :: events => do
    let eventPath := s!"{path}/partial_events/{index}"
    failIf (event.kind.hasText = false ∨ event.sequence ≤ previous) eventPath
      "event kind must be nonempty and sequences strictly increasing"
    let frame ← match event.frame maxStrDigits with
      | .ok frame => .ok frame
      | .error e =>
        if e.cls = .ipcError then
          .error ⟨.reportValidationError,
            PyStr.ofString (eventPath ++ ": invalid bounded partial event: ") ++ e.message⟩
        else .error e
    failIf (frame.length > 65536) eventPath
      "partial event retention exceeds 64 KiB including its header"
    sumFrames maxStrDigits path (index + 1) event.sequence (total + frame.length) events

/-- Retained events pass the checks on their metadata and their frames. -/
theorem sumFrames_ok {maxStrDigits : ℕ} (path : String) {events : List NativeEvent}
    {frames : List (List UInt8)}
    (hframes : List.Forall₂ (fun event frame => event.frame maxStrDigits = .ok frame ∧
      frame.length ≤ maxPartialEventBytes) events frames) :
    ∀ (index : ℕ) (previous : ℤ) (total : ℕ),
      (events.map NativeEvent.sequence).Pairwise (· < ·) →
      (∀ event ∈ events, event.kind.hasText = true ∧ previous < event.sequence) →
      sumFrames maxStrDigits path index previous total events =
        .ok (total + (frames.map List.length).sum) := by
  induction hframes with
  | nil => exact fun _ _ _ _ _ => rfl
  | @cons event frame events frames hframe _ ih =>
    intro index previous total hascending hvalid
    rw [List.map_cons, List.pairwise_cons] at hascending
    obtain ⟨htext, hprevious⟩ := hvalid event List.mem_cons_self
    have hnext : ∀ event' ∈ events, event'.kind.hasText = true ∧ event.sequence < event'.sequence :=
      fun event' hmem => ⟨(hvalid event' (List.mem_cons_of_mem _ hmem)).1,
        hascending.1 _ (List.mem_map_of_mem hmem)⟩
    have hsize : ¬ frame.length > 65536 := not_lt.mpr hframe.2
    rw [sumFrames, bind_unit_eq_ok]
    simp only [hframe.1, bind_eq_ok, exists_unit, failIf_eq_ok, Except.ok.injEq, exists_eq_left']
    refine ⟨by simp [htext, hprevious], hsize, ?_⟩
    rw [ih _ _ _ hascending.2 hnext, List.map_cons, List.sum_cons, Nat.add_assoc]

end Iperf3Lib
