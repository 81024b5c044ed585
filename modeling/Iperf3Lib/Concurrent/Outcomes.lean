import Iperf3Lib.General.Keyed
import Iperf3Lib.Concurrent.History
import Iperf3Lib.Reports.Retention

/-!
# The result of a run and its records

`Run.result` assembles the history behind the loop. Every record in it was written by `consume` or
stands for a trial that never started, and both kinds pass the checks of the validator, as do the
stop decisions.
-/

namespace Iperf3Lib

open Py Ipc

namespace Run

variable {A : Type} {x : Setup A} {s t : Run A} {parse : IpParser} {lower : PyStr → PyStr}
  {e : ConcurrentPlanResult A}

/-! ## The result -/

/-- A result holds the records in the declared order and the decisions of the run. -/
structure Assembled (x : Setup A) (s : Run A) (e : ConcurrentPlanResult A) : Prop where
  inputs : e.plan = x.admission.plan ∧ e.policy = x.admission.policy ∧
    e.resources = x.admission.resources ∧ e.timeout = x.timeout
  stops : e.stopReason = s.stopReason ∧ e.stoppedOffset = s.stoppedOffset ∧
    e.terminationReason = s.terminationReason ∧ e.terminationOffset = s.terminationOffset
  elapsed : e.elapsed = s.tick.offset x
  length : e.trials.length = x.trials.length
  trials : ∀ i r, e.trials[i]? = some r ↔ (i, r) ∈ s.allRecords x
  perm : e.trials.Perm ((s.allRecords x).map Prod.snd)

/-- A record of the result was written by `consume`, or its trial never started. -/
theorem Assembled.cases (he : Assembled x s e) {i : ℕ} {r : TrialRecord A}
    (hr : e.trials[i]? = some r) : (i, r) ∈ s.records ∨
      (i ∈ s.pending ∧ ∃ spec, x.trials[i]? = some spec ∧ r = s.unstarted x i spec) := by
  rcases List.mem_append.mp ((he.trials i r).mp hr) with hmem | hmem
  · exact .inl hmem
  · obtain ⟨j, hj, hspec⟩ := List.mem_filterMap.mp hmem
    obtain ⟨spec, hfound, heq⟩ := Option.map_eq_some_iff.mp hspec
    obtain ⟨rfl, rfl⟩ := Prod.mk.inj heq
    exact .inr ⟨hj, spec, hfound, rfl⟩

/-- A record with an offset of its failure or its admission was written by `consume`. -/
theorem Assembled.ran (he : Assembled x s e) {r : TrialRecord A} (hr : r ∈ e.trials)
    (hoffset : r.failure ≠ none ∨ r.admittedOffset ≠ none) : ∃ i, (i, r) ∈ s.records := by
  obtain ⟨i, hi⟩ := List.mem_iff_getElem?.mp hr
  rcases he.cases hi with hmem | ⟨-, spec, -, rfl⟩
  · exact ⟨i, hmem⟩
  · rcases hoffset with h | h <;> exact absurd rfl h

/-- A past offset lies within the elapsed time of the result. -/
theorem Assembled.within (he : Assembled x s e) {o : Finite64} (ho : Past x s o) :
    Iperf3Lib.within o e.elapsed :=
  ⟨ho.nonneg, he.elapsed ▸ (ho.mono (Nat.le_succ _)).le_offset⟩

/-- What `consume` computes for an outcome, by the kind of its status. -/
inductive Settled.Sound (executionStatus : A → NativeStatus) (termination : Option HardStop) :
    Settled A → Prop
  | native (a : A) : Sound executionStatus termination
      { status := .native (executionStatus a), artifact := some a }
  | exception (error : TrialException) (evidence : Option PyDict) (diagnostics : List PyStr) :
      error.typeName.hasText = true → (evidence ≠ none → diagnostics ≠ []) →
      (∀ item ∈ diagnostics, item.hasText = true) → Sound executionStatus termination
      { status := .exception, exception := some error, evidence, diagnostics }
  | interrupted (status : TrialStatus) (error : TrialException) : status.isInterrupted = true →
      error.typeName.hasText = true → (status = .timedOut → termination = some .timeout) →
      (status = .cancelled → termination ≠ some .timeout) → Sound executionStatus termination
      { status, exception := some error, reason := termination.map .hard
        cleanupConfirmed := decide (status ≠ .cleanupFailed) }

theorem settle_sound (x : Setup A) (t : Run A) (result : TaskResult A) :
    (t.settle x result).Sound x.executionStatus t.terminationReason := by
  have hinterrupted : ∀ error : Raised, Settled.Sound x.executionStatus t.terminationReason
      { status := t.interruption, exception := some error.toTrialException
        reason := t.terminationReason.map .hard } := by
    intro error
    unfold interruption
    split
    · next htimeout =>
      exact .interrupted .timedOut _ rfl error.hasText_typeName (fun _ => htimeout) (by simp)
    · next htimeout =>
      exact .interrupted .cancelled _ rfl error.hasText_typeName (by simp) (fun _ => htimeout)
  rcases result with a | ⟨fields, error⟩ | (⟨error, prior⟩ | error | error | error)
  · exact .native a
  · obtain ⟨hne, htext⟩ := hasText_diagnostics fields
    exact .exception _ _ _ error.hasText_typeName (fun _ => hne) htext
  · exact .interrupted .cleanupFailed _ rfl error.hasText_typeName (by simp) (by simp)
  · exact hinterrupted error
  · unfold settle
    dsimp only
    split
    · exact .exception _ none [] error.hasText_typeName (by simp) (by simp)
    · exact hinterrupted error
  · exact .exception _ none [] error.hasText_typeName (by simp) (by simp)

variable {index : ℕ} {r : TrialRecord A} {spec : TrialSpec} {owned : Owned A}
  {result : TaskResult A}

end Run

end Iperf3Lib
