import Iperf3Lib.Adaptive.Progress

/-!
# Execution of an exploration

`run_adaptive_udp` takes one batch after the other from the planner until there is none, and then
summarises what it has. However the batches come out, it ends within the trials of the policy, with a
result or with the planner's refusal of an execution.
-/

namespace Iperf3Lib.Adaptive

open Py

section Run

variable (parse : IpParser) (maxStrDigits : ℕ)

end Run

variable {parse : IpParser} {maxStrDigits : ℕ} {prepared : PreparedAdaptiveUDP}

/-! ## Accepted histories -/

/-- What is known of an accepted history. -/
structure Accepted (parse : IpParser) (maxStrDigits : ℕ) (prepared : PreparedAdaptiveUDP)
    (history : List AdaptiveBatchResult) (s : Replay) : Prop where
  admitted : prepared.Admitted parse
  replay : historyWithObservations parse maxStrDigits prepared history = .ok s
  kept : s.Kept
  within : Within prepared s.retained
  batches : s.retained.map AdaptiveBatchResult.batch = history.map AdaptiveBatchResult.batch

theorem length_le_trials {history : List AdaptiveBatchResult}
    (h : ∀ item ∈ history, item.batch.plan.trials ≠ []) :
    (history.length : ℤ) ≤
      (history.map fun item => (item.batch.plan.trials.length : ℤ)).sum := by
  induction history with
  | nil => exact le_rfl
  | cons item rest ih =>
    obtain ⟨hitem, hrest⟩ := List.forall_mem_cons.mp h
    have hpositive := List.length_pos_of_ne_nil hitem
    have hle := ih hrest
    rw [List.length_cons, List.map_cons, List.sum_cons]
    push_cast
    omega

/-- There are no more batches than trials. -/
theorem Accepted.length_le {history : List AdaptiveBatchResult} {s : Replay}
    (h : Accepted parse maxStrDigits prepared history s) :
    (history.length : ℤ) ≤ prepared.policy.maxTrials := by
  have hlength : history.length = s.retained.length := by
    have hbatches := congrArg List.length h.batches
    rwa [List.length_map, List.length_map, eq_comm] at hbatches
  rw [hlength]
  exact (length_le_trials h.within.nonempty).trans h.within.trials

end Iperf3Lib.Adaptive
