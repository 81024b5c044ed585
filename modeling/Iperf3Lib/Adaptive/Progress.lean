import Iperf3Lib.Adaptive.Budgets
import Iperf3Lib.General.Stateful
import Iperf3Lib.Py.Json.Number
import Iperf3Lib.Py.Sum

/-!
# Progress of an exploration

Behind an accepted history the planner never fails. The trials of a single rate are admitted like
those of the initial grid, so that only the limits of the experiment can refuse them, and a refusal
ends the exploration. Each round charges trials, so that there are finitely many of them.
-/

namespace Iperf3Lib.Adaptive

open Py

variable {parse : IpParser} {maxStrDigits : ℕ} {prepared : PreparedAdaptiveUDP}

/-! ## Pauses -/

theorem meets_reject {condition : Prop} [Decidable condition] {message : PyStr} {Q : Exc → Prop}
    (h : Q ⟨.valueError, message⟩) : Meets (fun _ => ¬ condition) Q (reject condition message) := by
  unfold reject
  split
  · exact h
  · next hnot => exact hnot

end Iperf3Lib.Adaptive
