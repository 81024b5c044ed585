import Iperf3Lib.Adaptive.Execution
import Mathlib.Order.Bounds.Basic

/-!
# Results of an exploration

An eligible rate of a result rests on its records: each of its measured trials was valid and within
the limit of the loss, there are enough of them, and enough confirmations. The highest eligible rate is
the greatest of them, and where the exploration ran out of rates to refine, no provisional rate is left
above it.
-/

namespace Iperf3Lib.Adaptive

open Py

variable {parse : IpParser} {maxStrDigits : ℕ} {prepared : PreparedAdaptiveUDP}

/-- The record is of a measured trial at the rate. -/
def measures (rate : ℤ) (record : Trials.TrialRecord PyVal) : Bool :=
  record.spec.phase = .measured &&
    record.spec.rateIntent.bind RateIntent.aggregateBpsPerDirection = some rate

end Iperf3Lib.Adaptive
