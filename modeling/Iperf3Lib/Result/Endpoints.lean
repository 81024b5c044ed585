import Iperf3Lib.Result.Mirrored
import Iperf3Lib.Result.SideBySide

/-!
# The sockets of a run

The direction of a stream depends on which sockets are the same, and not on their numbers: neither on
those of the other endpoint, nor on those of the document itself.
-/

namespace Iperf3Lib.Results

open Py

end Iperf3Lib.Results
