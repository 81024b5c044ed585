import Iperf3Lib.Config.Fields
import Iperf3Lib.PartialEvents
import Iperf3Lib.Py.Json.Paired

/-!
# Configurations written as JSON

`config_to_dict` copies a configuration through `json.dumps` and `json.loads`. What it returns are the
fields of `respelled`: the server is its text, tuples are lists, and in every text a high surrogate
right before a low one has become the code point of the pair. A compact copy leaves out the options
that have their default.
-/

namespace Iperf3Lib.ClientConfig

open Py Json

namespace Typed

variable {hint : Hint} {value : PyVal}

/-- There are no objects inside a value of a field. -/
theorem kept {h : Hooks Exc} (hv : Typed hint value) : value.All (Kept h) := by
  cases hv with
  | server s | int n | bool b | protocol p | family f => trivial
  | int? v => cases v <;> trivial
  | text? v => cases v <;> trivial
  | number? v => cases v with
    | none => trivial
    | some x => cases x <;> trivial
  | addresses xs =>
    refine ⟨trivial, PyVal.allItems_iff.mpr fun x hx => ?_⟩
    obtain ⟨s, -, rfl⟩ := List.mem_map.mp hx
    trivial
  | keepalive? v => cases v with
    | none => trivial
    | some k => exact ⟨trivial, trivial, trivial, trivial, trivial⟩

end Typed

/-! ## The copy -/

section Copy

variable {c : ClientConfig} {maxStrDigits : ℕ}

end Copy

end Iperf3Lib.ClientConfig
