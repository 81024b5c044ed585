import Iperf3Lib.Exceptions
import Iperf3Lib.Py.Dynamic
import Iperf3Lib.Py.Json.Dump
import Mathlib.Data.List.Sort

/-!
# Exact JSON equality

Two values are exactly equal if `json.dumps` with sorted keys writes the same text for both. Unlike
`==` this tells an integer from a float and a boolean from an integer; a tuple is written as a list.
-/

namespace Iperf3Lib.Py.Json

mutual

/-- The members of every object in the order of their keys. -/
def sortKeys : PyVal → PyVal
  | .list xs => .list (sortKeysItems xs)
  | .tuple xs => .tuple (sortKeysItems xs)
  | .dict kvs => .dict ((sortKeysPairs kvs).insertionSort fun a b => !b.1.lt a.1)
  | v => v

def sortKeysItems : List PyVal → List PyVal
  | [] => []
  | x :: xs => sortKeys x :: sortKeysItems xs

def sortKeysPairs : List (PyStr × PyVal) → List (PyStr × PyVal)
  | [] => []
  | (k, x) :: kvs => (k, sortKeys x) :: sortKeysPairs kvs

end

theorem ws_space : Ws [.scalar ' '] := by
  simp [Ws, isWs]

/-- The separators of `json.dumps` without an indentation. -/
def Layout.standard : Layout :=
  ⟨true, fun _ => [], fun _ => [.scalar ' '], [.scalar ' '], fun _ => .nil, fun _ => ws_space, ws_space⟩

/-- What `json.dumps(allow_nan=False)` raises. -/
def standardFaults (maxStrDigits : ℕ) : Faults Exc where
  nonfinite := ⟨.valueError, "Out of range float values are not JSON compliant"⟩
  unsupported cls := ⟨.typeError, (s!"Object of type {cls} is not JSON serializable" : String)⟩
  digits := ⟨.valueError, "Exceeds the limit for integer string conversion"⟩
  maxStrDigits := maxStrDigits

/-- `json.dumps(value, sort_keys=True, allow_nan=False)`. -/
def dumpsSorted (maxStrDigits : ℕ) (value : PyVal) : Except Exc PyStr :=
  dump .standard (standardFaults maxStrDigits) 0 (sortKeys value)

/-- `_exact_equal`. -/
def exactEqual (maxStrDigits : ℕ) (left right : PyVal) : Except Exc Bool := do
  let left ← dumpsSorted maxStrDigits left
  let right ← dumpsSorted maxStrDigits right
  return left = right

end Iperf3Lib.Py.Json
