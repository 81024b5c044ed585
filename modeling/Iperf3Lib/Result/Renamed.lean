import Iperf3Lib.Result.Outcome

/-!
# Renaming the sockets of a document

A document with other numbers for its sockets. All that is read of it, except for the sockets
themselves, is what is read of the document itself.
-/

namespace Iperf3Lib.Results

open Py

variable (ρ : ℤ → ℤ)

/-! ## The renamed document -/

/-- The value at a key: the number of a socket is renamed, and what is below any value. -/
def renamedAt (name : PyStr) (value renamed : PyVal) : PyVal :=
  match value with
  | .int n => .int (if name = PyStr.ofString "socket" then ρ n else n)
  | _ => renamed

mutual

/-- The value with every number at a key `"socket"` renamed. -/
def renamed : PyVal → PyVal
  | .none => .none
  | .bool b => .bool b
  | .int n => .int n
  | .float x => .float x
  | .str s => .str s
  | .list xs => .list (renamedItems xs)
  | .tuple xs => .tuple (renamedItems xs)
  | .dict kvs => .dict (renamedPairs kvs)
  | .obj cls fields => .obj cls fields

def renamedItems : List PyVal → List PyVal
  | [] => []
  | x :: xs => renamed x :: renamedItems xs

def renamedPairs : List (PyStr × PyVal) → List (PyStr × PyVal)
  | [] => []
  | (k, x) :: kvs => (k, renamedAt ρ k x (renamed x)) :: renamedPairs kvs

end

section Readers

variable {ρ} {data : PyDict} {name : String} (hname : name ≠ "socket")
include hname

end Readers

section Context

variable {ρ} (raw start testStart endData : PyDict)

/-- The context of the renamed document. -/
def Context.renamed (ρ : ℤ → ℤ) (ctx : Context) : Context :=
  { ctx with
    start := renamedPairs ρ ctx.start
    testStart := renamedPairs ρ ctx.testStart
    endData := renamedPairs ρ ctx.endData
    timestamp := renamedPairs ρ ctx.timestamp }

variable (ctx : Context)

end Context

end Iperf3Lib.Results
