import Iperf3Lib.Exceptions
import Iperf3Lib.Exporters.Exposition
import Iperf3Lib.General.Keyed
import Iperf3Lib.Py.Json.Number
import Iperf3Lib.Py.Num
import Iperf3Lib.Result.Observations
import Mathlib.Data.List.Lex

/-!
# Prometheus text

`render_text` emits samples one after the other: the state of the run, and for each flow and observer
what was measured. A sample is written as one line under its metric family. Labels are checked before
anything is emitted, values have to be finite, and no name and label set is emitted twice.

How a string is quoted in the text of an error is left to the parameter `repr`.
-/

namespace Iperf3Lib.Prometheus

open Py Exposition Json

/-! ## Results -/

/-- The measurements of a `SumStats` that are exported. -/
structure SumStats where
  bitsPerSecond : Option PyNum := none
  retransmits : Option PyNum := none
  lostPercent : Option PyNum := none
  jitterMs : Option PyNum := none

/-- A `FlowStats`. -/
structure FlowStats where
  direction : PyStr
  sender : Option SumStats := none
  receiver : Option SumStats := none

/-- An `EndStats`. -/
structure EndStats where
  sumSent : Option SumStats := none
  sumReceived : Option SumStats := none

/-- What is exported of a `Result`, with the method of its execution. -/
structure Result where
  ok : Bool
  completedAtSeconds : Option PyNum := none
  ending : Option EndStats := none
  bidirectional : Bool := false
  flows : List FlowStats := []
  method : Option Method := none

/-! ## Texts -/

/-- `s.replace(old, new)` of a single character. -/
def replaceChar (old : PyChar) (new s : PyStr) : PyStr := s.flatMap fun c => if c = old then new else [c]

/-- `_escape_label`. -/
def escapeLabel (value : PyStr) : PyStr :=
  replaceChar '"' "\\\"" (replaceChar '\n' "\\n" (replaceChar '\\' "\\\\" value))

/-- `float(value)`. -/
def toFloat : PyNum → Except Exc PyFloat
  | .int n =>
    match PyFloat.ofInt n with
    | .finite x => .ok (.finite x)
    | _ => .error ⟨.overflowError, "int too large to convert to float"⟩
  | .float x => .ok x

/-- `str(int(number)) if number.is_integer() else repr(number)`. -/
def numberText (x : Finite64) : List Char := if x.toRat.den = 1 then intRepr x.toRat.num else floatRepr x

/-- `_number`. -/
def number : Option PyNum → Except Exc (Option PyStr)
  | none => .ok none
  | some value => do
    match ← toFloat value with
    | .finite x => return some ((numberText x).map .scalar)
    | _ => valueError "Prometheus samples must be finite numbers"

/-- `value / divisor`, for a positive integer. -/
def divide (divisor : ℕ) : PyNum → Except Exc PyNum
  | .int n =>
    match PyFloat.ofRat (n / divisor) false with
    | .finite x => .ok (.float (.finite x))
    | _ => .error ⟨.overflowError, "integer division result too large for a float"⟩
  | .float (.finite x) => .ok (.float (PyFloat.ofRat (x.toRat / divisor) x.neg))
  | .float x => .ok (.float x)

/-! ## Labels -/

abbrev Labels := List (PyStr × PyStr)

/-- A mapping of label names to values. -/
structure LabelMapping where
  items : List (PyStr × PyVal)
  nodup : (items.map Prod.fst).Nodup

def reservedLabels : List PyStr := ["direction", "observer"]

/-- The checks of a label. -/
def checkLabel (repr : PyStr → PyStr) (item : PyStr × PyVal) : Except Exc (PyStr × PyStr) := do
  reject (isLabelName item.1 = false ∨ ("__" : PyStr).isPrefixOf item.1 = true ∨
    item.1 ∈ reservedLabels) (("invalid Prometheus label name: " : PyStr) ++ repr item.1)
  match item.2 with
  | .str value => return (item.1, value)
  | _ => typeError (("Prometheus label " : PyStr) ++ repr item.1 ++
      (" must have a string value" : PyStr))

/-- `normalized_labels`, checked. -/
def checkLabels (repr : PyStr → PyStr) (labels : LabelMapping) : Except Exc Labels :=
  labels.items.mapM (checkLabel repr)

/-- `normalized_labels | extra`, up to the order. -/
def merge (labels extra : Labels) : Labels :=
  (labels.filter fun p => p.1 ∉ extra.map Prod.fst) ++ extra

/-- The code points of a label name, by which labels are sorted. -/
def labelKey (p : PyStr × PyStr) : List ℕ := p.1.map PyChar.ord

/-- `sorted(all_labels.items())`. -/
def sortLabels (labels : Labels) : Labels := labels.insertionSort fun p q => labelKey p ≤ labelKey q

/-- `label_text`. -/
def labelText (labels : Labels) : PyStr :=
  if labels = [] then []
  else
    .scalar '{' :: (List.intercalate [.scalar ','] ((sortLabels labels).map fun p =>
      p.1 ++ ("=\"" : PyStr) ++ escapeLabel p.2 ++ ("\"" : PyStr))) ++ [.scalar '}']

/-! ## Emission -/

/-- The metric families. -/
inductive Gauge where
  | lastRunSuccess
  | completedTimestamp
  | lastSuccessTimestamp
  | throughput
  | retransmissions
  | packetLossRatio
  | jitter
deriving DecidableEq, Repr

namespace Gauge

def name : Gauge → PyStr
  | lastRunSuccess => "iperf3_last_run_success"
  | completedTimestamp => "iperf3_last_run_completed_timestamp_seconds"
  | lastSuccessTimestamp => "iperf3_last_success_timestamp_seconds"
  | throughput => "iperf3_last_run_throughput_bytes_per_second"
  | retransmissions => "iperf3_last_run_retransmissions"
  | packetLossRatio => "iperf3_last_run_packet_loss_ratio"
  | jitter => "iperf3_last_run_jitter_seconds"

def help : Gauge → PyStr
  | lastRunSuccess => "Whether the latest run completed successfully."
  | completedTimestamp => "Unix timestamp when the latest run completed."
  | lastSuccessTimestamp => "Unix timestamp when the latest successful run completed."
  | throughput => "Throughput observed during the latest run."
  | retransmissions => "TCP retransmissions reported during the latest run."
  | packetLossRatio => "Packet loss ratio reported during the latest run."
  | jitter => "Jitter reported during the latest run."

end Gauge

/-- The arguments of a call of `emit`. -/
structure Emission where
  gauge : Gauge
  value : Option PyNum
  extra : Labels := []

/-- A family: its name, its help text and its lines. -/
structure Family where
  name : PyStr
  help : PyStr
  lines : List PyStr

/-- `families` and `sample_identities`. -/
structure Output where
  families : List Family := []
  identities : List (PyStr × Labels) := []

/-- A line is added to its family, which is made if it is new. -/
def addLine (name help line : PyStr) : List Family → List Family
  | [] => [⟨name, help, [line]⟩]
  | family :: families =>
    if family.name = name then { family with lines := family.lines ++ [line] } :: families
    else family :: addLine name help line families

/-- `emit`. -/
def emit (repr : PyStr → PyStr) (labels : Labels) (output : Output) (e : Emission) : Except Exc Output := do
  reject (isMetricName e.gauge.name = false)
    (("invalid Prometheus metric name: " : PyStr) ++ repr e.gauge.name)
  match ← number e.value with
  | none => return output
  | some formatted =>
    let allLabels := merge labels e.extra
    let identity := (e.gauge.name, sortLabels allLabels)
    reject (identity ∈ output.identities)
      (("duplicate Prometheus sample: " : PyStr) ++ e.gauge.name ++ labelText allLabels)
    return {
      identities := output.identities ++ [identity]
      families := addLine e.gauge.name e.gauge.help
        (e.gauge.name ++ labelText allLabels ++ .scalar ' ' :: formatted) output.families }

/-! ## What is emitted -/

/-- `flows`, taken from the end of a run in one direction where there are none. -/
def exportedFlows (result : Result) : List FlowStats :=
  match result.flows, result.ending with
  | [], some ending =>
    if result.bidirectional then []
    else
      match result.method.getD .forward with
      | .reverse => [⟨"server_to_client", ending.sumSent, ending.sumReceived⟩]
      | .forward => [⟨"client_to_server", ending.sumSent, ending.sumReceived⟩]
      | _ => []
  | flows, _ => flows

/-- A measurement in its unit, if it is known. -/
def known (gauge : Gauge) (extra : Labels) (scale : PyNum → Except Exc PyNum) :
    Option PyNum → List (Except Exc Emission)
  | none => []
  | some value => [do return ⟨gauge, some (← scale value), extra⟩]

/-- The calls for one observer of a flow. -/
def observed (direction : PyStr) (observer : ObservationPoint) :
    Option SumStats → List (Except Exc Emission)
  | none => []
  | some stats =>
    let extra : Labels := [("direction", direction), ("observer", observer.text)]
    [do return ⟨.throughput, ← stats.bitsPerSecond.mapM (divide 8), extra⟩] ++
      known .retransmissions extra .ok stats.retransmits ++
      known .packetLossRatio extra (divide 100) stats.lostPercent ++
      known .jitter extra (divide 1000) stats.jitterMs

/-- The calls of `emit` in their order, each after the computation of its value. -/
def calls (result : Result) (lastSuccess : Option PyNum) : List (Except Exc Emission) :=
  [.ok ⟨.lastRunSuccess, some (.int (if result.ok then 1 else 0)), []⟩] ++
    known .completedTimestamp [] .ok result.completedAtSeconds ++
    [.ok ⟨.lastSuccessTimestamp,
      if result.ok && result.completedAtSeconds.isSome then result.completedAtSeconds else lastSuccess, []⟩] ++
    if result.ok then
      (exportedFlows result).flatMap fun flow =>
        observed flow.direction .sender flow.sender ++ observed flow.direction .receiver flow.receiver
    else []

/-- The lines of a family. -/
def Family.text (family : Family) : List PyStr :=
  [("# HELP " : PyStr) ++ family.name ++ .scalar ' ' :: family.help,
    ("# TYPE " : PyStr) ++ family.name ++ (" gauge" : PyStr)] ++ family.lines

/-- `render_text`. -/
def renderText (repr : PyStr → PyStr) (result : Result) (labels : LabelMapping)
    (lastSuccess : Option PyNum) : Except Exc PyStr := do
  let labels ← checkLabels repr labels
  let output ← (calls result lastSuccess).foldlM (fun output call => do emit repr labels output (← call)) {}
  return List.intercalate [.scalar '\n'] (output.families.flatMap Family.text) ++ [.scalar '\n']

end Iperf3Lib.Prometheus
