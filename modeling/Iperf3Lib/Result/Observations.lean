import Iperf3Lib.Py.Num
import Iperf3Lib.Py.Value

/-!
# Observations

The closed vocabularies of a normalized result: who reported, which way the traffic went, which
endpoint observed a measurement and what the measurement covers. Each is encoded by its text.
-/

namespace Iperf3Lib

open Py

/-- `status` of an execution. -/
inductive NativeStatus where
  | completed
  | failed
  | incomplete
deriving DecidableEq, Repr

def NativeStatus.text : NativeStatus → String
  | .completed => "completed"
  | .failed => "failed"
  | .incomplete => "incomplete"

/-- `ReportingRole`. -/
inductive ReportingRole where
  | client
  | server
deriving DecidableEq, Repr

def ReportingRole.text : ReportingRole → String
  | .client => "client"
  | .server => "server"

/-- `direction`. -/
inductive FlowDirection where
  | clientToServer
  | serverToClient
  | unknown
deriving DecidableEq, Repr

def FlowDirection.text : FlowDirection → String
  | .clientToServer => "client_to_server"
  | .serverToClient => "server_to_client"
  | .unknown => "unknown"

/-- `ObservationPoint`. -/
inductive ObservationPoint where
  | sender
  | receiver
deriving DecidableEq, Repr

def ObservationPoint.text : ObservationPoint → String
  | .sender => "sender"
  | .receiver => "receiver"

/-- `scope`. -/
inductive Scope where
  | aggregate
  | stream
  | unknown
deriving DecidableEq, Repr

def Scope.text : Scope → String
  | .aggregate => "aggregate"
  | .stream => "stream"
  | .unknown => "unknown"

/-- `method` of an execution. -/
inductive Method where
  | forward
  | reverse
  | bidirectional
  | unknown
deriving DecidableEq, Repr

def Method.text : Method → String
  | .forward => "forward"
  | .reverse => "reverse"
  | .bidirectional => "bidirectional"
  | .unknown => "unknown"

namespace Py.PyVal

/-- An optional value, absent as `None`. -/
def ofOption {α : Type} (f : α → PyVal) : Option α → PyVal
  | some x => f x
  | Option.none => .none

/-- A literal of the source. -/
def lit (s : String) : PyVal := .str s

end Py.PyVal

end Iperf3Lib
