import Iperf3Lib.Py.Str
import Iperf3Lib.Exceptions
import Iperf3Lib.General.Except
import Iperf3Lib.General.Stateful
import Iperf3Lib.Py.Float
import Iperf3Lib.Py.FloatOrder
import Iperf3Lib.Py.Num
import Iperf3Lib.Py.Math
import Iperf3Lib.Py.Sum
import Iperf3Lib.Py.Value
import Iperf3Lib.Py.Json.Number
import Iperf3Lib.Py.Json.Text
import Iperf3Lib.Py.Json.Scan
import Iperf3Lib.Py.Json.Dump
import Iperf3Lib.Py.Json.Loaded
import Iperf3Lib.Py.Json.Size
import Iperf3Lib.Py.Dynamic
import Iperf3Lib.Py.Json.Exact
import Iperf3Lib.Py.Json.Same
import Iperf3Lib.Py.Json.Paired
import Iperf3Lib.Py.Json.Tree
import Iperf3Lib.Result.Observations
import Iperf3Lib.Ipc.Codec
import Iperf3Lib.Ipc.Encode
import Iperf3Lib.General.Incremental
import Iperf3Lib.Ipc.Frames
import Iperf3Lib.Ipc.Accept
import Iperf3Lib.Ipc.Errors
import Iperf3Lib.Ipc.Session
import Iperf3Lib.Ipc.Delivery
import Iperf3Lib.Config
import Iperf3Lib.Intent
import Iperf3Lib.Trials
import Iperf3Lib.PartialEvents
import Iperf3Lib.Live.Events
import Iperf3Lib.Capture.Native
import Iperf3Lib.Capture.Strict
import Iperf3Lib.Capture.Parser
import Iperf3Lib.Capture.Evidence
import Iperf3Lib.Capture.Faithful
import Iperf3Lib.Capture.Drained
import Iperf3Lib.Capture.Retained
import Iperf3Lib.Capture.Survival
import Iperf3Lib.Parent.Receipt
import Iperf3Lib.Capture.Accounting
import Iperf3Lib.Capture.Unique
import Iperf3Lib.Parent.Responses
import Iperf3Lib.Parent.Sessions
import Iperf3Lib.Worker.Result
import Iperf3Lib.Worker.Publish
import Iperf3Lib.Live.Stream
import Iperf3Lib.Live.Lossless
import Iperf3Lib.Live.Projector
import Iperf3Lib.Live.Fragments
import Iperf3Lib.Live.Agreement
import Iperf3Lib.Execution
import Iperf3Lib.Reports.Checks
import Iperf3Lib.Reports.Archived
import Iperf3Lib.Config.Fields
import Iperf3Lib.Config.Written
import Iperf3Lib.Config.Restored
import Iperf3Lib.Reports.Retention
import Iperf3Lib.Concurrent.Plan
import Iperf3Lib.Concurrent.Run
import Iperf3Lib.General.Keyed
import Iperf3Lib.General.Reservations
import Iperf3Lib.General.Intervals
import Iperf3Lib.General.Weighted
import Iperf3Lib.General.Dispersion
import Iperf3Lib.General.CommandLine
import Iperf3Lib.General.OrderStatistics
import Iperf3Lib.Concurrent.Invariant
import Iperf3Lib.Concurrent.Safety
import Iperf3Lib.Concurrent.Reports
import Iperf3Lib.Concurrent.History
import Iperf3Lib.Concurrent.Outcomes
import Iperf3Lib.Concurrent.Accepted
import Iperf3Lib.Concurrent.Snapshot
import Iperf3Lib.Concurrent.Reserved
import Iperf3Lib.Sequential.RunPlan
import Iperf3Lib.Sequential.Owned
import Iperf3Lib.Sequential.Reports
import Iperf3Lib.Sequential.Durations
import Iperf3Lib.Sequential.History
import Iperf3Lib.Sequential.OwnedHistory
import Iperf3Lib.Sequential.Accepted
import Iperf3Lib.Analysis.Measurements
import Iperf3Lib.Analysis.Intervals
import Iperf3Lib.Analysis.Charged
import Iperf3Lib.Analysis.Coverage
import Iperf3Lib.Analysis.Stability
import Iperf3Lib.Analysis.Consistent
import Iperf3Lib.Analysis.ExactIntervals
import Iperf3Lib.Analysis.Balance
import Iperf3Lib.Analysis.Balanced
import Iperf3Lib.Assessments.Decision
import Iperf3Lib.Exporters.Exposition
import Iperf3Lib.Exporters.Prometheus
import Iperf3Lib.Exporters.Unforgeable
import Iperf3Lib.Cancellation.Control
import Iperf3Lib.Cancellation.Arbitration
import Iperf3Lib.Cancellation.RunLock
import Iperf3Lib.ConfigDict
import Iperf3Lib.Result.Model
import Iperf3Lib.Result.Reading
import Iperf3Lib.Result.Context
import Iperf3Lib.Result.Measurements
import Iperf3Lib.Result.Normalize
import Iperf3Lib.Result.Outcome
import Iperf3Lib.Result.Mirrored
import Iperf3Lib.Result.Renamed
import Iperf3Lib.Result.Requoted
import Iperf3Lib.Result.SideBySide
import Iperf3Lib.Result.Endpoints
import Iperf3Lib.Parent.Decode
import Iperf3Lib.Parent.Inbox
import Iperf3Lib.Parent.Exchange
import Iperf3Lib.Parent.Pipeline
import Iperf3Lib.Parent.Changes
import Iperf3Lib.Parent.Memory
import Iperf3Lib.Parent.Placed
import Iperf3Lib.Parent.Balance
import Iperf3Lib.Parent.Accounts
import Iperf3Lib.Parent.Reported
import Iperf3Lib.Parent.Conservation
import Iperf3Lib.Parent.Returned
import Iperf3Lib.Parent.Answered
import Iperf3Lib.Parent.Ordered
import Iperf3Lib.Native.Options
import Iperf3Lib.Native.Arguments
import Iperf3Lib.Native.Setters
import Iperf3Lib.Native.Applied
import Iperf3Lib.Artifacts.Pointers
import Iperf3Lib.Artifacts.Tokens
import Iperf3Lib.Artifacts.Resolution
import Iperf3Lib.Artifacts.Codec
import Iperf3Lib.Artifacts.Schemas
import Iperf3Lib.Artifacts.Settings
import Iperf3Lib.Reports.ConfigModel
import Iperf3Lib.Config.Codecs
import Iperf3Lib.Artifacts.Validation
import Iperf3Lib.Artifacts.Envelope
import Iperf3Lib.Artifacts.Shapes
import Iperf3Lib.Artifacts.Attribution
import Iperf3Lib.Adaptive.Policy
import Iperf3Lib.Adaptive.Observations
import Iperf3Lib.Adaptive.Outcome
