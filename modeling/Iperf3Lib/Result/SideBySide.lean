import Mathlib.Data.List.ReduceOption
import Iperf3Lib.Result.Requoted

/-!
# Normalizing a renamed document

The steps of the normalizer over a document, beside the same steps over the renamed one, up to the
results: only the identifiers of the streams differ.
-/

namespace Iperf3Lib.Results

open Py

variable {ρ : ℤ → ℤ}

def Provenance.renamed (ρ : ℤ → ℤ) (p : Provenance) : Provenance :=
  { p with streamId := p.streamId.map ρ }

def IntervalStats.renamed (ρ : ℤ → ℤ) (stats : IntervalStats) : IntervalStats :=
  { stats with streamId := stats.streamId.map ρ }

def StreamStats.renamed (ρ : ℤ → ℤ) (stats : StreamStats) : StreamStats :=
  { stats with streamId := stats.streamId.map ρ }

def NativeInterval.renamed (ρ : ℤ → ℤ) (interval : NativeInterval) : NativeInterval where
  fields := renamedPairs ρ interval.fields
  streams := interval.streams.map (renamedPairs ρ)

def EndStream.renamed (ρ : ℤ → ℤ) (stream : EndStream) : EndStream :=
  stream.map fun endpoint => (endpoint.1, renamedPairs ρ endpoint.2)

variable (hρ : Function.Injective ρ) {ctx : Context} {records : SocketSenders}
include hρ

/-- The shape of the renamed document. -/
def Shape.renamed (ρ : ℤ → ℤ) (shape : Shape) : Shape where
  endStreams := shape.endStreams.map (EndStream.renamed ρ)
  intervals := shape.intervals.map (NativeInterval.renamed ρ)
  senders := renamedSenders ρ shape.senders

/-- The contexts of the document and of the renamed one, with the same producer. -/
structure Context.Beside (ρ : ℤ → ℤ) (ctx ctx' : Context) : Prop where
  renamed : ctx.renamed ρ = ctx'
  version : fieldValue (renamedPairs ρ ctx.start) "version" = fieldValue ctx.start "version"
  systemInfo :
    fieldValue (renamedPairs ρ ctx.start) "system_info" = fieldValue ctx.start "system_info"

/-- The result of the renamed document, with the diagnostics that it notes. -/
def Result.renamed (ρ : ℤ → ℤ) (r : Result) (diagnostics : List Diagnostic) : Result :=
  { r with
    raw := renamedPairs ρ r.raw
    intervals := r.intervals.map (IntervalStats.renamed ρ)
    streams := r.streams.map (StreamStats.renamed ρ)
    diagnostics := diagnostics }

end Iperf3Lib.Results
