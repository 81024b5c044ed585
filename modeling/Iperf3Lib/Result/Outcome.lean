import Iperf3Lib.Result.Normalize

/-!
# What the normalizer returns and raises

Every step of `result_from_iperf_json` raises only what its caller catches. Of the values it returns,
the direction, the observation and the identifier of a stream are the ones that its local sender flag
and the flags of its socket attribute to it.
-/

namespace Iperf3Lib.Results

open Py

variable {ctx : Context} {records : SocketSenders}

/-! ## Measurements -/

theorem yields_sctpRetransmits (canonicalPath sourcePath : PyStr) :
    Yields (fun _ => True) Caught (sctpRetransmits ctx canonicalPath sourcePath) :=
  (yields_setAvailability _ _ _).bind fun _ _ => yields_diagnose _

theorem yields_retransmits (data : PyDict) (canonicalPath sourcePath : PyStr) :
    Yields (fun _ => True) Caught (retransmits ctx data canonicalPath sourcePath) := by
  unfold retransmits
  split
  · split
    · exact (yields_sctpRetransmits _ _).bind fun _ _ => .pure trivial
    · exact .lift (meets_valueError _)
  · exact .lift ((meets_optionalInteger _ _).mono fun _ _ => trivial)

theorem yields_tcpSample (data : PyDict) (canonicalPath sourcePath : PyStr) (name : String × String) :
    Yields (fun _ => True) Caught (tcpSample ctx data canonicalPath sourcePath name) := by
  unfold tcpSample
  dsimp only
  split
  · exact .pure trivial
  · exact .pure trivial
  · split
    · refine (yields_setAvailability _ _ _).bind fun _ _ => ?_
      exact (yields_diagnose _).bind fun _ _ => .pure trivial
    · exact (Yields.lift (meets_reject _)).bind fun _ _ => .pure trivial
  · exact .lift (meets_valueError _)

theorem yields_tcpSamples (data : PyDict) (names : List (String × String))
    (canonicalPath sourcePath : PyStr) (attributable : Bool) :
    Yields (fun _ => True) Caught
      (tcpSamples ctx data names canonicalPath sourcePath attributable) := by
  unfold tcpSamples
  split
  · exact .pure trivial
  · refine (Yields.lift (meets_optionalFlag _ _)).bind fun sender _ => ?_
    split
    · exact (Yields.mapM names fun name _ => yields_tcpSample _ _ _ name).bind fun _ _ => .pure trivial
    · refine (yields_setAvailability _ _ _).bind fun _ _ => ?_
      exact (yields_diagnose _).bind fun _ _ => .pure trivial

theorem meets_microseconds (value : ℤ) : Meets (fun _ => True) Caught (microseconds value) := by
  unfold microseconds
  dsimp only
  split
  · trivial
  · exact show (ExcClass.overflowError) ∈ caughtClasses by decide

theorem meets_secondsOf (samples : List TcpSample) (field : String) :
    Meets (fun _ => True) Caught (secondsOf samples field) := by
  unfold secondsOf
  split
  · trivial
  · exact (meets_microseconds _).map fun _ _ => trivial

theorem meets_summaryEvidence (samples : List TcpSample) :
    Meets (fun _ => True) Caught (summaryEvidence samples) := by
  refine (meets_secondsOf _ _).bind fun _ _ => ?_
  refine (meets_secondsOf _ _).bind fun _ _ => ?_
  refine (meets_secondsOf _ _).bind fun _ _ => ?_
  trivial

theorem meets_intervalEvidence (samples : List TcpSample) :
    Meets (fun _ => True) Caught (intervalEvidence samples) := by
  refine (meets_secondsOf _ _).bind fun _ _ => ?_
  refine (meets_secondsOf _ _).bind fun _ _ => ?_
  trivial

theorem yields_tcpEvidence {α : Type} {data : PyDict} {names : List (String × String)}
    {build : List TcpSample → Except Exc α} (hbuild : ∀ samples, Meets (fun _ => True) Caught (build samples))
    (canonicalPath sourcePath : PyStr) (attributable : Bool) :
    Yields (fun _ => True) Caught
      (tcpEvidence ctx data names build canonicalPath sourcePath attributable) := by
  refine (yields_tcpSamples _ _ _ _ _).bind fun samples _ => ?_
  cases samples with
  | none => exact .pure trivial
  | some samples => exact (Yields.lift (hbuild samples)).bind fun _ _ => .pure trivial

theorem yields_summaryTcp (data : PyDict) (name : PyStr) (observation : Option ObservationPoint)
    (canonicalPath : PyStr) :
    Yields (fun _ => True) Caught (summaryTcp ctx records data name observation canonicalPath) := by
  unfold summaryTcp
  split
  · exact yields_tcpEvidence meets_summaryEvidence _ _ _
  · exact .pure trivial

theorem yields_readSum (value : Option PyVal) (name : PyStr) (direction : FlowDirection)
    (observation : Option ObservationPoint) (canonicalPath : PyStr) :
    Yields (fun _ => True) Caught
      (readSum ctx records value name direction observation canonicalPath) := by
  unfold readSum
  split
  · exact .pure trivial
  · exact .pure trivial
  · next data =>
    have hnumber := fun name => Yields.lift (σ := Notes) (meets_optionalNumber data name)
    have hinteger := fun name => Yields.lift (σ := Notes) (meets_optionalInteger data name)
    refine (hnumber _).bind fun _ _ => ?_
    refine (hnumber _).bind fun _ _ => ?_
    refine (hnumber _).bind fun _ _ => ?_
    refine (hinteger _).bind fun _ _ => ?_
    refine (hnumber _).bind fun _ _ => ?_
    refine (hinteger _).bind fun _ _ => ?_
    refine (hinteger _).bind fun _ _ => ?_
    refine (yields_retransmits _ _ _).bind fun _ _ => ?_
    refine (yields_when yields_measured).bind fun _ _ => ?_
    refine (yields_when (yields_diagnose _)).bind fun _ _ => ?_
    refine (hnumber _).bind fun _ _ => ?_
    refine (hnumber _).bind fun _ _ => ?_
    refine (Yields.lift (meets_optionalFlag _ _)).bind fun _ _ => ?_
    refine (yields_summaryTcp _ _ _ _).bind fun _ _ => ?_
    exact .pure trivial
  · exact .lift (meets_valueError _)

/-! ## Streams -/

/-- The provenance of a stream comes from its own flag and from the flags of its socket. -/
structure Provenance.Of (ctx : Context) (records : SocketSenders) (data : PyDict) (p : Provenance) :
    Prop where
  streamId : optionalInteger data "socket" = .ok p.streamId
  attribution : ∃ flag, optionalFlag data "sender" = .ok flag ∧
    p.sender = (attributed ctx.reportingRole ctx.modes flag (sendersOf records p.streamId)).sender ∧
    p.direction = (attributed ctx.reportingRole ctx.modes flag (sendersOf records p.streamId)).direction

theorem yields_streamProvenance (data : PyDict) (sourcePath : PyStr) :
    Yields (Provenance.Of ctx records data) Caught
      (streamProvenance ctx records data sourcePath) := by
  refine (Yields.lift (meets_optionalInteger _ _).self).bind fun streamId hstream => ?_
  refine (Yields.lift (meets_optionalFlag _ _).self).bind fun flag hflag => ?_
  dsimp only
  refine Yields.bind (P := fun _ => True) ?_ fun _ _ => .pure ⟨hstream, flag, hflag, rfl, rfl⟩
  cases (attributed ctx.reportingRole ctx.modes flag (sendersOf records streamId)).complaint with
  | none => exact .pure trivial
  | some complaint => exact yields_diagnose _

theorem yields_diagnoseInterval (canonicalPath sourcePath : PyStr)
    (startSeconds endSeconds bitrate : Option PyNum) (observation : Option ObservationPoint) :
    Yields (fun _ => True) Caught
      (diagnoseInterval canonicalPath sourcePath startSeconds endSeconds bitrate observation) := by
  refine (yields_when (yields_diagnose _)).bind fun _ _ => ?_
  refine (yields_when (yields_diagnose _)).bind fun _ _ => ?_
  exact yields_when ((yields_diagnose _).bind fun _ _ => yields_setAvailability _ _ _)

theorem yields_intervalTcp (data : PyDict) (scope : Scope) (observation : Option ObservationPoint)
    (canonicalPath sourcePath : PyStr) :
    Yields (fun _ => True) Caught
      (intervalTcp ctx data scope observation canonicalPath sourcePath) := by
  unfold intervalTcp
  split
  · exact yields_tcpEvidence meets_intervalEvidence _ _ _
  · exact .pure trivial

theorem yields_readInterval (index : ℕ) (data : PyDict) (direction : FlowDirection)
    (observation : Option ObservationPoint) (streamId : Option ℤ) (scope : Scope) (sourcePath : PyStr) :
    Yields (fun stats => stats.direction = direction ∧ stats.observation = observation ∧
        stats.streamId = streamId ∧ stats.scope = scope) Caught
      (readInterval ctx index data direction observation streamId scope sourcePath) := by
  have hnumber := fun name => Yields.lift (σ := Notes) (meets_optionalNumber data name)
  have hinteger := fun name => Yields.lift (σ := Notes) (meets_optionalInteger data name)
  refine (hnumber _).bind fun _ _ => ?_
  refine (hnumber _).bind fun _ _ => ?_
  refine (hnumber _).bind fun _ _ => ?_
  refine (yields_diagnoseInterval _ _ _ _ _ _).bind fun _ _ => ?_
  refine (hinteger _).bind fun _ _ => ?_
  refine (hnumber _).bind fun _ _ => ?_
  refine (Yields.lift (meets_optionalFlag _ _)).bind fun _ _ => ?_
  refine (hinteger _).bind fun _ _ => ?_
  refine (hinteger _).bind fun _ _ => ?_
  refine (yields_retransmits _ _ _).bind fun _ _ => ?_
  refine (hnumber _).bind fun _ _ => ?_
  refine (hnumber _).bind fun _ _ => ?_
  refine (yields_intervalTcp _ _ _ _ _).bind fun _ _ => ?_
  exact .pure ⟨rfl, rfl, rfl, rfl⟩

/-! ## Flows and the shape of the document -/

theorem yields_readFlow (source : (FlowDirection × String) × ℕ) :
    Yields (fun _ => True) Caught (readFlow ctx source) := by
  refine (yields_readSum _ _ _ _ _).bind fun _ _ => ?_
  refine (yields_readSum _ _ _ _ _).bind fun _ _ => ?_
  refine (yields_when (yields_diagnose _)).bind fun _ _ => ?_
  exact .pure trivial

theorem meets_recordSocketSender (data : PyDict) :
    Meets (fun _ => True) Caught (recordSocketSender data) := by
  refine (meets_optionalInteger _ _).bind fun _ _ => ?_
  refine (meets_optionalFlag _ _).bind fun _ _ => ?_
  trivial

theorem meets_readEndpoint (stream : PyDict) (name : String) :
    Meets (fun _ => True) Caught (readEndpoint stream name) := by
  unfold readEndpoint
  split
  · trivial
  · trivial
  · refine (meets_asObject _ _).bind fun _ _ => ?_
    refine (meets_recordSocketSender _).bind fun _ _ => ?_
    trivial

theorem meets_readEndStream (value : PyVal) : Meets (fun _ => True) Caught (readEndStream value) := by
  refine (meets_asObject _ _).bind fun stream _ => ?_
  refine (Meets.mapM _ fun name _ => meets_readEndpoint stream name).bind fun _ _ => ?_
  trivial

theorem meets_readIntervalStream (value : PyVal) :
    Meets (fun _ => True) Caught (readIntervalStream value) := by
  refine (meets_asObject _ _).bind fun stream _ => ?_
  refine (meets_recordSocketSender _).bind fun _ _ => ?_
  trivial

theorem meets_readNativeInterval (value : PyVal) :
    Meets (fun _ => True) Caught (readNativeInterval value) := by
  refine (meets_asObject _ _).bind fun interval _ => ?_
  refine (meets_optionalArray _ _ _).bind fun values _ => ?_
  refine (Meets.mapM _ fun value _ => meets_readIntervalStream value).bind fun _ _ => ?_
  trivial

theorem meets_readShape (raw endData : PyDict) : Meets (fun _ => True) Caught (readShape raw endData) := by
  refine (meets_optionalArray _ _ _).bind fun _ _ => ?_
  refine (meets_optionalArray _ _ _).bind fun _ _ => ?_
  refine (Meets.mapM _ fun value _ => meets_readEndStream value).bind fun _ _ => ?_
  refine (Meets.mapM _ fun value _ => meets_readNativeInterval value).bind fun _ _ => ?_
  trivial

/-! ## Intervals -/

/-- The intervals of the streams. -/
def streamIntervals (intervals : List IntervalStats) : List IntervalStats :=
  intervals.filter fun stats => stats.scope = .stream

theorem streamIntervals_append (intervals : List IntervalStats) (stats : IntervalStats) :
    streamIntervals (intervals ++ [stats]) =
      streamIntervals intervals ++ if stats.scope = .stream then [stats] else [] := by
  rw [streamIntervals, List.filter_append, List.filter_singleton]
  by_cases h : stats.scope = .stream <;> simp [h, streamIntervals]

/-- The interval of a stream has what its provenance says. -/
def IntervalStats.Of (ctx : Context) (records : SocketSenders) (data : PyDict) (stats : IntervalStats) :
    Prop :=
  ∃ p : Provenance, p.Of ctx records data ∧ stats.streamId = p.streamId ∧
    stats.observation = p.sender.map observerOf ∧ stats.direction = p.direction

theorem yields_checkReverseFlow (sourcePath : PyStr) :
    Yields (fun _ => True) Caught (checkReverseFlow ctx sourcePath) :=
  (Yields.lift (meets_reject _)).bind fun _ _ => yields_diagnose _

theorem yields_addSummary (interval : NativeInterval × ℕ) (intervals : List IntervalStats)
    (key : SummaryKey) :
    Yields (fun out => streamIntervals out = streamIntervals intervals) Caught
      (addSummary ctx interval intervals key) := by
  unfold addSummary
  dsimp only
  split
  · exact .pure rfl
  · exact .pure rfl
  · refine (Yields.lift (meets_asObject _ _)).bind fun sums _ => ?_
    refine (yields_when (yields_checkReverseFlow _)).bind fun _ _ => ?_
    refine (Yields.lift (meets_optionalFlag _ _)).bind fun sender _ => ?_
    refine (yields_readInterval _ _ _ _ _ _ _).bind fun stats hstats => .pure ?_
    obtain ⟨-, -, -, hscope⟩ := hstats
    rw [streamIntervals_append, if_neg (by rw [hscope]; decide), List.append_nil]

theorem yields_addStream (index : ℕ) (intervals : List IntervalStats) (stream : PyDict × ℕ) :
    Yields (fun out => ∃ stats, streamIntervals out = streamIntervals intervals ++ [stats] ∧
        stats.Of ctx records stream.1) Caught
      (addStream ctx records index intervals stream) := by
  refine (yields_streamProvenance _ _).bind fun p hp => ?_
  refine (yields_readInterval _ _ _ _ _ _ _).bind fun stats hstats => .pure ⟨stats, ?_, ?_⟩
  · rw [streamIntervals_append, if_pos hstats.2.2.2]
  · obtain ⟨hdirection, hobservation, hstream, -⟩ := hstats
    exact ⟨p, hp, hstream, hobservation, hdirection⟩

/-- The intervals so far are those of the streams so far. -/
def Gathered (ctx : Context) (records : SocketSenders) (streams : List PyDict)
    (intervals : List IntervalStats) : Prop :=
  List.Forall₂ (fun data stats => IntervalStats.Of ctx records data stats) streams
    (streamIntervals intervals)

theorem yields_addInterval {done : List PyDict} {intervals : List IntervalStats}
    (h : Gathered ctx records done intervals) (interval : NativeInterval × ℕ) :
    Yields (Gathered ctx records (done ++ interval.1.streams)) Caught
      (addInterval ctx records intervals interval) := by
  have hsummaries : Yields (Gathered ctx records done) Caught
      (summaryKeys.foldlM (addSummary ctx interval) intervals) := by
    refine Yields.foldlM (S := fun _ => Gathered ctx records done) summaryKeys ?_ h
    intro _ key _ out _ hout
    refine (yields_addSummary interval out key).mono fun out' hout' => ?_
    rw [Gathered, hout']
    exact hout
  refine hsummaries.bind fun out hout => ?_
  have hstreams : interval.1.streams.zipIdx.map Prod.fst = interval.1.streams :=
    List.zipIdx_map_fst 0 _
  refine (Yields.foldlM (S := fun before => Gathered ctx records (done ++ before.map Prod.fst))
    _ ?_ ?_).mono fun out' hout' => hstreams ▸ hout'
  · intro before stream _ intervals' _ hintervals'
    refine (yields_addStream _ _ stream).mono fun out' hout' => ?_
    obtain ⟨stats, hout', hstats⟩ := hout'
    rw [Gathered, hout', List.map_append, ← List.append_assoc]
    exact List.rel_append hintervals' (.cons hstats .nil)
  · rw [List.map_nil, List.append_nil]
    exact hout

theorem yields_intervals (intervals : List NativeInterval) :
    Yields (Gathered ctx records (intervals.flatMap NativeInterval.streams)) Caught
      (intervals.zipIdx.foldlM (addInterval ctx records) []) := by
  have hintervals : intervals.zipIdx.map Prod.fst = intervals := List.zipIdx_map_fst 0 _
  rw [← congrArg (List.flatMap NativeInterval.streams) hintervals]
  refine Yields.foldlM (S := fun before =>
    Gathered ctx records ((before.map Prod.fst).flatMap NativeInterval.streams)) _ ?_ .nil
  intro before interval _ out _ hout
  rw [List.map_append, List.flatMap_append, List.map_singleton, List.flatMap_singleton]
  exact yields_addInterval hout interval

/-! ## End streams -/

/-- A stream has the direction and the identifier that its endpoints agree on. -/
def StreamStats.Of (ctx : Context) (records : SocketSenders) (stream : EndStream)
    (stats : StreamStats) : Prop :=
  ∃ ps : List Provenance, List.Forall₂ (fun endpoint p => Provenance.Of ctx records endpoint.2 p)
      stream ps ∧
    stats.direction = (streamIdentity ps).1 ∧ stats.streamId = (streamIdentity ps).2

theorem yields_diagnoseUdp (canonicalPath sourcePath : PyStr) :
    Yields (fun _ => True) Caught (diagnoseUdp canonicalPath sourcePath) :=
  (yields_diagnose _).bind fun _ _ => yields_setAvailability _ _ _

theorem yields_addEndpoint (index : ℕ) (stats : StreamStats) (endpoint : String × PyDict) :
    Yields (fun out => out.direction = stats.direction ∧ out.streamId = stats.streamId) Caught
      (addEndpoint ctx records index stats endpoint) := by
  refine (yields_readSum _ _ _ _ _).bind fun sums _ => ?_
  refine (yields_when (yields_diagnoseUdp _ _)).bind fun _ _ => .pure ?_
  split_ifs <;> exact ⟨rfl, rfl⟩

theorem yields_readStream (stream : EndStream × ℕ) :
    Yields (StreamStats.Of ctx records stream.1) Caught (readStream ctx records stream) := by
  refine (Yields.mapM stream.1 fun endpoint _ => yields_streamProvenance endpoint.2 _).bind
    fun ps hps => ?_
  refine (yields_when (yields_diagnose _)).bind fun _ _ => ?_
  have hkeeps := Yields.foldlM (S := fun _ (stats : StreamStats) =>
    stats.direction = (streamIdentity ps).1 ∧ stats.streamId = (streamIdentity ps).2) stream.1
    (f := addEndpoint ctx records stream.2) (Q := Caught) ?_
    (b := { direction := (streamIdentity ps).1, streamId := (streamIdentity ps).2 }) ⟨rfl, rfl⟩
  · exact hkeeps.mono fun stats hstats => ⟨ps, hps, hstats⟩
  · intro _ endpoint _ stats _ hstats
    refine (yields_addEndpoint _ stats endpoint).mono fun out hout => ?_
    exact ⟨hout.1.trans hstats.1, hout.2.trans hstats.2⟩

/-! ## Settings, processors and the outcome -/

theorem meets_foldlM {α β : Type} {f : β → α → Except Exc β} (xs : List α)
    (hf : ∀ b a, Meets (fun _ => True) Caught (f b a)) (b : β) :
    Meets (fun _ => True) Caught (xs.foldlM f b) := by
  induction xs generalizing b with
  | nil => trivial
  | cons a xs ih =>
    rw [List.foldlM_cons]
    exact (hf b a).bind fun b' _ => ih b'

theorem yields_verifyRate (effective : List (String × VerifiedSetting)) :
    Yields (fun _ => True) Caught (verifyRate ctx effective) := by
  refine (Yields.lift (meets_optionalInteger _ _)).bind fun _ _ => ?_
  refine (Yields.lift (meets_optionalInteger _ _)).bind fun _ _ => ?_
  refine (yields_when (yields_diagnose _)).bind fun _ _ => ?_
  exact .pure trivial

theorem meets_verifyServer (start : PyDict) (effective : List (String × VerifiedSetting)) :
    Meets (fun _ => True) Caught (verifyServer start effective) := by
  have hstart : Meets (fun _ => True) Caught (connectingTo start) := by
    unfold connectingTo
    split
    · trivial
    · exact (meets_asObject _ _).mono fun _ _ => trivial
  have hhost : ∀ data, Meets (fun _ => True) Caught (connectingHost data) := by
    intro data
    unfold connectingHost
    split
    · trivial
    · trivial
    · exact meets_valueError _
  refine hstart.bind fun data _ => ?_
  refine (hhost data).bind fun _ _ => ?_
  refine (meets_optionalInteger _ _).bind fun _ _ => ?_
  trivial

theorem yields_effectiveSettings : Yields (fun _ => True) Caught (effectiveSettings ctx) := by
  refine (Yields.lift (meets_foldlM _ (fun effective name => ?_) _)).bind fun _ _ => ?_
  · exact (meets_optionalInteger _ _).bind fun _ _ => trivial
  refine (yields_verifyRate _).bind fun effective _ => ?_
  exact .lift (meets_verifyServer _ _)

theorem yields_addShare (nativeCpu : PyDict) (index : ℕ) (locality : Locality)
    (item : EndpointCpuEvidence) (share : String × String) :
    Yields (fun _ => True) Caught (addShare ctx nativeCpu index locality item share) := by
  refine (Yields.lift (meets_optionalNumber _ _)).bind fun value _ => ?_
  cases value with
  | none => exact .pure trivial
  | some value =>
    dsimp only
    split
    · refine (yields_setAvailability _ _ _).bind fun _ _ => ?_
      exact (yields_diagnose _).bind fun _ _ => .pure trivial
    · exact .pure trivial

theorem yields_addCpu (nativeCpu : PyDict) (cpu : List EndpointCpuEvidence)
    (locality : Locality × String) : Yields (fun _ => True) Caught (addCpu ctx nativeCpu cpu locality) := by
  unfold addCpu
  split
  · exact .pure trivial
  · refine (Yields.foldlM (S := fun _ _ => True) _ (fun _ share _ item _ _ =>
      yields_addShare _ _ _ item share) trivial).bind fun _ _ => ?_
    exact (yields_when (yields_diagnose _)).bind fun _ _ => .pure trivial

theorem yields_readCpu : Yields (fun _ => True) Caught (readCpu ctx) := by
  unfold readCpu
  split
  · exact .pure trivial
  · exact .pure trivial
  · refine (Yields.lift (meets_asObject _ _)).bind fun nativeCpu _ => ?_
    exact Yields.foldlM (S := fun _ _ => True) _ (fun _ locality _ cpu _ _ =>
      yields_addCpu _ cpu locality) trivial

/-- A native error is the error of the result. -/
theorem yields_readOutcome (nativeError : Option PyStr) :
    Yields (fun error => nativeError ≠ none → error = nativeError) Caught (readOutcome nativeError) := by
  cases nativeError with
  | some error => exact (yields_diagnose _).bind fun _ _ => .pure fun _ => rfl
  | none =>
    refine Yields.bind (P := fun _ => True) (fun _ => trivial) fun notes _ => ?_
    split
    · exact .pure fun h => absurd rfl h
    · exact (yields_diagnose _).bind fun _ _ => .pure fun h => absurd rfl h

/-! ## The result -/

/-- What holds of every result of the normalizer. -/
structure Normalized (raw : PyDict) (given : Option ReportingRole) (r : Result) : Prop where
  ok : r.ok = r.error.isNone
  raw_eq : r.raw = raw
  extensions : r.extensions = []
  execution : ∃ execution, r.execution = some execution ∧
    (execution.status = .completed ↔ r.error = none)
  streams : ∃ (ctx : Context) (shape : Shape), ctx.ReadFrom raw given ∧
    readShape raw ctx.endData = .ok shape ∧ r.reportingRole = ctx.reportingRole ∧
    Gathered ctx shape.senders (shape.intervals.flatMap NativeInterval.streams) r.intervals ∧
    List.Forall₂ (StreamStats.Of ctx shape.senders) shape.endStreams r.streams

theorem statusOf_eq_completed {error nativeError : Option PyStr} :
    statusOf error nativeError = .completed ↔ error = none := by
  unfold statusOf
  split_ifs <;> simp [*]

theorem yields_normalize (raw : PyDict) (given : Option ReportingRole) :
    Yields (Normalized raw given) Caught (normalize raw given) := by
  refine (Yields.lift (meets_readError _)).bind fun nativeError _ => ?_
  refine (yields_readContext _ _).bind fun ctx hctx => ?_
  refine (Yields.mapM _ fun source _ => yields_readFlow source).bind fun flows _ => ?_
  refine (Yields.lift (meets_readShape _ _).self).bind fun shape hshape => ?_
  refine (yields_intervals shape.intervals).bind fun intervals hintervals => ?_
  refine (Yields.mapM _ fun stream _ => yields_readStream stream).bind fun streams hstreams => ?_
  refine (yields_readOutcome _).bind fun error _ => ?_
  refine (Yields.lift (meets_optionalNumber _ _)).bind fun startedAt _ => ?_
  refine (Yields.lift (meets_optionalNumber _ _)).bind fun duration _ => ?_
  refine yields_effectiveSettings.bind fun effective _ => ?_
  refine yields_readCpu.bind fun cpu _ => .pure ?_
  refine ⟨rfl, rfl, rfl, ⟨_, rfl, statusOf_eq_completed⟩, ctx, shape, hctx, hshape, rfl, hintervals, ?_⟩
  rw [← List.forall₂_map_left_iff (f := Prod.fst), List.zipIdx_map_fst] at hstreams
  exact hstreams

/-- The normalizer returns such a result or raises what its caller catches. -/
theorem meets_resultFromIperfJson (raw : PyDict) (given : Option ReportingRole) :
    Meets (Normalized raw given) Caught (resultFromIperfJson (.dict raw) given) := by
  refine (yields_normalize raw given {}).bind fun r hr => ?_
  exact ⟨hr.ok, hr.raw_eq, hr.extensions, hr.execution, hr.streams⟩

end Iperf3Lib.Results
