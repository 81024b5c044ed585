import Iperf3Lib.Live.Fragments

/-!
# Live events agree with the document

A document is read twice: as a whole when the run is over, and before that as its fragments come. The
events of the fragments tell what the whole document does, as far as the fragments can know it.
-/

namespace Iperf3Lib

open Py Json Results

/-! ## Summaries -/

theorem Results.SumStats.plain_body (v : Results.SumStats) (scope : Scope) (direction : FlowDirection)
    (streamId : Option ℤ) :
    (sumMeasurement v scope direction streamId).body =
      (sumMeasurement v.plain scope .unknown streamId).body := by
  simp only [Measurement.body, sumMeasurement, SumStats.plain, ← forgetPaths_summary]

theorem alike_sumMeasurement {exact : Prop} {v v' : Results.SumStats} (h : v.plain = v'.plain)
    {direction direction' : FlowDirection}
    (hdirection : direction = direction' ∨ direction = .unknown ∨ direction' = .unknown)
    (hexact : exact → direction = direction') (scope : Scope) (streamId : Option ℤ) :
    (sumMeasurement v scope direction streamId).Alike exact
      (sumMeasurement v' scope direction' streamId) := by
  have hobservation : v.plain.observation = v'.plain.observation :=
    congrArg Results.SumStats.observation h
  refine ⟨?_, hdirection, .inl hobservation.symm, fun he => ⟨hexact he, hobservation⟩⟩
  rw [SumStats.plain_body, h, ← SumStats.plain_body]

/-- Summaries of one direction that look the same. -/
theorem alike_sums {exact : Prop} {xs ys : List (Option Results.SumStats)}
    (h : List.Forall₂ (fun x y : Option Results.SumStats => x.map SumStats.plain = y.map SumStats.plain)
      xs ys) {direction direction' : FlowDirection}
    (hdirection : direction = direction' ∨ direction = .unknown ∨ direction' = .unknown)
    (hexact : exact → direction = direction') (scope : Scope) (streamId : Option ℤ) :
    List.Forall₂ (Measurement.Alike exact)
      (xs.reduceOption.map (sumMeasurement · scope direction streamId))
      (ys.reduceOption.map (sumMeasurement · scope direction' streamId)) := by
  have hplain : List.Forall₂ (fun v v' => SumStats.plain v = SumStats.plain v') xs.reduceOption
      ys.reduceOption := by
    refine List.forall₂_map_right_iff.mp (List.forall₂_map_left_iff.mp ?_)
    rw [List.forall₂_eq_eq_eq]
    exact map_reduceOption h
  refine List.forall₂_map_left_iff.mpr (List.forall₂_map_right_iff.mpr ?_)
  exact hplain.imp fun v v' hv => alike_sumMeasurement hv hdirection hexact scope streamId

theorem alike_flowMeasurements {exact : Prop} {flow flow' : Results.FlowStats}
    (h : flow.Alike flow') :
    List.Forall₂ (Measurement.Alike exact) (flowMeasurements flow) (flowMeasurements flow') :=
  alike_sums (.cons h.sender (.cons h.receiver .nil)) (.inl h.direction) (fun _ => h.direction) _ _

theorem alike_streamMeasurements {exact : Prop} {stream stream' : Results.StreamStats}
    (h : stream.Alike exact stream') :
    List.Forall₂ (Measurement.Alike exact) (streamMeasurements stream)
      (streamMeasurements stream') := by
  unfold streamMeasurements
  rw [h.streamId]
  exact alike_sums (.cons h.sender (.cons h.receiver (.cons h.unattributed .nil))) h.direction h.exact
    _ _

theorem alike_summaries {exact : Prop} {r r' : Result}
    (hflows : List.Forall₂ FlowStats.Alike r.flows r'.flows)
    (hstreams : List.Forall₂ (StreamStats.Alike exact) r.streams r'.streams) :
    List.Forall₂ (Measurement.Alike exact) (summaries r) (summaries r') :=
  List.rel_append (List.rel_flatMap hflows fun _ _ => alike_flowMeasurements)
    (List.rel_flatMap hstreams fun _ _ => alike_streamMeasurements)

namespace Results

/-! ## Settings and processors -/

theorem aligned_effectiveSettings (ctx : Context) :
    Aligned Eq (effectiveSettings ctx) (effectiveSettings ctx) := by
  have hrate : ∀ effective, Aligned Eq (verifyRate ctx effective) (verifyRate ctx effective) := by
    intro effective
    refine (Aligned.refl _).andThen fun testRate => ?_
    refine (Aligned.refl _).andThen fun rootRate => ?_
    exact (Aligned.of_returns (returns_when fun _ => returns_diagnose _)).bind fun _ _ _ => .pure rfl
  refine (Aligned.refl _).andThen fun effective => ?_
  exact (hrate _).andThen fun effective => Aligned.refl _

theorem aligned_addShare (ctx : Context) (nativeCpu : PyDict) (index : ℕ) (locality : Locality)
    (item : EndpointCpuEvidence) (share : String × String) :
    Aligned Eq (addShare ctx nativeCpu index locality item share)
      (addShare ctx nativeCpu index locality item share) := by
  refine (Aligned.refl _).andThen fun value => ?_
  cases value with
  | none => exact .pure rfl
  | some value =>
    dsimp only
    split_ifs
    · refine (Aligned.of_returns (returns_setAvailability _ _ _)).bind fun _ _ _ => ?_
      exact (Aligned.of_returns (returns_diagnose _)).bind fun _ _ _ => .pure rfl
    all_goals exact .pure rfl

theorem aligned_readCpu (ctx : Context) : Aligned Eq (readCpu ctx) (readCpu ctx) := by
  have hadd : ∀ nativeCpu cpu locality,
      Aligned Eq (addCpu ctx nativeCpu cpu locality) (addCpu ctx nativeCpu cpu locality) := by
    intro nativeCpu cpu locality
    unfold addCpu
    split_ifs
    · exact .pure rfl
    · refine (Couples.foldlM_eq _ (fun item share _ => aligned_addShare ctx nativeCpu _ _ item share)
        _).andThen fun item => ?_
      exact (Aligned.of_returns (returns_when fun _ => returns_diagnose _)).bind fun _ _ _ => .pure rfl
  unfold readCpu
  cases PyDict.get? ctx.endData "cpu_utilization_percent" with
  | none => exact .pure rfl
  | some value =>
    cases value with
    | none => exact .pure rfl
    | bool | int | float | str | list | tuple | obj | dict =>
      refine (Aligned.refl _).andThen fun nativeCpu => ?_
      exact Couples.foldlM_eq _ (fun cpu locality _ => hadd nativeCpu cpu locality) []

theorem returns_readOutcome (nativeError : Option PyStr) :
    Returns (fun _ => True) (readOutcome nativeError) := by
  unfold readOutcome
  cases nativeError with
  | some error => exact (returns_diagnose _).bind fun _ _ => .pure trivial
  | none =>
    refine Yields.bind (P := fun _ => True) (fun _ => trivial) fun notes _ => ?_
    split_ifs
    · exact .pure trivial
    · exact (returns_diagnose _).bind fun _ _ => .pure trivial

/-! ## What the whole document tells -/

/-- The steps in which a document is normalized, and what the result takes from them. -/
structure Normalizes (raw : PyDict) (given : Option ReportingRole) (ctx : Context) (shape : Shape)
    (r : Result) : Prop where
  context : MayReturn (readContext raw given) ctx
  flows : MayReturn ((flowSources ctx.modes).zipIdx.mapM (readFlow ctx)) r.flows
  shaped : readShape raw ctx.endData = .ok shape
  intervals : MayReturn (shape.intervals.zipIdx.foldlM (addInterval ctx shape.senders) []) r.intervals
  streams : MayReturn (shape.endStreams.zipIdx.mapM (readStream ctx shape.senders)) r.streams
  startedAt : ∃ x, optionalNumber ctx.timestamp "timesecs" = .ok x
  duration : ∃ x, optionalNumber ctx.testStart "duration" = .ok x
  effective : ∃ effective, MayReturn (effectiveSettings ctx) effective
  cpu : ∃ cpu, MayReturn (readCpu ctx) cpu
  protocol : r.protocol = ctx.protocol
  method : LiveProjector.methodOf r = ctx.modes.method

theorem normalizes_of_mayReturn {raw : PyDict} {given : Option ReportingRole} {r : Result}
    (h : MayReturn (normalize raw given) r) : ∃ ctx shape, Normalizes raw given ctx shape r := by
  unfold normalize at h
  obtain ⟨nativeError, -, h⟩ := h.bind
  obtain ⟨ctx, hcontext, h⟩ := h.bind
  obtain ⟨flows, hflows, h⟩ := h.bind
  obtain ⟨shape, hshape, h⟩ := h.bind
  obtain ⟨intervals, hintervals, h⟩ := h.bind
  obtain ⟨streams, hstreams, h⟩ := h.bind
  obtain ⟨error, -, h⟩ := h.bind
  obtain ⟨startedAt, hstartedAt, h⟩ := h.bind
  obtain ⟨duration, hduration, h⟩ := h.bind
  obtain ⟨effective, heffective, h⟩ := h.bind
  obtain ⟨cpu, hcpu, h⟩ := h.bind
  obtain rfl := h.pure
  exact ⟨ctx, shape, hcontext, hflows, hshape.lift, hintervals, hstreams, ⟨startedAt, hstartedAt.lift⟩,
    ⟨duration, hduration.lift⟩, ⟨effective, heffective⟩, ⟨cpu, hcpu⟩, rfl, rfl⟩

/-! ## The context of a fragment -/

/-- A document with a start, intervals and an end. -/
structure Sent (raw start : PyDict) (intervals : List PyVal) (finish : PyDict) : Prop where
  start : PyDict.get? raw "start" = some (.dict start)
  intervals : PyDict.get? raw "intervals" = some (.list intervals)
  finish : PyDict.get? raw "end" = some (.dict finish)

/-- The start has a flag for both directions, or the end has no summaries that would tell them. -/
def Foreseen (start finish : PyDict) : Prop :=
  hasReverseSummaries finish = false ∨ ∃ testStart,
    PyDict.get? start "test_start" = some (.dict testStart) ∧
      ((PyDict.get? testStart "bidir").isSome = true ∨
        (PyDict.get? testStart "bidirectional").isSome = true)

theorem isSome_of_optionalFlag {data : PyDict} {name : String} {flag : Option Bool}
    (h : optionalFlag data name = .ok flag) (hname : (PyDict.get? data name).isSome = true) :
    flag.isSome = true := by
  unfold optionalFlag at h
  split at h
  · next hnone =>
    rw [hnone] at hname
    cases hname
  · cases h
    rfl
  · split_ifs at h
    · cases h
      rfl
    · cases h
      rfl
    · cases h
  · cases h

/-- The modes of a document whose end is not known yet. -/
theorem tracks_readModes {testStart finish : PyDict}
    (h : hasReverseSummaries finish = false ∨ (PyDict.get? testStart "bidir").isSome = true ∨
      (PyDict.get? testStart "bidirectional").isSome = true) :
    Tracks True Eq (readModes testStart finish) (readModes testStart []) := by
  have hempty : hasReverseSummaries [] = false := rfl
  unfold readModes
  refine (Tracks.self _).bind ?_
  rintro nativeBidir _ ⟨rfl, hnative⟩
  refine (Tracks.self _).bind ?_
  rintro aliasBidir _ ⟨rfl, halias⟩
  refine (Tracks.refl _).bind ?_
  rintro _ _ rfl
  refine (Tracks.refl _).bind ?_
  rintro reverse _ rfl
  dsimp only
  rw [hempty]
  have hpasses : reject (nativeBidir.or aliasBidir = some false ∧ false = true)
      ("iperf JSON bidirectional flag conflicts with reverse-flow end summaries" : PyStr) = .ok () :=
    if_neg fun hfalse => Bool.noConfusion hfalse.2
  rw [hpasses]
  refine (Tracks.toOk (R := fun _ _ => True) fun _ _ => trivial).bind fun _ _ _ => ?_
  have hbidirectional : (nativeBidir.or aliasBidir).getD (hasReverseSummaries finish) =
      (nativeBidir.or aliasBidir).getD false := by
    rcases h with hnone | hflag | hflag
    · rw [hnone]
    · obtain ⟨b, rfl⟩ := Option.isSome_iff_exists.mp (isSome_of_optionalFlag hnative hflag)
      rfl
    · obtain ⟨b, rfl⟩ := Option.isSome_iff_exists.mp (isSome_of_optionalFlag halias hflag)
      cases nativeBidir <;> rfl
  rw [hbidirectional]
  exact Tracks.refl _

theorem aligned_resolveRole (start : PyDict) (given : Option ReportingRole) :
    Aligned Eq (resolveRole start given) (resolveRole start given) := by
  refine (Aligned.refl _).andThen fun evidence => ?_
  exact (Aligned.of_returns (returns_when fun _ => returns_diagnose _)).bind fun _ _ _ => .pure rfl

theorem returns_diagnoseModes (modes : Modes) : Returns (fun _ => True) (diagnoseModes modes) :=
  (returns_when fun _ => returns_diagnose _).bind fun _ _ => returns_when fun _ => returns_diagnose _

/-- The context of a document with the same start and another end. -/
theorem aligned_readContext {raw raw' start finish finish' : PyDict} (given : Option ReportingRole)
    (hstart : PyDict.get? raw "start" = some (.dict start))
    (hstart' : PyDict.get? raw' "start" = some (.dict start))
    (hend : optionalObject raw "end" "iperf JSON end value must be an object" = .ok finish)
    (hend' : optionalObject raw' "end" "iperf JSON end value must be an object" = .ok finish')
    (hmodes : ∀ testStart, optionalObject start "test_start"
      "iperf JSON start and test_start values must be objects" = .ok testStart →
        Tracks True Eq (readModes testStart finish) (readModes testStart finish')) :
    Aligned (fun ctx ctx' => { ctx with endData := finish' } = ctx') (readContext raw given)
      (readContext raw' given) := by
  have hobject : ∀ {raw : PyDict}, PyDict.get? raw "start" = some (.dict start) →
      optionalObject raw "start" "iperf JSON start value must be an object" = .ok start := by
    intro raw h
    rw [optionalObject, h]
    rfl
  unfold readContext
  rw [hobject hstart, hobject hstart', hend, hend']
  refine (Aligned.of_returns (returns_when fun _ => returns_diagnose _)).bind fun _ _ _ => ?_
  refine Couples.bind (V := fun a b => a = start ∧ b = start) (.lift (.ok ⟨rfl, rfl⟩)) ?_
  rintro _ _ ⟨rfl, rfl⟩
  refine (Aligned.of_returns (returns_when fun _ => returns_diagnose _)).bind fun _ _ _ => ?_
  refine (Couples.lift (Tracks.self _)).bind ?_
  rintro testStart _ ⟨rfl, htestStart⟩
  refine Couples.bind (V := fun a b => a = finish ∧ b = finish') (.lift (.ok ⟨rfl, rfl⟩)) ?_
  rintro _ _ ⟨rfl, rfl⟩
  refine (Aligned.refl _).andThen fun timestamp => ?_
  refine (Aligned.refl _).andThen fun protocol => ?_
  refine (Aligned.refl _).andThen fun _ => ?_
  refine (Aligned.refl _).andThen fun _ => ?_
  refine (aligned_resolveRole _ given).andThen fun role => ?_
  refine (Couples.lift (hmodes testStart htestStart)).andThen fun modes => ?_
  exact (Aligned.of_returns (returns_diagnoseModes modes)).bind fun _ _ _ => .pure rfl

/-! ## The shape of a fragment -/

/-- The values that a shape is read from. -/
structure ReadFrom (intervals streams : List PyVal) (shape : Shape) : Prop where
  parts : ∃ xs ys, List.Forall₂ (fun value x => readNativeInterval value = .ok x) intervals xs ∧
    List.Forall₂ (fun value y => readEndStream value = .ok y) streams ys ∧
      shape = ⟨ys.map Prod.fst, xs.map Prod.fst, ys.flatMap Prod.snd ++ xs.flatMap Prod.snd⟩

theorem readShape_eq_ok {raw finish : PyDict} {intervals streams : List PyVal} {shape : Shape}
    (hintervals : optionalArray raw "intervals" "iperf JSON intervals value must be an array" =
      .ok intervals)
    (hstreams : optionalArray finish "streams" "iperf JSON end streams value must be an array" =
      .ok streams) :
    readShape raw finish = .ok shape ↔ ReadFrom intervals streams shape := by
  unfold readShape
  rw [hintervals, hstreams, ok_bind, ok_bind]
  constructor
  · intro h
    obtain ⟨ys, hys, h⟩ := bind_eq_ok.mp h
    obtain ⟨xs, hxs, h⟩ := bind_eq_ok.mp h
    exact ⟨xs, ys, mapM_eq_ok.mp hxs, mapM_eq_ok.mp hys, (Except.ok.inj h).symm⟩
  · rintro ⟨xs, ys, hxs, hys, rfl⟩
    rw [mapM_eq_ok.mpr hys, mapM_eq_ok.mpr hxs]
    rfl

/-- Every stream of the interval has a flag of its own. -/
def FlaggedInterval (value : PyVal) : Prop :=
  ∀ interval own, readNativeInterval value = .ok (interval, own) →
    ∀ stream ∈ interval.streams, Flagged stream

/-- Every stream of the end has flags of its own. -/
def FlaggedEnd (finish : PyDict) : Prop :=
  ∀ streams, optionalArray finish "streams" "iperf JSON end streams value must be an array" =
    .ok streams → ∀ value ∈ streams, ∀ stream own, readEndStream value = .ok (stream, own) →
      FlaggedStream stream

/-- No socket of the document has both a local sender and a local receiver. -/
def OneSender (raw finish : PyDict) : Prop :=
  ∀ shape, readShape raw finish = .ok shape → ∀ socket, (sendersOf shape.senders socket).length ≤ 1

/-! ## The interval of a fragment -/

/-- The measurements of an interval that any part of the document shows which knows the interval. -/
def Shown (ctx : Context) (records : SocketSenders) (interval : NativeInterval)
    (group : List IntervalStats) : Prop :=
  ∀ ctx' records', ctx.Agrees ctx' → Knows records records' →
    Returns (List.Forall₂ (fun v v' => (intervalMeasurement v).Alike
        (∀ stream ∈ interval.streams, Flagged stream) (intervalMeasurement v')) group)
      (addInterval ctx' records' [] (interval, 0))

/-- What a pass over the intervals adds is what the fragment of the interval shows. -/
theorem shown_of_addInterval {ctx : Context} {records : SocketSenders}
    (honce : ∀ socket, (sendersOf records socket).length ≤ 1) {interval : NativeInterval} {index : ℕ}
    {before after : List IntervalStats}
    (h : MayReturn (addInterval ctx records before (interval, index)) after) :
    ∃ group, after = before ++ group ∧ Shown ctx records interval group := by
  have hself : Knows records records := ⟨fun _ h => h, honce⟩
  obtain ⟨_, -, group, _, rfl, -⟩ :=
    ((aligned_addInterval (.refl ctx) hself interval index index before before).returns h).exists_run {}
  refine ⟨group, rfl, fun ctx' records' hagrees hknows => ?_⟩
  refine ((aligned_addInterval hagrees hknows interval index 0 before []).returns h).mono ?_
  rintro _ ⟨group', grown, hgroup, rfl, halike⟩
  rw [List.append_cancel_left hgroup]
  exact halike

/-- Without an end there are no summaries to read. -/
theorem returns_readFlow {ctx : Context} (h : ctx.endData = []) (source : (FlowDirection × String) × ℕ) :
    Returns (fun _ => True) (readFlow ctx source) := by
  unfold readFlow
  rw [h]
  refine Yields.bind (P := fun _ => True) (.pure trivial) fun sender _ => ?_
  refine Yields.bind (P := fun _ => True) (.pure trivial) fun receiver _ => ?_
  exact (returns_when fun _ => returns_diagnose _).bind fun _ _ => .pure trivial

section Fragment

variable {raw start finish : PyDict} {intervals : List PyVal} {role : ReportingRole} {ctx : Context}
  {shape : Shape} {r : Result}

theorem Sent.object_end (hsent : Sent raw start intervals finish) :
    optionalObject raw "end" "iperf JSON end value must be an object" = .ok finish := by
  rw [optionalObject, hsent.finish]
  rfl

theorem Sent.array_intervals (hsent : Sent raw start intervals finish) :
    optionalArray raw "intervals" "iperf JSON intervals value must be an array" = .ok intervals := by
  rw [optionalArray, hsent.intervals]

theorem Sent.endData (hsent : Sent raw start intervals finish)
    (h : MayReturn (readContext raw (some role)) ctx) : ctx.endData = finish := by
  have hread := (h.of_yields (yields_readContext raw (some role))).endData
  exact Except.ok.inj (hread.symm.trans hsent.object_end)

/-- A document with the start of another one and no error is normalized where its parts can be read. -/
theorem Normalizes.returns (h : Normalizes raw (some role) ctx shape r) {raw' finish' : PyDict}
    {shape' : Shape} {P : List FlowStats → Prop} {Q : List IntervalStats → Prop}
    {R : List StreamStats → Prop} (herror : readError raw' = .ok none)
    (hcontext : Returns (fun ctx' => { ctx with endData := finish' } = ctx')
      (readContext raw' (some role)))
    (hflows : Returns P ((flowSources ctx.modes).zipIdx.mapM (readFlow { ctx with endData := finish' })))
    (hshape : readShape raw' finish' = .ok shape')
    (hintervals : Returns Q (shape'.intervals.zipIdx.foldlM
      (addInterval { ctx with endData := finish' } shape'.senders) []))
    (hstreams : Returns R (shape'.endStreams.zipIdx.mapM
      (readStream { ctx with endData := finish' } shape'.senders)))
    (hcpu : Returns (fun _ => True) (readCpu { ctx with endData := finish' })) :
    Returns (fun r' => P r'.flows ∧ Q r'.intervals ∧ R r'.streams ∧ r'.protocol = r.protocol ∧
      LiveProjector.methodOf r' = LiveProjector.methodOf r) (normalize raw' (some role)) := by
  unfold normalize
  refine (Returns.of_ok herror).bind ?_
  rintro _ rfl
  refine hcontext.bind ?_
  rintro _ rfl
  refine Yields.bind hflows fun flows hP => ?_
  refine (Returns.of_ok hshape).bind ?_
  rintro _ rfl
  refine hintervals.bind fun added hQ => ?_
  refine hstreams.bind fun streams hR => ?_
  refine (returns_readOutcome none).bind fun error _ => ?_
  obtain ⟨startedAt, hstartedAt⟩ := h.startedAt
  refine (Returns.of_ok hstartedAt).bind fun _ _ => ?_
  obtain ⟨duration, hduration⟩ := h.duration
  refine (Returns.of_ok hduration).bind fun _ _ => ?_
  obtain ⟨effective, heffective⟩ := h.effective
  refine Yields.bind ((aligned_effectiveSettings ctx).returns heffective) fun _ _ => ?_
  refine hcpu.bind fun cpu _ => ?_
  exact .pure ⟨hP, hQ, hR, h.protocol.symm, h.method.symm⟩

/-- The context behind the start alone. -/
theorem returns_context (hsent : Sent raw start intervals finish) (hforeseen : Foreseen start finish)
    (h : Normalizes raw (some role) ctx shape r) {raw' : PyDict}
    (hstart : PyDict.get? raw' "start" = some (.dict start))
    (hend : optionalObject raw' "end" "iperf JSON end value must be an object" = .ok []) :
    Returns (fun ctx' => { ctx with endData := [] } = ctx') (readContext raw' (some role)) := by
  have hmodes : ∀ testStart, optionalObject start "test_start"
      "iperf JSON start and test_start values must be objects" = .ok testStart →
        Tracks True Eq (readModes testStart finish) (readModes testStart []) := by
    intro testStart htestStart
    refine tracks_readModes (hforeseen.imp_right ?_)
    rintro ⟨flags, hflags, hpresent⟩
    rw [optionalObject, hflags] at htestStart
    obtain rfl := Except.ok.inj htestStart
    exact hpresent
  exact (aligned_readContext (some role) hsent.start hstart hsent.object_end hend hmodes).returns
    h.context

/-- The fragment of the start has the protocol and the method of the document. -/
theorem returns_start (hsent : Sent raw start intervals finish) (hforeseen : Foreseen start finish)
    (h : Normalizes raw (some role) ctx shape r) :
    Returns (fun r' => r'.protocol = r.protocol ∧
        LiveProjector.methodOf r' = LiveProjector.methodOf r)
      (normalize [("start", .dict start)] (some role)) := by
  refine (h.returns (P := fun _ => True) (Q := fun _ => True) (R := fun _ => True) rfl
    (returns_context hsent hforeseen h rfl rfl) ?_ rfl (.pure trivial) (.pure trivial)
    (.pure trivial)).mono fun r' hr' => hr'.2.2.2
  exact (Yields.mapM _ fun source _ => returns_readFlow rfl source).mono fun _ _ => trivial

/-- The fragment of an interval has the measurements of the interval. -/
theorem returns_interval (hsent : Sent raw start intervals finish) (hforeseen : Foreseen start finish)
    (h : Normalizes raw (some role) ctx shape r) {value : PyVal} {interval : NativeInterval}
    {own : SocketSenders} (hvalue : readNativeInterval value = .ok (interval, own))
    {Q : List IntervalStats → Prop}
    (hadd : ∀ ctx', ctx.Agrees ctx' → Returns Q (addInterval ctx' own [] (interval, 0))) :
    Returns (fun r' => Q r'.intervals)
      (normalize [("start", .dict start), ("intervals", .list [value])] (some role)) := by
  have hshape : readShape [("start", .dict start), ("intervals", .list [value])] [] =
      .ok ⟨[], [interval], own⟩ := by
    refine (readShape_eq_ok rfl rfl).mpr ⟨[(interval, own)], [], .cons hvalue .nil, .nil, ?_⟩
    rw [List.flatMap_nil, List.nil_append, List.flatMap_singleton]
    rfl
  have hfold : Returns Q
      ([interval].zipIdx.foldlM (addInterval { ctx with endData := [] } own) []) := by
    refine (hadd _ ⟨rfl, rfl, rfl, rfl⟩).bind fun added hadded => ?_
    exact .pure hadded
  refine (h.returns (P := fun _ => True) (R := fun _ => True) rfl
    (returns_context hsent hforeseen h rfl rfl) ?_ hshape hfold (.pure trivial)
    (.pure trivial)).mono fun r' hr' => hr'.2.1
  exact (Yields.mapM _ fun source _ => returns_readFlow rfl source).mono fun _ _ => trivial

/-- The fragment of the end has the summaries of the document. -/
theorem returns_end (hsent : Sent raw start intervals finish)
    (h : Normalizes raw (some role) ctx shape r)
    (honce : ∀ socket, (sendersOf shape.senders socket).length ≤ 1) :
    Returns (fun r' => List.Forall₂ (Measurement.Alike (FlaggedEnd finish)) (summaries r)
        (summaries r'))
      (normalize [("start", .dict start), ("end", .dict finish)] (some role)) := by
  have hfinish : ctx.endData = finish := hsent.endData h.context
  have hsame : { ctx with endData := finish } = ctx := by rw [← hfinish]
  have hcontext : Returns (fun ctx' => { ctx with endData := finish } = ctx')
      (readContext [("start", .dict start), ("end", .dict finish)] (some role)) :=
    (aligned_readContext (some role) hsent.start rfl hsent.object_end rfl fun _ _ =>
      Tracks.refl _).returns h.context
  -- the streams of the end, and what they tell of the senders
  obtain ⟨values, hvalues⟩ : ∃ values, optionalArray finish "streams"
      "iperf JSON end streams value must be an array" = .ok values := by
    have hshaped := h.shaped
    rw [hfinish] at hshaped
    obtain ⟨_, -, hshaped⟩ := bind_eq_ok.mp hshaped
    obtain ⟨values, hvalues, -⟩ := bind_eq_ok.mp hshaped
    exact ⟨values, hvalues⟩
  have hread := h.shaped
  rw [hfinish, readShape_eq_ok hsent.array_intervals hvalues] at hread
  obtain ⟨xs, ys, -, hys, hshape⟩ := hread.parts
  have hshape' : readShape [("start", .dict start), ("end", .dict finish)] finish =
      .ok ⟨ys.map Prod.fst, [], ys.flatMap Prod.snd⟩ := by
    refine (readShape_eq_ok rfl hvalues).mpr ⟨[], ys, .nil, hys, ?_⟩
    rw [List.flatMap_nil, List.append_nil]
    rfl
  have hknows : Knows shape.senders (ys.flatMap Prod.snd) := by
    refine ⟨fun record hrecord => ?_, honce⟩
    rw [hshape]
    exact List.mem_append_left _ hrecord
  have hflows : Returns (List.Forall₂ FlowStats.Alike r.flows)
      ((flowSources ctx.modes).zipIdx.mapM (readFlow { ctx with endData := finish })) := by
    rw [hsame]
    refine Aligned.returns (Aligned.mapM (R := Eq) ?_ (List.forall₂_refl _)) h.flows
    rintro source _ rfl
    exact aligned_readFlow ctx source
  have hstreams : Returns (List.Forall₂ (StreamStats.Alike (FlaggedEnd finish)) r.streams)
      ((ys.map Prod.fst).zipIdx.mapM
        (readStream { ctx with endData := finish } (ys.flatMap Prod.snd))) := by
    rw [hsame]
    have hread := h.streams
    rw [hshape] at hread
    refine Aligned.returns (Aligned.mapM (R := fun a b => a = b ∧ a.1 ∈ ys.map Prod.fst) ?_
      (List.forall₂_same.mpr fun stream hstream => ⟨rfl, List.fst_mem_of_mem_zipIdx hstream⟩)) hread
    rintro stream _ ⟨rfl, hmem⟩
    rw [hshape] at hknows
    refine Couples.mono (aligned_readStream hknows stream) fun stats stats' halike => ?_
    refine { halike with exact := fun hflagged => halike.exact ?_ }
    obtain ⟨y, hy, hstream⟩ := List.mem_map.mp hmem
    obtain ⟨value, hvalue, hyread⟩ := exists_mem_of_forall₂ hys.flip hy
    rw [← hstream]
    exact hflagged values hvalues value hvalue y.1 y.2 hyread
  refine (h.returns (Q := fun _ => True) rfl hcontext hflows hshape' (.pure trivial) hstreams
    ?_).mono fun r' hr' => alike_summaries hr'.1 hr'.2.2.1
  rw [hsame]
  obtain ⟨cpu, hcpu⟩ := h.cpu
  exact ((aligned_readCpu ctx).returns hcpu).mono fun _ _ => trivial

end Fragment

end Results

/-! ## Payloads -/

namespace LiveProjector

variable {raw start finish : PyDict} {intervals : List PyVal} {role : ReportingRole} {r : Result}

/-- The payload of a fragment tells what the document does: the protocol and the method of the run, the
measurements of the interval at every place where it stands, and the summaries of the end. -/
structure Tells (intervals : List PyVal) (finish : PyDict) (role : ReportingRole)
    (r : Result) (groups : List (List Results.IntervalStats)) (kind : PyStr) (data : PyVal)
    (payload : LiveEventKind × LivePayload) : Prop where
  start : kind = ("native_start" : String) →
    payload = (.nativeStart, .nativeStart data (protocolOf r) (methodOf r) role)
  interval : kind = ("interval" : String) → ∃ measurements codes,
    payload = (.interval, .interval data measurements codes) ∧
      ∀ (i : ℕ) (group : List Results.IntervalStats), intervals[i]? = some data →
        groups[i]? = some group → List.Forall₂ (Measurement.Alike (FlaggedInterval data))
          (group.map intervalMeasurement) measurements
  finish : kind = ("native_end" : String) → ∃ measurements codes,
    payload = (.nativeEnd, .nativeEnd data measurements codes) ∧
      List.Forall₂ (Measurement.Alike (FlaggedEnd finish)) (summaries r) measurements
  document : kind = ("native_document" : String) →
    payload = (.nativeDocument, .nativeDocument data (protocolOf r) (methodOf r) (summaries r)
      (r.intervals.map intervalMeasurement) (diagnosticCodes r))

/-- A fragment of the document behind its kind. -/
structure IsFragment (raw start : PyDict) (intervals : List PyVal) (finish : PyDict) (kind : PyStr)
    (data : PyVal) : Prop where
  start : kind = ("native_start" : String) → data = .dict start
  interval : kind = ("interval" : String) → data ∈ intervals
  finish : kind = ("native_end" : String) → data = .dict finish
  document : kind = ("native_document" : String) → data = .dict raw

/-- A document that is normalized has a result. -/
theorem result_of_returns {P : Result → Prop} (h : Returns P (normalize raw (some role))) :
    ∃ r diagnostics availability, P r ∧ resultFromIperfJson (.dict raw) (some role) =
      .ok { r with diagnostics := diagnostics, availability := availability } := by
  obtain ⟨⟨r, notes⟩, hrun, hP⟩ := h.exists_run {}
  exact ⟨r, notes.diagnostics, notes.availability, hP, bind_eq_ok.mpr ⟨(r, notes), hrun, rfl⟩⟩

theorem normalizes_of_result (h : resultFromIperfJson (.dict raw) (some role) = .ok r) :
    ∃ ctx shape, Normalizes raw (some role) ctx shape r := by
  obtain ⟨⟨normalized, notes⟩, hrun, h⟩ := bind_eq_ok.mp h
  obtain rfl := Except.ok.inj h
  obtain ⟨ctx, shape, hnormalizes⟩ := normalizes_of_mayReturn ⟨{}, notes, hrun⟩
  exact ⟨ctx, shape, { hnormalizes with }⟩

theorem payloadOf_eq {p : LiveProjector} {kind : PyStr} {data : PyVal} (hkind : kind ∈ fragmentKinds)
    (h : resultFromIperfJson (fragment p.start kind data) (some p.role) = .ok r) :
    p.payloadOf kind data = .ok (if kind = ("native_start" : String) then .nativeStart
      else if kind = ("interval" : String) then .interval
      else if kind = ("native_end" : String) then .nativeEnd
      else .nativeDocument, nativePayload p.role kind data r) := by
  rw [payloadOf, if_pos hkind, h]
  rfl

/-- A document that was normalized, with the values that its shape was read from. -/
structure Read (raw finish : PyDict) (intervals : List PyVal) (role : ReportingRole) (r : Result)
    (groups : List (List Results.IntervalStats)) (ctx : Context) (shape : Shape)
    (xs : List (NativeInterval × SocketSenders)) : Prop where
  normalizes : Normalizes raw (some role) ctx shape r
  once : ∀ socket, (sendersOf shape.senders socket).length ≤ 1
  flatten : r.intervals = groups.flatten
  values : List.Forall₂ (fun value x => readNativeInterval value = .ok x) intervals xs
  senders : ∀ x ∈ xs, ∀ record ∈ x.2, record ∈ shape.senders
  shown : List.Forall₂ (fun x group => Shown ctx shape.senders x.1 group) xs groups

theorem read_of_result (hsent : Sent raw start intervals finish)
    (hread : resultFromIperfJson (.dict raw) (some role) = .ok r) (hone : OneSender raw finish) :
    ∃ groups ctx shape xs, Read raw finish intervals role r groups ctx shape xs := by
  obtain ⟨ctx, shape, h⟩ := normalizes_of_result hread
  have hshaped := h.shaped
  rw [hsent.endData h.context] at hshaped
  have honce := hone shape hshaped
  obtain ⟨groups, hflatten, hshown⟩ := foldlM_groups
    (Q := fun interval group => Shown ctx shape.senders interval.1 group)
    (fun before interval _ after hafter => shown_of_addInterval honce hafter) h.intervals
  obtain ⟨streams, hstreams⟩ : ∃ streams, optionalArray finish "streams"
      "iperf JSON end streams value must be an array" = .ok streams := by
    obtain ⟨_, -, hshaped⟩ := bind_eq_ok.mp hshaped
    obtain ⟨streams, hstreams, -⟩ := bind_eq_ok.mp hshaped
    exact ⟨streams, hstreams⟩
  obtain ⟨xs, ys, hxs, -, hshape⟩ :=
    ((readShape_eq_ok hsent.array_intervals hstreams).mp hshaped).parts
  refine ⟨groups, ctx, shape, xs, h, honce, hflatten, hxs, fun x hx record hrecord => ?_, ?_⟩
  · rw [hshape]
    exact List.mem_append_right _ (List.mem_flatMap.mpr ⟨x, hx, hrecord⟩)
  · have hfst : shape.intervals.zipIdx.map Prod.fst = xs.map Prod.fst := by
      rw [List.zipIdx_map_fst, hshape]
    refine (List.forall₂_map_left_iff (f := Prod.fst) (R := Shown ctx shape.senders)).mp ?_
    rw [← hfst]
    exact (List.forall₂_map_left_iff (f := Prod.fst) (R := Shown ctx shape.senders)).mpr hshown

/-- The fragment of an interval shows the group of every place where the interval stands. -/
theorem Read.returns_interval {groups : List (List Results.IntervalStats)} {ctx : Context}
    {shape : Shape} {xs : List (NativeInterval × SocketSenders)}
    (h : Read raw finish intervals role r groups ctx shape xs)
    (hsent : Sent raw start intervals finish) (hforeseen : Foreseen start finish) {value : PyVal}
    (hvalue : value ∈ intervals) :
    Returns (fun r' => ∀ (i : ℕ) (group : List Results.IntervalStats), intervals[i]? = some value →
        groups[i]? = some group → List.Forall₂ (fun v v' =>
          (intervalMeasurement v).Alike (FlaggedInterval value) (intervalMeasurement v'))
            group r'.intervals)
      (normalize [("start", .dict start), ("intervals", .list [value])] (some role)) := by
  obtain ⟨⟨interval, own⟩, hx, hread⟩ := exists_mem_of_forall₂ h.values hvalue
  have hknows : Knows shape.senders own := ⟨h.senders _ hx, h.once⟩
  refine Results.returns_interval hsent hforeseen h.normalizes hread (Q := fun shown =>
    ∀ (i : ℕ) (group : List Results.IntervalStats), intervals[i]? = some value →
      groups[i]? = some group → List.Forall₂ (fun v v' =>
        (intervalMeasurement v).Alike (FlaggedInterval value) (intervalMeasurement v')) group shown)
    fun ctx' hagrees => ?_
  -- the fragment returns for the place where the interval was found
  obtain ⟨found, -, hfound⟩ := exists_mem_of_forall₂ h.shown hx
  refine Returns.all (hfound ctx' own hagrees hknows) fun i => ?_
  by_cases hi : intervals[i]? = some value
  · obtain ⟨x, hxi, hreadi⟩ := forall₂_getElem? h.values hi
    obtain rfl := Except.ok.inj (hread.symm.trans hreadi)
    obtain ⟨group, hgroup, hshown⟩ := forall₂_getElem? h.shown hxi
    refine (hshown ctx' own hagrees hknows).mono fun shown halike group' _ hgroup' => ?_
    obtain rfl := Option.some.inj (hgroup.symm.trans hgroup')
    exact halike.imp fun v v' hv => hv.mono fun hflagged => hflagged interval own hread
  · exact (hfound ctx' own hagrees hknows).mono fun _ _ _ habsent => absurd habsent hi

/-- Whatever fragment of the document comes behind its start, its payload tells what the document does. -/
theorem payloadOf_tells (hsent : Sent raw start intervals finish)
    (hread : resultFromIperfJson (.dict raw) (some role) = .ok r) (hforeseen : Foreseen start finish)
    (hone : OneSender raw finish) :
    ∃ groups, r.intervals = groups.flatten ∧ groups.length = intervals.length ∧
      ∀ kind data, kind ∈ fragmentKinds → IsFragment raw start intervals finish kind data →
        ∃ payload, payloadOf ⟨role, .dict start⟩ kind data = .ok payload ∧
          Tells intervals finish role r groups kind data payload := by
  obtain ⟨groups, ctx, shape, xs, h⟩ := read_of_result hsent hread hone
  refine ⟨groups, h.flatten, h.shown.length_eq.symm.trans h.values.length_eq.symm, ?_⟩
  intro kind data hkind hfragment
  have hmem := hkind
  simp only [fragmentKinds, List.mem_cons, List.not_mem_nil, or_false] at hmem
  rcases hmem with rfl | rfl | rfl | rfl
  · obtain rfl := hfragment.start rfl
    obtain ⟨r', diagnostics, availability, ⟨hprotocol, hmethod⟩, hr'⟩ :=
      result_of_returns (returns_start hsent hforeseen h.normalizes)
    refine ⟨_, payloadOf_eq hkind hr', fun _ => ?_, fun hk => absurd hk (by decide),
      fun hk => absurd hk (by decide), fun hk => absurd hk (by decide)⟩
    have hprotocolOf : protocolOf r' = protocolOf r := by rw [protocolOf, hprotocol, protocolOf]
    rw [← hprotocolOf, ← hmethod]
    rfl
  · obtain ⟨r', diagnostics, availability, hshown, hr'⟩ :=
      result_of_returns (h.returns_interval hsent hforeseen (hfragment.interval rfl))
    refine ⟨_, payloadOf_eq hkind hr', fun hk => absurd hk (by decide), fun _ =>
      ⟨r'.intervals.map intervalMeasurement, _, rfl, fun i group hi hgroup => ?_⟩,
      fun hk => absurd hk (by decide), fun hk => absurd hk (by decide)⟩
    exact List.forall₂_map_left_iff.mpr (List.forall₂_map_right_iff.mpr (hshown i group hi hgroup))
  · obtain rfl := hfragment.finish rfl
    obtain ⟨r', diagnostics, availability, hsummaries, hr'⟩ :=
      result_of_returns (returns_end hsent h.normalizes h.once)
    refine ⟨_, payloadOf_eq hkind hr', fun hk => absurd hk (by decide), fun hk => absurd hk (by decide),
      fun _ => ⟨summaries r', _, rfl, hsummaries⟩, fun hk => absurd hk (by decide)⟩
  · obtain rfl := hfragment.document rfl
    refine ⟨_, payloadOf_eq hkind hread, fun hk => absurd hk (by decide),
      fun hk => absurd hk (by decide), fun hk => absurd hk (by decide), fun _ => rfl⟩

/-! ## Frames one after the other -/

/-- What the projector makes of frames with their delivery sequences. -/
def projectAll (F : Faults Exc) (p : LiveProjector) : List (PyDict × ℕ) → List (Except Exc LiveEvent)
  | [] => []
  | (message, deliverySequence) :: rest =>
    let projected := p.project F message deliverySequence
    projected.1 :: projected.2.projectAll F rest

/-- The frames of a run: the start comes first, and each fragment is one of the document. Others may
be missing, or come in any order and number. -/
structure Carries (raw start : PyDict) (intervals : List PyVal) (finish : PyDict)
    (frames : List (PyDict × ℕ)) : Prop where
  first : ∃ frame rest, frames = frame :: rest ∧ kindOf frame.1 = ("native_start" : String)
  fragments : ∀ frame ∈ frames,
    IsFragment raw start intervals finish (kindOf frame.1) (dataOf frame.1)

/-- The event of a fragment, unless there is no frame for it, is one that tells what the document
does. -/
def Reports (F : Faults Exc) (intervals : List PyVal) (finish : PyDict) (role : ReportingRole)
    (r : Result) (groups : List (List Results.IntervalStats)) (frame : PyDict × ℕ)
    (outcome : Except Exc LiveEvent) : Prop :=
  kindOf frame.1 ∈ fragmentKinds → ∃ payload,
    Tells intervals finish role r groups (kindOf frame.1) (dataOf frame.1) payload ∧
      outcome = (liveEventSize F (envelope frame.1 frame.2 payload)).map
        fun _ => envelope frame.1 frame.2 payload

/-- An event whose payload is known is projected unless there is no frame for it. -/
theorem project_of_payload {F : Faults Exc} {p : LiveProjector} {message : PyDict} {n : ℕ}
    {payload : LiveEventKind × LivePayload}
    (h : (p.remember message).payloadOf (kindOf message) (dataOf message) = .ok payload) :
    (p.project F message n).1 = (liveEventSize F (envelope message n payload)).map
      fun _ => envelope message n payload := by
  have hprojected : (p.remember message).projected F message n =
      (liveEventSize F (envelope message n payload)).map fun _ => envelope message n payload := by
    rw [projected, h, ok_bind]
    dsimp only
    cases liveEventSize F (envelope message n payload) <;> rfl
  unfold project
  dsimp only
  rw [hprojected]
  cases hsize : liveEventSize F (envelope message n payload) with
  | ok size => rfl
  | error e =>
    -- what is too large is refused with an error that is not about the shape of a document
    have hcls : e.cls = .ipcError := raisesIpc_liveEventSize F _ e hsize
    have hcaught : ¬ e.cls ∈ caughtClasses := by
      rw [hcls]
      decide
    simp only [Except.map, if_neg hcaught]

theorem project_snd (F : Faults Exc) (p : LiveProjector) (message : PyDict) (n : ℕ) :
    (p.project F message n).2 = p.remember message := by
  unfold project
  dsimp only
  split
  · rfl
  · split_ifs <;> rfl

/-- Once the start has come, every fragment is reported. -/
theorem projectAll_reports {F : Faults Exc} {groups : List (List Results.IntervalStats)}
    (htells : ∀ kind data, kind ∈ fragmentKinds → IsFragment raw start intervals finish kind data →
      ∃ payload, payloadOf ⟨role, .dict start⟩ kind data = .ok payload ∧
        Tells intervals finish role r groups kind data payload)
    (frames : List (PyDict × ℕ))
    (hframes : ∀ frame ∈ frames,
      IsFragment raw start intervals finish (kindOf frame.1) (dataOf frame.1))
    {p : LiveProjector} (hrole : p.role = role)
    (hstart : ∀ frame ∈ frames.head?, kindOf frame.1 ≠ ("native_start" : String) →
      p.start = .dict start) :
    List.Forall₂ (Reports F intervals finish role r groups) frames (p.projectAll F frames) := by
  induction frames generalizing p with
  | nil => exact .nil
  | cons frame rest ih =>
    have hfragment := hframes frame List.mem_cons_self
    have hremembered : p.remember frame.1 = ⟨role, .dict start⟩ := by
      unfold remember
      split_ifs with hkind
      · rw [hfragment.start hkind, ← hrole]
      · rw [← hstart frame rfl hkind, ← hrole]
    refine .cons (fun hkind => ?_) ?_
    · obtain ⟨payload, hpayload, htold⟩ := htells _ _ hkind hfragment
      rw [← hremembered] at hpayload
      exact ⟨payload, htold, project_of_payload hpayload⟩
    · rw [project_snd, hremembered]
      exact ih (fun frame hframe => hframes frame (List.mem_cons_of_mem _ hframe)) rfl
        fun _ _ _ => rfl

/-- The live events agree with the document: whichever of its fragments come behind the start, their
events have its protocol, its method, its intervals and its summaries, as the whole document is read when
the run is over. -/
theorem live_agrees (hsent : Sent raw start intervals finish)
    (hread : resultFromIperfJson (.dict raw) (some role) = .ok r) (hforeseen : Foreseen start finish)
    (hone : OneSender raw finish) :
    ∃ groups, r.intervals = groups.flatten ∧ groups.length = intervals.length ∧
      ∀ (F : Faults Exc) (p : LiveProjector) (frames : List (PyDict × ℕ)), p.role = role →
        Carries raw start intervals finish frames →
          List.Forall₂ (Reports F intervals finish role r groups) frames (p.projectAll F frames) := by
  obtain ⟨groups, hflatten, hlength, htells⟩ := payloadOf_tells hsent hread hforeseen hone
  refine ⟨groups, hflatten, hlength, fun F p frames hrole hcarries => ?_⟩
  refine projectAll_reports htells frames hcarries.fragments hrole ?_
  obtain ⟨first, rest, rfl, hfirst⟩ := hcarries.first
  rintro _ ⟨⟩ hkind
  exact absurd hfirst hkind

/-! ## A run with one stream -/

def shortStart : PyDict :=
  [("test_start", .dict [("protocol", .lit "TCP"), ("bidir", .int 0), ("reverse", .int 0)])]

def shortStream : PyVal :=
  .dict [("socket", .int 5), ("sender", .bool true), ("start", .int 0), ("end", .int 1),
    ("bytes", .int 1000), ("bits_per_second", .int 8000)]

def shortInterval : PyVal := .dict [("streams", .list [shortStream])]

def shortEnd : PyDict := [("streams", .list [.dict [("sender", shortStream)]])]

/-- The document of a client that sends for a second. -/
def shortRun : PyDict :=
  [("start", .dict shortStart), ("intervals", .list [shortInterval]), ("end", .dict shortEnd)]

/-- A frame of a fragment. -/
def fragmentFrame (kind : String) (data : PyVal) : PyDict := [("kind", .lit kind), ("data", data)]

/-- The frames of the run without the one of its end, which was lost. -/
def shortFrames : List (PyDict × ℕ) :=
  [(fragmentFrame "native_start" (.dict shortStart), 1), (fragmentFrame "interval" shortInterval, 2)]

theorem live_agrees_shortRun : ∃ r groups,
    resultFromIperfJson (.dict shortRun) (some .client) = .ok r ∧
      r.intervals = groups.flatten ∧ groups.length = 1 ∧ ∀ F,
        List.Forall₂ (Reports F [shortInterval] shortEnd .client r groups) shortFrames
          (projectAll F ⟨.client, .dict []⟩ shortFrames) := by
  have hok : (resultFromIperfJson (.dict shortRun) (some .client)).isOk = true := by decide +kernel
  obtain ⟨r, hread⟩ := isOk_iff.mp hok
  have hone : OneSender shortRun shortEnd := by
    intro shape hshape socket
    have hsenders : ((readShape shortRun shortEnd).map Shape.senders).toOption =
        some [(5, true), (5, true)] := by decide +kernel
    rw [hshape] at hsenders
    rw [Option.some.inj hsenders]
    cases socket with
    | none => exact Nat.zero_le 1
    | some n =>
      rw [sendersOf, List.filter_cons_of_neg (by simp)]
      exact List.length_filter_le _ _
  have hcarries : Carries shortRun shortStart [shortInterval] shortEnd shortFrames := by
    refine ⟨⟨_, _, rfl, rfl⟩, fun frame hframe => ?_⟩
    rcases List.mem_pair.mp hframe with rfl | rfl
    · exact ⟨fun _ => rfl, fun hk => absurd hk (by decide), fun hk => absurd hk (by decide),
        fun hk => absurd hk (by decide)⟩
    · exact ⟨fun hk => absurd hk (by decide), fun _ => List.mem_cons_self,
        fun hk => absurd hk (by decide), fun hk => absurd hk (by decide)⟩
  have hsent : Sent shortRun shortStart [shortInterval] shortEnd := ⟨rfl, rfl, rfl⟩
  obtain ⟨groups, hflatten, hlength, hreports⟩ := live_agrees hsent hread (.inl rfl) hone
  exact ⟨r, groups, hread, hflatten, hlength, fun F => hreports F _ _ rfl hcarries⟩

end LiveProjector

end Iperf3Lib
