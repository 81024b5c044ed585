import Mathlib.Data.List.ReduceOption
import Iperf3Lib.Live.Projector

/-!
# Reading a part of a document

The steps of the normalizer over a part of a document, beside the same steps over the whole of it. The
part may know fewer senders of the sockets, and its streams and intervals stand elsewhere. So their
measurements may lack an observation or a direction, and the evidence of their samples stands elsewhere,
but nothing else differs.
-/

namespace Iperf3Lib

open Py Json Results

/-! ## Measurements that agree -/

/-- A value without the paths of its evidence. -/
def forgetPaths : PyVal → PyVal
  | .dict fields => .dict (fields.filter fun entry => entry.1 ≠ ("evidence_paths" : String))
  | value => value

namespace Measurement

/-- A measurement without its provenance. -/
def body (m : Measurement) : Measurement :=
  { m with direction := .unknown, observation := none, tcp := forgetPaths m.tcp }

/-- The second measurement is the first one as a part of the document shows it: what is known of its
provenance in both is the same, and in an `exact` part all of it is. -/
structure Alike (exact : Prop) (m m' : Measurement) : Prop where
  body : m.body = m'.body
  direction : m.direction = m'.direction ∨ m.direction = .unknown ∨ m'.direction = .unknown
  observation : m'.observation = m.observation ∨ m'.observation = none
  provenance : exact → m.direction = m'.direction ∧ m.observation = m'.observation

theorem Alike.mono {exact exact' : Prop} {m m' : Measurement} (h : m.Alike exact m')
    (himp : exact' → exact) : m.Alike exact' m' :=
  { h with provenance := fun hexact => h.provenance (himp hexact) }

end Measurement

namespace Results

/-! ## Steps that only note -/

theorem returns_diagnose (diagnostic : Diagnostic) :
    Returns (fun _ => True) (diagnose diagnostic) := .modify

theorem returns_setAvailability (path : PyStr) (state : AvailabilityState) (evidence : List PyStr) :
    Returns (fun _ => True) (setAvailability path state evidence) := .modify

theorem returns_measured : Returns (fun _ => True) measured := .modify

theorem returns_when {condition : Prop} [Decidable condition] {step : Normalize Unit}
    (h : condition → Returns (fun _ => True) step) : Returns (fun _ => True) (when condition step) := by
  by_cases hc : condition
  · rw [when, if_pos hc]
    exact h hc
  · rw [when, if_neg hc]
    exact .pure trivial

/-! ## Samples -/

/-- Optional items that look the same are there in both lists, or in neither. -/
theorem map_reduceOption {α β : Type} {f : α → β} {xs ys : List (Option α)}
    (h : List.Forall₂ (fun x y : Option α => x.map f = y.map f) xs ys) :
    xs.reduceOption.map f = ys.reduceOption.map f := by
  rw [← List.reduceOption_map, ← List.reduceOption_map]
  refine congrArg List.reduceOption (List.forall₂_eq_eq_eq ▸ ?_)
  exact List.forall₂_map_left_iff.mpr (List.forall₂_map_right_iff.mpr h)

/-- A sample wherever it stands. -/
def TcpSample.plain (sample : TcpSample) : String × ℤ := (sample.field, sample.value)

/-- The documents agree on the producer, the protocol, the reporting role and the direction. -/
structure Context.Agrees (ctx ctx' : Context) : Prop where
  start : ctx'.start = ctx.start
  protocol : ctx'.protocol = ctx.protocol
  reportingRole : ctx'.reportingRole = ctx.reportingRole
  modes : ctx'.modes = ctx.modes

variable {ctx ctx' : Context} {records records' : SocketSenders}

theorem aligned_tcpSample (data : PyDict) (name : String × String)
    (canonicalPath sourcePath canonicalPath' sourcePath' : PyStr) :
    Aligned (fun a b => a.map TcpSample.plain = b.map TcpSample.plain)
      (tcpSample ctx data canonicalPath sourcePath name)
      (tcpSample ctx' data canonicalPath' sourcePath' name) := by
  unfold tcpSample
  cases PyDict.get? data name.2 with
  | none => exact .pure rfl
  | some value =>
    cases value with
    | none => exact .pure rfl
    | bool | float | str | list | tuple | dict | obj => exact .lift .error
    | int value =>
      dsimp only
      split_ifs
      · refine (Aligned.of_returns (returns_setAvailability _ _ _)).bind fun _ _ _ => ?_
        refine (Aligned.of_returns (returns_diagnose _)).bind fun _ _ _ => ?_
        exact .pure rfl
      · exact (Aligned.refl _).andThen fun _ => .pure rfl

/-- Samples are attributed to the same sender where the stream has the flag of a sender. -/
theorem aligned_tcpSamples (h : ctx.Agrees ctx') (data : PyDict) (names : List (String × String))
    (canonicalPath sourcePath canonicalPath' sourcePath' : PyStr) {attributable attributable' : Bool}
    (hsender : optionalFlag data "sender" = .ok (some true) → attributable = attributable') :
    Aligned (fun a b => a.map (List.map TcpSample.plain) = b.map (List.map TcpSample.plain))
      (tcpSamples ctx data names canonicalPath sourcePath attributable)
      (tcpSamples ctx' data names canonicalPath' sourcePath' attributable') := by
  unfold tcpSamples
  rw [h.protocol, h.start]
  split_ifs
  · exact .pure rfl
  refine (Couples.lift (Tracks.self _)).bind ?_
  rintro sender _ ⟨rfl, hflag⟩
  by_cases hsent : sender = some true
  · subst hsent
    rw [hsender hflag]
    split_ifs
    · have hmapped : Aligned
          (List.Forall₂ fun a b : Option TcpSample => a.map TcpSample.plain = b.map TcpSample.plain)
          (names.mapM (tcpSample ctx data canonicalPath sourcePath))
          (names.mapM (tcpSample ctx' data canonicalPath' sourcePath')) := by
        refine Aligned.mapM (R := Eq) ?_ (List.forall₂_refl names)
        rintro name _ rfl
        exact aligned_tcpSample data name _ _ _ _
      exact hmapped.bind fun samples samples' hsamples =>
        .pure (congrArg some (map_reduceOption hsamples))
    · refine (Aligned.of_returns (returns_setAvailability _ _ _)).bind fun _ _ _ => ?_
      exact (Aligned.of_returns (returns_diagnose _)).bind fun _ _ _ => .pure rfl
  · rw [if_neg fun h => hsent h.1, if_neg fun h => hsent h.1]
    refine (Aligned.of_returns (returns_setAvailability _ _ _)).bind fun _ _ _ => ?_
    exact (Aligned.of_returns (returns_diagnose _)).bind fun _ _ _ => .pure rfl

theorem sampleOf_plain {samples samples' : List TcpSample}
    (h : samples.map TcpSample.plain = samples'.map TcpSample.plain) (field : String) :
    sampleOf samples field = sampleOf samples' field := by
  have hplain : ∀ samples : List TcpSample, sampleOf samples field =
      ((samples.map TcpSample.plain).find? fun sample => sample.1 = field).map Prod.snd := by
    intro samples
    rw [sampleOf, List.find?_map, Option.map_map]
    rfl
  rw [hplain, hplain, h]

theorem secondsOf_plain {samples samples' : List TcpSample}
    (h : samples.map TcpSample.plain = samples'.map TcpSample.plain) (field : String) :
    secondsOf samples field = secondsOf samples' field := by
  rw [secondsOf, sampleOf_plain h, secondsOf]

/-- Evidence wherever it stands. -/
def TcpIntervalEvidence.plain (e : TcpIntervalEvidence) : TcpIntervalEvidence :=
  { e with evidencePaths := [] }

def TcpSummaryEvidence.plain (e : TcpSummaryEvidence) : TcpSummaryEvidence :=
  { e with evidencePaths := [] }

theorem tracks_intervalEvidence {samples samples' : List TcpSample}
    (h : samples.map TcpSample.plain = samples'.map TcpSample.plain) :
    Tracks True (fun e e' => e.plain = e'.plain) (intervalEvidence samples)
      (intervalEvidence samples') := by
  unfold intervalEvidence
  simp only [secondsOf_plain h, sampleOf_plain h]
  refine (Tracks.refl _).bind ?_
  rintro smoothed _ rfl
  refine (Tracks.refl _).bind ?_
  rintro variation _ rfl
  exact .ok rfl

theorem tracks_summaryEvidence {samples samples' : List TcpSample}
    (h : samples.map TcpSample.plain = samples'.map TcpSample.plain) :
    Tracks True (fun e e' => e.plain = e'.plain) (summaryEvidence samples)
      (summaryEvidence samples') := by
  unfold summaryEvidence
  simp only [secondsOf_plain h, sampleOf_plain h]
  refine (Tracks.refl _).bind ?_
  rintro minimum _ rfl
  refine (Tracks.refl _).bind ?_
  rintro maximum _ rfl
  refine (Tracks.refl _).bind ?_
  rintro mean _ rfl
  exact .ok rfl

theorem aligned_tcpEvidence {α : Type} {plain : α → α} {build : List TcpSample → Except Exc α}
    (hbuild : ∀ samples samples', samples.map TcpSample.plain = samples'.map TcpSample.plain →
      Tracks True (fun e e' => plain e = plain e') (build samples) (build samples'))
    (h : ctx.Agrees ctx') (data : PyDict) (names : List (String × String))
    (canonicalPath sourcePath canonicalPath' sourcePath' : PyStr) {attributable attributable' : Bool}
    (hsender : optionalFlag data "sender" = .ok (some true) → attributable = attributable') :
    Aligned (fun a b => a.map plain = b.map plain)
      (tcpEvidence ctx data names build canonicalPath sourcePath attributable)
      (tcpEvidence ctx' data names build canonicalPath' sourcePath' attributable') := by
  refine (aligned_tcpSamples h data names _ _ _ _ hsender).bind fun samples samples' hsamples => ?_
  cases samples with
  | none =>
    cases samples' with
    | none => exact .pure rfl
    | some samples' => cases hsamples
  | some samples =>
    cases samples' with
    | none => cases hsamples
    | some samples' =>
      refine (Couples.lift (hbuild _ _ (Option.some.inj hsamples))).bind fun e e' hevidence => ?_
      exact .pure (congrArg some hevidence)

/-! ## Retransmissions -/

theorem aligned_retransmits (h : ctx.Agrees ctx') (data : PyDict)
    (canonicalPath sourcePath canonicalPath' sourcePath' : PyStr) :
    Aligned Eq (retransmits ctx data canonicalPath sourcePath)
      (retransmits ctx' data canonicalPath' sourcePath') := by
  unfold retransmits
  rw [h.protocol]
  split_ifs
  · cases PyDict.get? data "retransmits" with
    | none => exact .lift .error
    | some value =>
      cases value with
      | none | bool | float | str | list | tuple | dict | obj => exact .lift .error
      | int n =>
        have hnotes : Returns (fun _ => True) (sctpRetransmits ctx' canonicalPath' sourcePath') :=
          (returns_setAvailability _ _ _).bind fun _ _ => returns_diagnose _
        exact (Aligned.of_returns hnotes).bind fun _ _ _ => .pure rfl
  · exact .refl _

/-! ## Provenance -/

/-- No more senders than the document has are known, and of no socket does it have both. -/
structure Knows (records records' : SocketSenders) : Prop where
  sub : ∀ record ∈ records', record ∈ records
  once : ∀ socket, (sendersOf records socket).length ≤ 1

theorem Knows.sublist (h : Knows records records') (socket : Option ℤ) :
    (sendersOf records' socket).Sublist (sendersOf records socket) := by
  cases socket with
  | none => exact .slnil
  | some n =>
    have hsenders : ∀ sender : Bool, decide ((n, sender) ∈ records') = true →
        decide ((n, sender) ∈ records) = true :=
      fun sender hsender => decide_eq_true (h.sub _ (of_decide_eq_true hsender))
    exact List.monotone_filter_right [false, true] hsenders

theorem Knows.once' (h : Knows records records') (socket : Option ℤ) :
    (sendersOf records' socket).length ≤ 1 :=
  (h.sublist socket).length_le.trans (h.once socket)

/-- Of a socket the part knows what the document does, or nothing. -/
theorem Knows.nil_or_same (h : Knows records records') (socket : Option ℤ) :
    sendersOf records' socket = [] ∨ sendersOf records' socket = sendersOf records socket := by
  by_cases hnil : sendersOf records' socket = []
  · exact .inl hnil
  · have hone := List.length_pos_iff.mpr hnil
    exact .inr ((h.sublist socket).eq_of_length_le ((h.once socket).trans hone))

/-- A stream has a flag of its own wherever it has a socket. -/
def Flagged (data : PyDict) : Prop :=
  ∀ n, optionalInteger data "socket" = .ok (some n) → ∃ b, optionalFlag data "sender" = .ok (some b)

/-- The provenance of a stream as a part of the document shows it. -/
structure Provenance.Behind (data : PyDict) (p p' : Provenance) : Prop where
  streamId : p.streamId = p'.streamId
  sender : p'.sender = p.sender ∨ p'.sender = none
  direction : p.direction = p'.direction ∨ p.direction = .unknown ∨ p'.direction = .unknown
  flagged : Flagged data → p = p'

/-- The sender of a stream whose socket has no conflict, and with it all of its attribution, is its own
flag or else the one that is known of the socket. -/
theorem attributed_of_once (role : Option ReportingRole) (modes : Modes) (flag : Option Bool)
    {senders : List Bool} (h : senders.length ≤ 1) :
    attributed role modes flag senders = attributed role modes (flag.or senders.head?) [] ∧
      (attributed role modes flag senders).sender = flag.or senders.head? := by
  have hone : ¬ 1 < senders.length := not_lt.mpr h
  have hnone : ¬ 1 < ([] : List Bool).length := by simp
  unfold attributed
  rw [if_neg hone, if_neg hnone, List.head?_nil, Option.or_none]
  refine ⟨rfl, ?_⟩
  cases role with
  | none => dsimp only; split_ifs <;> rfl
  | some role =>
    cases flag.or senders.head? with
    | none => dsimp only; split_ifs <;> rfl
    | some sender => dsimp only; split_ifs <;> rfl

/-- Without the sender of a stream its direction is that of the test. -/
theorem attributed_none (role : Option ReportingRole) (modes : Modes) (sender : Option Bool) :
    (attributed role modes sender []).direction = (attributed role modes none []).direction ∨
      (attributed role modes sender []).direction = .unknown ∨
        (attributed role modes none []).direction = .unknown := by
  cases sender with
  | none => exact .inl rfl
  | some sender =>
    cases role with
    | none => exact .inl (by simp [attributed]; split_ifs <;> rfl)
    | some role =>
      by_cases hbidirectional : modes.bidirectional = true
      · exact .inr (.inr (by simp [attributed, hbidirectional]))
      · simp only [attributed, List.length_nil, Nat.not_lt_zero, if_false, Option.or_none,
          List.head?_nil, if_neg hbidirectional]
        split_ifs
        · exact .inr (.inl rfl)
        · exact .inl rfl

theorem aligned_streamProvenance (h : ctx.Agrees ctx') (hknows : Knows records records')
    (data : PyDict) (sourcePath sourcePath' : PyStr) :
    Aligned (Provenance.Behind data) (streamProvenance ctx records data sourcePath)
      (streamProvenance ctx' records' data sourcePath') := by
  refine (Couples.lift (Tracks.self _)).bind ?_
  rintro streamId _ ⟨rfl, hsocket⟩
  refine (Couples.lift (Tracks.self _)).bind ?_
  rintro flag _ ⟨rfl, hflag⟩
  dsimp only
  have hcomplaint : ∀ complaint : Option Complaint,
      Returns (fun _ => True) (complaint.forM (complain streamId sourcePath')) := by
    intro complaint
    cases complaint with
    | none => exact .pure trivial
    | some complaint => exact returns_diagnose _
  refine (Aligned.of_returns (hcomplaint _)).bind fun _ _ _ => .pure ?_
  rw [h.reportingRole, h.modes]
  obtain ⟨hattributed, hsender⟩ :=
    attributed_of_once ctx.reportingRole ctx.modes flag (hknows.once streamId)
  obtain ⟨hattributed', hsender'⟩ :=
    attributed_of_once ctx.reportingRole ctx.modes flag (hknows.once' streamId)
  -- what is known of the sender, in the document and in the part
  have hknown : flag.or (sendersOf records' streamId).head? = flag.or (sendersOf records streamId).head? ∨
      flag.or (sendersOf records' streamId).head? = none := by
    cases flag with
    | some b => exact .inl rfl
    | none =>
      rcases hknows.nil_or_same streamId with hnil | hsame
      · exact .inr (by rw [hnil]; rfl)
      · exact .inl (by rw [hsame])
  refine ⟨rfl, ?_, ?_, fun hflagged => ?_⟩
  · dsimp only
    rwa [hsender, hsender']
  · dsimp only
    rw [hattributed, hattributed']
    rcases hknown with hsame | hnone
    · exact .inl (by rw [hsame])
    · rw [hnone]
      exact attributed_none _ _ _
  · have hsame : flag.or (sendersOf records' streamId).head? =
        flag.or (sendersOf records streamId).head? := by
      cases streamId with
      | none => rfl
      | some n =>
        obtain ⟨b, hb⟩ := hflagged n hsocket
        obtain rfl := Except.ok.inj (hflag.symm.trans hb)
        rfl
    rw [hattributed, hattributed', hsame]

/-! ## Intervals -/

theorem forgetPaths_interval (tcp : Option TcpIntervalEvidence) :
    forgetPaths (.ofOption intervalTcpVal tcp) =
      forgetPaths (.ofOption intervalTcpVal (tcp.map TcpIntervalEvidence.plain)) := by
  cases tcp <;> rfl

theorem forgetPaths_summary (tcp : Option TcpSummaryEvidence) :
    forgetPaths (.ofOption summaryTcpVal tcp) =
      forgetPaths (.ofOption summaryTcpVal (tcp.map TcpSummaryEvidence.plain)) := by
  cases tcp <;> rfl

theorem returns_diagnoseInterval (canonicalPath sourcePath : PyStr)
    (startSeconds endSeconds bitrate : Option PyNum) (observation : Option ObservationPoint) :
    Returns (fun _ => True)
      (diagnoseInterval canonicalPath sourcePath startSeconds endSeconds bitrate observation) := by
  refine (returns_when fun _ => returns_diagnose _).bind fun _ _ => ?_
  refine (returns_when fun _ => returns_diagnose _).bind fun _ _ => ?_
  refine returns_when fun _ => ?_
  exact (returns_diagnose _).bind fun _ _ => returns_setAvailability _ _ _

theorem aligned_intervalTcp (h : ctx.Agrees ctx') (data : PyDict) (scope : Scope)
    {observation observation' : Option ObservationPoint}
    (canonicalPath sourcePath canonicalPath' sourcePath' : PyStr)
    (hsender : optionalFlag data "sender" = .ok (some true) → observation = observation') :
    Aligned (fun a b => a.map TcpIntervalEvidence.plain = b.map TcpIntervalEvidence.plain)
      (intervalTcp ctx data scope observation canonicalPath sourcePath)
      (intervalTcp ctx' data scope observation' canonicalPath' sourcePath') := by
  unfold intervalTcp
  split_ifs
  · refine aligned_tcpEvidence (fun _ _ => tracks_intervalEvidence) h data _ _ _ _ _ fun hflag => ?_
    rw [hsender hflag]
  · exact .pure rfl

theorem aligned_readInterval (h : ctx.Agrees ctx') (data : PyDict) {direction direction' : FlowDirection}
    {observation observation' : Option ObservationPoint} {exact : Prop}
    (hdirection : direction = direction' ∨ direction = .unknown ∨ direction' = .unknown)
    (hobservation : observation' = observation ∨ observation' = none)
    (hexact : exact → direction = direction' ∧ observation = observation')
    (hsender : optionalFlag data "sender" = .ok (some true) → observation = observation')
    (index index' : ℕ) (streamId : Option ℤ) (scope : Scope) (sourcePath sourcePath' : PyStr) :
    Aligned (fun v v' => (intervalMeasurement v).Alike exact (intervalMeasurement v'))
      (readInterval ctx index data direction observation streamId scope sourcePath)
      (readInterval ctx' index' data direction' observation' streamId scope sourcePath') := by
  refine (Aligned.refl _).andThen fun _ => ?_
  refine (Aligned.refl _).andThen fun _ => ?_
  refine (Aligned.refl _).andThen fun _ => ?_
  refine (Aligned.of_returns (returns_diagnoseInterval _ _ _ _ _ _)).bind fun _ _ _ => ?_
  refine (Aligned.refl _).andThen fun _ => ?_
  refine (Aligned.refl _).andThen fun _ => ?_
  refine (Aligned.refl _).andThen fun _ => ?_
  refine (Aligned.refl _).andThen fun _ => ?_
  refine (Aligned.refl _).andThen fun _ => ?_
  refine (aligned_retransmits h _ _ _ _ _).andThen fun _ => ?_
  refine (Aligned.refl _).andThen fun _ => ?_
  refine (Aligned.refl _).andThen fun _ => ?_
  refine (aligned_intervalTcp h data scope _ _ _ _ hsender).bind fun tcp tcp' htcp => ?_
  refine .pure ⟨?_, hdirection, hobservation, hexact⟩
  have hforget : forgetPaths (.ofOption intervalTcpVal tcp) =
      forgetPaths (.ofOption intervalTcpVal tcp') := by
    rw [forgetPaths_interval, htcp, ← forgetPaths_interval]
  simp only [Measurement.body, intervalMeasurement, hforget]

/-- Both lists have grown by measurements that agree. -/
def Grown (exact : Prop) (before before' after after' : List IntervalStats) : Prop :=
  ∃ group group', after = before ++ group ∧ after' = before' ++ group' ∧
    List.Forall₂ (fun v v' => (intervalMeasurement v).Alike exact (intervalMeasurement v')) group group'

theorem Grown.snoc {exact : Prop} {before before' after after' : List IntervalStats}
    (h : Grown exact before before' after after') {v v' : IntervalStats}
    (hv : (intervalMeasurement v).Alike exact (intervalMeasurement v')) :
    Grown exact before before' (after ++ [v]) (after' ++ [v']) := by
  obtain ⟨group, group', rfl, rfl, hgroup⟩ := h
  exact ⟨group ++ [v], group' ++ [v'], List.append_assoc _ _ _, List.append_assoc _ _ _,
    List.rel_append hgroup (.cons hv .nil)⟩

theorem aligned_checkReverseFlow (h : ctx.Agrees ctx') (sourcePath sourcePath' : PyStr) :
    Aligned (fun _ _ => True) (checkReverseFlow ctx sourcePath) (checkReverseFlow ctx' sourcePath') := by
  unfold checkReverseFlow
  rw [h.modes]
  exact (Aligned.refl _).andThen fun _ => Aligned.of_returns (returns_diagnose _)

theorem aligned_addSummary (h : ctx.Agrees ctx') (fields : NativeInterval) (index index' : ℕ)
    (key : SummaryKey) {exact : Prop} {before before' after after' : List IntervalStats}
    (hgrown : Grown exact before before' after after') :
    Aligned (Grown exact before before') (addSummary ctx (fields, index) after key)
      (addSummary ctx' (fields, index') after' key) := by
  unfold addSummary
  dsimp only
  cases PyDict.get? fields.fields key.name with
  | none => exact .pure hgrown
  | some value =>
    cases value with
    | none => exact .pure hgrown
    | bool | int | float | str | list | tuple | obj | dict =>
      refine (Aligned.refl _).andThen fun sums => ?_
      have hchecked : Aligned (fun _ _ => True)
          (when (key.reverseFlow = true ∧ ctx.modes.bidirectional = false)
            (checkReverseFlow ctx (intervalPath index ++ PyStr.ofString "/" ++ PyStr.ofString key.name)))
          (when (key.reverseFlow = true ∧ ctx'.modes.bidirectional = false)
            (checkReverseFlow ctx'
              (intervalPath index' ++ PyStr.ofString "/" ++ PyStr.ofString key.name))) := by
        unfold when
        rw [h.modes]
        split_ifs
        · exact aligned_checkReverseFlow h _ _
        · exact .pure trivial
      refine hchecked.bind fun _ _ _ => ?_
      refine (Aligned.refl _).andThen fun sender => ?_
      rw [h.modes]
      refine Couples.bind (V := fun v v' => (intervalMeasurement v).Alike exact (intervalMeasurement v'))
        ?_ fun v v' hv => .pure (hgrown.snoc hv)
      exact aligned_readInterval h sums (.inl rfl) (.inl rfl) (fun _ => ⟨rfl, rfl⟩) (fun _ => rfl)
        _ _ _ _ _ _

theorem aligned_addStream (h : ctx.Agrees ctx') (hknows : Knows records records') (index index' : ℕ)
    (stream : PyDict × ℕ) {exact : Prop} (hexact : exact → Flagged stream.1)
    {before before' after after' : List IntervalStats} (hgrown : Grown exact before before' after after') :
    Aligned (Grown exact before before') (addStream ctx records index after stream)
      (addStream ctx' records' index' after' stream) := by
  unfold addStream
  dsimp only
  refine (aligned_streamProvenance h hknows _ _ _).bind fun p p' hp => ?_
  have hobservation : p'.sender.map observerOf = p.sender.map observerOf ∨
      p'.sender.map observerOf = none := by
    rcases hp.sender with hsame | hnone
    · exact .inl (by rw [hsame])
    · exact .inr (by rw [hnone]; rfl)
  have hsame : Flagged stream.1 → p.direction = p'.direction ∧
      p.sender.map observerOf = p'.sender.map observerOf := by
    intro hflagged
    rw [hp.flagged hflagged]
    exact ⟨rfl, rfl⟩
  rw [hp.streamId]
  refine (aligned_readInterval h stream.1 hp.direction hobservation (fun he => hsame (hexact he))
    (fun hflag => (hsame fun _ _ => ⟨true, hflag⟩).2) _ _ _ _ _ _).bind fun v v' hv => ?_
  exact .pure (hgrown.snoc hv)

/-- What is added for an interval that stands elsewhere. -/
theorem aligned_addInterval (h : ctx.Agrees ctx') (hknows : Knows records records')
    (interval : NativeInterval) (index index' : ℕ) (before before' : List IntervalStats) :
    Aligned (Grown (∀ stream ∈ interval.streams, Flagged stream) before before')
      (addInterval ctx records before (interval, index))
      (addInterval ctx' records' before' (interval, index')) := by
  have hempty : Grown (∀ stream ∈ interval.streams, Flagged stream) before before' before before' :=
    ⟨[], [], (List.append_nil _).symm, (List.append_nil _).symm, .nil⟩
  unfold addInterval
  dsimp only
  refine (Aligned.foldlM (fun after after' key _ hgrown =>
    aligned_addSummary h interval index index' key hgrown) hempty).bind fun after after' hgrown => ?_
  refine Aligned.foldlM (fun after after' stream hstream hgrown => ?_) hgrown
  refine aligned_addStream h hknows index index' stream (fun hexact => hexact _ ?_) hgrown
  exact List.fst_mem_of_mem_zipIdx hstream

/-! ## Summaries -/

/-- A summary without its direction, wherever its evidence stands. -/
def SumStats.plain (v : SumStats) : SumStats :=
  { v with direction := none, tcp := v.tcp.map TcpSummaryEvidence.plain }

theorem aligned_summaryTcp (h : ctx.Agrees ctx') (hknows : Knows records records') (data : PyDict)
    (name : PyStr) (observation : Option ObservationPoint) (canonicalPath : PyStr) :
    Aligned (fun a b => a.map TcpSummaryEvidence.plain = b.map TcpSummaryEvidence.plain)
      (summaryTcp ctx records data name observation canonicalPath)
      (summaryTcp ctx' records' data name observation canonicalPath) := by
  unfold summaryTcp
  split_ifs
  · refine aligned_tcpEvidence (fun _ _ => tracks_summaryEvidence) h data _ _ _ _ _ fun _ => ?_
    rw [decide_eq_true (hknows.once _), decide_eq_true (hknows.once' _)]
  · exact .pure rfl

theorem aligned_readSum (h : ctx.Agrees ctx') (hknows : Knows records records') (value : Option PyVal)
    (name : PyStr) (direction direction' : FlowDirection) (observation : Option ObservationPoint)
    (canonicalPath : PyStr) :
    Aligned (fun a b => a.map SumStats.plain = b.map SumStats.plain)
      (readSum ctx records value name direction observation canonicalPath)
      (readSum ctx' records' value name direction' observation canonicalPath) := by
  unfold readSum
  cases value with
  | none => exact .pure rfl
  | some value =>
    cases value with
    | none => exact .pure rfl
    | bool | int | float | str | list | tuple | obj => exact .lift .error
    | dict data =>
      refine (Aligned.refl _).andThen fun _ => ?_
      refine (Aligned.refl _).andThen fun _ => ?_
      refine (Aligned.refl _).andThen fun _ => ?_
      refine (Aligned.refl _).andThen fun _ => ?_
      refine (Aligned.refl _).andThen fun _ => ?_
      refine (Aligned.refl _).andThen fun _ => ?_
      refine (Aligned.refl _).andThen fun _ => ?_
      refine (aligned_retransmits h _ _ _ _ _).andThen fun _ => ?_
      refine (Aligned.of_returns (returns_when fun _ => returns_measured)).bind fun _ _ _ => ?_
      refine (Aligned.of_returns (returns_when fun _ => returns_diagnose _)).bind fun _ _ _ => ?_
      refine (Aligned.refl _).andThen fun _ => ?_
      refine (Aligned.refl _).andThen fun _ => ?_
      refine (Aligned.refl _).andThen fun _ => ?_
      refine (aligned_summaryTcp h hknows _ _ _ _).bind fun tcp tcp' htcp => .pure ?_
      simp only [Option.map_some, SumStats.plain, htcp]

/-- The summaries of a flow, wherever their evidence stands. -/
structure FlowStats.Alike (flow flow' : FlowStats) : Prop where
  direction : flow.direction = flow'.direction
  sender : flow.sender.map SumStats.plain = flow'.sender.map SumStats.plain
  receiver : flow.receiver.map SumStats.plain = flow'.receiver.map SumStats.plain

theorem Context.Agrees.refl (ctx : Context) : ctx.Agrees ctx := ⟨rfl, rfl, rfl, rfl⟩

theorem Knows.empty : Knows [] [] where
  sub _ h := h
  once socket := by cases socket <;> simp [sendersOf]

theorem aligned_readFlow (ctx : Context) (source : (FlowDirection × String) × ℕ) :
    Aligned FlowStats.Alike (readFlow ctx source) (readFlow ctx source) := by
  unfold readFlow
  dsimp only
  refine (aligned_readSum (.refl ctx) .empty _ _ _ _ _ _).bind fun sender sender' hsender => ?_
  refine (aligned_readSum (.refl ctx) .empty _ _ _ _ _ _).bind fun receiver receiver' hreceiver => ?_
  refine (Aligned.of_returns (returns_when fun _ => returns_diagnose _)).bind fun _ _ _ => ?_
  exact .pure ⟨rfl, hsender, hreceiver⟩

/-! ## End streams -/

/-- A stream as a part of the document shows it. -/
structure StreamStats.Alike (exact : Prop) (stream stream' : StreamStats) : Prop where
  streamId : stream.streamId = stream'.streamId
  direction : stream.direction = stream'.direction ∨ stream.direction = .unknown ∨
    stream'.direction = .unknown
  exact : exact → stream.direction = stream'.direction
  sender : stream.sender.map SumStats.plain = stream'.sender.map SumStats.plain
  receiver : stream.receiver.map SumStats.plain = stream'.receiver.map SumStats.plain
  unattributed : stream.unattributed.map SumStats.plain = stream'.unattributed.map SumStats.plain

theorem aligned_addEndpoint (hknows : Knows records records') (index : ℕ) {exact : Prop}
    {stats stats' : StreamStats} (h : stats.Alike exact stats') (endpoint : String × PyDict) :
    Aligned (StreamStats.Alike exact) (addEndpoint ctx records index stats endpoint)
      (addEndpoint ctx records' index stats' endpoint) := by
  refine (aligned_readSum (.refl ctx) hknows _ _ _ _ _ _).bind fun sums sums' hsums => ?_
  have hnotes : Returns (fun _ => True) (when (endpoint.1 = "udp")
      (diagnoseUdp (PyStr.ofString "/streams/" ++ natText index)
        (PyStr.ofString "/raw/end/streams/" ++ natText index))) :=
    returns_when fun _ => (returns_diagnose _).bind fun _ _ => returns_setAvailability _ _ _
  refine (Aligned.of_returns hnotes).bind fun _ _ _ => .pure ?_
  split_ifs
  · exact { h with unattributed := hsums }
  · exact { h with sender := hsums }
  · exact { h with receiver := hsums }

theorem soleOf_eq_some {α : Type} [DecidableEq α] {xs : List α} {x : α} (h : soleOf xs = some x) :
    xs ≠ [] ∧ ∀ y ∈ xs, y = x := by
  unfold soleOf at h
  split at h
  · next x' hdedup =>
    obtain rfl := Option.some.inj h
    refine ⟨?_, fun y hy => ?_⟩
    · rintro rfl
      cases hdedup
    · have hmem := List.mem_dedup.mpr hy
      rw [hdedup] at hmem
      exact List.mem_singleton.mp hmem
  · cases h

/-- The direction on which all endpoints agree. -/
theorem soleOf_direction {ds ds' : List FlowDirection}
    (h : List.Forall₂ (fun d d' => d = d' ∨ d = .unknown ∨ d' = .unknown) ds ds') :
    (soleOf ds).getD .unknown = (soleOf ds').getD .unknown ∨ (soleOf ds).getD .unknown = .unknown ∨
      (soleOf ds').getD .unknown = .unknown := by
  cases hd : soleOf ds with
  | none => exact .inr (.inl rfl)
  | some d =>
    cases hd' : soleOf ds' with
    | none => exact .inr (.inr rfl)
    | some d' =>
      obtain ⟨hne, hall⟩ := soleOf_eq_some hd
      obtain ⟨-, hall'⟩ := soleOf_eq_some hd'
      cases h with
      | nil => exact absurd rfl hne
      | cons hfirst _ =>
        rw [hall _ List.mem_cons_self, hall' _ List.mem_cons_self] at hfirst
        exact hfirst

/-- The endpoints of the streams of an end have flags of their own. -/
def FlaggedStream (stream : EndStream) : Prop := ∀ endpoint ∈ stream, Flagged endpoint.2

theorem alike_streamIdentity {stream : EndStream} {ps ps' : List Provenance}
    (h : List.Forall₂ (fun p p' => ∃ endpoint ∈ stream, Provenance.Behind endpoint.2 p p') ps ps') :
    StreamStats.Alike (FlaggedStream stream)
      { direction := (streamIdentity ps).1, streamId := (streamIdentity ps).2 }
      { direction := (streamIdentity ps').1, streamId := (streamIdentity ps').2 } := by
  have hids : ps.map Provenance.streamId = ps'.map Provenance.streamId := by
    refine List.forall₂_eq_eq_eq ▸ List.forall₂_map_left_iff.mpr (List.forall₂_map_right_iff.mpr ?_)
    exact h.imp fun _ _ ⟨_, _, hp⟩ => hp.streamId
  have hdirections : List.Forall₂ (fun d d' => d = d' ∨ d = .unknown ∨ d' = .unknown)
      (ps.map Provenance.direction) (ps'.map Provenance.direction) := by
    refine List.forall₂_map_left_iff.mpr (List.forall₂_map_right_iff.mpr ?_)
    exact h.imp fun _ _ ⟨_, _, hp⟩ => hp.direction
  refine ⟨?_, ?_, fun hflagged => ?_, rfl, rfl, rfl⟩
  · dsimp only [streamIdentity]
    rw [hids]
  · dsimp only [streamIdentity]
    rw [hids]
    split_ifs
    · exact .inl rfl
    · exact soleOf_direction hdirections
  · have hsame : ps = ps' := by
      refine List.forall₂_eq_eq_eq ▸ ?_
      exact h.imp fun _ _ ⟨endpoint, hendpoint, hp⟩ => hp.flagged (hflagged endpoint hendpoint)
    rw [hsame]

theorem aligned_readStream (hknows : Knows records records') (stream : EndStream × ℕ) :
    Aligned (StreamStats.Alike (FlaggedStream stream.1)) (readStream ctx records stream)
      (readStream ctx records' stream) := by
  have hmapped : Aligned
      (List.Forall₂ fun p p' => ∃ endpoint ∈ stream.1, Provenance.Behind endpoint.2 p p')
      (stream.1.mapM fun endpoint => streamProvenance ctx records endpoint.2
        (PyStr.ofString "/raw/end/streams/" ++ natText stream.2 ++ PyStr.ofString "/" ++
          PyStr.ofString endpoint.1))
      (stream.1.mapM fun endpoint => streamProvenance ctx records' endpoint.2
        (PyStr.ofString "/raw/end/streams/" ++ natText stream.2 ++ PyStr.ofString "/" ++
          PyStr.ofString endpoint.1)) := by
    refine Aligned.mapM (R := fun a b => a = b ∧ a ∈ stream.1) ?_
      (List.forall₂_same.mpr fun endpoint hendpoint => ⟨rfl, hendpoint⟩)
    rintro endpoint _ ⟨rfl, hendpoint⟩
    exact Couples.mono (aligned_streamProvenance (.refl ctx) hknows endpoint.2 _ _) fun p p' hp =>
      ⟨endpoint, hendpoint, hp⟩
  unfold readStream
  dsimp only
  refine hmapped.bind fun ps ps' hps => ?_
  refine (Aligned.of_returns (returns_when fun _ => returns_diagnose _)).bind fun _ _ _ => ?_
  exact Aligned.foldlM (fun stats stats' endpoint _ h => aligned_addEndpoint hknows stream.2 h endpoint)
    (alike_streamIdentity hps)

end Results

end Iperf3Lib
