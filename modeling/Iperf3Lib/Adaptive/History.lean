import Iperf3Lib.Adaptive.Planner

/-!
# Accepted histories

Every batch of an accepted history was decided behind the ones in front of it: the initial grid, the
confirmation of a provisional rate, or the midpoint of two neighbouring rates. Its execution ran the
trials of its plan, so it was observed at the rates of the batch and at no other.
-/

namespace Iperf3Lib.Adaptive

open Py

variable {parse : IpParser} {maxStrDigits : ℕ} {prepared : PreparedAdaptiveUDP}

/-! ## Candidates -/

theorem mem_ratesWith {status : RateStatus} {summaries : List AdaptiveRateSummary} {rate : ℤ} :
    rate ∈ ratesWith status summaries ↔ ∃ item ∈ summaries, item.status = status ∧ item.rateBps = rate := by
  simp [ratesWith, and_assoc]

theorem mem_promising {summaries : List AdaptiveRateSummary} {rate : ℤ} :
    rate ∈ promising summaries ↔
      rate ∈ ratesWith .provisional summaries ∧ highestEligible summaries < rate := by
  simp [promising]

/-- What a candidate is: the confirmation of a provisional rate above all eligible ones, or, without
such a rate, the midpoint of two neighbouring rates. -/
inductive Candidate (prepared : PreparedAdaptiveUDP) (history : List AdaptiveBatchResult)
    (summaries : List AdaptiveRateSummary) : ℤ → Reason → ℤ → Prop
  | confirmation {rate depth : ℤ} (hrate : rate ∈ ratesWith .provisional summaries)
      (heligible : highestEligible summaries < rate) (hdepth : depthOf history rate = .ok depth) :
      Candidate prepared history summaries rate .confirmPromisingRate depth
  | midpoint {pair : RateInterval} {depth : ℤ} (hpair : pair ∈ integerIntervals summaries)
      (hdepth : depthOfInterval history pair = .ok depth)
      (hlimit : depth < prepared.adaptivePolicy.maxRefinementDepth)
      (hcount : summaries.length < prepared.adaptivePolicy.maxDistinctRates) :
      Candidate prepared history summaries ((pair.1.rateBps + pair.2.rateBps) / 2)
        .refineDifferingOutcomes (depth + 1)

theorem intervals_ok {history : List AdaptiveBatchResult} {summaries : List AdaptiveRateSummary}
    {found : List (RateInterval × ℤ)} (h : intervals prepared history summaries = .ok found)
    {pair : RateInterval} {depth : ℤ} (hmem : (pair, depth) ∈ found) :
    pair ∈ integerIntervals summaries ∧ depthOfInterval history pair = .ok depth ∧
      depth < prepared.adaptivePolicy.maxRefinementDepth := by
  obtain ⟨depths, hdepths, hfound⟩ := bind_eq_ok.mp h
  obtain rfl := Except.ok.inj hfound
  obtain ⟨hzip, hlimit⟩ := List.mem_filter.mp hmem
  obtain ⟨i, hi⟩ := List.mem_iff_getElem?.mp hzip
  obtain ⟨hpair, hdepth⟩ := List.getElem?_zip_eq_some.mp hi
  obtain ⟨depth', hdepth', hread⟩ := forall₂_getElem? (mapM_eq_ok.mp hdepths) hpair
  obtain rfl := Option.some.inj (hdepth.symm.trans hdepth')
  exact ⟨List.mem_of_getElem? hpair, hread, of_decide_eq_true hlimit⟩

theorem candidate_of_propose {history : List AdaptiveBatchResult}
    {summaries : List AdaptiveRateSummary} {rate depth : ℤ} {reason : Reason}
    (h : propose prepared history summaries = .ok (.candidate rate reason depth)) :
    Candidate prepared history summaries rate reason depth := by
  unfold propose at h
  split at h
  · next best hbest =>
    obtain ⟨depth', hdepth, heq⟩ := map_eq_ok.mp h
    obtain ⟨rfl, rfl, rfl⟩ := Proposal.candidate.inj heq
    obtain ⟨hrate, heligible⟩ := mem_promising.mp (List.max?_mem hbest)
    exact .confirmation hrate heligible hdepth
  · obtain ⟨found, hfound, heq⟩ := map_eq_ok.mp h
    split at heq
    · cases heq
    · next pair depth' hlast =>
      split_ifs at heq with hcount
      obtain ⟨rfl, rfl, rfl⟩ := Proposal.candidate.inj heq
      obtain ⟨hpair, hdepth, hlimit⟩ := intervals_ok hfound (List.mem_of_getLast? hlast)
      exact .midpoint hpair hdepth hlimit (not_le.mp hcount)

/-- The summaries behind a replay. -/
def Replay.summaries (prepared : PreparedAdaptiveUDP) (s : Replay) : List AdaptiveRateSummary :=
  rateSummaries prepared s.retained s.observed.flatten

theorem rateSummariesV1_replay {s : Replay} (h : s.observed.length = s.retained.length) :
    rateSummariesV1 parse maxStrDigits prepared s.retained (some s.observed) =
      .ok (s.summaries prepared) := by
  have hrecall : s.retained.zipIdx.mapM (recalled parse maxStrDigits prepared (some s.observed)) =
      .ok s.observed := by
    refine mapM_eq_ok.mpr (List.forall₂_of_length_eq_of_get (by rw [List.length_zipIdx, h]) ?_)
    intro i hi hi'
    rw [recalled, List.get_eq_getElem, List.getElem_zipIdx, Option.bind_some, Nat.zero_add,
      List.getElem?_eq_getElem hi']
    rfl
  rw [rateSummariesV1, hrecall]
  rfl

/-- What a decided batch rests on. -/
inductive Decided (parse : IpParser) (prepared : PreparedAdaptiveUDP) (s : Replay)
    (batch : AdaptiveBatch) : Prop
  | initial (hnil : s.retained = [])
      (hbatch : batchV1 parse prepared [] prepared.initialRates .initialGrid 0 = .ok batch) :
      Decided parse prepared s batch
  | candidate {rate depth : ℤ} {reason : Reason}
      (hrunning : ∀ item ∈ s.retained, item.execution.stopReason = none)
      (hcandidate : Candidate prepared s.retained (s.summaries prepared) rate reason depth)
      (hbatch : batchV1 parse prepared s.retained [rate] reason depth = .ok batch) :
      Decided parse prepared s batch

theorem batch_of_admitProposal {history : List AdaptiveBatchResult} {proposal : Proposal}
    {decision : AdaptiveDecision} (h : admitProposal parse prepared history proposal = .ok decision)
    {batch : AdaptiveBatch} (hbatch : decision.batch = some batch) :
    ∃ rate reason depth, proposal = .candidate rate reason depth ∧
      batchV1 parse prepared history [rate] reason depth = .ok batch := by
  cases proposal with
  | terminal reason =>
    obtain rfl := Except.ok.inj h
    cases hbatch
  | candidate rate reason depth =>
    refine ⟨rate, reason, depth, rfl, ?_⟩
    unfold admitProposal at h
    cases hadmitted : batchV1 parse prepared history [rate] reason depth with
    | ok admitted =>
      simp only [hadmitted] at h
      obtain rfl := Except.ok.inj h
      exact congrArg Except.ok (Option.some.inj hbatch)
    | error e =>
      simp only [hadmitted] at h
      cases hlimit : limitOf e with
      | some limit =>
        simp only [hlimit] at h
        obtain rfl := Except.ok.inj h
        cases hbatch
      | none =>
        simp only [hlimit] at h
        cases h

theorem decided_of_chooseV1 {s : Replay} (hlength : s.observed.length = s.retained.length)
    {decision : AdaptiveDecision}
    (h : chooseV1 parse maxStrDigits prepared s.retained (some s.observed) none = .ok decision)
    {batch : AdaptiveBatch} (hbatch : decision.batch = some batch) :
    Decided parse prepared s batch := by
  unfold chooseV1 at h
  split_ifs at h with hnil hstopped
  · have hretained := List.isEmpty_iff.mp hnil
    obtain ⟨admitted, hadmitted, rfl⟩ := map_eq_ok.mp h
    rw [hretained] at hadmitted
    exact .initial hretained (Option.some.inj hbatch ▸ hadmitted)
  · obtain rfl := Except.ok.inj h
    cases hbatch
  · have hrunning : ∀ item ∈ s.retained, item.execution.stopReason = none := by
      intro item hitem
      by_contra hsome
      exact hstopped (List.any_eq_true.mpr ⟨item, hitem, Option.isSome_iff_ne_none.mpr hsome⟩)
    rw [currentSummaries, rateSummariesV1_replay hlength, ok_bind] at h
    obtain ⟨proposal, hproposal, hadmit⟩ := bind_eq_ok.mp h
    obtain ⟨rate, reason, depth, rfl, hadmitted⟩ := batch_of_admitProposal hadmit hbatch
    exact .candidate hrunning (candidate_of_propose hproposal) hadmitted

/-! ## One batch -/

/-- What the acceptance of a batch adds. -/
structure Admits (parse : IpParser) (maxStrDigits : ℕ) (prepared : PreparedAdaptiveUDP) (s : Replay)
    (item : AdaptiveBatchResult) (observations : List AdaptiveObservation) : Prop where
  decided : Decided parse prepared s item.batch
  plan : item.execution.plan = item.batch.plan
  valid : Trials.validateHistory parse executionStatus item.execution = .ok ()
  observed : observe parse maxStrDigits prepared item.execution = .ok observations

theorem replayItem_ok {s s' : Replay} (hlength : s.observed.length = s.retained.length)
    {item : AdaptiveBatchResult} (h : replayItem parse maxStrDigits prepared s item = .ok s') :
    ∃ retained observations, Admits parse maxStrDigits prepared s retained observations ∧
      retained.batch = item.batch ∧ s' = ⟨s.retained ++ [retained], s.observed ++ [observations]⟩ := by
  obtain ⟨decision, hdecision, h⟩ := bind_eq_ok.mp h
  obtain ⟨hbatch, h⟩ := bind_unit_eq_ok.mp h
  obtain ⟨execution, hexecution, h⟩ := bind_eq_ok.mp h
  obtain ⟨hplan, h⟩ := bind_unit_eq_ok.mp h
  obtain ⟨-, h⟩ := bind_unit_eq_ok.mp h
  obtain ⟨observations, hobservations, h⟩ := bind_eq_ok.mp h
  obtain rfl := Except.ok.inj h
  rw [reject_eq_ok, not_not] at hbatch hplan
  refine ⟨⟨item.batch, execution, item.pauseBeforeSeconds⟩, observations,
    ⟨decided_of_chooseV1 hlength hdecision hbatch, hplan.symm, ?_, hobservations⟩, rfl, rfl⟩
  simp only [codecExecution, bind_eq_ok, exists_unit] at hexecution
  obtain ⟨trials, -, -, -, -, -, hvalid, heq⟩ := hexecution
  obtain rfl := Except.ok.inj heq
  exact hvalid

end Iperf3Lib.Adaptive
