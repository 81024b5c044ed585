import Iperf3Lib.Adaptive.Settled

/-!
# Budgets of a history

Each round is charged together with all rounds in front of it, so the limits of the experiment hold of
every accepted history. The rates stay between the endpoints of the initial grid, and each of them is
refined to a bounded depth and confirmed a bounded number of times.
-/

namespace Iperf3Lib.Adaptive

open Py

variable {parse : IpParser} {maxStrDigits : ℕ} {prepared : PreparedAdaptiveUDP}

/-! ## Prepared experiments -/

/-- What preparation establishes. -/
structure PreparedAdaptiveUDP.Admitted (parse : IpParser) (prepared : PreparedAdaptiveUDP) : Prop where
  archived : prepared.config.archived = prepared.config
  config : prepared.config.postInit parse = .ok prepared.config
  protocol : ¬ (prepared.config.protocol ≠ .udp ∨ prepared.config.bidirectional = true)
  duration : ¬ (prepared.config.duration = none ∨ prepared.config.duration = some 0 ∨
    prepared.config.bytesToSend ≠ none ∨ prepared.config.blocksToSend ≠ none)
  rate : prepared.config.rate = none
  blksize : prepared.config.blksize ≠ none
  policy : prepared.policy.postInit = .ok ()
  budget : prepared.budget.postInit = .ok ()
  finite : ¬ (prepared.budget.maxActiveSeconds = none ∨ prepared.budget.maxPayloadBytes = none)
  unstopped : prepared.budget.stopAfterElapsedSeconds = none
  adaptive : prepared.adaptivePolicy.postInit = .ok ()
  trials : prepared.adaptivePolicy.minimumValidTrials ≤ prepared.policy.repetitions
  grid : checkGrid parse prepared.config prepared.initialRates prepared.policy
    prepared.adaptivePolicy = .ok ()
  initial : ∃ batch, batchV1 parse prepared [] prepared.initialRates .initialGrid 0 = .ok batch

/-- The initial grid lies between the declared endpoints. -/
structure PreparedAdaptiveUDP.Grid (prepared : PreparedAdaptiveUDP) : Prop where
  nonempty : prepared.initialRates ≠ []
  count : prepared.initialRates.length ≤ prepared.adaptivePolicy.maxDistinctRates
  range : ∀ rate ∈ prepared.initialRates,
    prepared.adaptivePolicy.minRateBps ≤ rate ∧ rate ≤ prepared.adaptivePolicy.maxRateBps
  nodup : prepared.initialRates.Nodup
  positive : 1 ≤ prepared.adaptivePolicy.minRateBps
  depth : 0 ≤ prepared.adaptivePolicy.maxRefinementDepth

/-- The rates that a history tests. -/
def testedRates (history : List AdaptiveBatchResult) : List ℤ :=
  (history.flatMap fun item => item.batch.rates).dedup

theorem mem_testedRates {history : List AdaptiveBatchResult} {rate : ℤ} :
    rate ∈ testedRates history ↔ Tested history rate := by
  simp [testedRates, Tested]

/-- There is a summary of every tested rate. -/
theorem Replay.Observed.length_summaries {s : Replay} (h : s.Observed) :
    (s.summaries prepared).length = (testedRates s.retained).length := by
  rw [Replay.summaries, rateSummaries, List.length_map]
  refine ((List.perm_ext_iff_of_nodup ?_ (List.nodup_dedup _)).mpr fun rate => ?_).length_eq
  · exact (pairwise_observedRates _).imp fun hlt => ne_of_lt hlt
  · exact h.mem_observedRates.trans mem_testedRates.symm

theorem length_testedRates_le {history : List AdaptiveBatchResult} {rates : List ℤ}
    (h : ∀ rate, Tested history rate → rate ∈ rates) : (testedRates history).length ≤ rates.length :=
  ((List.nodup_dedup _).subperm fun rate hrate => h rate (mem_testedRates.mp hrate)).length_le

theorem depthOf_eq_ok {history : List AdaptiveBatchResult} {rate depth : ℤ}
    (h : depthOf history rate = .ok depth) : ∃ item ∈ history, item.batch.depth = depth := by
  unfold depthOf at h
  split at h
  · next item hlast =>
    exact ⟨item, List.mem_of_mem_filter (List.mem_of_getLast? hlast), Except.ok.inj h⟩
  · cases h

theorem max_of_depthOfInterval {history : List AdaptiveBatchResult} {pair : RateInterval} {depth : ℤ}
    (h : depthOfInterval history pair = .ok depth) : ∃ left right,
      depthOf history pair.1.rateBps = .ok left ∧ depthOf history pair.2.rateBps = .ok right ∧
        depth = max left right := by
  obtain ⟨left, hleft, h⟩ := bind_eq_ok.mp h
  obtain ⟨right, hright, h⟩ := bind_eq_ok.mp h
  exact ⟨left, right, hleft, hright, (Except.ok.inj h).symm⟩

/-- Both members of a pair are summaries of tested rates. -/
theorem Replay.Observed.tested_of_interval {s : Replay} (h : s.Observed) {pair : RateInterval}
    (hpair : pair ∈ integerIntervals (s.summaries prepared)) :
    Tested s.retained pair.1.rateBps ∧ Tested s.retained pair.2.rateBps := by
  have htested : ∀ summary ∈ s.summaries prepared, Tested s.retained summary.rateBps := by
    intro summary hsummary
    obtain ⟨rate, hrate, rfl⟩ := Replay.mem_summaries.mp hsummary
    exact h.mem_observedRates.mp hrate
  obtain ⟨hleft, hright⟩ := List.of_mem_zip (List.mem_of_mem_filter (List.mem_of_mem_filter hpair))
  exact ⟨htested _ hleft, htested _ (List.mem_of_mem_tail hright)⟩

/-! ## Limits -/

/-- The limits that hold of a history. -/
structure Within (prepared : PreparedAdaptiveUDP) (history : List AdaptiveBatchResult) : Prop where
  nonempty : ∀ item ∈ history, item.batch.plan.trials ≠ []
  trials : (history.map fun item => (item.batch.plan.trials.length : ℤ)).sum ≤
    prepared.policy.maxTrials
  active : ∃ used, history.mapM (fun item => known item.batch.plan.estimate.activeSeconds) = .ok used ∧
    ∀ limit ∈ prepared.budget.maxActiveSeconds, used.sum ≤ limit
  payload : ∃ used,
    history.mapM (fun item => known item.batch.plan.estimate.estimatedPayloadBits) = .ok used ∧
      ∀ limit ∈ prepared.budget.maxPayloadBytes, (used.sum + 7) / 8 ≤ limit
  distinct : (testedRates history).length ≤ prepared.adaptivePolicy.maxDistinctRates
  range : ∀ rate, Tested history rate →
    prepared.adaptivePolicy.minRateBps ≤ rate ∧ rate ≤ prepared.adaptivePolicy.maxRateBps
  depth : ∀ item ∈ history,
    0 ≤ item.batch.depth ∧ item.batch.depth ≤ prepared.adaptivePolicy.maxRefinementDepth
  untested : ∀ i item, history[i]? = some item → item.batch.reason = .refineDifferingOutcomes →
    ∀ rate ∈ item.batch.rates, ¬ Tested (history.take i) rate
  confirmations : ∀ rate, history.countP (confirms rate) ≤ prepared.adaptivePolicy.confirmationBatches

theorem length_expected {policy : TrialPolicy} (h : policy.postInit = .ok ()) :
    (policy.expected.length : ℤ) = policy.repetitions + policy.warmupRuns := by
  simp only [TrialPolicy.postInit, bind_unit_eq_ok, checkCount, reject_eq_ok, not_lt] at h
  simp [TrialPolicy.expected]
  omega

/-- The plan of a round has the trials it was charged for. -/
theorem Round.length_trials {history : List AdaptiveBatchResult} {rates : List ℤ} {reason : Reason}
    {depth : ℤ} {batch : AdaptiveBatch} (h : Round parse prepared history rates reason depth batch) :
    (batch.plan.trials.length : ℤ) =
      (prepared.policy.repetitions + prepared.policy.warmupRuns) * rates.length := by
  obtain ⟨hpolicy, hplan⟩ := bind_unit_eq_ok.mp h.plan
  simp only [bind_eq_ok, exists_unit] at hplan
  obtain ⟨-, -, -, admitted, hadmitted, -, -, estimate, -, -, heq⟩ := hplan
  have hlength : batch.plan.trials.length = rates.length * prepared.policy.expected.length := by
    rw [← Except.ok.inj heq, length_of_mapM hadmitted]
    simp [rateSpecs, List.length_flatMap]
  rw [hlength, Nat.cast_mul, length_expected hpolicy, mul_comm]

theorem Round.trials_ne_nil {history : List AdaptiveBatchResult} {rates : List ℤ} {reason : Reason}
    {depth : ℤ} {batch : AdaptiveBatch} (h : Round parse prepared history rates reason depth batch) :
    batch.plan.trials ≠ [] := by
  obtain ⟨-, hplan⟩ := bind_unit_eq_ok.mp h.plan
  simp only [bind_eq_ok, exists_unit, reject_eq_ok, not_not] at hplan
  obtain ⟨-, hcount, -, admitted, hadmitted, -, -, estimate, -, -, heq⟩ := hplan
  rw [← Except.ok.inj heq]
  refine List.ne_nil_of_length_pos ?_
  rw [length_of_mapM hadmitted]
  exact_mod_cast hcount.1

theorem mapM_known_append {f : AdaptiveBatchResult → Option ℤ} {history : List AdaptiveBatchResult}
    {item : AdaptiveBatchResult} {used : List ℤ} {n : ℤ}
    (h : history.mapM (fun item => known (f item)) = .ok used) (hitem : f item = some n) :
    (history ++ [item]).mapM (fun item => known (f item)) = .ok (used ++ [n]) :=
  mapM_eq_ok.mpr (List.rel_append (mapM_eq_ok.mp h) (.cons (known_eq_ok.mpr hitem) .nil))

theorem confirmations_lt_of_assess {policy : AdaptiveUDPPolicy}
    {observations : List AdaptiveObservation} {confirmations : ℕ}
    (h : (assess policy observations confirmations).1 = .provisional) :
    confirmations < policy.confirmationBatches := by
  unfold assess at h
  dsimp only at h
  split_ifs at h with hany hmissing hfew
  exact hfew

/-- The confirmations of a rate are the batches that confirm it. -/
theorem Replay.Kept.confirmationsOf_eq {s : Replay} (h : s.Kept) (rate : ℤ) :
    confirmationsOf s.retained rate = s.retained.countP (confirms rate) := by
  suffices hcount : ∀ history : List AdaptiveBatchResult, (∀ item ∈ history,
      item.batch.reason = .confirmPromisingRate → ∃ rate, item.batch.rates = [rate]) →
      confirmationsOf history rate = history.countP (confirms rate) from hcount _ h.single
  intro history hsingle
  induction history with
  | nil => rfl
  | cons item rest ih =>
    obtain ⟨hitem, hrest⟩ := List.forall_mem_cons.mp hsingle
    have hitem : (if item.batch.reason = .confirmPromisingRate then item.batch.rates.count rate else 0) =
        if confirms rate item = true then 1 else 0 := by
      unfold confirms
      split
      · next hreason =>
        obtain ⟨confirmed, hrates⟩ := hitem hreason
        rw [hrates, hreason, List.count_singleton]
        by_cases hsame : confirmed = rate
        · simp [hsame]
        · simp [hsame, Ne.symm hsame]
      · next hreason => simp [hreason]
    rw [confirmationsOf, List.map_cons, List.sum_cons, List.countP_cons, hitem, Nat.add_comm]
    exact congrArg (· + _) (ih hrest)

section Append

variable {s : Replay} {item : AdaptiveBatchResult} {observations : List AdaptiveObservation}

theorem Within.distinct_append (hkept : s.Kept) (h : Within prepared s.retained) (hgrid : prepared.Grid)
    (hdecided : Decided parse prepared s item.batch) :
    (testedRates (s.retained ++ [item])).length ≤ prepared.adaptivePolicy.maxDistinctRates := by
  cases hdecided with
  | initial hnil hbatch =>
    have hle : (testedRates (s.retained ++ [item])).length ≤ prepared.initialRates.length := by
      refine length_testedRates_le fun rate hrate => ?_
      rw [hnil, List.nil_append] at hrate
      obtain ⟨earlier, hearlier, hrate⟩ := hrate
      obtain rfl := List.mem_singleton.mp hearlier
      rwa [(round_of_batchV1 hbatch).rates_eq] at hrate
    have hcount := hgrid.count
    omega
  | @candidate rate depth reason hrunning hcandidate hbatch =>
    have hrates := (round_of_batchV1 hbatch).rates_eq
    cases hcandidate with
    | confirmation hrate =>
      have htested := (hkept.observed.mem_ratesWith.mp hrate).1
      refine le_trans ?_ h.distinct
      refine Nat.cast_le.mpr (length_testedRates_le fun tested hmem => ?_)
      rcases tested_append.mp hmem with hbefore | hlast
      · exact mem_testedRates.mpr hbefore
      · rw [hrates, List.mem_singleton] at hlast
        exact mem_testedRates.mpr (hlast ▸ htested)
    | midpoint hpair hdepth hlimit hcount =>
      have hle : (testedRates (s.retained ++ [item])).length ≤ (testedRates s.retained).length + 1 := by
        have hmem : ∀ tested, Tested (s.retained ++ [item]) tested →
            tested ∈ testedRates s.retained ++ item.batch.rates := by
          intro tested htested
          rcases tested_append.mp htested with hbefore | hlast
          · exact List.mem_append_left _ (mem_testedRates.mpr hbefore)
          · exact List.mem_append_right _ hlast
        have hlength := length_testedRates_le hmem
        rwa [List.length_append, hrates, List.length_singleton] at hlength
      rw [hkept.observed.length_summaries] at hcount
      omega

theorem Within.range_append (hkept : s.Kept) (h : Within prepared s.retained) (hgrid : prepared.Grid)
    (hdecided : Decided parse prepared s item.batch) {rate : ℤ}
    (hrate : Tested (s.retained ++ [item]) rate) :
    prepared.adaptivePolicy.minRateBps ≤ rate ∧ rate ≤ prepared.adaptivePolicy.maxRateBps := by
  rcases tested_append.mp hrate with hbefore | hlast
  · exact h.range rate hbefore
  cases hdecided with
  | initial hnil hbatch =>
    rw [(round_of_batchV1 hbatch).rates_eq] at hlast
    exact hgrid.range rate hlast
  | candidate hrunning hcandidate hbatch =>
    rw [(round_of_batchV1 hbatch).rates_eq, List.mem_singleton] at hlast
    cases hcandidate with
    | confirmation hprovisional =>
      exact hlast ▸ h.range _ (hkept.observed.mem_ratesWith.mp hprovisional).1
    | midpoint hpair =>
      obtain ⟨hleft, hright⟩ := hkept.observed.tested_of_interval hpair
      have hleft := h.range _ hleft
      have hright := h.range _ hright
      omega

theorem Within.depth_append (h : Within prepared s.retained) (hgrid : prepared.Grid)
    (hdecided : Decided parse prepared s item.batch) :
    0 ≤ item.batch.depth ∧ item.batch.depth ≤ prepared.adaptivePolicy.maxRefinementDepth := by
  cases hdecided with
  | initial hnil hbatch =>
    rw [(round_of_batchV1 hbatch).depth_eq]
    exact ⟨le_rfl, hgrid.depth⟩
  | candidate hrunning hcandidate hbatch =>
    rw [(round_of_batchV1 hbatch).depth_eq]
    cases hcandidate with
    | confirmation _ _ hdepth =>
      obtain ⟨earlier, hearlier, rfl⟩ := depthOf_eq_ok hdepth
      exact h.depth earlier hearlier
    | midpoint hpair hdepth hlimit =>
      obtain ⟨left, right, hleft, hright, rfl⟩ := max_of_depthOfInterval hdepth
      obtain ⟨earlier, hearlier, rfl⟩ := depthOf_eq_ok hleft
      have hpositive := (h.depth earlier hearlier).1
      omega

theorem Within.confirmations_append (hkept : s.Kept) (h : Within prepared s.retained)
    (hadvance : Advance prepared s item.batch) (rate : ℤ) :
    (s.retained ++ [item]).countP (confirms rate) ≤ prepared.adaptivePolicy.confirmationBatches := by
  rw [List.countP_append, List.countP_singleton]
  by_cases hconfirms : confirms rate item = true
  · obtain ⟨hreason, hmem⟩ := Bool.and_eq_true_iff.mp hconfirms
    have hreason := of_decide_eq_true hreason
    have hmem := List.contains_iff_mem.mp hmem
    rw [if_pos hconfirms]
    cases hadvance with
    | initial _ hinitial =>
      rw [hinitial] at hreason
      cases hreason
    | confirmation hprovisional _ hrates =>
      rw [hrates, List.mem_singleton] at hmem
      obtain ⟨-, hstatus⟩ := hkept.observed.mem_ratesWith.mp (hmem ▸ hprovisional)
      have hfew := confirmations_lt_of_assess hstatus
      rw [hkept.confirmationsOf_eq] at hfew
      push_cast
      omega
    | refinement _ hrefinement =>
      rw [hrefinement] at hreason
      cases hreason
  · rw [if_neg hconfirms, Nat.add_zero]
    exact h.confirmations rate

theorem Within.append (hkept : s.Kept) (h : Within prepared s.retained) (hgrid : prepared.Grid)
    (hadmits : Admits parse maxStrDigits prepared s item observations) :
    Within prepared (s.retained ++ [item]) := by
  have hround := hadmits.decided.round
  have hadvance := hadmits.decided.advance hkept.observed
  refine ⟨?_, ?_, ?_, ?_, h.distinct_append hkept hgrid hadmits.decided,
    fun rate => h.range_append hkept hgrid hadmits.decided, ?_, ?_,
    h.confirmations_append hkept hadvance⟩
  · intro earlier hearlier
    rcases List.mem_append.mp hearlier with hearlier | hlast
    · exact h.nonempty earlier hearlier
    · obtain rfl := List.mem_singleton.mp hlast
      exact hround.trials_ne_nil
  · rw [List.map_append, List.sum_append, List.map_singleton, List.sum_singleton, hround.length_trials]
    exact hround.trials
  · obtain ⟨used, active, limit, hused, hactive, hlimit, hle⟩ := hround.active
    refine ⟨used ++ [active], mapM_known_append hused hactive, fun limit' hlimit' => ?_⟩
    obtain rfl := Option.some.inj (hlimit.symm.trans hlimit')
    rw [List.sum_append, List.sum_singleton]
    exact hle
  · obtain ⟨used, bits, limit, hused, hbits, hlimit, hle⟩ := hround.payload
    refine ⟨used ++ [bits], mapM_known_append hused hbits, fun limit' hlimit' => ?_⟩
    obtain rfl := Option.some.inj (hlimit.symm.trans hlimit')
    rw [List.sum_append, List.sum_singleton]
    exact hle
  · intro earlier hearlier
    rcases List.mem_append.mp hearlier with hearlier | hlast
    · exact h.depth earlier hearlier
    · obtain rfl := List.mem_singleton.mp hlast
      exact h.depth_append hgrid hadmits.decided
  · intro i earlier hearlier hreason rate hrate
    rcases lt_trichotomy i s.retained.length with hlt | heq | hgt
    · rw [List.getElem?_append_left hlt] at hearlier
      rw [List.take_append_of_le_length hlt.le]
      exact h.untested i earlier hearlier hreason rate hrate
    · rw [heq, List.getElem?_concat_length] at hearlier
      obtain rfl := Option.some.inj hearlier
      rw [heq, List.take_left]
      cases hadvance with
      | initial _ hinitial =>
        rw [hinitial] at hreason
        cases hreason
      | confirmation _ hconfirmation =>
        rw [hconfirmation] at hreason
        cases hreason
      | refinement huntested _ hrates =>
        rw [hrates, List.mem_singleton] at hrate
        exact hrate ▸ huntested
    · rw [List.getElem?_eq_none (by rw [List.length_append, List.length_singleton]; omega)] at hearlier
      cases hearlier

end Append

end Iperf3Lib.Adaptive
