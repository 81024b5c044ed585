import Iperf3Lib.Adaptive.Rounds
import Iperf3Lib.General.OrderStatistics

/-!
# Tested rates

Along a history every rate is explored once, and only a provisional rate is tested again, to confirm
it. A rate that is eligible, rejected or inconclusive is settled: no later batch is about it, so its
summary stays what it is.
-/

namespace Iperf3Lib.Adaptive

open Py

variable {parse : IpParser} {maxStrDigits : ℕ} {prepared : PreparedAdaptiveUDP}

/-- The batch tests the rate and is no confirmation. -/
def explores (rate : ℤ) (item : AdaptiveBatchResult) : Bool :=
  item.batch.reason ≠ .confirmPromisingRate && item.batch.rates.contains rate

/-- The batch confirms the rate. -/
def confirms (rate : ℤ) (item : AdaptiveBatchResult) : Bool :=
  item.batch.reason = .confirmPromisingRate && item.batch.rates.contains rate

/-- A batch of the history tests the rate. -/
def Tested (history : List AdaptiveBatchResult) (rate : ℤ) : Prop :=
  ∃ item ∈ history, rate ∈ item.batch.rates

theorem tested_append {history : List AdaptiveBatchResult} {item : AdaptiveBatchResult} {rate : ℤ} :
    Tested (history ++ [item]) rate ↔ Tested history rate ∨ rate ∈ item.batch.rates := by
  simp [Tested, or_and_right, exists_or]

/-! ## Observed rates -/

theorem mem_observedRates {observations : List AdaptiveObservation} {rate : ℤ} :
    rate ∈ observedRates observations ↔ ∃ o ∈ observations, o.requestedRateBps = rate := by
  simp [observedRates]

theorem pairwise_observedRates (observations : List AdaptiveObservation) :
    (observedRates observations).Pairwise (· < ·) :=
  pairwise_insertionSort_lt (List.nodup_dedup _)

/-- The batches of a replay were observed at their rates. -/
def Replay.Observed (s : Replay) : Prop :=
  List.Forall₂ (fun item observations => ∀ rate,
    (∃ o ∈ observations, o.requestedRateBps = rate) ↔ rate ∈ item.batch.rates) s.retained s.observed

theorem Replay.Observed.mem_observedRates {s : Replay} (h : s.Observed) {rate : ℤ} :
    rate ∈ observedRates s.observed.flatten ↔ Tested s.retained rate := by
  rw [Adaptive.mem_observedRates]
  constructor
  · rintro ⟨o, ho, hrate⟩
    obtain ⟨observations, hobservations, ho⟩ := List.mem_flatten.mp ho
    obtain ⟨item, hitem, hiff⟩ := exists_mem_of_forall₂ h.flip hobservations
    exact ⟨item, hitem, (hiff rate).mp ⟨o, ho, hrate⟩⟩
  · rintro ⟨item, hitem, hrate⟩
    obtain ⟨observations, hobservations, hiff⟩ := exists_mem_of_forall₂ h hitem
    obtain ⟨o, ho, hrate⟩ := (hiff rate).mpr hrate
    exact ⟨o, List.mem_flatten.mpr ⟨observations, hobservations, ho⟩, hrate⟩

theorem Replay.mem_summaries {s : Replay} {summary : AdaptiveRateSummary} :
    summary ∈ s.summaries prepared ↔ ∃ rate ∈ observedRates s.observed.flatten,
      summarizeRate prepared s.retained s.observed.flatten rate = summary :=
  List.mem_map

/-- A midpoint of two neighbouring rates was never tested. -/
theorem not_tested_of_midpoint {s : Replay} (h : s.Observed) {pair : RateInterval}
    (hpair : pair ∈ integerIntervals (s.summaries prepared)) :
    ¬ Tested s.retained ((pair.1.rateBps + pair.2.rateBps) / 2) := by
  obtain ⟨hdiffering, hgap⟩ := List.mem_filter.mp hpair
  have hzip := List.mem_of_mem_filter hdiffering
  have hrates : (pair.1.rateBps, pair.2.rateBps) ∈
      (observedRates s.observed.flatten).zip (observedRates s.observed.flatten).tail := by
    rw [Replay.summaries, rateSummaries, ← List.map_tail, List.zip_map] at hzip
    obtain ⟨rates, hrates, rfl⟩ := List.mem_map.mp hzip
    exact hrates
  have hgap := of_decide_eq_true hgap
  rw [← h.mem_observedRates]
  exact not_mem_of_adjacent (pairwise_observedRates _) hrates (by omega) (by omega)

/-! ## Steps -/

/-- What an accepted batch is about. -/
inductive Advance (prepared : PreparedAdaptiveUDP) (s : Replay) (batch : AdaptiveBatch) : Prop
  | initial (hnil : s.retained = []) (hreason : batch.reason = .initialGrid)
      (hrates : batch.rates = prepared.initialRates)
  | confirmation {rate : ℤ} (hrate : rate ∈ ratesWith .provisional (s.summaries prepared))
      (hreason : batch.reason = .confirmPromisingRate) (hrates : batch.rates = [rate])
  | refinement {rate : ℤ} (huntested : ¬ Tested s.retained rate)
      (hreason : batch.reason = .refineDifferingOutcomes) (hrates : batch.rates = [rate])

theorem Decided.advance {s : Replay} (hobserved : s.Observed) {batch : AdaptiveBatch}
    (h : Decided parse prepared s batch) : Advance prepared s batch := by
  cases h with
  | initial hnil hbatch =>
    have hround := round_of_batchV1 hbatch
    exact .initial hnil hround.reason_eq hround.rates_eq
  | candidate hrunning hcandidate hbatch =>
    have hround := round_of_batchV1 hbatch
    cases hcandidate with
    | confirmation hrate => exact .confirmation hrate hround.reason_eq hround.rates_eq
    | midpoint hpair =>
      exact .refinement (not_tested_of_midpoint hobserved hpair) hround.reason_eq hround.rates_eq

/-! ## Assessments -/

theorem mem_measuredOf {observations : List AdaptiveObservation} {o : AdaptiveObservation} :
    o ∈ measuredOf observations ↔ o ∈ observations ∧ o.phase = .measured := by
  simp [measuredOf]

/-- A rate that is neither rejected nor inconclusive was measured well each time. -/
theorem acceptable_of_assess {policy : AdaptiveUDPPolicy} {observations : List AdaptiveObservation}
    {confirmations : ℕ} {status : RateStatus}
    (h : (assess policy observations confirmations).1 = status) (hrejected : status ≠ .rejected)
    (hinconclusive : status ≠ .inconclusive) :
    (∀ o ∈ measuredOf observations, o.valid = true ∧ o.acceptable = true) ∧
      policy.minimumValidTrials ≤ validOf observations := by
  unfold assess at h
  dsimp only at h
  by_cases hany : (measuredOf observations).any (fun value => value.valid && !value.acceptable) = true
  · rw [if_pos hany] at h
    exact absurd h.symm hrejected
  · rw [if_neg hany] at h
    by_cases hmissing : (measuredOf observations).isEmpty = true ∨
        (measuredOf observations).all AdaptiveObservation.valid = false ∨
        validOf observations < policy.minimumValidTrials
    · rw [if_pos hmissing] at h
      exact absurd h.symm hinconclusive
    · obtain ⟨-, hall, hcount⟩ := not_or.mp hmissing |>.imp_right not_or.mp
      rw [Bool.not_eq_false, List.all_eq_true] at hall
      refine ⟨fun o ho => ⟨hall o ho, ?_⟩, not_lt.mp hcount⟩
      by_contra hbad
      rw [Bool.not_eq_true] at hbad
      exact hany (List.any_eq_true.mpr ⟨o, ho, by rw [hall o ho, hbad]; rfl⟩)

/-- The summary of a rate behind a replay. -/
def Replay.summary (prepared : PreparedAdaptiveUDP) (s : Replay) (rate : ℤ) : AdaptiveRateSummary :=
  summarizeRate prepared s.retained s.observed.flatten rate

theorem Replay.Observed.mem_ratesWith {s : Replay} (h : s.Observed) {status : RateStatus} {rate : ℤ} :
    rate ∈ ratesWith status (s.summaries prepared) ↔
      Tested s.retained rate ∧ (s.summary prepared rate).status = status := by
  rw [Adaptive.mem_ratesWith]
  constructor
  · rintro ⟨summary, hsummary, hstatus, hrate⟩
    obtain ⟨tested, htested, rfl⟩ := Replay.mem_summaries.mp hsummary
    obtain rfl : tested = rate := hrate
    exact ⟨h.mem_observedRates.mp htested, hstatus⟩
  · rintro ⟨htested, hstatus⟩
    exact ⟨_, Replay.mem_summaries.mpr ⟨rate, h.mem_observedRates.mpr htested, rfl⟩, hstatus, rfl⟩

/-! ## What a batch leaves alone -/

theorem confirmationsOf_append {history : List AdaptiveBatchResult} {item : AdaptiveBatchResult}
    {rate : ℤ} (h : rate ∉ item.batch.rates) :
    confirmationsOf (history ++ [item]) rate = confirmationsOf history rate := by
  simp [confirmationsOf, List.count_eq_zero_of_not_mem h]

theorem observationsOf_append {earlier later : List AdaptiveObservation} {rate : ℤ}
    (h : ∀ o ∈ later, o.requestedRateBps ≠ rate) :
    observationsOf (earlier ++ later) rate = observationsOf earlier rate := by
  have hlater : later.filter (fun value => value.requestedRateBps = rate) = [] :=
    List.filter_eq_nil_iff.mpr fun o ho => by simpa using h o ho
  rw [observationsOf, List.filter_append, hlater, List.append_nil, observationsOf]

/-- A batch that is not about a rate leaves its summary alone. -/
theorem Admits.summary_eq {s : Replay} {item : AdaptiveBatchResult}
    {observations : List AdaptiveObservation}
    (h : Admits parse maxStrDigits prepared s item observations) {rate : ℤ}
    (hrate : rate ∉ item.batch.rates) :
    Replay.summary prepared ⟨s.retained ++ [item], s.observed ++ [observations]⟩ rate =
      s.summary prepared rate := by
  have hobservations : ∀ o ∈ observations, o.requestedRateBps ≠ rate :=
    fun o ho heq => hrate (h.mem_requested.mp ⟨o, ho, heq⟩)
  simp only [Replay.summary, summarizeRate, List.flatten_append, List.flatten_cons, List.flatten_nil,
    List.append_nil, confirmationsOf_append hrate, observationsOf_append hobservations]

/-- The rates of a batch are not settled. -/
theorem Advance.not_mem_of_settled {s : Replay} (hobserved : s.Observed) {batch : AdaptiveBatch}
    (h : Advance prepared s batch) {rate : ℤ} (htested : Tested s.retained rate)
    (hstatus : (s.summary prepared rate).status ≠ .provisional) : rate ∉ batch.rates := by
  cases h with
  | initial hnil =>
    obtain ⟨item, hitem, -⟩ := htested
    rw [hnil] at hitem
    cases hitem
  | confirmation hprovisional _ hrates =>
    rw [hrates, List.mem_singleton]
    rintro rfl
    exact hstatus (hobserved.mem_ratesWith.mp hprovisional).2
  | refinement huntested _ hrates =>
    rw [hrates, List.mem_singleton]
    rintro rfl
    exact huntested htested

/-! ## Runs -/

/-- What a history keeps. -/
structure Replay.Kept (s : Replay) : Prop where
  observed : s.Observed
  explored : ∀ rate, Tested s.retained rate → s.retained.countP (explores rate) = 1
  single : ∀ item ∈ s.retained, item.batch.reason = .confirmPromisingRate →
    ∃ rate, item.batch.rates = [rate]
  confirmed : ∀ i item, s.retained[i]? = some item → ∀ rate, confirms rate item = true →
    ∀ o ∈ (s.observed.take i).flatten, o.requestedRateBps = rate → o.phase = .measured →
      o.valid = true ∧ o.acceptable = true

/-- An explored rate has no second exploration. -/
theorem explored_append {s : Replay} (h : s.Kept) {item : AdaptiveBatchResult}
    (hadvance : Advance prepared s item.batch) {rate : ℤ}
    (htested : Tested (s.retained ++ [item]) rate) :
    (s.retained ++ [item]).countP (explores rate) = 1 := by
  rw [List.countP_append, List.countP_singleton]
  rw [tested_append] at htested
  have hnone : ¬ Tested s.retained rate → s.retained.countP (explores rate) = 0 := by
    intro huntested
    refine List.countP_eq_zero.mpr fun earlier hearlier hexplores => huntested ⟨earlier, hearlier, ?_⟩
    exact List.contains_iff_mem.mp (Bool.and_eq_true_iff.mp hexplores).2
  cases hadvance with
  | initial hnil hreason hrates =>
    have huntested : ¬ Tested s.retained rate := by
      rintro ⟨earlier, hearlier, -⟩
      rw [hnil] at hearlier
      cases hearlier
    have hmem := htested.resolve_left huntested
    rw [hnone huntested, explores, hreason, if_pos (by simpa using hmem)]
  | confirmation hrate hreason hrates =>
    obtain ⟨htested', -⟩ := h.observed.mem_ratesWith.mp hrate
    have hbefore : Tested s.retained rate := by
      refine htested.elim id fun hmem => ?_
      rw [hrates, List.mem_singleton] at hmem
      exact hmem ▸ htested'
    rw [h.explored rate hbefore, explores, hreason, if_neg (by simp)]
  | refinement huntested hreason hrates =>
    by_cases hbefore : Tested s.retained rate
    · have hmem : rate ∉ item.batch.rates := by
        rw [hrates, List.mem_singleton]
        rintro rfl
        exact huntested hbefore
      rw [h.explored rate hbefore, explores, if_neg (by simp [hmem])]
    · have hmem := htested.resolve_left hbefore
      rw [hnone hbefore, explores, hreason, if_pos (by simpa using hmem)]

/-- A confirmation found all measurements of its rate acceptable. -/
theorem acceptable_of_confirms {s : Replay} (h : s.Kept) {item : AdaptiveBatchResult}
    (hadvance : Advance prepared s item.batch) {rate : ℤ} (hconfirms : confirms rate item = true)
    {o : AdaptiveObservation} (ho : o ∈ s.observed.flatten) (hrate : o.requestedRateBps = rate)
    (hphase : o.phase = .measured) : o.valid = true ∧ o.acceptable = true := by
  obtain ⟨hreason, hmem⟩ := Bool.and_eq_true_iff.mp hconfirms
  have hreason := of_decide_eq_true hreason
  have hmem := List.contains_iff_mem.mp hmem
  cases hadvance with
  | initial hnil hinitial =>
    rw [hinitial] at hreason
    cases hreason
  | confirmation hprovisional _ hrates =>
    rw [hrates, List.mem_singleton] at hmem
    obtain ⟨-, hstatus⟩ := h.observed.mem_ratesWith.mp (hmem ▸ hprovisional)
    have hown : o ∈ observationsOf s.observed.flatten rate :=
      List.mem_filter.mpr ⟨ho, decide_eq_true hrate⟩
    exact (acceptable_of_assess hstatus (by decide) (by decide)).1 o (mem_measuredOf.mpr ⟨hown, hphase⟩)
  | refinement _ hrefinement =>
    rw [hrefinement] at hreason
    cases hreason

theorem Replay.Kept.append {s : Replay} (h : s.Kept) {item : AdaptiveBatchResult}
    {observations : List AdaptiveObservation}
    (hadmits : Admits parse maxStrDigits prepared s item observations) :
    Replay.Kept ⟨s.retained ++ [item], s.observed ++ [observations]⟩ where
  observed := List.rel_append h.observed (.cons (fun _ => hadmits.mem_requested) .nil)
  explored := fun _ => explored_append h (hadmits.decided.advance h.observed)
  single := by
    intro earlier hearlier hreason
    rcases List.mem_append.mp hearlier with hearlier | hlast
    · exact h.single earlier hearlier hreason
    · obtain rfl := List.mem_singleton.mp hlast
      cases hadmits.decided.advance h.observed with
      | initial hnil hinitial hrates =>
        rw [hinitial] at hreason
        cases hreason
      | confirmation hrate _ hrates => exact ⟨_, hrates⟩
      | refinement _ _ hrates => exact ⟨_, hrates⟩
  confirmed := by
    intro i earlier hearlier rate hconfirms o ho hrate hphase
    have hlength := h.observed.length_eq
    rcases lt_trichotomy i s.retained.length with hlt | heq | hgt
    · rw [List.getElem?_append_left hlt] at hearlier
      rw [List.take_append_of_le_length (by omega)] at ho
      exact h.confirmed i earlier hearlier rate hconfirms o ho hrate hphase
    · rw [heq, List.getElem?_concat_length] at hearlier
      obtain rfl := Option.some.inj hearlier
      rw [List.take_append_of_le_length (by omega), List.take_of_length_le (by omega)] at ho
      exact acceptable_of_confirms h (hadmits.decided.advance h.observed) hconfirms ho hrate hphase
    · rw [List.getElem?_eq_none (by rw [List.length_append, List.length_singleton]; omega)] at hearlier
      cases hearlier

theorem Replay.Kept.replayItem {s s' : Replay} (h : s.Kept) {item : AdaptiveBatchResult}
    (hitem : replayItem parse maxStrDigits prepared s item = .ok s') : s'.Kept := by
  obtain ⟨retained, observations, hadmits, -, rfl⟩ := replayItem_ok h.observed.length_eq.symm hitem
  exact h.append hadmits

end Iperf3Lib.Adaptive
