import Iperf3Lib.Adaptive.History

/-!
# Rates of a history

The trials of a batch offer its rates and no others, so the rates that a history was observed at are
the rates of its batches. A refinement is at a new rate, a confirmation at a tested one.
-/

namespace Iperf3Lib.Adaptive

open Py

variable {parse : IpParser} {maxStrDigits : ℕ} {prepared : PreparedAdaptiveUDP}

/-! ## The trials of a batch -/

theorem assertSome_eq_ok {α : Type} {value : Option α} {a : α} :
    assertSome value = .ok a ↔ value = some a := by
  cases value <;> simp [assertSome]

/-- What an observation has of its record. -/
structure ObservedFrom (prepared : PreparedAdaptiveUDP) (record : Trials.TrialRecord PyVal)
    (o : AdaptiveObservation) : Prop where
  requested : record.spec.rateIntent.bind RateIntent.aggregateBpsPerDirection = some o.requestedRateBps
  phase : o.phase = record.spec.phase
  acceptable : o.acceptable = (o.valid &&
    o.countLossPercent.any (withinLoss prepared.adaptivePolicy.receiverLossPercent))

theorem observedFrom_of_observationV1 {record : Trials.TrialRecord PyVal} {o : AdaptiveObservation}
    (h : observationV1 parse maxStrDigits prepared record = .ok o) : ObservedFrom prepared record o := by
  obtain ⟨requested, hrequested, h⟩ := bind_eq_ok.mp h
  obtain ⟨resolution, -, h⟩ := bind_eq_ok.mp h
  obtain ⟨native, -, h⟩ := bind_eq_ok.mp h
  obtain ⟨allocated, -, h⟩ := bind_eq_ok.mp h
  obtain ⟨unused, -, h⟩ := bind_eq_ok.mp h
  obtain ⟨evidence, -, h⟩ := bind_eq_ok.mp h
  obtain ⟨fraction, -, h⟩ := bind_eq_ok.mp h
  obtain ⟨packets, -, h⟩ := bind_eq_ok.mp h
  obtain ⟨lost, -, h⟩ := bind_eq_ok.mp h
  obtain ⟨senderBytes, -, h⟩ := bind_eq_ok.mp h
  obtain ⟨senderSeconds, -, h⟩ := bind_eq_ok.mp h
  obtain ⟨receiverBytes, -, h⟩ := bind_eq_ok.mp h
  obtain ⟨receiverSeconds, -, h⟩ := bind_eq_ok.mp h
  obtain ⟨nativeLoss, -, h⟩ := bind_eq_ok.mp h
  obtain rfl := Except.ok.inj h
  exact ⟨assertSome_eq_ok.mp hrequested, rfl, rfl⟩

theorem spec_of_validateRecords {A : Type} {artifacts : A → Option NativeStatus}
    {execution : Trials.PlanResult A} {pairs : List (Trials.TrialRecord A × TrialSpec)} {index : ℕ}
    {seen : Trials.Seen}
    (h : Trials.validateRecords artifacts execution index seen pairs = .ok ()) :
    ∀ pair ∈ pairs, pair.1.spec.pyEq pair.2 = true := by
  induction pairs generalizing index seen with
  | nil => exact fun pair hpair => absurd hpair List.not_mem_nil
  | cons pair pairs ih =>
    obtain ⟨record, spec⟩ := pair
    unfold Trials.validateRecords at h
    obtain ⟨hspec, h⟩ := bind_unit_eq_ok.mp h
    rw [failIf_eq_ok, Bool.not_eq_false] at hspec
    refine List.forall_mem_cons.mpr ⟨hspec, ?_⟩
    split_ifs at h
    · exact ih (bind_unit_eq_ok.mp h).2
    · exact ih (bind_unit_eq_ok.mp h).2

/-- The records of an execution are of the trials of its plan. -/
theorem records_of_validateHistory {execution : Trials.PlanResult PyVal}
    (h : Trials.validateHistory parse executionStatus execution = .ok ()) :
    List.Forall₂ (fun record spec => Trials.TrialRecord.spec record |>.pyEq spec)
      execution.trials execution.plan.trials := by
  simp only [Trials.validateHistory, bind_unit_eq_ok, failIf_eq_ok, not_not] at h
  obtain ⟨-, hlength, hrecords, -⟩ := h
  exact List.forall₂_iff_zip.mpr ⟨hlength, fun hmem => spec_of_validateRecords hrecords _ hmem⟩

theorem rateIntent_of_pyEq {left right : TrialSpec} (h : left.pyEq right = true) :
    left.rateIntent = right.rateIntent := by
  simp only [TrialSpec.pyEq, Bool.and_eq_true, decide_eq_true_eq] at h
  rw [← h.1]

theorem phase_of_pyEq {left right : TrialSpec} (h : left.pyEq right = true) :
    left.phase = right.phase := by
  simp only [TrialSpec.pyEq, Bool.and_eq_true, decide_eq_true_eq] at h
  rw [← h.1]

/-- What admission of a round establishes. -/
structure Round (parse : IpParser) (prepared : PreparedAdaptiveUDP) (history : List AdaptiveBatchResult)
    (rates : List ℤ) (reason : Reason) (depth : ℤ) (batch : AdaptiveBatch) : Prop where
  eq : batch = ⟨history.length, rates, reason, depth, batch.plan⟩
  plan : preparePlan parse (rates.flatMap (rateSpecs prepared history.length)) prepared.policy
    prepared.budget none = .ok batch.plan
  trials : (history.map fun item => (item.batch.plan.trials.length : ℤ)).sum +
    (prepared.policy.repetitions + prepared.policy.warmupRuns) * rates.length ≤ prepared.policy.maxTrials
  active : ∃ used active limit, history.mapM (fun item => known item.batch.plan.estimate.activeSeconds) =
      .ok used ∧ batch.plan.estimate.activeSeconds = some active ∧
    prepared.budget.maxActiveSeconds = some limit ∧ used.sum + active ≤ limit
  payload : ∃ used bits limit,
      history.mapM (fun item => known item.batch.plan.estimate.estimatedPayloadBits) = .ok used ∧
    batch.plan.estimate.estimatedPayloadBits = some bits ∧ prepared.budget.maxPayloadBytes = some limit ∧
    (used.sum + bits + 7) / 8 ≤ limit

theorem known_eq_ok {value : Option ℤ} {n : ℤ} : known value = .ok n ↔ value = some n := by
  cases value <;> simp [known, typeError]

theorem preparePlan_of_admitRound {specs : List TrialSpec} {plan : PreparedPlan}
    (h : admitRound parse prepared specs = .ok plan) :
    preparePlan parse specs prepared.policy prepared.budget none = .ok plan := by
  unfold admitRound at h
  split at h
  · next hplan =>
    rw [hplan, Except.ok.inj h]
  · split_ifs at h <;> cases h

theorem round_of_batchV1 {history : List AdaptiveBatchResult} {rates : List ℤ} {reason : Reason}
    {depth : ℤ} {batch : AdaptiveBatch}
    (h : batchV1 parse prepared history rates reason depth = .ok batch) :
    Round parse prepared history rates reason depth batch := by
  simp only [batchV1, bind_eq_ok, exists_unit, reject_eq_ok, known_eq_ok, not_lt, gt_iff_lt] at h
  obtain ⟨hcount, usedActive, hactive, usedBits, hbits, plan, hplan, active, hplanActive, maxActive,
    hmaxActive, hactiveLimit, bits, hplanBits, maxPayload, hmaxPayload, hpayloadLimit, heq⟩ := h
  obtain rfl := Except.ok.inj heq
  exact ⟨rfl, preparePlan_of_admitRound hplan, hcount,
    ⟨usedActive, active, maxActive, hactive, hplanActive, hmaxActive, hactiveLimit⟩,
    ⟨usedBits, bits, maxPayload, hbits, hplanBits, hmaxPayload, hpayloadLimit⟩⟩

/-! ## The rates of a batch -/

theorem rateIntent_of_copySpec {spec spec' : TrialSpec} (h : copySpec parse spec = .ok spec') :
    spec.rateIntent = spec'.rateIntent := by
  simp only [copySpec, bind_eq_ok, exists_unit] at h
  obtain ⟨-, -, -, config, -, -, -, rate, -, heq⟩ := h
  obtain rfl := Except.ok.inj heq
  rfl

section Fields

variable {history : List AdaptiveBatchResult} {rates : List ℤ} {reason : Reason} {depth : ℤ}
  {batch : AdaptiveBatch}

theorem Round.rates_eq (h : Round parse prepared history rates reason depth batch) :
    batch.rates = rates := congrArg AdaptiveBatch.rates h.eq

theorem Round.reason_eq (h : Round parse prepared history rates reason depth batch) :
    batch.reason = reason := congrArg AdaptiveBatch.reason h.eq

theorem Round.depth_eq (h : Round parse prepared history rates reason depth batch) :
    batch.depth = depth := congrArg AdaptiveBatch.depth h.eq

end Fields

/-- Every decided batch was admitted as a round. -/
theorem Decided.round {s : Replay} {batch : AdaptiveBatch} (h : Decided parse prepared s batch) :
    Round parse prepared s.retained batch.rates batch.reason batch.depth batch := by
  cases h with
  | initial hnil hbatch =>
    have hround := round_of_batchV1 hbatch
    rw [← hnil] at hround
    rwa [hround.rates_eq, hround.reason_eq, hround.depth_eq]
  | candidate hrunning hcandidate hbatch =>
    have hround := round_of_batchV1 hbatch
    rwa [hround.rates_eq, hround.reason_eq, hround.depth_eq]

theorem Round.expected_ne_nil {history : List AdaptiveBatchResult} {rates : List ℤ} {reason : Reason}
    {depth : ℤ} {batch : AdaptiveBatch} (h : Round parse prepared history rates reason depth batch) :
    prepared.policy.expected ≠ [] := by
  obtain ⟨hpolicy, -⟩ := bind_unit_eq_ok.mp h.plan
  simp only [TrialPolicy.postInit, bind_unit_eq_ok, checkCount, reject_eq_ok, not_lt] at hpolicy
  have hpositive : 0 < prepared.policy.repetitions.toNat := by omega
  have hfirst : (Phase.measured, (0 : ℤ)) ∈ prepared.policy.expected := by
    suffices hzero : ∃ a : ℕ, (a : ℤ) < prepared.policy.repetitions ∧ (0 : ℤ) = a by
      simpa [TrialPolicy.expected] using hzero
    exact ⟨0, Int.lt_toNat.mp hpositive, rfl⟩
  exact List.ne_nil_of_mem hfirst

/-- The trials of a batch were observed at the rates they offer, one behind the other. -/
theorem Admits.requested {s : Replay} {item : AdaptiveBatchResult}
    {observations : List AdaptiveObservation}
    (h : Admits parse maxStrDigits prepared s item observations) :
    observations.map (fun o => some o.requestedRateBps) =
      (item.batch.rates.flatMap (rateSpecs prepared s.retained.length)).map fun spec =>
        spec.rateIntent.bind RateIntent.aggregateBpsPerDirection := by
  obtain ⟨-, hplan⟩ := bind_unit_eq_ok.mp h.decided.round.plan
  simp only [bind_eq_ok, exists_unit] at hplan
  obtain ⟨-, -, -, admitted, hadmitted, -, -, estimate, -, -, heq⟩ := hplan
  have htrials : admitted = item.execution.plan.trials := by
    rw [h.plan, ← Except.ok.inj heq]
  have hcopied : List.map TrialSpec.rateIntent _ = List.map TrialSpec.rateIntent admitted :=
    map_eq_of_forall₂ (fun _ _ hcopy => rateIntent_of_copySpec hcopy) (mapM_eq_ok.mp hadmitted)
  have hrecords : item.execution.trials.map (fun record => record.spec.rateIntent) =
      item.execution.plan.trials.map TrialSpec.rateIntent :=
    map_eq_of_forall₂ (fun _ _ heq => rateIntent_of_pyEq heq) (records_of_validateHistory h.valid)
  have hobserved : item.execution.trials.map (fun record =>
      record.spec.rateIntent.bind RateIntent.aggregateBpsPerDirection) =
      observations.map fun o => some o.requestedRateBps :=
    map_eq_of_forall₂ (R := fun record o => observationV1 parse maxStrDigits prepared record = .ok o)
      (fun _ _ hread => (observedFrom_of_observationV1 hread).requested) (mapM_eq_ok.mp h.observed)
  have hall := congrArg (List.map fun intent : Option RateIntent =>
    intent.bind RateIntent.aggregateBpsPerDirection) (hrecords.trans (htrials ▸ hcopied.symm))
  rw [List.map_map, List.map_map] at hall
  exact hobserved.symm.trans hall

/-- A batch is observed at its rates and at no other. -/
theorem Admits.mem_requested {s : Replay} {item : AdaptiveBatchResult}
    {observations : List AdaptiveObservation}
    (h : Admits parse maxStrDigits prepared s item observations) {rate : ℤ} :
    (∃ o ∈ observations, o.requestedRateBps = rate) ↔ rate ∈ item.batch.rates := by
  have hmem : (∃ o ∈ observations, o.requestedRateBps = rate) ↔
      some rate ∈ observations.map fun o => some o.requestedRateBps := by
    simp
  rw [hmem, h.requested]
  simp only [List.mem_map, List.mem_flatMap, rateSpecs]
  constructor
  · rintro ⟨spec, ⟨tested, htested, run, -, rfl⟩, heq⟩
    exact Option.some.inj heq ▸ htested
  · intro hrate
    obtain ⟨run, hrun⟩ := List.exists_mem_of_ne_nil _ h.decided.round.expected_ne_nil
    exact ⟨_, ⟨rate, hrate, run, hrun, rfl⟩, rfl⟩

end Iperf3Lib.Adaptive
