import Iperf3Lib.Analysis.Measurements
import Iperf3Lib.General.OrderStatistics
import Mathlib.Algebra.Order.Field.Basic
import Mathlib.Algebra.Order.Field.Rat
import Mathlib.Tactic.Linarith
import Mathlib.Tactic.NormNum

/-!
# Median decisions

`_decision_v1` in exact arithmetic. The median of the candidate throughputs is compared with the
stricter of the absolute minimum and the relaxed baseline median, less the absolute tolerance. A
missing requirement of the policy makes the decision inconclusive, whatever was measured.

A decision depends on the populations and not on their order. Better candidates, worse baselines and
a more tolerant policy keep a pass a pass, so that the reverse of such a change passes nothing that
has failed.
-/

namespace Iperf3Lib.Assessments

open Py Analysis

variable {K : Type} [Field K] [LinearOrder K]

/-! ## The decision -/

/-- An `AssessmentPolicy`. -/
structure AssessmentPolicy (K : Type) [Field K] [LinearOrder K] where
  direction : Analysis.Direction := .clientToServer
  observation : ObservationPoint := .receiver
  minimumValidTrials : ℕ := 3
  minimumValidBaselines : ℕ := 1
  minimumThroughputBps : Option K := none
  absoluteToleranceBps : K := 0
  relativeTolerance : K := 0
  trials_pos : 0 < minimumValidTrials := by decide
  baselines_pos : 0 < minimumValidBaselines := by decide
  minimum_nonneg : ∀ minimum ∈ minimumThroughputBps, 0 ≤ minimum
  absolute_nonneg : 0 ≤ absoluteToleranceBps
  relative_nonneg : 0 ≤ relativeTolerance
  relative_le_one : relativeTolerance ≤ 1

/-- An `AssessedMeasurement`, with the throughput of its analysis. -/
structure AssessedMeasurement (K : Type) [Field K] [LinearOrder K] where
  trialId : PyStr
  throughputBps : K
  throughput_nonneg : 0 ≤ throughputBps

/-- `_median`. -/
def median (values : List K) : Option K :=
  let ordered := values.insertionSort (· ≤ ·)
  let middle := ordered.length / 2
  if ordered.length % 2 = 1 then ordered[middle]?
  else
    match ordered[middle - 1]?, ordered[middle]? with
    | some lower, some upper => some (lower + (upper - lower) / 2)
    | _, _ => none

/-- `outcome`. -/
inductive Outcome where
  | pass
  | fail
  | inconclusive
deriving DecidableEq, Repr

/-- What `_decision_v1` returns. -/
structure Decision (K : Type) where
  outcome : Outcome
  current : Option K
  baseline : Option K
  threshold : Option K
  relative : Option K
  reasons : List String
deriving DecidableEq

/-- The reasons for which no population is judged. -/
def unmet (policy : AssessmentPolicy K) (trials baselines : ℕ) (requested compatible : Bool) :
    List String :=
  (if trials < policy.minimumValidTrials then ["insufficient_valid_trials"] else []) ++
  (if requested = true ∧ baselines < policy.minimumValidBaselines then
    ["insufficient_valid_baselines"] else []) ++
  (if compatible = false then ["incompatible_or_unknown_methodology"] else []) ++
  (if requested = false ∧ policy.minimumThroughputBps = none then ["no_acceptance_criterion"]
    else []) ++
  (if requested = false ∧ policy.relativeTolerance ≠ 0 then
    ["relative_tolerance_requires_baseline"] else [])

/-- `threshold`. -/
def requiredThroughput (policy : AssessmentPolicy K) (requested : Bool) (baseline : Option K) :
    Option K :=
  let thresholds := policy.minimumThroughputBps.toList ++
    (if requested then baseline.toList.map (· * (1 - policy.relativeTolerance)) else [])
  thresholds.max?.map fun strictest => max 0 (strictest - policy.absoluteToleranceBps)

/-- `relative`; an exact change is finite. -/
def relativeChange : Option K → Option K → Option K
  | some current, some baseline =>
    if 0 < baseline then some ((current - baseline) / baseline) else none
  | _, _ => none

/-- `_decision_v1`. -/
def decision (policy : AssessmentPolicy K) (measurements baselines : List (AssessedMeasurement K))
    (requested compatible : Bool) : Decision K :=
  let current := median (measurements.map AssessedMeasurement.throughputBps)
  let baseline := median (baselines.map AssessedMeasurement.throughputBps)
  let missing := unmet policy measurements.length baselines.length requested compatible
  let threshold := requiredThroughput policy requested baseline
  let (outcome, reasons) :=
    if missing ≠ [] then (.inconclusive, missing)
    else
      match current, threshold with
      | some current, some threshold =>
        if threshold ≤ current then (Outcome.pass, ["criteria_satisfied"])
        else (.fail, ["below_required_throughput"])
      | _, _ => (.inconclusive, ["measurement_unavailable"])
  { outcome
    current
    baseline
    threshold
    relative := relativeChange current baseline
    reasons := reasons ++
      if baseline = some 0 then ["zero_baseline_relative_change_unavailable"] else [] }

/-! ## Medians -/

/-- A population has a median unless it is empty. -/
theorem median_isSome {values : List K} (h : values ≠ []) : ∃ m, median values = some m := by
  have hlen : 0 < (values.insertionSort (· ≤ ·)).length := by
    rw [List.length_insertionSort]
    exact List.length_pos_iff.mpr h
  unfold median
  dsimp only
  split
  · exact ⟨_, List.getElem?_eq_getElem (by omega)⟩
  · rw [List.getElem?_eq_getElem (by omega), List.getElem?_eq_getElem (by omega)]
    exact ⟨_, rfl⟩

theorem median_perm {values values' : List K} (h : values.Perm values') :
    median values = median values' := by
  unfold median
  rw [insertionSort_eq_of_perm h]

section

variable [IsStrictOrderedRing K]

/-- The median of greater values is greater. -/
theorem median_mono {values values' : List K} (h : List.Forall₂ (· ≤ ·) values values') {m m' : K}
    (hm : median values = some m) (hm' : median values' = some m') : m ≤ m' := by
  have hsorted := forall₂_insertionSort h
  have hlen := hsorted.length_eq
  have hle : ∀ {k : ℕ} {x y : K}, (values.insertionSort (· ≤ ·))[k]? = some x →
      (values'.insertionSort (· ≤ ·))[k]? = some y → x ≤ y := by
    intro k x y hx hy
    obtain ⟨hk, rfl⟩ := List.getElem?_eq_some_iff.mp hx
    obtain ⟨hk', rfl⟩ := List.getElem?_eq_some_iff.mp hy
    exact hsorted.get hk hk'
  unfold median at hm hm'
  dsimp only at hm hm'
  rw [← hlen] at hm'
  split at hm
  · next hodd =>
    rw [if_pos hodd] at hm'
    exact hle hm hm'
  · next hodd =>
    rw [if_neg hodd] at hm'
    split at hm
    · next lower upper hlower hupper =>
      split at hm'
      · next lower' upper' hlower' hupper' =>
        have hlow := hle hlower hlower'
        have hup := hle hupper hupper'
        obtain rfl := Option.some.inj hm
        obtain rfl := Option.some.inj hm'
        linarith
      · cases hm'
    · cases hm

/-- A lower bound of the values is a lower bound of their median. -/
theorem le_median {values : List K} {b m : K} (h : ∀ value ∈ values, b ≤ value)
    (hm : median values = some m) : b ≤ m := by
  have hle : ∀ {k : ℕ} {x : K}, (values.insertionSort (· ≤ ·))[k]? = some x → b ≤ x :=
    fun hx => h _ ((List.mem_insertionSort _).mp (List.mem_of_getElem? hx))
  unfold median at hm
  dsimp only at hm
  split at hm
  · exact hle hm
  · split at hm
    · next lower upper hlower hupper =>
      have hlow := hle hlower
      have hup := hle hupper
      obtain rfl := Option.some.inj hm
      linarith
    · cases hm

end

/-! ## Requirements -/

theorem ite_eq_nil {p : Prop} [Decidable p] {reason : String} :
    (if p then [reason] else []) = [] ↔ ¬ p := by
  by_cases h : p <;> simp [h]

/-- The requirements of a policy on what is judged. -/
structure Requirements (policy : AssessmentPolicy K) (trials baselines : ℕ)
    (requested compatible : Bool) : Prop where
  trials_le : policy.minimumValidTrials ≤ trials
  baselines_le : requested = true → policy.minimumValidBaselines ≤ baselines
  compatible : compatible = true
  criterion : requested = false → policy.minimumThroughputBps ≠ none
  relative_eq : requested = false → policy.relativeTolerance = 0

theorem unmet_eq_nil {policy : AssessmentPolicy K} {trials baselines : ℕ} {requested compatible : Bool} :
    unmet policy trials baselines requested compatible = [] ↔
      Requirements policy trials baselines requested compatible := by
  simp only [unmet, List.append_eq_nil_iff, ite_eq_nil, not_and, not_lt, not_not, ne_eq,
    Bool.not_eq_false]
  constructor
  · rintro ⟨⟨⟨⟨htrials, hbaselines⟩, hcompatible⟩, hcriterion⟩, hrelative⟩
    exact ⟨htrials, hbaselines, hcompatible, hcriterion, hrelative⟩
  · intro h
    exact ⟨⟨⟨⟨h.trials_le, h.baselines_le⟩, h.compatible⟩, h.criterion⟩, h.relative_eq⟩

/-- A pass is a median that reaches the threshold while every requirement is met. -/
theorem outcome_eq_pass {policy : AssessmentPolicy K} {measurements baselines : List (AssessedMeasurement K)}
    {requested compatible : Bool} :
    (decision policy measurements baselines requested compatible).outcome = .pass ↔
      Requirements policy measurements.length baselines.length requested compatible ∧
      ∃ current threshold, median (measurements.map AssessedMeasurement.throughputBps) = some current ∧
        requiredThroughput policy requested
          (median (baselines.map AssessedMeasurement.throughputBps)) = some threshold ∧
        threshold ≤ current := by
  rw [← unmet_eq_nil, decision]
  dsimp only
  by_cases hmissing :
      unmet policy measurements.length baselines.length requested compatible = []
  · rw [if_neg (not_not.mpr hmissing)]
    simp only [hmissing, true_and]
    split
    · next current threshold hcurrent hthreshold =>
      rw [hcurrent, hthreshold]
      by_cases hle : threshold ≤ current
      · rw [if_pos hle]
        exact ⟨fun _ => ⟨current, threshold, rfl, rfl, hle⟩, fun _ => rfl⟩
      · rw [if_neg hle]
        refine ⟨(by intro h; cases h), ?_⟩
        rintro ⟨_, _, hc, ht, hle'⟩
        cases hc
        cases ht
        exact absurd hle' hle
    · next hnone =>
      refine ⟨(by intro h; cases h), ?_⟩
      rintro ⟨current, threshold, hc, ht, -⟩
      exact absurd ht (hnone current threshold hc)
  · rw [if_pos hmissing]
    exact ⟨(by intro h; cases h), fun h => absurd h.1 hmissing⟩

/-! ## Better populations and more tolerant policies -/

/-- Every member of one population is at most the member of the other one in its place. -/
def Raised (measurements measurements' : List (AssessedMeasurement K)) : Prop :=
  List.Forall₂ (fun m m' => m.throughputBps ≤ m'.throughputBps) measurements measurements'

/-- A policy asks for no more than another one. -/
structure Relaxes (requested : Bool) (policy policy' : AssessmentPolicy K) : Prop where
  trials_eq : policy'.minimumValidTrials = policy.minimumValidTrials
  baselines_eq : policy'.minimumValidBaselines = policy.minimumValidBaselines
  minimum_le : Option.Rel (fun minimum minimum' => minimum' ≤ minimum)
    policy.minimumThroughputBps policy'.minimumThroughputBps
  absolute_le : policy.absoluteToleranceBps ≤ policy'.absoluteToleranceBps
  relative_le : policy.relativeTolerance ≤ policy'.relativeTolerance
  relative_eq : requested = false → policy'.relativeTolerance = policy.relativeTolerance

theorem Raised.values {measurements measurements' : List (AssessedMeasurement K)}
    (h : Raised measurements measurements') :
    List.Forall₂ (· ≤ ·) (measurements.map AssessedMeasurement.throughputBps)
      (measurements'.map AssessedMeasurement.throughputBps) :=
  List.forall₂_map_left_iff.mpr (List.forall₂_map_right_iff.mpr h)

theorem Requirements.relaxed {policy policy' : AssessmentPolicy K}
    {trials baselines : ℕ} {requested compatible : Bool}
    (h : Requirements policy trials baselines requested compatible)
    (hrelaxed : Relaxes requested policy policy') :
    Requirements policy' trials baselines requested compatible where
  trials_le := hrelaxed.trials_eq ▸ h.trials_le
  baselines_le := hrelaxed.baselines_eq ▸ h.baselines_le
  compatible := h.compatible
  criterion hrequested hnone := by
    have hrel := hrelaxed.minimum_le
    rw [hnone] at hrel
    cases hminimum : policy.minimumThroughputBps with
    | none => exact h.criterion hrequested hminimum
    | some minimum =>
      rw [hminimum] at hrel
      cases hrel
  relative_eq hrequested := (hrelaxed.relative_eq hrequested).trans (h.relative_eq hrequested)

variable [IsStrictOrderedRing K]

/-- The median of a raised population is raised. -/
theorem Raised.median {measurements measurements' : List (AssessedMeasurement K)}
    (h : Raised measurements measurements') :
    Option.Rel (fun m m' => m ≤ m') (median (measurements.map AssessedMeasurement.throughputBps))
      (Assessments.median (measurements'.map AssessedMeasurement.throughputBps)) := by
  by_cases hnil : measurements = []
  · subst hnil
    cases h
    exact .none
  · have hnil' : measurements' ≠ [] := fun h' => hnil (List.length_eq_zero_iff.mp (by
      rw [h.length_eq, h']
      rfl))
    have hmap : measurements.map AssessedMeasurement.throughputBps ≠ [] := by simpa using hnil
    have hmap' : measurements'.map AssessedMeasurement.throughputBps ≠ [] := by simpa using hnil'
    obtain ⟨m, hm⟩ := median_isSome hmap
    obtain ⟨m', hm'⟩ := median_isSome hmap'
    rw [hm, hm']
    exact .some (median_mono h.values hm hm')

omit [Field K] [IsStrictOrderedRing K] in
theorem toList_rel {x y : Option K} (h : Option.Rel (fun a b => b ≤ a) x y) :
    List.Forall₂ (fun a b => b ≤ a) x.toList y.toList := by
  cases h with
  | none => exact .nil
  | some hle => exact .cons hle .nil

/-- The relaxed policy sets no higher threshold for a lower baseline. -/
theorem requiredThroughput_le {policy policy' : AssessmentPolicy K} {requested : Bool}
    (hrelaxed : Relaxes requested policy policy') {baseline baseline' : Option K}
    (hbaseline : Option.Rel (fun b' b => b' ≤ b) baseline' baseline)
    (hnonneg : ∀ b ∈ baseline, 0 ≤ b) {threshold : K}
    (h : requiredThroughput policy requested baseline = some threshold) :
    ∃ threshold', requiredThroughput policy' requested baseline' = some threshold' ∧
      threshold' ≤ threshold := by
  have hminimum := toList_rel hrelaxed.minimum_le
  have hrelative : List.Forall₂ (fun x y => y ≤ x)
      (if requested then baseline.toList.map (· * (1 - policy.relativeTolerance)) else [])
      (if requested then baseline'.toList.map (· * (1 - policy'.relativeTolerance)) else []) := by
    cases requested with
    | false => exact .nil
    | true =>
      cases hbaseline with
      | none => exact .nil
      | @some b' b hle =>
        refine .cons ?_ .nil
        calc b' * (1 - policy'.relativeTolerance) ≤ b * (1 - policy'.relativeTolerance) :=
              mul_le_mul_of_nonneg_right hle (sub_nonneg.mpr policy'.relative_le_one)
          _ ≤ b * (1 - policy.relativeTolerance) :=
              mul_le_mul_of_nonneg_left (sub_le_sub_left hrelaxed.relative_le 1) (hnonneg b rfl)
  unfold requiredThroughput at h ⊢
  dsimp only at h ⊢
  obtain ⟨strictest, hstrictest, rfl⟩ := Option.map_eq_some_iff.mp h
  obtain ⟨strictest', hstrictest', hle⟩ := exists_max?_le (List.rel_append hminimum hrelative) hstrictest
  refine ⟨_, Option.map_eq_some_iff.mpr ⟨strictest', hstrictest', rfl⟩, ?_⟩
  exact max_le_max_left 0 (sub_le_sub hle hrelaxed.absolute_le)

/-- Better candidates, worse baselines and a relaxed policy keep a pass. -/
theorem outcome_pass_of_relaxes {policy policy' : AssessmentPolicy K}
    {measurements measurements' baselines baselines' : List (AssessedMeasurement K)}
    {requested compatible : Bool} (hrelaxed : Relaxes requested policy policy')
    (hmeasurements : Raised measurements measurements') (hbaselines : Raised baselines' baselines)
    (h : (decision policy measurements baselines requested compatible).outcome = .pass) :
    (decision policy' measurements' baselines' requested compatible).outcome = .pass := by
  obtain ⟨hrequirements, current, threshold, hcurrent, hthreshold, hle⟩ := outcome_eq_pass.mp h
  have hnonneg : ∀ b ∈ median (baselines.map AssessedMeasurement.throughputBps), 0 ≤ b := by
    intro b hb
    refine le_median (fun value hvalue => ?_) hb
    obtain ⟨measurement, -, rfl⟩ := List.mem_map.mp hvalue
    exact measurement.throughput_nonneg
  obtain ⟨threshold', hthreshold', hle'⟩ :=
    requiredThroughput_le hrelaxed hbaselines.median hnonneg hthreshold
  have hmedian := hmeasurements.median
  rw [hcurrent] at hmedian
  cases hcurrent' : median (measurements'.map AssessedMeasurement.throughputBps) with
  | none =>
    rw [hcurrent'] at hmedian
    cases hmedian
  | some current' =>
    rw [hcurrent'] at hmedian
    cases hmedian with
    | some hraised =>
      refine outcome_eq_pass.mpr ⟨?_, current', threshold', hcurrent', hthreshold',
        (hle'.trans hle).trans hraised⟩
      rw [← hmeasurements.length_eq, hbaselines.length_eq]
      exact hrequirements.relaxed hrelaxed

omit [IsStrictOrderedRing K] in
/-- The decision does not depend on the order of the populations. -/
theorem decision_perm (policy : AssessmentPolicy K)
    {measurements measurements' baselines baselines' : List (AssessedMeasurement K)}
    (hmeasurements : measurements.Perm measurements') (hbaselines : baselines.Perm baselines')
    (requested compatible : Bool) :
    decision policy measurements baselines requested compatible =
      decision policy measurements' baselines' requested compatible := by
  simp only [decision, median_perm (hmeasurements.map AssessedMeasurement.throughputBps),
    median_perm (hbaselines.map AssessedMeasurement.throughputBps), hmeasurements.length_eq,
    hbaselines.length_eq]

/-! ## The laws of a decision -/

/-- What the thresholds are taken from: the absolute minimum, and the relaxed baseline median where a
baseline was asked for. -/
def thresholdSet (policy : AssessmentPolicy K) (requested : Bool) (baseline : Option K) : Set K :=
  {x | x ∈ policy.minimumThroughputBps ∨
    (requested = true ∧ ∃ b ∈ baseline, x = b * (1 - policy.relativeTolerance))}

omit [IsStrictOrderedRing K] in
theorem requiredThroughput_eq_some {policy : AssessmentPolicy K} {requested : Bool}
    {baseline : Option K} {threshold : K}
    (h : requiredThroughput policy requested baseline = some threshold) :
    ∃ strictest, IsGreatest (thresholdSet policy requested baseline) strictest ∧
      threshold = max 0 (strictest - policy.absoluteToleranceBps) := by
  unfold requiredThroughput at h
  dsimp only at h
  obtain ⟨strictest, hmax, rfl⟩ := Option.map_eq_some_iff.mp h
  have hmem : ∀ x, x ∈ policy.minimumThroughputBps.toList ++
      (if requested then baseline.toList.map (· * (1 - policy.relativeTolerance)) else []) ↔
      x ∈ thresholdSet policy requested baseline := by
    intro x
    cases requested <;> simp [thresholdSet, eq_comm]
  obtain ⟨hin, hle⟩ := List.max?_eq_some_iff.mp hmax
  exact ⟨strictest, ⟨(hmem _).mp hin, fun x hx => hle x ((hmem x).mpr hx)⟩, rfl⟩

/-- A decision ignores the order of its populations and is monotone; a pass meets every
requirement. -/
structure DecisionLaws (policy : AssessmentPolicy K)
    (measurements baselines : List (AssessedMeasurement K)) (requested compatible : Bool) : Prop where
  perm : ∀ measurements' baselines', measurements.Perm measurements' → baselines.Perm baselines' →
    decision policy measurements' baselines' requested compatible =
      decision policy measurements baselines requested compatible
  relaxed : ∀ policy' measurements' baselines', Relaxes requested policy policy' →
    Raised measurements measurements' → Raised baselines' baselines →
    (decision policy measurements baselines requested compatible).outcome = .pass →
    (decision policy' measurements' baselines' requested compatible).outcome = .pass
  tightened : ∀ policy' measurements' baselines', Relaxes requested policy' policy →
    Raised measurements' measurements → Raised baselines baselines' →
    (decision policy measurements baselines requested compatible).outcome = .fail →
    (decision policy' measurements' baselines' requested compatible).outcome ≠ .pass
  pass : (decision policy measurements baselines requested compatible).outcome = .pass →
    Requirements policy measurements.length baselines.length requested compatible ∧
    ∃ current strictest, median (measurements.map AssessedMeasurement.throughputBps) = some current ∧
      IsGreatest (thresholdSet policy requested
        (median (baselines.map AssessedMeasurement.throughputBps))) strictest ∧
      max 0 (strictest - policy.absoluteToleranceBps) ≤ current

theorem decision_laws (policy : AssessmentPolicy K)
    (measurements baselines : List (AssessedMeasurement K)) (requested compatible : Bool) :
    DecisionLaws policy measurements baselines requested compatible where
  perm _ _ hmeasurements hbaselines :=
    (decision_perm policy hmeasurements hbaselines requested compatible).symm
  relaxed _ _ _ hrelaxed hmeasurements hbaselines :=
    outcome_pass_of_relaxes hrelaxed hmeasurements hbaselines
  tightened _ _ _ hrelaxed hmeasurements hbaselines hfail hpass := by
    -- undoing the change would keep the pass
    have h := outcome_pass_of_relaxes hrelaxed hmeasurements hbaselines hpass
    rw [hfail] at h
    cases h
  pass h := by
    obtain ⟨hrequirements, current, threshold, hcurrent, hthreshold, hle⟩ := outcome_eq_pass.mp h
    obtain ⟨strictest, hgreatest, rfl⟩ := requiredThroughput_eq_some hthreshold
    exact ⟨hrequirements, current, strictest, hcurrent, hgreatest, hle⟩

theorem decision_laws_three :
    DecisionLaws (K := ℚ)
      { minimumThroughputBps := some 10
        relativeTolerance := 1 / 10
        minimum_nonneg := by rintro _ ⟨⟩; decide
        absolute_nonneg := le_rfl
        relative_nonneg := by decide +kernel
        relative_le_one := by decide +kernel }
      [⟨"trial:a", 12, by decide⟩, ⟨"trial:b", 9, by decide⟩, ⟨"trial:c", 11, by decide⟩]
      [⟨"baseline:0", 12, by decide⟩] true true :=
  decision_laws _ _ _ _ _

end Iperf3Lib.Assessments
