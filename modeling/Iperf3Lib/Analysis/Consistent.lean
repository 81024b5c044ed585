import Iperf3Lib.Analysis.Stability
import Mathlib.Data.Rat.Sqrt

/-!
# Stability statistics agree with each other

The quantile loop adds up the durations of the samples in the order of their rates, and so finds the
least rate up to which they fill a share of the measured time. From this it follows how quantiles
compare with each other and with the time below a threshold. The mean and the variance divide by the
total duration and by the greatest rate, which the samples allow.
-/

namespace Iperf3Lib.Stability

open Py Analysis Weighted

variable {K : Type} [Field K] [LinearOrder K]

/-! ## What the statistics say -/

/-- The rates of the samples. -/
def rateSet (samples : List (Sample K)) : Set K := {rate | ∃ sample ∈ samples, sample.rate = rate}

/-- The duration of the samples of at most a rate. -/
def durationUpTo (rate : K) (samples : List (Sample K)) : K :=
  totalDuration (samples.filter fun sample => sample.rate ≤ rate)

/-- `sum(d * (r - mean)**2) / sum(d)`. -/
def populationVariance (mean : K) (samples : List (Sample K)) : K :=
  (samples.map fun sample => sample.duration * (sample.rate - mean) ^ 2).sum / totalDuration samples

/-- The bytes of the samples together. -/
def totalBytes (samples : List (Sample K)) : ℕ := (samples.filterMap Sample.bytes).sum

/-- The quantiles of an analysis agree with the samples, with each other and with the time below the
threshold. -/
structure QuantilesAgree (samples : List (Sample K)) (threshold : Option K) (quantiles : List K)
    (analysis : StabilityAnalysis K) : Prop where
  every : analysis.quantilesBps.map Prod.fst = quantiles
  isLeast : ∀ p ∈ analysis.quantilesBps, IsLeast
    {rate | rate ∈ rateSet samples ∧ p.1 * totalDuration samples ≤ durationUpTo rate samples} p.2
  mono : ∀ p ∈ analysis.quantilesBps, ∀ p' ∈ analysis.quantilesBps, p.1 ≤ p'.1 → p.2 ≤ p'.2
  below : ∀ t ∈ threshold, ∃ below, analysis.belowThresholdFraction = some below ∧
    below = totalDuration (samples.filter fun sample => sample.rate < t) / totalDuration samples ∧
    ∀ p ∈ analysis.quantilesBps, 0 < p.1 → (t ≤ p.2 ↔ below < p.1)

/-- The mean of an analysis lies between the least and the greatest rate, is the throughput of the
bytes, and the variance is taken around it. -/
structure MomentsAgree (sqrt : K → K) (samples : List (Sample K)) (analysis : StabilityAnalysis K)
    (low mean scale : K) : Prop where
  minimum_eq : analysis.minimumBps = some low
  mean_eq : analysis.meanBps = some mean
  isLeast : IsLeast (rateSet samples) low
  isGreatest : IsGreatest (rateSet samples) scale
  low_le : low ≤ mean
  le_scale : mean ≤ scale
  throughput : (∀ sample ∈ samples, sample.bytes.isSome = true) →
    analysis.intervalBytesThroughputBps = some mean ∧
      mean = 8 * totalBytes samples / totalDuration samples
  stddev_eq : analysis.stddevBps =
    some (sqrt (varianceScaled (totalDuration samples) mean scale samples) * scale)
  variance_eq : varianceScaled (totalDuration samples) mean scale samples * scale ^ 2 =
    populationVariance mean samples

/-! ## Durations -/

variable {samples samples' : List (Sample K)} {q q' t last : K}

theorem duration_nonneg : ∀ sample ∈ samples, 0 ≤ sample.duration :=
  fun sample _ => sample.duration_pos.le

theorem totalDuration_perm (h : samples.Perm samples') :
    totalDuration samples = totalDuration samples' :=
  (h.map _).sum_eq

variable [IsStrictOrderedRing K]

theorem totalDuration_pos (h : samples ≠ []) : 0 < totalDuration samples := by
  cases samples with
  | nil => exact absurd rfl h
  | cons sample samples =>
    rw [totalDuration, List.map_cons, List.sum_cons]
    refine add_pos_of_pos_of_nonneg sample.duration_pos (List.sum_nonneg ?_)
    intro d hd
    obtain ⟨sample, -, rfl⟩ := List.mem_map.mp hd
    exact sample.duration_pos.le

theorem totalDuration_nonneg (samples : List (Sample K)) : 0 ≤ totalDuration samples := by
  by_cases h : samples = []
  · rw [h]
    exact le_rfl
  · exact (totalDuration_pos h).le

/-! ## Quantiles -/

omit [IsStrictOrderedRing K] in
theorem sortByRate_sorted (samples : List (Sample K)) :
    (sortByRate samples).Pairwise fun a b => a.rate ≤ b.rate :=
  List.pairwise_insertionSort (fun a b : Sample K => a.rate ≤ b.rate) samples

variable (last) in
/-- A share of the total is reached: what the loop finds does not depend on its default. -/
theorem reach_eq (hne : samples ≠ []) (hq : q ≤ 1) :
    reach Sample.rate Sample.duration (q * totalDuration samples) 0 (sortByRate samples) =
      some (quantileRate (totalDuration samples) last q (sortByRate samples)) := by
  have hle : q * totalDuration samples ≤ 0 + ((sortByRate samples).map Sample.duration).sum := by
    rw [zero_add, ((sortByRate_perm samples).map Sample.duration).sum_eq]
    exact mul_le_of_le_one_left (totalDuration_nonneg samples) hq
  obtain ⟨rate, hrate⟩ := exists_reach (v := Sample.rate) (sortByRate_ne_nil hne) hle
  rw [quantileRate, hrate, Option.getD_some]

variable (last) in
/-- A quantile is the least of the rates up to which the samples fill its share of the time. -/
theorem quantileRate_isLeast (hne : samples ≠ []) (hq : q ≤ 1) :
    IsLeast {rate | rate ∈ rateSet samples ∧
        q * totalDuration samples ≤ durationUpTo rate samples}
      (quantileRate (totalDuration samples) last q (sortByRate samples)) := by
  have hreach := reach_eq last hne hq
  obtain ⟨sample, hmem, hrate⟩ := exists_mem_of_reach hreach
  have hsorted := sortByRate_sorted samples
  refine ⟨⟨⟨sample, (sortByRate_perm samples).mem_iff.mp hmem, hrate⟩, ?_⟩, ?_⟩
  · refine (target_le_of_reach duration_nonneg hsorted hreach).trans_eq ?_
    rw [zero_add]
    exact mass_perm (sortByRate_perm samples)
  · rintro rate ⟨⟨other, hother, rfl⟩, hle⟩
    by_contra hlt
    have hlt := lt_target_of_mem_of_lt duration_nonneg hsorted hreach
      ((sortByRate_perm samples).mem_iff.mpr hother) (not_le.mp hlt)
    rw [zero_add, mass_perm (sortByRate_perm samples)] at hlt
    exact absurd hle (not_le.mpr hlt)

variable (last) in
/-- The samples below a quantile do not fill its share of the time. -/
theorem duration_below_quantileRate (hne : samples ≠ []) (hq : q ≤ 1) (hpos : 0 < q) :
    totalDuration (samples.filter fun sample =>
      sample.rate < quantileRate (totalDuration samples) last q (sortByRate samples)) <
        q * totalDuration samples := by
  have hlt := lt_target_of_reach duration_nonneg (sortByRate_sorted samples)
    (mul_pos hpos (totalDuration_pos hne)) (reach_eq last hne hq)
  rw [zero_add, mass_perm (sortByRate_perm samples)] at hlt
  exact hlt

theorem quantileRate_mono {last' : K} (hne : samples ≠ []) (hq' : q' ≤ 1) (h : q ≤ q') :
    quantileRate (totalDuration samples) last q (sortByRate samples) ≤
      quantileRate (totalDuration samples) last' q' (sortByRate samples) := by
  obtain ⟨hmem, hle⟩ := (quantileRate_isLeast last' hne hq').1
  refine (quantileRate_isLeast last hne (h.trans hq')).2 ⟨hmem, le_trans ?_ hle⟩
  exact mul_le_mul_of_nonneg_right h (totalDuration_nonneg samples)

/-- A quantile is at least the threshold exactly if the time below the threshold is less than its
share. -/
theorem threshold_le_quantileRate_iff (hne : samples ≠ []) (hq : q ≤ 1) (hpos : 0 < q) :
    t ≤ quantileRate (totalDuration samples) last q (sortByRate samples) ↔
      belowThreshold (totalDuration samples) t samples < q := by
  rw [belowThreshold, div_lt_iff₀ (totalDuration_pos hne)]
  constructor
  · intro ht
    refine lt_of_le_of_lt ?_ (duration_below_quantileRate last hne hq hpos)
    exact mass_le_mass duration_nonneg fun sample _ hlt =>
      decide_eq_true ((of_decide_eq_true hlt).trans_le ht)
  · intro hlt
    by_contra ht
    refine absurd hlt (not_lt.mpr ((quantileRate_isLeast last hne hq).1.2.trans ?_))
    exact mass_le_mass duration_nonneg fun sample _ hle =>
      decide_eq_true ((of_decide_eq_true hle).trans_lt (not_le.mp ht))

/-! ## Mean and variance -/

theorem weightedMean_eq (total : K) (samples : List (Sample K)) :
    weightedMean total samples =
      (samples.map fun sample => sample.duration * sample.rate).sum / total := by
  rw [weightedMean, div_eq_inv_mul, ← List.sum_map_mul_left]
  congr 2
  funext sample
  ring

/-- Bounds of the rates are bounds of the mean. -/
theorem le_weightedMean {b : K} (hne : samples ≠ []) (h : ∀ sample ∈ samples, b ≤ sample.rate) :
    b ≤ weightedMean (totalDuration samples) samples := by
  rw [weightedMean_eq, le_div_iff₀ (totalDuration_pos hne)]
  exact mul_sum_le_sum_mul duration_nonneg h

theorem weightedMean_le {b : K} (hne : samples ≠ []) (h : ∀ sample ∈ samples, sample.rate ≤ b) :
    weightedMean (totalDuration samples) samples ≤ b := by
  rw [weightedMean_eq, div_le_iff₀ (totalDuration_pos hne)]
  exact sum_mul_le_mul_sum duration_nonneg h

omit [IsStrictOrderedRing K] in
/-- Where every sample has bytes, a duration times its rate is eight times its bytes. -/
theorem sum_duration_mul_rate (h : ∀ sample ∈ samples, sample.bytes.isSome = true) :
    (samples.map fun sample => sample.duration * sample.rate).sum = 8 * (totalBytes samples : K) := by
  induction samples with
  | nil => simp [totalBytes]
  | cons sample samples ih =>
    obtain ⟨count, hcount⟩ := Option.isSome_iff_exists.mp (h sample (.head _))
    have hrest := ih fun other hother => h other (.tail _ hother)
    have hbytes : totalBytes (sample :: samples) = count + totalBytes samples := by
      rw [totalBytes, List.filterMap_cons_some hcount, List.sum_cons, totalBytes]
    rw [List.map_cons, List.sum_cons, hrest, hbytes, sample.rate_eq count hcount, divideBytes,
      mul_div_cancel₀ _ sample.duration_pos.ne']
    push_cast
    ring

omit [IsStrictOrderedRing K] in
/-- The scaled variance was divided by the scale twice, unless every rate is zero. -/
theorem varianceScaled_mul {mean scale : K} (hmean : mean = weightedMean (totalDuration samples) samples)
    (hscale : ∀ sample ∈ samples, sample.rate ≤ scale) :
    varianceScaled (totalDuration samples) mean scale samples * scale ^ 2 =
      populationVariance mean samples := by
  unfold varianceScaled populationVariance
  split
  · next h =>
    -- all rates are zero, and so is their mean
    have hzero : ∀ sample ∈ samples, sample.rate = 0 := fun sample hmem =>
      le_antisymm (h ▸ hscale sample hmem) sample.rate_nonneg
    have hmean0 : mean = 0 := by
      rw [hmean, weightedMean]
      refine List.sum_eq_zero fun x hx => ?_
      obtain ⟨sample, hmem, rfl⟩ := List.mem_map.mp hx
      rw [hzero sample hmem, mul_zero]
    rw [zero_mul, eq_comm, div_eq_zero_iff]
    refine .inl (List.sum_eq_zero fun x hx => ?_)
    obtain ⟨sample, hmem, rfl⟩ := List.mem_map.mp hx
    rw [hzero sample hmem, hmean0]
    ring
  · next h =>
    rw [div_eq_inv_mul, ← List.sum_map_mul_right, ← List.sum_map_mul_left]
    congr 2
    funext sample
    field_simp

/-! ## The order of the samples -/

section Order

omit [IsStrictOrderedRing K]

theorem rateSet_perm (h : samples.Perm samples') : rateSet samples = rateSet samples' := by
  ext rate
  exact ⟨fun ⟨sample, hmem, hrate⟩ => ⟨sample, h.mem_iff.mp hmem, hrate⟩,
    fun ⟨sample, hmem, hrate⟩ => ⟨sample, h.mem_iff.mpr hmem, hrate⟩⟩

theorem durationUpTo_perm (h : samples.Perm samples') (rate : K) :
    durationUpTo rate samples = durationUpTo rate samples' :=
  totalDuration_perm (h.filter _)

theorem varianceScaled_perm (h : samples.Perm samples') (total mean scale : K) :
    varianceScaled total mean scale samples = varianceScaled total mean scale samples' := by
  unfold varianceScaled
  rw [(h.map _).sum_eq]

theorem populationVariance_perm (h : samples.Perm samples') (mean : K) :
    populationVariance mean samples = populationVariance mean samples' := by
  rw [populationVariance, populationVariance, (h.map _).sum_eq, totalDuration_perm h]

theorem QuantilesAgree.of_perm {threshold : Option K} {quantiles : List K}
    {analysis : StabilityAnalysis K} (h : samples.Perm samples')
    (ha : QuantilesAgree samples threshold quantiles analysis) :
    QuantilesAgree samples' threshold quantiles analysis where
  every := ha.every
  isLeast p hp := by
    have hleast := ha.isLeast p hp
    simp only [rateSet_perm h, totalDuration_perm h, durationUpTo_perm h] at hleast
    exact hleast
  mono := ha.mono
  below t ht := by
    obtain ⟨below, hbelow, heq, hiff⟩ := ha.below t ht
    rw [totalDuration_perm (h.filter _), totalDuration_perm h] at heq
    exact ⟨below, hbelow, heq, hiff⟩

theorem MomentsAgree.of_perm {sqrt : K → K} {analysis : StabilityAnalysis K} {low mean scale : K}
    (h : samples.Perm samples') (ha : MomentsAgree sqrt samples analysis low mean scale) :
    MomentsAgree sqrt samples' analysis low mean scale where
  minimum_eq := ha.minimum_eq
  mean_eq := ha.mean_eq
  isLeast := rateSet_perm h ▸ ha.isLeast
  isGreatest := rateSet_perm h ▸ ha.isGreatest
  low_le := ha.low_le
  le_scale := ha.le_scale
  throughput hbytes := by
    have htotal : totalBytes samples = totalBytes samples' := (h.filterMap _).sum_eq
    rw [← htotal, ← totalDuration_perm h]
    exact ha.throughput fun sample hmem => hbytes sample (h.mem_iff.mp hmem)
  stddev_eq := by
    rw [← totalDuration_perm h, ← varianceScaled_perm h]
    exact ha.stddev_eq
  variance_eq := by
    rw [← totalDuration_perm h, ← varianceScaled_perm h, ← populationVariance_perm h]
    exact ha.variance_eq

end Order

/-! ## The analysis -/

omit [IsStrictOrderedRing K] in
theorem number_of_nonneg {x : K} (h : 0 ≤ x) (name : PyStr) : number name x = .ok x :=
  if_neg (not_lt.mpr h)

theorem varianceScaled_nonneg (total mean scale : K) (htotal : 0 ≤ total) (samples : List (Sample K)) :
    0 ≤ varianceScaled total mean scale samples := by
  unfold varianceScaled
  split
  · exact le_rfl
  · refine List.sum_nonneg fun x hx => ?_
    obtain ⟨sample, -, rfl⟩ := List.mem_map.mp hx
    exact mul_nonneg (div_nonneg sample.duration_pos.le htotal) (sq_nonneg _)

/-- The description of samples that do not overlap. -/
theorem describe_agrees {sqrt : K → K} (hsqrt : ∀ x, 0 ≤ x → 0 ≤ sqrt x) (selection : Selection)
    (policy : Policy K) (threshold : Option K) {quantiles : List K} (hq : ∀ q ∈ quantiles, q ≤ 1)
    {found : IntervalSamples K} (hne : found.samples ≠ [])
    (htotal : found.coverage.measuredSeconds = totalDuration found.samples) :
    ∃ analysis, describe sqrt selection policy threshold quantiles found hne = .ok analysis ∧
      QuantilesAgree found.samples threshold quantiles analysis ∧
      ∃ low mean scale, MomentsAgree sqrt found.samples analysis low mean scale := by
  have hrates : found.samples.map Sample.rate ≠ [] := by simpa using hne
  have hmem : ∀ {rate}, rate ∈ found.samples.map Sample.rate ↔ rate ∈ rateSet found.samples :=
    List.mem_map
  have hle : ∀ sample ∈ found.samples, sample.rate ≤ (found.samples.map Sample.rate).max hrates :=
    fun sample h => List.le_max_of_mem (List.mem_map_of_mem h)
  have hge : ∀ sample ∈ found.samples, (found.samples.map Sample.rate).min hrates ≤ sample.rate :=
    fun sample h => List.min_le_of_mem (List.mem_map_of_mem h)
  have hmean : 0 ≤ weightedMean (totalDuration found.samples) found.samples :=
    le_weightedMean hne fun sample _ => sample.rate_nonneg
  have hscale : 0 ≤ (found.samples.map Sample.rate).max hrates := by
    obtain ⟨sample, -, hrate⟩ := hmem.mp (List.max_mem hrates)
    exact hrate ▸ sample.rate_nonneg
  have hstddev := mul_nonneg (hsqrt _ (varianceScaled_nonneg (totalDuration found.samples)
    (weightedMean (totalDuration found.samples) found.samples)
    ((found.samples.map Sample.rate).max hrates) (totalDuration_nonneg _) found.samples)) hscale
  rw [describe]
  simp only [htotal, number_of_nonneg hmean, number_of_nonneg hstddev, ok_bind]
  refine ⟨_, rfl, ⟨?_, ?_, ?_, ?_⟩, _, _, _, ⟨rfl, rfl, ?_, ?_, ?_, ?_, ?_, rfl, ?_⟩⟩
  · simp only [List.map_map, Function.comp_def, List.map_id']
  · intro p hp
    obtain ⟨q, hmemq, rfl⟩ := List.mem_map.mp hp
    exact quantileRate_isLeast _ hne (hq q hmemq)
  · intro p hp p' hp' hpp
    obtain ⟨q, hmemq, rfl⟩ := List.mem_map.mp hp
    obtain ⟨q', hmemq', rfl⟩ := List.mem_map.mp hp'
    exact quantileRate_mono hne (hq q' hmemq') hpp
  · intro t ht
    obtain rfl := Option.mem_def.mp ht
    refine ⟨_, rfl, rfl, fun p hp hpos => ?_⟩
    obtain ⟨q, hmemq, rfl⟩ := List.mem_map.mp hp
    exact threshold_le_quantileRate_iff hne (hq q hmemq) hpos
  · refine ⟨hmem.mp (List.min_mem hrates), ?_⟩
    rintro rate ⟨sample, hsample, rfl⟩
    exact hge sample hsample
  · refine ⟨hmem.mp (List.max_mem hrates), ?_⟩
    rintro rate ⟨sample, hsample, rfl⟩
    exact hle sample hsample
  · exact le_weightedMean hne hge
  · exact weightedMean_le hne hle
  · intro hbytes
    have hmeanBytes : weightedMean (totalDuration found.samples) found.samples =
        8 * totalBytes found.samples / totalDuration found.samples := by
      rw [weightedMean_eq, sum_duration_mul_rate hbytes]
    refine ⟨?_, hmeanBytes⟩
    dsimp only
    rw [if_pos (List.all_eq_true.mpr hbytes), hmeanBytes]
    rfl
  · exact varianceScaled_mul rfl hle

theorem observedSpan_nonneg (t : Tally K) : ∀ span ∈ observedSpan t, 0 ≤ span := by
  intro span hspan
  rw [observedSpan] at hspan
  split at hspan
  · next h =>
    obtain ⟨bound, bounds, hbounds⟩ := List.exists_cons_of_ne_nil h.1
    have hmem : bound ∈ t.bounds := hbounds ▸ .head _
    obtain rfl := Option.some.inj hspan
    rw [sub_nonneg]
    calc (t.bounds.map Bounds.start).min _ ≤ bound.start :=
          List.min_le_of_mem (List.mem_map_of_mem hmem)
      _ ≤ bound.stop := bound.lt.le
      _ ≤ (t.bounds.map Bounds.stop).max _ := List.le_max_of_mem (List.mem_map_of_mem hmem)
  · cases hspan

/-- What the loop has gathered can be summarized. -/
theorem exists_summarize (policy : Policy K) (t : Tally K) :
    ∃ found, summarize policy t = .ok found ∧ found.samples = sortSamples t.samples ∧
      found.overlap = anyAdjacent (overlaps policy) (sortSamples t.samples) ∧
      found.coverage.measuredSeconds = totalDuration found.samples := by
  have hspan : (observedSpan t).mapM (number (K := K) "observed span") = .ok (observedSpan t) := by
    cases h : observedSpan t with
    | none => rfl
    | some span =>
      rw [Option.mapM_some, number_of_nonneg (observedSpan_nonneg t span h)]
      rfl
  rw [summarize]
  simp only [number_of_nonneg (totalDuration_nonneg _), ok_bind, hspan]
  exact ⟨_, rfl, rfl, rfl, rfl⟩

omit [IsStrictOrderedRing K] in
/-- A known threshold and distinct shares are accepted. -/
theorem checkArguments_eq_ok {threshold : Option K} {quantiles : List K}
    (ht : ∀ t ∈ threshold, 0 ≤ t) (hq : ∀ q ∈ quantiles, 0 ≤ q ∧ q ≤ 1) (hdistinct : quantiles.Nodup) :
    checkArguments threshold quantiles = .ok () := by
  have hcheck : ∀ q ∈ quantiles, checkQuantile q = .ok () := by
    intro q hmem
    rw [checkQuantile, number_of_nonneg (hq q hmem).1, ok_bind]
    exact reject_eq_ok.mpr (not_lt.mpr (hq q hmem).2)
  have hthreshold : threshold.mapM (number (K := K) "threshold_bps") = .ok threshold := by
    cases threshold with
    | none => rfl
    | some t =>
      rw [Option.mapM_some, number_of_nonneg (ht t rfl)]
      rfl
  have hquantiles : quantiles.mapM checkQuantile = .ok (quantiles.map fun _ => ()) := by
    rw [mapM_eq_ok, List.forall₂_map_right_iff, List.forall₂_same]
    exact hcheck
  rw [checkArguments, hthreshold, hquantiles, ok_bind, ok_bind]
  exact reject_eq_ok.mpr (not_not.mpr hdistinct)

/-- The statistics of samples that do not overlap agree with each other, whatever the threshold and
the quantiles. -/
theorem stability_consistent (sqrt : K → K) (hsqrt : ∀ x, 0 ≤ x → 0 ≤ sqrt x) (selection : Selection)
    (policy : Policy K) {threshold : Option K} (hthreshold : ∀ t ∈ threshold, 0 ≤ t)
    {quantiles : List K} (hquantiles : ∀ q ∈ quantiles, 0 ≤ q ∧ q ≤ 1) (hdistinct : quantiles.Nodup)
    {t : Tally K} (hne : t.samples ≠ [])
    (hoverlap : anyAdjacent (overlaps policy) (sortSamples t.samples) = false) :
    ∃ analysis, intervalStability sqrt true selection policy threshold quantiles (.ok t) =
        .ok analysis ∧
      QuantilesAgree t.samples threshold quantiles analysis ∧
      ∃ low mean scale, MomentsAgree sqrt t.samples analysis low mean scale := by
  obtain ⟨found, hfound, hsamples, hflag, htotal⟩ := exists_summarize policy t
  have hperm : found.samples.Perm t.samples := hsamples ▸ List.perm_insertionSort _ _
  have hfoundNe : found.samples ≠ [] := fun hnil => hne (hnil ▸ hperm).symm.eq_nil
  obtain ⟨analysis, hrun, hagree, low, mean, scale, hmoments⟩ := describe_agrees hsqrt selection policy
    threshold (fun q hq => (hquantiles q hq).2) hfoundNe htotal
  refine ⟨analysis, ?_, hagree.of_perm hperm, low, mean, scale, hmoments.of_perm hperm⟩
  rw [intervalStability, checkArguments_eq_ok hthreshold hquantiles hdistinct]
  simp only [ok_bind, hfound]
  rw [dif_neg (by rw [hflag, hoverlap]; simp [hfoundNe])]
  exact hrun

omit [IsStrictOrderedRing K] in
/-- Where the square root is exact, the square of the deviation is the variance. -/
theorem MomentsAgree.stddev_sq {sqrt : K → K} {analysis : StabilityAnalysis K} {low mean scale : K}
    (h : MomentsAgree sqrt samples analysis low mean scale)
    (hsqrt : sqrt (varianceScaled (totalDuration samples) mean scale samples) ^ 2 =
      varianceScaled (totalDuration samples) mean scale samples) :
    ∃ stddev, analysis.stddevBps = some stddev ∧ stddev ^ 2 = populationVariance mean samples := by
  refine ⟨_, h.stddev_eq, ?_⟩
  rw [mul_pow, hsqrt]
  exact h.variance_eq

/-- A second with one byte and a second with three. -/
def twoSeconds : Tally ℚ where
  samples :=
    [{ start := 0, stop := 1, duration := 1, rate := 8, bytes := some 1, path := "/intervals/0"
       duration_pos := by norm_num, rate_nonneg := by norm_num, rate_eq := by simp [divideBytes] },
     { start := 1, stop := 2, duration := 1, rate := 24, bytes := some 3, path := "/intervals/1"
       duration_pos := by norm_num, rate_nonneg := by norm_num
       rate_eq := by simp [divideBytes]; norm_num }]
  selected := 2
  bounds := [⟨0, 1, by norm_num⟩, ⟨1, 2, by norm_num⟩]

theorem stability_consistent_twoSeconds :
    ∃ analysis, intervalStability Rat.sqrt true ⟨.clientToServer, .receiver, .aggregate⟩
        { timeToleranceSeconds := 1 / 1000000, tolerance_nonneg := by norm_num } (some 10)
        [1 / 2, 19 / 20] (.ok twoSeconds) = .ok analysis ∧
      QuantilesAgree twoSeconds.samples (some 10) [1 / 2, 19 / 20] analysis ∧
      ∃ low mean scale, MomentsAgree Rat.sqrt twoSeconds.samples analysis low mean scale :=
  stability_consistent Rat.sqrt (fun _ _ => Rat.sqrt_nonneg _) _ _
    (by intro t ht; obtain rfl := Option.some.inj (Option.mem_def.mp ht); norm_num)
    (by simp only [List.mem_cons, List.not_mem_nil, or_false]; rintro q (rfl | rfl) <;> norm_num)
    (by norm_num) (List.cons_ne_nil _ _) (by decide +kernel)

end Iperf3Lib.Stability
