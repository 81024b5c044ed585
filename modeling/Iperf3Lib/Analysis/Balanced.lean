import Iperf3Lib.Analysis.Balance
import Iperf3Lib.Analysis.Consistent
import Iperf3Lib.Analysis.Coverage
import Mathlib.Analysis.Real.Sqrt

/-!
# Stream-balance measures agree

The three measures of balance are computed by formulas of their own from rates that were divided by
the greatest one. They bound and determine each other, and they depend on the rates up to order and
unit only. At the level of a result, the order of its streams does not matter, and a complete analysis
has one known rate for each stream that the run is known to have used.
-/

namespace Iperf3Lib.Stability

open Py Analysis Dispersion

variable {K : Type} [Field K] [LinearOrder K] [IsStrictOrderedRing K]

/-! ## Measures of rates -/

/-- The measures of `n` rates bound and determine each other. -/
structure MeasureLaws (n : ℕ) (m : Measures K) : Prop where
  inv_le_jain : 1 / (n : K) ≤ m.jainFairnessIndex
  jain_le_one : m.jainFairnessIndex ≤ 1
  jain_mul : m.jainFairnessIndex * (1 + m.populationRateCv ^ 2) = 1
  ratio_nonneg : 0 ≤ m.minOverMaxRate
  ratio_le_one : m.minOverMaxRate ≤ 1
  jain_eq_one_iff : m.jainFairnessIndex = 1 ↔ m.populationRateCv = 0
  cv_eq_zero_iff : m.populationRateCv = 0 ↔ m.minOverMaxRate = 1

/-- Members between zero and one, one of them one: the least member is one exactly if they do not
vary. -/
theorem pvariance_eq_zero_iff_min {xs : List K} (hle : ∀ x ∈ xs, x ≤ 1) (hone : 1 ∈ xs)
    (hne : xs ≠ []) : pvariance xs = 0 ↔ xs.min hne = 1 := by
  rw [pvariance_eq_zero_iff]
  constructor
  · intro h
    rw [h _ (List.min_mem hne), ← h 1 hone]
  · intro hmin x hx
    have hall : ∀ y ∈ xs, y = 1 := fun y hy =>
      le_antisymm (hle y hy) (hmin ▸ List.min_le_of_mem hy)
    have hlen : (xs.length : K) ≠ 0 := Nat.cast_ne_zero.mpr (List.length_pos_of_mem hx).ne'
    rw [hall x hx, mean, List.eq_replicate_of_mem hall, List.sum_replicate, List.length_replicate,
      nsmul_eq_mul, mul_one, div_self hlen]

/-- The rates as shares of the greatest one. -/
theorem scaled_spec {valid : List K} (hne : valid ≠ []) (hnonneg : ∀ rate ∈ valid, 0 ≤ rate)
    (hpos : 0 < valid.max hne) :
    (∀ x ∈ valid.map fun rate => rate / valid.max hne, 0 ≤ x ∧ x ≤ 1) ∧
      1 ∈ valid.map fun rate => rate / valid.max hne := by
  constructor
  · intro x hx
    obtain ⟨rate, hmem, rfl⟩ := List.mem_map.mp hx
    exact ⟨div_nonneg (hnonneg rate hmem) hpos.le,
      (div_le_one hpos).mpr (List.le_max_of_mem hmem)⟩
  · exact List.mem_map.mpr ⟨_, List.max_mem hne, div_self hpos.ne'⟩

theorem relativeMeasures_laws {sqrt : K → K} (hsqrt : ∀ x, 0 ≤ x → 0 ≤ sqrt x ∧ sqrt x ^ 2 = x)
    {scaled : List K} (hne : scaled ≠ []) (hunit : ∀ x ∈ scaled, 0 ≤ x ∧ x ≤ 1) (hone : 1 ∈ scaled) :
    MeasureLaws scaled.length (relativeMeasures sqrt scaled hne) := by
  have hsum : 0 < scaled.sum := sum_pos_of_mem (fun x hx => (hunit x hx).1) hone one_pos
  have hsq : 0 < sumSq scaled := sumSq_pos_of_mem hone one_pos
  have hlen : (0 : K) < scaled.length := Nat.cast_pos.mpr (List.length_pos_iff.mpr hne)
  have hmean : 0 < mean scaled := div_pos hsum hlen
  obtain ⟨-, hexact⟩ := hsqrt _ (pvariance_nonneg scaled)
  have hindex : jain scaled * (1 + (sqrt (pvariance scaled) / mean scaled) ^ 2) = 1 := by
    rw [div_pow, hexact]
    exact jain_mul hlen.ne' hsum.ne' hsq.ne'
  have hcv : sqrt (pvariance scaled) / mean scaled = 0 ↔ pvariance scaled = 0 := by
    rw [div_eq_zero_iff, or_iff_left hmean.ne']
    constructor
    · intro hzero
      rw [← hexact, hzero]
      ring
    · intro hzero
      rw [hzero] at hexact ⊢
      exact pow_eq_zero_iff two_ne_zero |>.mp hexact
  have hjain : jain scaled = 1 ↔ sqrt (pvariance scaled) / mean scaled = 0 := by
    constructor
    · intro hj
      rw [hj, one_mul, add_eq_left] at hindex
      exact pow_eq_zero_iff two_ne_zero |>.mp hindex
    · intro hzero
      rw [hzero] at hindex
      simpa using hindex
  exact ⟨inv_length_le_jain (fun x hx => (hunit x hx).1) hsq, jain_le_one scaled, hindex,
    (hunit _ (List.min_mem hne)).1, (hunit _ (List.min_mem hne)).2, hjain,
    hcv.trans (pvariance_eq_zero_iff_min (fun x hx => (hunit x hx).2) hone hne)⟩

theorem measures_laws {sqrt : K → K} (hsqrt : ∀ x, 0 ≤ x → 0 ≤ sqrt x ∧ sqrt x ^ 2 = x)
    {valid : List K} (hne : valid ≠ []) (hnonneg : ∀ rate ∈ valid, 0 ≤ rate) {m : Measures K}
    (h : measures sqrt valid hne = some m) : MeasureLaws valid.length m := by
  unfold measures at h
  dsimp only at h
  split at h
  · next hpos =>
    obtain rfl := Option.some.inj h
    obtain ⟨hunit, hone⟩ := scaled_spec hne hnonneg hpos
    have hlaws := relativeMeasures_laws hsqrt (by simpa using hne) hunit hone
    rw [List.length_map] at hlaws
    exact hlaws
  · cases h

omit [IsStrictOrderedRing K] in
theorem relativeMeasures_perm (sqrt : K → K) {scaled scaled' : List K} (h : scaled.Perm scaled')
    (hne : scaled ≠ []) (hne' : scaled' ≠ []) :
    relativeMeasures sqrt scaled hne = relativeMeasures sqrt scaled' hne' := by
  have hmin : scaled.min hne = scaled'.min hne' :=
    le_antisymm (List.min_le_of_mem (h.mem_iff.mpr (List.min_mem hne')))
      (List.min_le_of_mem (h.mem_iff.mp (List.min_mem hne)))
  rw [relativeMeasures, relativeMeasures, hmin, pvariance_perm h, mean_perm h, jain_perm h]

omit [IsStrictOrderedRing K] in
/-- Rates in another order have the same measures. -/
theorem measures_perm (sqrt : K → K) {valid valid' : List K} (h : valid.Perm valid')
    (hne : valid ≠ []) (hne' : valid' ≠ []) : measures sqrt valid hne = measures sqrt valid' hne' := by
  have hmax : valid.max hne = valid'.max hne' :=
    le_antisymm (List.le_max_of_mem (h.mem_iff.mp (List.max_mem hne)))
      (List.le_max_of_mem (h.mem_iff.mpr (List.max_mem hne')))
  unfold measures
  simp only [hmax]
  rw [relativeMeasures_perm sqrt (h.map _)]

/-- Rates in another unit have the same measures. -/
theorem measures_scale (sqrt : K → K) {c : K} (hc : 0 < c) {valid : List K} (hne : valid ≠ [])
    (hne' : valid.map (c * ·) ≠ []) :
    measures sqrt (valid.map (c * ·)) hne' = measures sqrt valid hne := by
  have hmax : (valid.map (c * ·)).max hne' = c * valid.max hne := by
    refine le_antisymm ?_ (List.le_max_of_mem (List.mem_map_of_mem (List.max_mem hne)))
    obtain ⟨rate, hmem, hrate⟩ := List.mem_map.mp (List.max_mem hne')
    rw [← hrate]
    exact mul_le_mul_of_nonneg_left (List.le_max_of_mem hmem) hc.le
  have hmap : ((valid.map (c * ·)).map fun rate => rate / (c * valid.max hne)) =
      valid.map fun rate => rate / valid.max hne := by
    rw [List.map_map]
    apply List.map_congr_left
    intro rate _
    exact mul_div_mul_left rate _ hc.ne'
  unfold measures
  simp only [hmax, mul_pos_iff_of_pos_left hc]
  rw [relativeMeasures_perm sqrt (.of_eq hmap)]

/-! ## What a stream contributes -/

theorem quantity_follows {p q : PyStr} {value : PyVal} :
    Follows Eq (quantity (K := K) p value) (quantity q value) := by
  intro x hx
  unfold quantity at hx ⊢
  split at hx
  · next y hy =>
    obtain ⟨_, hy', rfl⟩ := number_follows (q := q) y hy
    obtain rfl := Except.ok.inj hx
    split
    · next z hz =>
      obtain rfl := Except.ok.inj (hy'.symm.trans hz)
      exact ⟨_, rfl, rfl⟩
    · next e he => cases hy'.symm.trans he
  · cases hx

theorem measurement_follows {stats : Measured} {p q : PyStr} :
    Follows Eq (measurement (K := K) stats p) (measurement stats q) := by
  refine .bind (optional_follows count_follows) ?_
  rintro bytes _ rfl
  refine .bind (optional_follows quantity_follows) ?_
  rintro duration _ rfl
  refine .bind (optional_follows quantity_follows) ?_
  rintro _ _ -
  split
  · exact .ok rfl
  · exact .ok rfl
  · exact .error

/-- The rate of a stream does not depend on its place. -/
theorem summaryRate_follows {direction : Analysis.Direction} {observation : ObservationPoint}
    {p q : PyStr}
    {stats : Option SumStats} :
    Follows Eq (summaryRate (K := K) direction observation p stats)
      (summaryRate direction observation q stats) := by
  cases stats with
  | none => exact .ok rfl
  | some stats =>
    refine .bind (R := Eq) (fun u hu => ⟨u, hu, rfl⟩) ?_
    rintro _ _ -
    refine .bind measurement_follows ?_
    rintro measured _ rfl
    exact .ok rfl

theorem summaryRate_nonneg {direction : Analysis.Direction} {observation : ObservationPoint} {path : PyStr}
    {stats : Option SumStats} {throughput duration : Option K}
    (h : summaryRate direction observation path stats = .ok (throughput, duration)) :
    ∀ rate ∈ throughput, 0 ≤ rate := by
  intro rate hrate
  cases stats with
  | none =>
    cases h
    cases hrate
  | some stats =>
    obtain ⟨-, h⟩ := bind_unit_eq_ok.mp h
    obtain ⟨⟨bytes, measured⟩, -, h⟩ := bind_eq_ok.mp h
    obtain ⟨rfl, -⟩ := Prod.mk.inj (Except.ok.inj h)
    split at hrate
    · split at hrate
      · next hpos =>
        obtain rfl := Option.some.inj hrate
        exact divideBytes_nonneg _ hpos.1
      · cases hrate
    · cases hrate

/-- What a stream adds to the loop over the streams. -/
inductive Contribution (K : Type) where
  | unselected
  | unidentified
  | rate (identity : ℕ) (throughput duration : Option K)

namespace Contribution

/-- The accumulators after the contribution of the stream at a position. -/
def addTo (observation : ObservationPoint) (found : Summaries K) (index : ℕ) :
    Contribution K → Summaries K
  | unselected => found
  | unidentified => { found with diagnostics := found.diagnostics ++ [unknownIdentity index] }
  | rate identity throughput duration =>
    { seen := found.seen ++ [identity]
      rates := found.rates ++ [⟨identity, throughput, duration, [⟨summaryPath observation index⟩]⟩]
      diagnostics := found.diagnostics }

/-- The identities of contributions. -/
def identities (cs : List (Contribution K)) : List ℕ :=
  cs.filterMap fun
    | rate identity _ _ => some identity
    | _ => none

/-- The known rates of contributions. -/
def valid (cs : List (Contribution K)) : List K :=
  cs.filterMap fun
    | rate _ throughput _ => throughput
    | _ => none

/-- Some contribution has no identity. -/
def someUnidentified (cs : List (Contribution K)) : Bool :=
  cs.any fun
    | unidentified => true
    | _ => false

/-- The identity of the contribution is not taken. -/
def Fresh (seen : List ℕ) : Contribution K → Prop
  | rate identity _ _ => identity ∉ seen
  | _ => True

end Contribution

/-- What a stream contributes, whatever its place. -/
def Contributes (direction : Analysis.Direction) (observation : ObservationPoint) (stream : StreamStats) :
    Contribution K → Prop
  | .unselected => isText direction.text stream.direction = false
  | .unidentified => isText direction.text stream.direction = true ∧ isNone stream.streamId = true
  | .rate identity throughput duration =>
    isText direction.text stream.direction = true ∧ isNone stream.streamId = false ∧
      count "stream_id" stream.streamId = .ok identity ∧
      ∀ path, summaryRate direction observation path (stream.summary observation) =
        .ok (throughput, duration)

variable {direction : Analysis.Direction} {observation : ObservationPoint}

/-- A pass adds the contribution of its stream, if the identity is new. -/
theorem summaryPass_eq_ok {found found' : Summaries K} {stream : StreamStats} {index : ℕ} :
    summaryPass direction observation found (stream, index) = .ok found' ↔
      ∃ c, Contributes direction observation stream c ∧ c.Fresh found.seen ∧
        found' = c.addTo observation found index := by
  unfold summaryPass
  dsimp only
  constructor
  · intro h
    split at h
    · next hdirection =>
      exact ⟨.unselected, hdirection, trivial, (Except.ok.inj h).symm⟩
    · next hdirection =>
      rw [Bool.not_eq_false] at hdirection
      split at h
      · next hnone => exact ⟨.unidentified, ⟨hdirection, hnone⟩, trivial, (Except.ok.inj h).symm⟩
      · next hsome =>
        obtain ⟨identity, hidentity, h⟩ := bind_eq_ok.mp h
        obtain ⟨hfresh, h⟩ := bind_unit_eq_ok.mp h
        obtain ⟨⟨throughput, duration⟩, hrate, h⟩ := bind_eq_ok.mp h
        refine ⟨.rate identity throughput duration, ⟨hdirection, Bool.not_eq_true _ ▸ hsome, hidentity,
          fun path => ?_⟩, reject_eq_ok.mp hfresh, (Except.ok.inj h).symm⟩
        obtain ⟨_, hpath, rfl⟩ := summaryRate_follows (q := path) _ hrate
        exact hpath
  · rintro ⟨c, hc, hfresh, rfl⟩
    cases c with
    | unselected => exact if_pos hc
    | unidentified =>
      rw [if_neg (by rw [hc.1]; decide), if_pos hc.2]
      rfl
    | rate identity throughput duration =>
      obtain ⟨hdirection, hsome, hidentity, hrate⟩ := hc
      rw [if_neg (by rw [hdirection]; decide), if_neg (by rw [hsome]; decide), hidentity, ok_bind,
        reject_eq_ok.mpr hfresh, ok_bind, hrate, ok_bind]
      rfl

/-- What contributions leave behind. -/
structure Extends (found found' : Summaries K) (cs : List (Contribution K)) : Prop where
  seen : found'.seen = found.seen ++ Contribution.identities cs
  ids : found'.rates.map StreamRate.streamId =
    found.rates.map StreamRate.streamId ++ Contribution.identities cs
  valid : validRates found'.rates = validRates found.rates ++ Contribution.valid cs
  flagged : (found'.diagnostics.any fun item => item.code ≠ "interval.omitted") =
    ((found.diagnostics.any fun item => item.code ≠ "interval.omitted") ||
      Contribution.someUnidentified cs)

omit [IsStrictOrderedRing K] [Field K] [LinearOrder K] in
theorem extends_nil (found : Summaries K) : Extends found found [] :=
  ⟨(List.append_nil _).symm, (List.append_nil _).symm, (List.append_nil _).symm,
    (Bool.or_false _).symm⟩

omit [IsStrictOrderedRing K] [Field K] [LinearOrder K] in
theorem Extends.cons {found found' : Summaries K} {index : ℕ} {c : Contribution K}
    {cs : List (Contribution K)} (h : Extends (c.addTo observation found index) found' cs) :
    Extends found found' (c :: cs) := by
  obtain ⟨hseen, hids, hvalid, hflagged⟩ := h
  cases c with
  | unselected => exact ⟨hseen, hids, hvalid, hflagged⟩
  | unidentified =>
    refine ⟨hseen, hids, hvalid, hflagged.trans ?_⟩
    simp [Contribution.addTo, Contribution.someUnidentified, unknownIdentity, diagnostic]
  | rate identity throughput duration =>
    refine ⟨hseen.trans ?_, hids.trans ?_, hvalid.trans ?_, hflagged⟩
    · simp [Contribution.addTo, Contribution.identities]
    · simp [Contribution.addTo, Contribution.identities]
    · cases throughput <;> simp [Contribution.addTo, Contribution.valid, validRates]

/-- The loop over the streams adds a contribution of each, and no identity twice. -/
theorem foldlM_summaryPass {streams : List StreamStats} {k : ℕ} {found found' : Summaries K}
    (hnodup : found.seen.Nodup)
    (h : (streams.zipIdx k).foldlM (summaryPass direction observation) found = .ok found') :
    ∃ cs, List.Forall₂ (Contributes direction observation) streams cs ∧
      (found.seen ++ Contribution.identities cs).Nodup ∧ Extends found found' cs := by
  induction streams generalizing k found with
  | nil =>
    obtain rfl := Except.ok.inj h
    exact ⟨[], .nil, (List.append_nil _).symm ▸ hnodup, extends_nil found⟩
  | cons stream streams ih =>
    rw [List.zipIdx_cons, List.foldlM_cons] at h
    obtain ⟨mid, hpass, h⟩ := bind_eq_ok.mp h
    obtain ⟨c, hc, hfresh, rfl⟩ := summaryPass_eq_ok.mp hpass
    have hmid : (c.addTo observation found k).seen.Nodup ∧
        ∀ ids, (c.addTo observation found k).seen ++ ids = found.seen ++ (Contribution.identities [c] ++ ids) := by
      cases c with
      | unselected => exact ⟨hnodup, fun ids => rfl⟩
      | unidentified => exact ⟨hnodup, fun ids => rfl⟩
      | rate identity throughput duration =>
        exact ⟨List.nodup_append.mpr ⟨hnodup, List.nodup_singleton _, by
          rintro a ha b hb rfl
          exact hfresh (List.mem_singleton.mp hb ▸ ha)⟩, fun ids => List.append_assoc _ _ _⟩
    obtain ⟨cs, hcs, hids, hextends⟩ := ih hmid.1 h
    refine ⟨c :: cs, .cons hc hcs, ?_, hextends.cons⟩
    rw [hmid.2] at hids
    cases c <;> exact hids

/-- Contributions with new and distinct identities make a loop. -/
theorem exists_foldlM_summaryPass {streams : List StreamStats} {cs : List (Contribution K)}
    (hcs : List.Forall₂ (Contributes direction observation) streams cs) {k : ℕ} {found : Summaries K}
    (hnodup : (found.seen ++ Contribution.identities cs).Nodup) :
    ∃ found', (streams.zipIdx k).foldlM (summaryPass direction observation) found = .ok found' ∧
      Extends found found' cs := by
  induction hcs generalizing k found with
  | nil => exact ⟨found, rfl, extends_nil found⟩
  | @cons stream c streams cs hc hcs ih =>
    have hfresh : c.Fresh found.seen := by
      cases c with
      | unselected => trivial
      | unidentified => trivial
      | rate identity throughput duration =>
        exact fun hmem => (List.nodup_append.mp hnodup).2.2 _ hmem identity (.head _) rfl
    have hrest : ((c.addTo observation found k).seen ++ Contribution.identities cs).Nodup := by
      cases c with
      | unselected => exact hnodup
      | unidentified => exact hnodup
      | rate identity throughput duration =>
        show ((found.seen ++ [identity]) ++ Contribution.identities cs).Nodup
        rw [List.append_assoc]
        exact hnodup
    obtain ⟨found', hrun, hextends⟩ := ih (k := k + 1) hrest
    refine ⟨found', ?_, hextends.cons⟩
    rw [List.zipIdx_cons, List.foldlM_cons, summaryPass_eq_ok.mpr ⟨c, hc, hfresh, rfl⟩, ok_bind]
    exact hrun

/-! ## Rates of a source -/

/-- Each identity has one rate, and known rates are not negative. -/
structure ProperRates (rates : List (StreamRate K)) : Prop where
  nodup : (rates.map StreamRate.streamId).Nodup
  nonneg : ∀ rate ∈ validRates rates, 0 ≤ rate

theorem Contributes.valid_nonneg {streams : List StreamStats} {cs : List (Contribution K)}
    (h : List.Forall₂ (Contributes direction observation) streams cs) :
    ∀ rate ∈ Contribution.valid cs, 0 ≤ rate := by
  intro rate hrate
  obtain ⟨c, hc, hthroughput⟩ := List.mem_filterMap.mp hrate
  cases c with
  | unselected => cases hthroughput
  | unidentified => cases hthroughput
  | rate identity throughput duration =>
    obtain ⟨stream, -, -, -, -, hsummary⟩ := exists_mem_of_forall₂ h.flip hc
    exact summaryRate_nonneg (hsummary []) rate hthroughput

/-- The loop over the streams, as contributions. -/
theorem fromSummaries_eq_ok {streams : List StreamStats} {rates : List (StreamRate K)}
    {diagnostics : List AnalysisDiagnostic}
    (h : fromSummaries direction observation streams = .ok (rates, diagnostics)) :
    ∃ cs, List.Forall₂ (Contributes direction observation) streams cs ∧
      (Contribution.identities cs).Nodup ∧
      Extends {} { rates, diagnostics, seen := Contribution.identities cs } cs := by
  obtain ⟨found, hfound, h⟩ := bind_eq_ok.mp h
  obtain ⟨rfl, rfl⟩ := Prod.mk.inj (Except.ok.inj h)
  obtain ⟨cs, hcs, hids, hextends⟩ := foldlM_summaryPass List.nodup_nil hfound
  exact ⟨cs, hcs, hids, ⟨rfl, hextends.ids, hextends.valid, hextends.flagged⟩⟩

theorem fromSummaries_proper {streams : List StreamStats} {rates : List (StreamRate K)}
    {diagnostics : List AnalysisDiagnostic}
    (h : fromSummaries direction observation streams = .ok (rates, diagnostics)) : ProperRates rates := by
  obtain ⟨cs, hcs, hnodup, hextends⟩ := fromSummaries_eq_ok h
  have hids := hextends.ids
  have hvalid := hextends.valid
  dsimp only at hids hvalid
  refine ⟨hids ▸ hnodup, fun rate hrate => Contributes.valid_nonneg hcs rate ?_⟩
  rw [hvalid] at hrate
  exact hrate

/-- The bytes throughput of an analysis is not negative. -/
theorem intervalStability_nonneg {sqrt : K → K} {selection : Selection} {policy : Policy K}
    {threshold : Option K} {quantiles : List K} {found : Except Exc (Tally K)}
    {analysis : StabilityAnalysis K}
    (h : intervalStability sqrt true selection policy threshold quantiles found = .ok analysis) :
    ∀ rate ∈ analysis.intervalBytesThroughputBps, 0 ≤ rate := by
  obtain ⟨-, h⟩ := bind_unit_eq_ok.mp h
  rw [if_neg (by decide)] at h
  obtain ⟨t, -, h⟩ := bind_eq_ok.mp h
  obtain ⟨found, hfound, h⟩ := bind_eq_ok.mp h
  obtain ⟨found', hfound', -, -, htotal⟩ := exists_summarize policy t
  obtain rfl := Except.ok.inj (hfound'.symm.trans hfound)
  intro rate hrate
  split at h
  · obtain rfl := Except.ok.inj h
    cases hrate
  · obtain ⟨mean, -, h⟩ := bind_eq_ok.mp h
    obtain ⟨stddev, -, h⟩ := bind_eq_ok.mp h
    obtain rfl := Except.ok.inj h
    dsimp only at hrate
    split at hrate
    · obtain rfl := Option.some.inj hrate
      rw [htotal]
      exact div_nonneg (mul_nonneg (by norm_num) (Nat.cast_nonneg _)) (totalDuration_nonneg _)
    · cases hrate

theorem fromIntervals_proper {sqrt : K → K} {policy : Policy K} {intervals : List IntervalStats}
    {rates : List (StreamRate K)} {diagnostics : List AnalysisDiagnostic}
    (h : fromIntervals sqrt direction observation policy intervals = .ok (rates, diagnostics)) :
    ProperRates rates := by
  obtain ⟨ids, hids, h⟩ := bind_eq_ok.mp h
  obtain ⟨found, hfound, h⟩ := bind_eq_ok.mp h
  obtain ⟨rfl, -⟩ := Prod.mk.inj (Except.ok.inj h)
  have hnodup : ids.Nodup := by
    obtain ⟨all, -, hids⟩ := bind_eq_ok.mp hids
    obtain rfl := Except.ok.inj hids
    exact (List.perm_insertionSort _ _).nodup_iff.mpr (List.nodup_dedup all)
  have hrate : ∀ {identity : ℕ} {r : StreamRate K × List AnalysisDiagnostic},
      intervalRate sqrt direction observation policy intervals identity = .ok r →
      r.1.streamId = identity ∧ ∀ rate ∈ r.1.throughputBps, 0 ≤ rate := by
    intro identity r hr
    obtain ⟨analysis, hanalysis, hr⟩ := bind_eq_ok.mp hr
    obtain rfl := Except.ok.inj hr
    exact ⟨rfl, intervalStability_nonneg hanalysis⟩
  have hsame : List.Forall₂ (· = ·) ids ((found.map Prod.fst).map StreamRate.streamId) := by
    rw [List.map_map, List.forall₂_map_right_iff]
    exact (mapM_eq_ok.mp hfound).imp fun _ _ hr => (hrate hr).1.symm
  rw [List.forall₂_eq_eq_eq] at hsame
  refine ⟨hsame ▸ hnodup, fun rate hmem => ?_⟩
  obtain ⟨r, hr, hthroughput⟩ := List.mem_filterMap.mp hmem
  obtain ⟨pair, hpair, rfl⟩ := List.mem_map.mp hr
  exact forall_of_mapM (P := fun pair => ∀ rate ∈ pair.1.throughputBps, 0 ≤ rate)
    (fun _ _ hx => (hrate hx).2) hfound pair hpair rate hthroughput

theorem streamRates_proper {sqrt : K → K} {result : Result} {source : Source} {policy : Policy K}
    {rates : List (StreamRate K)} {diagnostics : List AnalysisDiagnostic}
    (h : streamRates sqrt result direction observation source policy = .ok (rates, diagnostics)) :
    ProperRates rates := by
  cases source with
  | summaries => exact fromSummaries_proper h
  | intervals => exact fromIntervals_proper h

/-! ## The analysis -/

/-- The analyses have the same measures, counts and quality. -/
structure SameBalance (analysis analysis' : StreamBalanceAnalysis K) : Prop where
  quality : analysis'.quality = analysis.quality
  validStreams : analysis'.validStreams = analysis.validStreams
  minOverMaxRate : analysis'.minOverMaxRate = analysis.minOverMaxRate
  populationRateCv : analysis'.populationRateCv = analysis.populationRateCv
  jainFairnessIndex : analysis'.jainFairnessIndex = analysis.jainFairnessIndex

omit [IsStrictOrderedRing K] in
/-- What is assessed depends on the number of the rates, on the known ones up to their order, and on
whether something was left out. -/
theorem assess_same (sqrt : K → K) (direction : Analysis.Direction) (observation : ObservationPoint)
    (source : Source) (expected : Option ℕ) {rates rates' : List (StreamRate K)}
    {diagnostics diagnostics' : List AnalysisDiagnostic} (hlen : rates.length = rates'.length)
    (hvalid : (validRates rates).Perm (validRates rates'))
    (hflagged : (diagnostics.any fun item => item.code ≠ "interval.omitted") =
      diagnostics'.any fun item => item.code ≠ "interval.omitted") :
    SameBalance (assess sqrt direction observation source expected rates diagnostics)
      (assess sqrt direction observation source expected rates' diagnostics') := by
  have hnil : validRates rates = [] ↔ validRates rates' = [] :=
    ⟨fun h => (h ▸ hvalid).symm.eq_nil, fun h => (h ▸ hvalid).eq_nil⟩
  have hempty : (validRates rates).isEmpty = (validRates rates').isEmpty := by
    rw [Bool.eq_iff_iff, List.isEmpty_iff, List.isEmpty_iff, hnil]
  have hincomplete : incomplete rates' expected diagnostics' = incomplete rates expected diagnostics := by
    unfold incomplete
    rw [hvalid.length_eq, hlen, hflagged]
  have hquality : balanceQuality rates' expected diagnostics' =
      balanceQuality rates expected diagnostics := by
    unfold balanceQuality
    rw [hempty, hlen, hincomplete]
  have hfound : ∀ (h : validRates rates ≠ []) (h' : validRates rates' ≠ []),
      measures sqrt (validRates rates') h' = measures sqrt (validRates rates) h :=
    fun h h' => (measures_perm sqrt hvalid h h').symm
  by_cases h : validRates rates ≠ [] ∧ balanceQuality rates expected diagnostics ≠ .insufficientData
  · have h' : validRates rates' ≠ [] ∧
        balanceQuality rates' expected diagnostics' ≠ .insufficientData :=
      ⟨hnil.not.mp h.1, hquality ▸ h.2⟩
    refine ⟨hquality, hvalid.length_eq.symm, ?_, ?_, ?_⟩ <;>
      simp only [assess, dif_pos h, dif_pos h', hfound h.1 h'.1]
  · have h' : ¬ (validRates rates' ≠ [] ∧
        balanceQuality rates' expected diagnostics' ≠ .insufficientData) := by
      rw [hquality, ne_eq, ← hnil]
      exact h
    refine ⟨hquality, hvalid.length_eq.symm, ?_, ?_, ?_⟩ <;>
      simp only [assess, dif_neg h, dif_neg h']

omit [IsStrictOrderedRing K] in
/-- The measures of an analysis are those of its known rates. -/
theorem assess_measures {sqrt : K → K} {source : Source} {expected : Option ℕ}
    {rates : List (StreamRate K)} {diagnostics : List AnalysisDiagnostic} {fairness : K}
    (h : (assess sqrt direction observation source expected rates diagnostics).jainFairnessIndex =
      some fairness) :
    ∃ (hne : validRates rates ≠ []) (m : Measures K), measures sqrt (validRates rates) hne = some m ∧
      (assess sqrt direction observation source expected rates diagnostics).minOverMaxRate =
        some m.minOverMaxRate ∧
      (assess sqrt direction observation source expected rates diagnostics).populationRateCv =
        some m.populationRateCv ∧ fairness = m.jainFairnessIndex := by
  by_cases hmeasured :
      validRates rates ≠ [] ∧ balanceQuality rates expected diagnostics ≠ .insufficientData
  · simp only [assess, dif_pos hmeasured, Option.join_some] at h ⊢
    obtain ⟨m, hm, rfl⟩ := Option.map_eq_some_iff.mp h
    exact ⟨hmeasured.1, m, hm, by rw [hm]; rfl, by rw [hm]; rfl, rfl⟩
  · simp only [assess, dif_neg hmeasured, Option.join_none, Option.map_none] at h
    cases h

/-- A run of `stream_balance` over a completed result assesses the rates of its source. -/
theorem streamBalance_eq_ok {sqrt : K → K} {result : Result} {source : Source} {policy : Policy K}
    {analysis : StreamBalanceAnalysis K}
    (h : streamBalance sqrt result direction observation source policy = .ok analysis) :
    ∃ expected, effectiveParallel result = .ok expected ∧ expected ≠ some 0 ∧
      ∃ done, completed result = .ok done ∧
        ((done = false ∧ analysis.quality = .insufficientData ∧ analysis.jainFairnessIndex = none ∧
          (analysis.minOverMaxRate.isSome = analysis.jainFairnessIndex.isSome ∧
            analysis.populationRateCv.isSome = analysis.jainFairnessIndex.isSome) ∧
          ∀ streams, streamBalance sqrt { result with streams } direction observation source policy =
            .ok analysis) ∨
          done = true ∧ ∃ rates diagnostics,
            streamRates sqrt result direction observation source policy = .ok (rates, diagnostics) ∧
            analysis = assess sqrt direction observation source expected rates diagnostics) := by
  obtain ⟨expected, hexpected, h⟩ := bind_eq_ok.mp h
  obtain ⟨hpositive, h⟩ := bind_unit_eq_ok.mp h
  obtain ⟨done, hdone, h⟩ := bind_eq_ok.mp h
  refine ⟨expected, hexpected, reject_eq_ok.mp hpositive, done, hdone, ?_⟩
  cases done with
  | false =>
    have hanalysis := Except.ok.inj h
    refine .inl ⟨rfl, hanalysis ▸ rfl, hanalysis ▸ rfl, hanalysis ▸ ⟨rfl, rfl⟩, fun streams => ?_⟩
    refine bind_eq_ok.mpr ⟨expected, hexpected, bind_eq_ok.mpr ⟨(), hpositive,
      bind_eq_ok.mpr ⟨false, hdone, h⟩⟩⟩
  | true =>
    obtain ⟨⟨rates, diagnostics⟩, hrates, h⟩ := bind_eq_ok.mp h
    exact .inr ⟨rfl, rates, diagnostics, hrates, (Except.ok.inj h).symm⟩

omit [IsStrictOrderedRing K] in
/-- A complete analysis has one known rate for each expected stream. -/
theorem assess_complete {sqrt : K → K} {source : Source} {expected : Option ℕ}
    {rates : List (StreamRate K)} {diagnostics : List AnalysisDiagnostic}
    (h : (assess sqrt direction observation source expected rates diagnostics).quality = .complete) :
    expected = some (validRates rates).length ∧ (validRates rates).length = rates.length := by
  change balanceQuality rates expected diagnostics = .complete at h
  unfold balanceQuality at h
  split at h
  · cases h
  split at h
  · cases h
  · next hcomplete =>
    simp only [incomplete, Bool.or_eq_true, decide_eq_true_eq, not_or, not_not] at hcomplete
    exact hcomplete.1

/-- The streams of a result in another order have the same balance. -/
theorem streamBalance_perm {sqrt : K → K} {result : Result} {source : Source} {policy : Policy K}
    {analysis : StreamBalanceAnalysis K}
    (h : streamBalance sqrt result direction observation source policy = .ok analysis)
    {streams : List StreamStats} (hperm : result.streams.Perm streams) :
    ∃ analysis', streamBalance sqrt { result with streams } direction observation source policy =
      .ok analysis' ∧ SameBalance analysis analysis' := by
  obtain ⟨expected, hexpected, hpositive, done, hdone, hcase⟩ := streamBalance_eq_ok h
  rcases hcase with ⟨-, -, -, -, hsame⟩ | ⟨rfl, rates, diagnostics, hrates, rfl⟩
  · exact ⟨analysis, hsame streams, rfl, rfl, rfl, rfl, rfl⟩
  · have hrun : ∀ {rates' diagnostics'},
        streamRates sqrt { result with streams } direction observation source policy =
          .ok (rates', diagnostics') →
        streamBalance sqrt { result with streams } direction observation source policy =
          .ok (assess sqrt direction observation source expected rates' diagnostics') := by
      intro rates' diagnostics' hrates'
      exact bind_eq_ok.mpr ⟨expected, hexpected, bind_eq_ok.mpr ⟨(), reject_eq_ok.mpr hpositive,
        bind_eq_ok.mpr ⟨true, hdone, bind_eq_ok.mpr ⟨_, hrates', rfl⟩⟩⟩⟩
    cases source with
    | intervals => exact ⟨_, hrun hrates, rfl, rfl, rfl, rfl, rfl⟩
    | summaries =>
      obtain ⟨cs, hcs, hnodup, hextends⟩ := fromSummaries_eq_ok hrates
      -- the streams contribute the same in any order
      obtain ⟨cs', hcs', hcsperm⟩ := List.perm_comp_forall₂ hperm.symm hcs
      have hids : (Contribution.identities cs').Nodup :=
        (hcsperm.filterMap _).nodup_iff.mpr hnodup
      have hempty : (({} : Summaries K).seen ++ Contribution.identities cs').Nodup := hids
      obtain ⟨found, hfound, hextends'⟩ := @exists_foldlM_summaryPass _ _ _ _ _ _ _ _ hcs' 0 _ hempty
      refine ⟨_, hrun (bind_eq_ok.mpr ⟨found, hfound, rfl⟩), ?_⟩
      refine assess_same sqrt direction observation .summaries expected ?_ ?_ ?_
      · have hlen := congrArg List.length hextends.ids
        have hlen' := congrArg List.length hextends'.ids
        rw [List.length_map] at hlen hlen'
        rw [hlen, hlen']
        exact ((hcsperm.filterMap _).length_eq).symm
      · rw [hextends.valid, hextends'.valid]
        exact (hcsperm.filterMap _).symm
      · rw [hextends.flagged, hextends'.flagged]
        exact hcsperm.symm.any_eq

/-! ## The laws of balance -/

/-- The measures that an analysis reports agree with each other and depend on the rates up to order
and unit; a complete analysis counts each expected stream once. -/
structure BalanceLaws (sqrt : K → K) (result : Result) (direction : Analysis.Direction)
    (observation : ObservationPoint) (source : Source) (policy : Policy K) : Prop where
  measured : ∀ analysis, streamBalance sqrt result direction observation source policy = .ok analysis →
    ∀ fairness, analysis.jainFairnessIndex = some fairness →
      ∃ m : Measures K, analysis.minOverMaxRate = some m.minOverMaxRate ∧
        analysis.populationRateCv = some m.populationRateCv ∧ fairness = m.jainFairnessIndex ∧
        MeasureLaws analysis.validStreams m ∧
        (∀ rates hne, (validRates analysis.perStream).Perm rates → measures sqrt rates hne = some m) ∧
        ∀ c > 0, ∀ hne, measures sqrt ((validRates analysis.perStream).map (c * ·)) hne = some m
  together : ∀ analysis, streamBalance sqrt result direction observation source policy = .ok analysis →
    analysis.minOverMaxRate.isSome = analysis.jainFairnessIndex.isSome ∧
      analysis.populationRateCv.isSome = analysis.jainFairnessIndex.isSome
  perm : ∀ analysis, streamBalance sqrt result direction observation source policy = .ok analysis →
    ∀ streams, result.streams.Perm streams → ∃ analysis',
      streamBalance sqrt { result with streams } direction observation source policy = .ok analysis' ∧
        SameBalance analysis analysis'
  complete : ∀ analysis, streamBalance sqrt result direction observation source policy = .ok analysis →
    analysis.quality = .complete →
      effectiveParallel result = .ok (some analysis.validStreams) ∧
        analysis.validStreams = analysis.perStream.length ∧
        (analysis.perStream.map StreamRate.streamId).Nodup

theorem balance_laws {sqrt : K → K} (hsqrt : ∀ x, 0 ≤ x → 0 ≤ sqrt x ∧ sqrt x ^ 2 = x)
    (result : Result) (direction : Analysis.Direction) (observation : ObservationPoint) (source : Source)
    (policy : Policy K) : BalanceLaws sqrt result direction observation source policy where
  measured analysis h fairness hfairness := by
    obtain ⟨expected, -, -, done, -, hcase⟩ := streamBalance_eq_ok h
    rcases hcase with ⟨-, -, hnone, -, -⟩ | ⟨-, rates, diagnostics, hrates, rfl⟩
    · rw [hnone] at hfairness
      cases hfairness
    · obtain ⟨hne, m, hm, hratio, hcv, rfl⟩ := assess_measures hfairness
      refine ⟨m, hratio, hcv, rfl, measures_laws hsqrt hne (streamRates_proper hrates).nonneg hm,
        fun rates' hne' hperm => ?_, fun c hc hne' => ?_⟩
      · exact (measures_perm sqrt hperm hne hne').symm.trans hm
      · exact (measures_scale sqrt hc hne hne').trans hm
  together analysis h := by
    obtain ⟨expected, -, -, done, -, hcase⟩ := streamBalance_eq_ok h
    rcases hcase with ⟨-, -, -, hboth, -⟩ | ⟨-, rates, diagnostics, -, rfl⟩
    · exact hboth
    · simp only [assess, Option.isSome_map, and_self]
  perm _ h _ hperm := streamBalance_perm h hperm
  complete analysis h hquality := by
    obtain ⟨expected, hexpected, -, done, -, hcase⟩ := streamBalance_eq_ok h
    rcases hcase with ⟨-, hinsufficient, -, -, -⟩ | ⟨-, rates, diagnostics, hrates, rfl⟩
    · rw [hquality] at hinsufficient
      cases hinsufficient
    · obtain ⟨rfl, hall⟩ := assess_complete hquality
      exact ⟨hexpected, hall, (streamRates_proper hrates).nodup⟩

/-- Two streams, of which one carries three times the bytes of the other one. -/
def twoStreams : Result where
  ok := .bool true
  error := .none
  execution := some ⟨.str "completed", some ⟨.str "verified", .int 2, .list [.str "/raw/start"]⟩⟩
  streams :=
    [{ direction := .str "client_to_server", streamId := .int 5
       receiver := some { bytes := .int 3, durationSeconds := .int 1 } },
     { direction := .str "client_to_server", streamId := .int 7
       receiver := some { bytes := .int 1, durationSeconds := .int 1 } }]
  intervals := []
  observed := fun _ => .ok true

theorem balance_laws_twoStreams :
    BalanceLaws Real.sqrt twoStreams .clientToServer .receiver .summaries
      { timeToleranceSeconds := 0, tolerance_nonneg := le_rfl } :=
  balance_laws (fun x hx => ⟨Real.sqrt_nonneg x, Real.sq_sqrt hx⟩) _ _ _ _ _

example : (streamBalance Rat.sqrt twoStreams .clientToServer .receiver .summaries
    { timeToleranceSeconds := 0, tolerance_nonneg := le_rfl }).toOption.map (fun analysis =>
      (analysis.quality, analysis.minOverMaxRate, analysis.populationRateCv,
        analysis.jainFairnessIndex)) =
    some (.complete, some (1 / 3), some (1 / 2), some (4 / 5)) := by
  decide +kernel

end Iperf3Lib.Stability
