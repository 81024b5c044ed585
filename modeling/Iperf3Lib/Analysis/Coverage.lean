import Iperf3Lib.Analysis.Charged
import Iperf3Lib.General.Keyed
import Mathlib.Data.Prod.Lex

/-!
# Coverage of the selected population

The order in which the intervals are stored only shows in paths and diagnostics. What the loop adds up
apart from them is the same for every order up to the order of its lists (`Alike`), and what is
computed from the sorted samples depends on their bounds and on the exact sum of their durations. The
comparison of neighbours then finds every overlap, and without overlaps and tolerance every gap.
-/

namespace Iperf3Lib.Analysis

open Py

/-! ## Placement -/

/-- A sample without its place. -/
def Sample.unplaced (sample : Sample) : Sample := { sample with path := [] }

/-- A tally without the places of its intervals. -/
def Tally.unplaced (t : Tally) : Tally :=
  { t with samples := t.samples.map Sample.unplaced, diagnostics := [] }

theorem Tally.unplaced_add (s t : Tally) : (s + t).unplaced = s.unplaced + t.unplaced := by
  show Tally.unplaced (Tally.add s t) = Tally.add s.unplaced t.unplaced
  simp only [Tally.unplaced, Tally.add, List.map_append, List.append_nil]

theorem Tally.unplaced_sum (ds : List Tally) : ds.sum.unplaced = (ds.map Tally.unplaced).sum := by
  induction ds with
  | nil => rfl
  | cons d ds ih => rw [List.sum_cons, Tally.unplaced_add, ih, List.map_cons, List.sum_cons]

/-- Tallies that differ in places only. -/
def SamePlaceless (s t : Tally) : Prop := s.unplaced = t.unplaced

theorem SamePlaceless.add {s s' t t' : Tally} (hs : SamePlaceless s s') (ht : SamePlaceless t t') :
    SamePlaceless (s.add t) (s'.add t') :=
  (Tally.unplaced_add s t).trans ((congrArg₂ (· + ·) hs ht).trans (Tally.unplaced_add s' t').symm)

theorem number_follows {p q : PyStr} {signed : Bool} {value : PyVal} :
    Follows Eq (number p signed value) (number q signed value) := by
  have hcheck : ∀ x, Follows Eq (checkNumber p signed x) (checkNumber q signed x) := by
    intro x
    unfold checkNumber
    split
    · exact .error
    · exact .ok rfl
  unfold number
  split
  · split
    · exact hcheck _
    · exact .error
  · exact hcheck _
  · exact .error
  · exact .error

theorem count_follows {p q : PyStr} {value : PyVal} : Follows Eq (count p value) (count q value) := by
  unfold count
  split
  · split
    · exact .error
    · exact .ok rfl
  · exact .error

theorem optional_follows {α : Type} {read read' : PyVal → Except Exc α} {value : PyVal}
    (h : Follows Eq (read value) (read' value)) :
    Follows Eq (optional read value) (optional read' value) := by
  unfold optional
  split
  · exact .ok rfl
  · exact h.map fun a b hab => congrArg some hab

theorem measurement_follows {stats : IntervalStats} {p q : PyStr} :
    Follows Eq (measurement stats p) (measurement stats q) := by
  refine .bind (optional_follows count_follows) ?_
  rintro bytes _ rfl
  refine .bind (optional_follows number_follows) ?_
  rintro duration _ rfl
  refine .bind (optional_follows number_follows) ?_
  rintro _ _ -
  split
  · exact .ok rfl
  · exact .ok rfl
  · exact .error

section Pass

variable {selection : Selection} {policy : IntervalPolicy} {interval : IntervalStats} {p q : PyStr}
  {bytes : Option ℕ} {start stop duration : Finite64} {duration? start? stop? : Option Finite64}

theorem rated_follows : Follows SamePlaceless (rated interval p bytes start stop duration)
    (rated interval q bytes start stop duration) := by
  refine .bind (optional_follows number_follows) ?_
  rintro reported _ rfl
  cases bytes with
  | some count =>
    refine .bind (R := Eq) (fun rate hrate => ⟨rate, hrate, rfl⟩) ?_
    rintro rate _ rfl
    exact .ok rfl
  | none =>
    cases reported with
    | some rate => exact .ok rfl
    | none => exact .ok rfl

theorem timed_follows : Follows SamePlaceless (timed policy interval p bytes start stop duration?)
    (timed policy interval q bytes start stop duration?) := by
  unfold timed
  split
  · exact .ok rfl
  split
  · exact .ok rfl
  split
  · exact .ok rfl
  · exact rated_follows

theorem bounded_follows : Follows SamePlaceless (bounded policy interval p bytes start stop duration?)
    (bounded policy interval q bytes start stop duration?) := by
  unfold bounded
  split
  · refine .bind number_follows ?_
    rintro derived _ rfl
    refine .bind timed_follows fun d d' hd => .ok (SamePlaceless.add rfl hd)
  · exact .bind timed_follows fun d d' hd => .ok (SamePlaceless.add rfl hd)

theorem admit_follows :
    Follows SamePlaceless (admitInterval selection policy interval p bytes duration? start? stop?)
      (admitInterval selection policy interval q bytes duration? start? stop?) := by
  unfold admitInterval
  split
  · exact .ok rfl
  split
  · exact .error
  split
  · split
    · exact .error
    split
    · exact .ok rfl
    · exact bounded_follows
  · exact .ok rfl

theorem screened_follows :
    Follows SamePlaceless (screened selection policy interval p bytes duration? start? stop?)
      (screened selection policy interval q bytes duration? start? stop?) := by
  unfold screened
  split
  · exact .ok rfl
  · dsimp only
    split
    · exact .ok rfl
    · exact admit_follows.map fun d d' hd => SamePlaceless.add rfl hd
  · exact admit_follows

/-- Whether a pass succeeds, and what it adds apart from places, does not depend on the place. -/
theorem pass_follows {item : Item} :
    Follows SamePlaceless (pass selection policy p item) (pass selection policy q item) := by
  cases item with
  | other => exact .error
  | interval interval =>
    rw [pass, pass]
    split
    · exact .error
    split
    · exact .ok rfl
    refine .bind measurement_follows ?_
    rintro ⟨bytes, duration⟩ _ rfl
    refine .bind (optional_follows count_follows) ?_
    rintro _ _ -
    refine .bind (optional_follows number_follows) ?_
    rintro start _ rfl
    refine .bind (optional_follows number_follows) ?_
    rintro stop _ rfl
    exact .bind screened_follows fun d d' hd => .ok (SamePlaceless.add rfl hd)

end Pass

/-! ## Another order -/

/-- Tallies with the same numbers and with the same lists up to their order. -/
structure Alike (s t : Tally) : Prop where
  selected : s.selected = t.selected
  omitted : s.omitted = t.omitted
  unknown : s.unknown = t.unknown
  missing : s.missing = t.missing
  coverageUnknown : s.coverageUnknown = t.coverageUnknown
  samples : s.samples.Perm t.samples
  bounds : s.bounds.Perm t.bounds

theorem Alike.sum {ds ds' : List Tally} (h : ds.Perm ds') : Alike ds.sum ds'.sum := by
  induction h with
  | nil => exact ⟨rfl, rfl, rfl, rfl, rfl, .nil, .nil⟩
  | cons d _ ih =>
    simp only [List.sum_cons]
    constructor
    · rw [Tally.selected_add, Tally.selected_add, ih.selected]
    · rw [Tally.omitted_add, Tally.omitted_add, ih.omitted]
    · rw [Tally.unknown_add, Tally.unknown_add, ih.unknown]
    · rw [Tally.missing_add, Tally.missing_add, ih.missing]
    · rw [Tally.coverageUnknown_add, Tally.coverageUnknown_add, ih.coverageUnknown]
    · exact ih.samples.append_left d.samples
    · exact ih.bounds.append_left d.bounds
  | swap d e ds =>
    simp only [List.sum_cons, ← add_assoc]
    constructor
    · simp only [Tally.selected_add, Nat.add_comm e.selected]
    · simp only [Tally.omitted_add, Nat.add_comm e.omitted]
    · simp only [Tally.unknown_add, Nat.add_comm e.unknown]
    · simp only [Tally.missing_add, Nat.add_comm e.missing]
    · simp only [Tally.coverageUnknown_add, Bool.or_comm e.coverageUnknown]
    · exact List.perm_append_comm.append_right _
    · exact List.perm_append_comm.append_right _
  | trans _ _ ih ih' =>
    exact ⟨ih.selected.trans ih'.selected, ih.omitted.trans ih'.omitted,
      ih.unknown.trans ih'.unknown, ih.missing.trans ih'.missing,
      ih.coverageUnknown.trans ih'.coverageUnknown, ih.samples.trans ih'.samples,
      ih.bounds.trans ih'.bounds⟩

/-- What a pass adds apart from places. -/
def addition (selection : Selection) (policy : IntervalPolicy) (item : Item) : Except Exc Tally :=
  (pass selection policy [] item).map Tally.unplaced

section Loop

variable {selection : Selection} {policy : IntervalPolicy}

/-- The passes of the loop succeed where the additions do. -/
theorem forall₂_pass_of_mapM {items : List (Item × ℕ)} {us : List Tally}
    (h : (items.map Prod.fst).mapM (addition selection policy) = .ok us) :
    ∃ ds, List.Forall₂ (fun item d => pass selection policy (itemPath item.2) item.1 = .ok d) items ds ∧
      ds.map Tally.unplaced = us := by
  rw [mapM_eq_ok, List.forall₂_map_left_iff] at h
  induction h with
  | nil => exact ⟨[], .nil, rfl⟩
  | @cons item u items us hu _ ih =>
    obtain ⟨d, hd, rfl⟩ := map_eq_ok.mp hu
    obtain ⟨d', hd', hsame⟩ := pass_follows d hd
    obtain ⟨ds, hds, rfl⟩ := ih
    exact ⟨d' :: ds, .cons hd' hds, by rw [List.map_cons, hsame]⟩

theorem mapM_of_forall₂_pass {items : List (Item × ℕ)} {ds : List Tally} (h : List.Forall₂
      (fun item d => pass selection policy (itemPath item.2) item.1 = .ok d) items ds) :
    (items.map Prod.fst).mapM (addition selection policy) = .ok (ds.map Tally.unplaced) := by
  rw [mapM_eq_ok, List.forall₂_map_left_iff, List.forall₂_map_right_iff]
  refine h.imp fun item d hd => ?_
  obtain ⟨d', hd', hsame⟩ := pass_follows d hd
  exact map_eq_ok.mpr ⟨d', hd', hsame.symm⟩

/-- The loop over the intervals in another order adds up to the same up to places and orders. -/
theorem tally_perm {items items' : List Item} (hperm : items.Perm items') {t : Tally}
    (h : tally selection policy items = .ok t) :
    ∃ t', tally selection policy items' = .ok t' ∧ Alike t.unplaced t'.unplaced := by
  obtain ⟨ds, hds, rfl⟩ := tally_eq_ok.mp h
  have hmap := mapM_of_forall₂_pass hds
  rw [List.zipIdx_map_fst] at hmap
  obtain ⟨us, hus, hperm'⟩ := mapM_perm hperm hmap
  rw [← List.zipIdx_map_fst 0 items'] at hus
  obtain ⟨ds', hds', rfl⟩ := forall₂_pass_of_mapM hus
  refine ⟨ds'.sum, tally_eq_ok.mpr ⟨ds', hds', rfl⟩, ?_⟩
  rw [Tally.unplaced_sum, Tally.unplaced_sum]
  exact .sum hperm'

end Loop

/-! ## What the summary depends on -/

/-- The bounds of a sample as values. -/
def Sample.key (sample : Sample) : ℚ ×ₗ ℚ := toLex (sample.start.toRat, sample.stop.toRat)

theorem Sample.le_iff (a b : Sample) : a.le b = true ↔ a.key ≤ b.key := by
  rw [Sample.le, Sample.key, Sample.key, Prod.Lex.toLex_le_toLex]
  simp only [Bool.or_eq_true, Bool.and_eq_true, decide_eq_true_eq, Finite64.lt_iff, Finite64.le_iff]
  constructor
  · rintro (hlt | ⟨hle, hstop⟩)
    · exact .inl hlt
    · exact hle.lt_or_eq.imp_right fun heq => ⟨heq, hstop⟩
  · rintro (hlt | ⟨heq, hstop⟩)
    · exact .inl hlt
    · exact .inr ⟨heq.le, hstop⟩

theorem pairwise_sortSamples (samples : List Sample) :
    (sortSamples samples).Pairwise fun a b => a.le b = true :=
  pairwise_insertionSort_of_key Sample.le_iff samples

theorem perm_sortSamples (samples : List Sample) : (sortSamples samples).Perm samples :=
  List.perm_insertionSort _ _

theorem Sample.start_le_of_le {a b : Sample} (h : a.le b = true) : a.start ≤ b.start := by
  rw [Sample.le_iff, Sample.key, Sample.key, Prod.Lex.toLex_le_toLex] at h
  exact h.elim (fun hlt => Finite64.le_iff.mpr hlt.le) fun heq => Finite64.le_iff.mpr heq.1.le

/-- Comparisons see the values of finite numbers, not the sign of a zero. -/
theorem lt_ofRat_congr {x y : Finite64} (h : x.toRat = y.toRat) (q : ℚ) (b c : Bool) :
    (PyFloat.finite x).lt (.ofRat q b) = (PyFloat.finite y).lt (.ofRat q c) := by
  unfold PyFloat.ofRat
  by_cases hq : q = 0
  · rw [if_pos hq, if_pos hq, PyFloat.lt, PyFloat.lt, h, Finite64.toRat_zero, Finite64.toRat_zero]
  · rw [if_neg hq, if_neg hq]
    cases roundMag (decide (q < 0)) |q| with
    | finite z => rw [PyFloat.lt, PyFloat.lt, h]
    | inf neg => rfl
    | nan => rfl

theorem ofRat_lt_congr {x y : Finite64} (h : x.toRat = y.toRat) (q : ℚ) (b c : Bool) :
    (PyFloat.ofRat q b).lt (.finite x) = (PyFloat.ofRat q c).lt (.finite y) := by
  unfold PyFloat.ofRat
  by_cases hq : q = 0
  · rw [if_pos hq, if_pos hq, PyFloat.lt, PyFloat.lt, h, Finite64.toRat_zero, Finite64.toRat_zero]
  · rw [if_neg hq, if_neg hq]
    cases roundMag (decide (q < 0)) |q| with
    | finite z => rw [PyFloat.lt, PyFloat.lt, h]
    | inf neg => rfl
    | nan => rfl

section Neighbours

variable {policy : IntervalPolicy} {a a' b b' : Sample}

theorem overlaps_congr (ha : a.key = a'.key) (hb : b.key = b'.key) :
    overlaps policy a b = overlaps policy a' b' := by
  obtain ⟨-, hstop⟩ := Prod.mk.inj (toLex.injective ha)
  obtain ⟨hstart, -⟩ := Prod.mk.inj (toLex.injective hb)
  obtain ⟨s, hs⟩ := PyFloat.sub_finite a.stop policy.tolerance
  obtain ⟨s', hs'⟩ := PyFloat.sub_finite a'.stop policy.tolerance
  rw [overlaps, overlaps, hs, hs', hstop]
  exact lt_ofRat_congr hstart _ _ _

theorem leavesGap_congr (ha : a.key = a'.key) (hb : b.key = b'.key) :
    leavesGap policy a b = leavesGap policy a' b' := by
  obtain ⟨-, hstop⟩ := Prod.mk.inj (toLex.injective ha)
  obtain ⟨hstart, -⟩ := Prod.mk.inj (toLex.injective hb)
  show (PyFloat.ofRat (a.stop.toRat + policy.tolerance.toRat) _).lt _ =
    (PyFloat.ofRat (a'.stop.toRat + policy.tolerance.toRat) _).lt _
  rw [hstop]
  exact ofRat_lt_congr hstart _ _ _

/-- A later start does not overlap more. -/
theorem overlaps_of_le {c : Sample} (hle : b.start ≤ c.start) (h : overlaps policy a c = true) :
    overlaps policy a b = true := by
  unfold overlaps at h ⊢
  cases hlimit : (PyFloat.finite a.stop).sub (.finite policy.tolerance) with
  | finite z =>
    rw [hlimit, PyFloat.lt, decide_eq_true_eq] at h
    rw [PyFloat.lt, decide_eq_true_eq]
    exact (Finite64.le_iff.mp hle).trans_lt h
  | inf neg => rwa [hlimit] at h
  | nan => rwa [hlimit] at h

/-- Without a tolerance the bounds themselves are compared. -/
theorem overlaps_of_zero (hzero : policy.tolerance.toRat = 0) :
    overlaps policy a b = decide (b.start.toRat < a.stop.toRat) := by
  obtain ⟨limit, hlimit, hvalue⟩ := PyFloat.sub_of_toRat_zero (x := a.stop) hzero
  rw [overlaps, hlimit, PyFloat.lt, hvalue]

theorem leavesGap_of_zero (hzero : policy.tolerance.toRat = 0) :
    leavesGap policy a b = decide (a.stop.toRat < b.start.toRat) := by
  obtain ⟨limit, hlimit, hvalue⟩ := PyFloat.add_of_toRat_zero (x := a.stop) hzero
  rw [leavesGap, hlimit, PyFloat.lt, hvalue]

end Neighbours

/-! ## The summary -/

/-- Neighbours of sorted samples with the same bounds compare in the same way. -/
theorem anyAdjacent_sorted_congr {r : Sample → Sample → Bool}
    (hr : ∀ a a' b b' : Sample, a.key = a'.key → b.key = b'.key → r a b = r a' b')
    {samples samples' : List Sample}
    (h : (samples.map Sample.unplaced).Perm (samples'.map Sample.unplaced)) :
    anyAdjacent r (sortSamples samples) = anyAdjacent r (sortSamples samples') := by
  refine anyAdjacent_congr (R := fun a b => a.key = b.key) (fun a a' b b' => hr a a' b b') ?_
  have hkeys : (samples.map Sample.key).Perm (samples'.map Sample.key) := by
    have := h.map Sample.key
    rwa [List.map_map, List.map_map] at this
  have hsorted := map_insertionSort_key_congr Sample.le_iff hkeys
  rwa [← List.forall₂_eq_eq_eq, List.forall₂_map_left_iff, List.forall₂_map_right_iff] at hsorted

/-- The sum of the durations does not depend on the order or on places. -/
theorem totalDuration_congr {name : PyStr} {samples samples' : List Sample}
    (h : (samples.map Sample.unplaced).Perm (samples'.map Sample.unplaced)) :
    totalDuration name samples = totalDuration name samples' := by
  have hdurations : (samples.map Sample.duration).Perm (samples'.map Sample.duration) := by
    have := h.map Sample.duration
    rwa [List.map_map, List.map_map] at this
  have hfinite : ∀ samples : List Sample,
      (samples.map fun sample => PyFloat.finite sample.duration).all PyFloat.isFinite = true := by
    intro samples
    rw [List.all_map, List.all_eq_true]
    exact fun _ _ => rfl
  have hexact : ∀ samples : List Sample,
      (samples.map fun sample => PyFloat.finite sample.duration).map PyFloat.exact =
        (samples.map Sample.duration).map Finite64.toRat := by
    intro samples
    rw [List.map_map, List.map_map]
    rfl
  have hsum := fsum_congr (hfinite samples) (hfinite samples')
    (by rw [hexact, hexact]; exact (hdurations.map Finite64.toRat).sum_eq)
  rw [totalDuration, totalDuration, hsum]

theorem map_unplaced_filter (samples : List Sample) :
    (samples.filter fun sample => sample.bytes.isSome).map Sample.unplaced =
      (samples.map Sample.unplaced).filter fun sample => sample.bytes.isSome := by
  rw [List.filter_map]
  rfl

/-- The span of proper bounds does not depend on their order. -/
theorem observedSpan_congr {t t' : Tally} (hcoverage : t.coverageUnknown = t'.coverageUnknown)
    (hbounds : t.bounds.Perm t'.bounds) (hproper : ∀ bound ∈ t.bounds, bound.1 < bound.2) :
    observedSpan t = observedSpan t' := by
  unfold observedSpan
  rw [hcoverage]
  cases hcase : t.bounds with
  | nil =>
    rw [hcase] at hbounds
    rw [hbounds.nil_eq]
  | cons bound bounds =>
    cases hcase' : t'.bounds with
    | nil =>
      rw [hcase, hcase'] at hbounds
      exact absurd hbounds.eq_nil (List.cons_ne_nil _ _)
    | cons bound' bounds' =>
      rw [hcase] at hproper
      rw [hcase, hcase'] at hbounds
      cases t'.coverageUnknown with
      | true => rfl
      | false =>
        dsimp only
        have hlast := Finite64.maximum_toRat_congr (hbounds.map Prod.snd)
        have hfirst := Finite64.minimum_toRat_congr (hbounds.map Prod.fst)
        -- the span is positive, so that it has no sign of zero
        have hpositive : (Finite64.minimum bound.1 (bounds.map Prod.fst)).toRat <
            (Finite64.maximum bound.2 (bounds.map Prod.snd)).toRat := by
          have hlow := (Finite64.minimum_spec bound.1 (bounds.map Prod.fst)).2 _ List.mem_cons_self
          have hhigh := (Finite64.maximum_spec bound.2 (bounds.map Prod.snd)).2 _ List.mem_cons_self
          have := Finite64.lt_iff.mp (hproper bound List.mem_cons_self)
          linarith
        obtain ⟨s, hs⟩ := PyFloat.sub_finite (Finite64.maximum bound.2 (bounds.map Prod.snd))
          (Finite64.minimum bound.1 (bounds.map Prod.fst))
        obtain ⟨s', hs'⟩ := PyFloat.sub_finite (Finite64.maximum bound'.2 (bounds'.map Prod.snd))
          (Finite64.minimum bound'.1 (bounds'.map Prod.fst))
        rw [hs, hs', ← hlast, ← hfirst, PyFloat.ofRat, PyFloat.ofRat,
          if_neg (sub_pos.mpr hpositive).ne', if_neg (sub_pos.mpr hpositive).ne']

/-- Tallies that are alike apart from places are summarized alike. -/
theorem summarize_alike {policy : IntervalPolicy} {t t' : Tally} (halike : Alike t.unplaced t'.unplaced)
    (hproper : ∀ bound ∈ t.bounds, bound.1 < bound.2) {out : IntervalSamples}
    (h : summarize policy t = .ok out) :
    ∃ out', summarize policy t' = .ok out' ∧ out'.coverage = out.coverage ∧
      out'.overlap = out.overlap ∧ out'.gaps = out.gaps := by
  have hsamples : (t.samples.map Sample.unplaced).Perm (t'.samples.map Sample.unplaced) :=
    halike.samples
  have hsorted : ((sortSamples t.samples).map Sample.unplaced).Perm
      ((sortSamples t'.samples).map Sample.unplaced) :=
    ((perm_sortSamples _).map _).trans
      (hsamples.trans ((perm_sortSamples _).map _).symm)
  have hoverlap := anyAdjacent_sorted_congr (r := overlaps policy)
    (fun a a' b b' => overlaps_congr) hsamples
  have hgaps := anyAdjacent_sorted_congr (r := leavesGap policy)
    (fun a a' b b' => leavesGap_congr) hsamples
  have hduration : totalDuration "total duration" _ = totalDuration "total duration" _ :=
    totalDuration_congr hsorted
  have hbytes : totalDuration "byte-covered duration"
      ((sortSamples t.samples).filter fun sample => sample.bytes.isSome) =
      totalDuration "byte-covered duration"
        ((sortSamples t'.samples).filter fun sample => sample.bytes.isSome) := by
    refine totalDuration_congr ?_
    rw [map_unplaced_filter, map_unplaced_filter]
    exact hsorted.filter _
  have hspan : observedSpan t = observedSpan t' :=
    observedSpan_congr halike.coverageUnknown halike.bounds hproper
  have hlength : (sortSamples t.samples).length = (sortSamples t'.samples).length := by
    have := hsorted.length_eq
    rwa [List.length_map, List.length_map] at this
  obtain ⟨duration, hd, h⟩ := bind_eq_ok.mp h
  obtain ⟨byteDuration, hb, h⟩ := bind_eq_ok.mp h
  obtain ⟨span, hs, h⟩ := bind_eq_ok.mp h
  obtain ⟨fraction, hf, h⟩ := bind_eq_ok.mp h
  obtain rfl := Except.ok.inj h
  rw [hduration] at hd
  rw [hbytes] at hb
  rw [hspan] at hs
  rw [hoverlap] at hf
  refine ⟨_, bind_eq_ok.mpr ⟨duration, hd, bind_eq_ok.mpr ⟨byteDuration, hb, bind_eq_ok.mpr
    ⟨span, hs, bind_eq_ok.mpr ⟨fraction, hf, rfl⟩⟩⟩⟩, ?_, hoverlap.symm, hgaps.symm⟩
  have hselected : t.selected = t'.selected := halike.selected
  have homitted : t.omitted = t'.omitted := halike.omitted
  have hunknown : t.unknown = t'.unknown := halike.unknown
  have hmissing : t.missing = t'.missing := halike.missing
  dsimp only
  rw [hselected, homitted, hunknown, hmissing, hlength]

/-! ## The result -/

/-- Every selected interval is counted in one place, and the samples are the included intervals. -/
structure Accounts (selection : Selection) (policy : IntervalPolicy) (items : List Item)
    (out : IntervalSamples) : Prop where
  selected : out.coverage.selectedCount = items.countP fun item => (charge selection policy item).isSome
  included : out.coverage.includedCount =
    items.countP fun item => charge selection policy item = some .included
  omitted : out.coverage.omittedCount =
    items.countP fun item => charge selection policy item = some .omitted
  missing : out.coverage.invalidOrMissingCount =
    items.countP fun item => charge selection policy item = some .missing
  excluded : (if policy.unknownOmission = .exclude then out.coverage.unknownOmissionCount else 0) =
    items.countP fun item => charge selection policy item = some .excluded
  unknown : out.coverage.unknownOmissionCount = items.countP (isUnknown selection)
  total : out.coverage.selectedCount = out.coverage.includedCount + out.coverage.omittedCount +
    out.coverage.invalidOrMissingCount +
    if policy.unknownOmission = .exclude then out.coverage.unknownOmissionCount else 0
  samples : (out.samples.map Sample.path).Perm ((items.zipIdx.filter fun item =>
    charge selection policy item.1 = some .included).map fun item => itemPath item.2)
  sorted : out.samples.Pairwise fun a b => a.le b = true

theorem countP_zipIdx (items : List Item) (p : Item → Bool) :
    items.zipIdx.countP (fun item => p item.1) = items.countP p := by
  have hmap := List.countP_map (p := p) (f := Prod.fst) (l := items.zipIdx)
  rw [List.zipIdx_map_fst] at hmap
  exact hmap.symm

section Result

variable {selection : Selection} {policy : IntervalPolicy} {items : List Item} {t : Tally}
  {out : IntervalSamples}

/-- The summary holds the counters of the loop and the sorted samples. -/
theorem summarize_eq_ok (h : summarize policy t = .ok out) :
    out.samples = sortSamples t.samples ∧
      out.overlap = anyAdjacent (overlaps policy) out.samples ∧
      out.gaps = anyAdjacent (leavesGap policy) out.samples ∧
      out.coverage.selectedCount = t.selected ∧ out.coverage.includedCount = t.samples.length ∧
      out.coverage.omittedCount = t.omitted ∧ out.coverage.unknownOmissionCount = t.unknown ∧
      out.coverage.invalidOrMissingCount = t.missing := by
  obtain ⟨duration, -, h⟩ := bind_eq_ok.mp h
  obtain ⟨byteDuration, -, h⟩ := bind_eq_ok.mp h
  obtain ⟨span, -, h⟩ := bind_eq_ok.mp h
  obtain ⟨fraction, -, h⟩ := bind_eq_ok.mp h
  obtain rfl := Except.ok.inj h
  exact ⟨rfl, rfl, rfl, rfl, (perm_sortSamples _).length_eq, rfl, rfl, rfl⟩

theorem accounts_of_charged (ht : Charged selection policy items.zipIdx t)
    (h : summarize policy t = .ok out) : Accounts selection policy items out := by
  obtain ⟨hsamples, -, -, hselected, hincluded, homitted, hunknown, hmissing⟩ := summarize_eq_ok h
  have hlength : t.samples.length =
      items.zipIdx.countP fun item => charge selection policy item.1 = some .included := by
    rw [List.countP_eq_length_filter, ← List.length_map (f := Sample.path), ht.paths, List.length_map]
  have htotal := @countP_charges selection policy items.zipIdx
  rw [countP_excluded, ← hlength, ← ht.selected, ← ht.omitted, ← ht.missing, ← ht.unknown] at htotal
  constructor
  · rw [hselected, ht.selected]
    exact countP_zipIdx items fun item => (charge selection policy item).isSome
  · rw [hincluded, hlength]
    exact countP_zipIdx items fun item => charge selection policy item = some .included
  · rw [homitted, ht.omitted]
    exact countP_zipIdx items fun item => charge selection policy item = some .omitted
  · rw [hmissing, ht.missing]
    exact countP_zipIdx items fun item => charge selection policy item = some .missing
  · rw [hunknown, ht.unknown, ← countP_excluded]
    exact countP_zipIdx items fun item => charge selection policy item = some .excluded
  · rw [hunknown, ht.unknown]
    exact countP_zipIdx items (isUnknown selection)
  · rw [hselected, hincluded, homitted, hmissing, hunknown]
    exact htotal
  · rw [hsamples, ← ht.paths]
    exact (perm_sortSamples _).map _
  · rw [hsamples]
    exact pairwise_sortSamples _

/-- Every interval is accounted for once, the comparison of neighbours finds every overlap, without a
tolerance and overlaps it finds every gap, and the order of the intervals does not matter. -/
theorem intervalSamples_sound (h : intervalSamples selection policy items = .ok out) :
    Accounts selection policy items out ∧
      (out.overlap = true ↔ SomeBefore (fun a b => (PyFloat.finite b.start).lt
        ((PyFloat.finite a.stop).sub (.finite policy.tolerance)) = true) out.samples) ∧
      (policy.tolerance.toRat = 0 → out.overlap = false → (out.gaps = true ↔
        ¬ Covers (fun sample => sample.start.toRat) (fun sample => sample.stop.toRat) out.samples)) ∧
      ∀ items', items.Perm items' → ∃ out', intervalSamples selection policy items' = .ok out' ∧
        out'.coverage = out.coverage ∧ out'.overlap = out.overlap ∧ out'.gaps = out.gaps := by
  obtain ⟨t, ht, hsummary⟩ := bind_eq_ok.mp h
  have hcharged := tally_charged ht
  obtain ⟨hsamples, hoverlap, hgaps, -⟩ := summarize_eq_ok hsummary
  have hsorted : out.samples.Pairwise fun a b => a.start ≤ b.start := by
    rw [hsamples]
    exact (pairwise_sortSamples _).imp Sample.start_le_of_le
  have hanti : ∀ a b c : Sample, b.start ≤ c.start → overlaps policy a c = true →
      overlaps policy a b = true := fun a b c hle hc => overlaps_of_le hle hc
  refine ⟨accounts_of_charged hcharged hsummary, ?_, ?_, ?_⟩
  · rw [hoverlap]
    exact anyAdjacent_iff_someBefore hanti hsorted
  · intro hzero hno
    have hdisjoint : out.samples.Pairwise fun a b => a.stop.toRat ≤ b.start.toRat := by
      rw [hoverlap, anyAdjacent_eq_false_iff hanti hsorted] at hno
      refine hno.imp fun hab => ?_
      rw [overlaps_of_zero hzero, decide_eq_true_eq, not_lt] at hab
      exact hab
    have hproper : ∀ sample ∈ out.samples, sample.start.toRat ≤ sample.stop.toRat := by
      intro sample hsample
      rw [hsamples, (perm_sortSamples _).mem_iff] at hsample
      exact (Finite64.lt_iff.mp (hcharged.proper sample hsample)).le
    have hcompare : leavesGap policy = fun a b => decide (a.stop.toRat < b.start.toRat) := by
      funext a b
      exact leavesGap_of_zero hzero
    rw [hgaps, hcompare, ← covers_iff_anyAdjacent_eq_false hproper hdisjoint, Bool.not_eq_false]
  · intro items' hperm
    obtain ⟨t', ht', halike⟩ := tally_perm hperm ht
    obtain ⟨out', hout', hsame⟩ := summarize_alike halike hcharged.bounds hsummary
    exact ⟨out', bind_eq_ok.mpr ⟨t', ht', hout'⟩, hsame⟩

end Result

/-! ## Two intervals with a gap -/

/-- A policy without tolerance. -/
def exactPolicy : IntervalPolicy where
  timeToleranceSeconds := .int 0
  tolerance := .zero false
  tolerance_eq := by decide +kernel

/-- One second of measured time of the client's aggregate. -/
def second (start : ℤ) : Item := .interval {
  startSeconds := .int start
  endSeconds := .int (start + 1)
  direction := .str "client_to_server"
  observation := .str "sender"
  scope := .str "aggregate"
  bytes := .int 1000
  durationSeconds := .int 1
  omitted := .bool false }

theorem intervalSamples_sound_gap :
    ∃ out, intervalSamples ⟨.clientToServer, .sender, .aggregate⟩ exactPolicy [second 2, second 0] =
        .ok out ∧ out.gaps = true ∧ out.coverage.selectedCount = 2 ∧
      ¬ Covers (fun sample : Sample => sample.start.toRat) (fun sample => sample.stop.toRat)
        out.samples := by
  have hrun : ((intervalSamples ⟨.clientToServer, .sender, .aggregate⟩ exactPolicy
      [second 2, second 0]).toOption.any fun out =>
        out.gaps && !out.overlap && out.coverage.selectedCount == 2) = true := by decide +kernel
  cases hout : intervalSamples ⟨.clientToServer, .sender, .aggregate⟩ exactPolicy
      [second 2, second 0] with
  | error e =>
    rw [hout] at hrun
    cases hrun
  | ok out =>
    rw [hout] at hrun
    simp only [Except.toOption, Option.any_some, Bool.and_eq_true, Bool.not_eq_true', beq_iff_eq] at hrun
    obtain ⟨⟨hgaps, hoverlap⟩, hselected⟩ := hrun
    obtain ⟨-, -, hcovers, -⟩ := intervalSamples_sound hout
    exact ⟨out, rfl, hgaps, hselected,
      (hcovers (Finite64.toRat_zero false) hoverlap).mp hgaps⟩

end Iperf3Lib.Analysis
