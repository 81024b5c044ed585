import Iperf3Lib.Sequential.Reports

/-!
# Recorded durations

A sequential run records how long each trial and all pauses took, and how long it took itself. The
trials and pauses lie behind one another, so that their exact durations fit into the elapsed time. The
recorded ones are rounded, those of the pauses at each addition; the validators allow `1e-9` seconds
for that. `Fits` says that this is enough, and for short runs it is: `Sound.fits`.
-/

namespace Iperf3Lib

open Py

namespace Clock

variable (clock : Clock)

/-- The exact difference of two readings. -/
def length (readings : ℕ × ℕ) : ℚ :=
  (clock.monotonic readings.2).toRat - (clock.monotonic readings.1).toRat

theorem length_nonneg {a b : ℕ} (hab : a ≤ b) : 0 ≤ clock.length (a, b) :=
  sub_nonneg.mpr (Finite64.le_iff.mp (clock.monotone hab))

theorem length_add (a b c : ℕ) : clock.length (a, b) + clock.length (b, c) = clock.length (a, c) := by
  unfold length
  ring

theorem length_mono {a b c d : ℕ} (hca : c ≤ a) (hbd : b ≤ d) :
    clock.length (a, b) ≤ clock.length (c, d) := by
  have hlow := Finite64.le_iff.mp (clock.monotone hca)
  have hhigh := Finite64.le_iff.mp (clock.monotone hbd)
  unfold length
  linarith

/-- The recorded difference of two readings is the rounded one. -/
theorem exists_span {a b : ℕ} (hab : a ≤ b) :
    ∃ d, clock.span (a, b) = .finite d ∧ d.toRat = rounded (clock.length (a, b)) := by
  obtain ⟨d, hd⟩ := clock.finite b
  exact PyFloat.sub_finite_of_sub_finite (clock.monotone (Nat.zero_le a)) (clock.monotone hab) hd

end Clock

/-- The readings of a sequential run, and what it recorded of them. -/
structure Ledger where
  reads : ℕ
  /-- `record.elapsed_seconds`, record by record. -/
  recorded : List (Option PyNum)
  pauseElapsed : PyFloat
  /-- The readings at which the trials began and ended. -/
  work : List (ℕ × ℕ)
  /-- The readings at which the pauses began and ended. -/
  pauses : List (ℕ × ℕ)

namespace Ledger

/-- The rounded durations of the trials, summed up, and those of the pauses. -/
def duration (clock : Clock) (l : Ledger) : Except Exc PyFloat := do
  let work ← fsum (l.work.map clock.span)
  return work.add ((l.pauses.map clock.span).foldl PyFloat.add (.finite (.zero false)))

/-- The rounded durations of the trials and the pauses do not exceed the rounded elapsed time by more
than the tolerance. -/
def Fits (clock : Clock) (l : Ledger) : Prop :=
  ∃ duration, l.duration clock = .ok duration ∧
    ((clock.span (0, l.reads)).add tolerance).lt duration = false

/-- They do, and they do not overflow. -/
def FitsFinite (clock : Clock) (l : Ledger) : Prop :=
  ∃ duration, l.duration clock = .ok duration ∧ duration.isFinite = true ∧
    ((clock.span (0, l.reads)).add tolerance).lt duration = false

/-- The trials and pauses lie behind one another, and what was recorded are their durations. -/
structure Sound (clock : Clock) (l : Ledger) : Prop where
  started : 0 < l.reads
  ordered : ∀ readings ∈ l.work ++ l.pauses, readings.1 ≤ readings.2 ∧ readings.2 < l.reads
  disjoint : (l.work.map clock.length).sum + (l.pauses.map clock.length).sum ≤
    clock.length (0, l.reads - 1)
  recorded : l.recorded.reduceOption = l.work.map fun readings => .float (clock.span readings)
  pauseElapsed : l.pauseElapsed =
    (l.pauses.map clock.span).foldl PyFloat.add (.finite (.zero false))

/-! ## Entries -/

/-- In front of a run. -/
def start : Ledger := ⟨1, [], .finite (.zero false), [], []⟩

/-- Further readings. -/
def advance (reads : ℕ) (l : Ledger) : Ledger := { l with reads }

variable {clock : Clock} {l : Ledger} {a b : ℕ}

theorem Sound.start : Sound clock Ledger.start :=
  ⟨by decide, by simp [Ledger.start], by simp [Ledger.start, Clock.length], rfl, rfl⟩

theorem Sound.advance (h : Sound clock l) {reads : ℕ} (hle : l.reads ≤ reads) :
    Sound clock (l.advance reads) where
  started := h.started.trans_le hle
  ordered readings hmem := ⟨(h.ordered readings hmem).1, (h.ordered readings hmem).2.trans_le hle⟩
  disjoint := h.disjoint.trans (clock.length_mono le_rfl (Nat.sub_le_sub_right hle 1))
  recorded := h.recorded
  pauseElapsed := h.pauseElapsed

/-- What happened between two new readings fits behind the rest. -/
theorem Sound.behind (h : Sound clock l) (ha : l.reads ≤ a) :
    (l.work.map clock.length).sum + (l.pauses.map clock.length).sum + clock.length (a, b) ≤
      clock.length (0, b) := by
  have hdisjoint := h.disjoint
  have hgap := clock.length_nonneg (show l.reads - 1 ≤ a by omega)
  have hsplit := clock.length_add 0 (l.reads - 1) a
  have hsplit' := clock.length_add 0 a b
  linarith

theorem exists_tolerance : ∃ t, tolerance = .finite t ∧ (1 : ℚ) / 10 ^ 9 ≤ t.toRat ∧ t.toRat ≤ 1 := by
  refine ⟨⟨false, 4835703278458517, -82, by decide, by decide, by decide, by decide⟩, ?_, ?_, ?_⟩
  · decide +kernel
  · norm_num [Finite64.toRat, Finite64.mag]
  · norm_num [Finite64.toRat, Finite64.mag]

/-- The rounded durations of trials in a time `D` exceed the exact ones by at most one error each. -/
theorem sum_spans {D B : ℚ} (hDB : D ≤ B) (hB : 1 ≤ B) {work : List (ℕ × ℕ)}
    (hwork : ∀ p ∈ work, p.1 ≤ p.2 ∧ clock.length p ≤ D) :
    (work.map clock.span).all PyFloat.isFinite = true ∧
      0 ≤ ((work.map clock.span).map PyFloat.exact).sum ∧
      ((work.map clock.span).map PyFloat.exact).sum ≤
        (work.map clock.length).sum + work.length * (B / 2 ^ 53) := by
  induction work with
  | nil => simp
  | cons p work ih =>
    obtain ⟨hfinite, hnonneg, hsum⟩ := ih fun q hq => hwork q (List.mem_cons_of_mem _ hq)
    obtain ⟨hle, hD⟩ := hwork p List.mem_cons_self
    obtain ⟨d, hd, hvalue⟩ := clock.exists_span hle
    have herror := rounded_error (clock.length_nonneg hle) (hD.trans hDB) hB
    have hd0 := PyFloat.rounded_nonneg (clock.length p)
    have hexact : (PyFloat.finite d).exact = rounded (clock.length p) := hvalue
    simp only [List.map_cons, List.all_cons, List.sum_cons, List.length_cons, hd, hfinite, hexact,
      Nat.cast_succ]
    refine ⟨rfl, add_nonneg hd0 hnonneg, ?_⟩
    have := (abs_le.mp herror).2
    linarith

/-- Adding the rounded durations of pauses makes two errors at each pause. -/
theorem foldl_spans (clock : Clock) {B : ℚ} (hB : 1 ≤ B) (hmax : B ≤ 2 ^ 100) {pauses : List (ℕ × ℕ)} :
    ∀ {x : Finite64}, 0 ≤ x.toRat → (∀ p ∈ pauses, p.1 ≤ p.2) →
      x.toRat + (pauses.map clock.length).sum + 2 * pauses.length * (B / 2 ^ 53) ≤ B →
      ∃ y, (pauses.map clock.span).foldl PyFloat.add (.finite x) = .finite y ∧ 0 ≤ y.toRat ∧
        y.toRat ≤ x.toRat + (pauses.map clock.length).sum + 2 * pauses.length * (B / 2 ^ 53) := by
  induction pauses with
  | nil => exact fun {x} hx _ _ => ⟨x, rfl, hx, by simp⟩
  | cons p pauses ih =>
    intro x hx hordered hbound
    have hle := hordered p List.mem_cons_self
    have hrest : ∀ q ∈ pauses, q.1 ≤ q.2 := fun q hq => hordered q (List.mem_cons_of_mem _ hq)
    have hsum : 0 ≤ (pauses.map clock.length).sum := by
      refine List.sum_nonneg fun l hl => ?_
      obtain ⟨q, hq, rfl⟩ := List.mem_map.mp hl
      exact clock.length_nonneg (hrest q hq)
    simp only [List.map_cons, List.sum_cons, List.length_cons, Nat.cast_succ] at hbound ⊢
    have hlength := clock.length_nonneg hle
    have hunit : 0 ≤ B / 2 ^ 53 := by positivity
    have hcount : 0 ≤ (pauses.length : ℚ) * (B / 2 ^ 53) := by positivity
    -- the duration of the pause, then its sum with the others
    obtain ⟨d, hd, hvalue⟩ := clock.exists_span hle
    have herror := rounded_error hlength (by linarith) hB
    rw [← hvalue] at herror
    have hd0 : 0 ≤ d.toRat := by
      rw [hvalue]
      exact PyFloat.rounded_nonneg _
    have hdle := (abs_le.mp herror).2
    obtain ⟨z, hz, hnear, hz0⟩ := PyFloat.ofRat_near (x.neg && d.neg) (add_nonneg hx hd0)
      (show x.toRat + d.toRat ≤ B by linarith) hB hmax
    have hzle := (abs_le.mp hnear).2
    obtain ⟨y, hy, hy0, hyle⟩ := ih hz0 hrest (by linarith)
    refine ⟨y, ?_, hy0, by linarith⟩
    rw [List.foldl_cons, hd, show (PyFloat.finite x).add (.finite d) = .finite z from hz]
    exact hy

/-- A run that is short for its number of trials and pauses: about a hundred days in all. -/
def Short (clock : Clock) (l : Ledger) : Prop :=
  (l.work.length + 2 * l.pauses.length + 4) * (clock.length (0, l.reads) + 2) * 10 ^ 9 ≤ 2 ^ 53

theorem FitsFinite.fits (h : l.FitsFinite clock) : l.Fits clock := by
  obtain ⟨duration, hduration, -, hle⟩ := h
  exact ⟨duration, hduration, hle⟩

/-- A short run fits: the errors of all its roundings together stay below the tolerance. -/
theorem Sound.fits (h : Sound clock l) (hshort : l.Short clock) : l.FitsFinite clock := by
  unfold Short at hshort
  have hD := clock.length_nonneg (Nat.zero_le l.reads)
  obtain ⟨D, hDeq⟩ : ∃ D, clock.length (0, l.reads) = D := ⟨_, rfl⟩
  rw [hDeq] at hshort hD
  have hpauses : 0 ≤ (l.pauses.length : ℚ) := Nat.cast_nonneg _
  have hworks : 0 ≤ (l.work.length : ℚ) := Nat.cast_nonneg _
  -- the error of one rounding, and all of them together
  obtain ⟨u, hu⟩ : ∃ u : ℚ, (D + 2) / 2 ^ 53 = u := ⟨_, rfl⟩
  have hu0 : 0 ≤ u := by rw [← hu]; positivity
  have hall : (l.work.length + 2 * l.pauses.length + 4) * u ≤ 1 / 10 ^ 9 := by
    rw [← hu, ← mul_div_assoc, div_le_div_iff₀ (by norm_num) (by norm_num), one_mul]
    exact hshort
  have hworku : 0 ≤ l.work.length * u := mul_nonneg hworks hu0
  have hpauseu : 0 ≤ l.pauses.length * u := mul_nonneg hpauses hu0
  have hB : 1 ≤ D + 2 := by linarith
  have hmax : D + 2 ≤ 2 ^ 100 := by
    have hone : (1 : ℚ) * (D + 2) * 10 ^ 9 ≤ 2 ^ 53 := by
      refine le_trans ?_ hshort
      gcongr
      linarith
    linarith
  have hsum := h.disjoint
  have hlast := clock.length_mono (le_refl 0) (Nat.sub_le l.reads 1)
  rw [hDeq] at hlast
  have hlengths : ∀ p ∈ l.work ++ l.pauses, p.1 ≤ p.2 ∧ clock.length p ≤ D := fun p hp =>
    ⟨(h.ordered p hp).1, hDeq ▸ clock.length_mono (Nat.zero_le _) (h.ordered p hp).2.le⟩
  have hpos : ∀ ps : List (ℕ × ℕ), (∀ p ∈ ps, p.1 ≤ p.2) → 0 ≤ (ps.map clock.length).sum := by
    intro ps hps
    refine List.sum_nonneg fun x hx => ?_
    obtain ⟨p, hp, rfl⟩ := List.mem_map.mp hx
    exact clock.length_nonneg (hps p hp)
  have hwork0 := hpos l.work fun p hp => (hlengths p (List.mem_append_left _ hp)).1
  have hpause0 := hpos l.pauses fun p hp => (hlengths p (List.mem_append_right _ hp)).1
  obtain ⟨hfinite, htotal0, htotal⟩ := sum_spans (show D ≤ D + 2 by linarith) hB fun p hp =>
    hlengths p (List.mem_append_left _ hp)
  rw [hu] at htotal
  obtain ⟨w, hw, hwnear, hw0⟩ := PyFloat.ofRat_near false htotal0
    (show _ ≤ D + 2 by linarith) hB hmax
  rw [hu] at hwnear
  have hwle := (abs_le.mp hwnear).2
  obtain ⟨p, hp, hp0, hple⟩ := foldl_spans clock (x := .zero false) hB hmax
    (by rw [Finite64.toRat_zero]) (fun q hq => (hlengths q (List.mem_append_right _ hq)).1)
    (by rw [Finite64.toRat_zero, hu]; linarith)
  rw [Finite64.toRat_zero, hu] at hple
  obtain ⟨d, hd, hdnear, hd0⟩ := PyFloat.ofRat_near (w.neg && p.neg) (add_nonneg hw0 hp0)
    (show w.toRat + p.toRat ≤ D + 2 by linarith) hB hmax
  rw [hu] at hdnear
  have hdle := (abs_le.mp hdnear).2
  -- the elapsed time with the tolerance
  obtain ⟨e, he, hevalue⟩ := clock.exists_span (Nat.zero_le l.reads)
  have heerror := rounded_error (clock.length_nonneg (Nat.zero_le l.reads))
    (show clock.length (0, l.reads) ≤ D + 2 by linarith) hB
  rw [← hevalue, hDeq, hu] at heerror
  obtain ⟨hege, hele⟩ := abs_le.mp heerror
  obtain ⟨t, ht, htge, htle⟩ := exists_tolerance
  have he0 : 0 ≤ e.toRat := by
    rw [hevalue]
    exact PyFloat.rounded_nonneg _
  obtain ⟨r, hr, hrnear, -⟩ := PyFloat.ofRat_near (e.neg && t.neg)
    (show 0 ≤ e.toRat + t.toRat by linarith) (show e.toRat + t.toRat ≤ D + 2 by linarith) hB hmax
  rw [hu] at hrnear
  have hrge := (abs_le.mp hrnear).1
  refine ⟨.finite d, ?_, rfl, ?_⟩
  · rw [duration, fsum_of_ofRat hfinite hw]
    show Except.ok ((PyFloat.finite w).add _) = _
    rw [hp]
    exact congrArg Except.ok hd
  · rw [he, ht, show (PyFloat.finite e).add (.finite t) = .finite r from hr]
    refine decide_eq_false (not_lt.mpr ?_)
    linarith

end Ledger

end Iperf3Lib
