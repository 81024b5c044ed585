import Iperf3Lib.Exceptions
import Iperf3Lib.General.Except
import Iperf3Lib.Py.FloatOrder
import Mathlib.Algebra.Order.BigOperators.Group.List
import Mathlib.Data.List.ReduceOption

/-!
# Sums of floats

`math.fsum` rounds the exact sum once, a loop with `+=` rounds at every step. Rounding does not
overflow below `2 ^ 1024`, and below a bound it moves a number by at most a fixed part of the bound,
so that the errors of a computation add up along its steps.
-/

namespace Iperf3Lib.Py

open Iperf3Lib

/-! ## The error of rounding -/

theorem roundHalfEven_error {q : ℚ} (hq : 0 ≤ q) : |(roundHalfEven q : ℚ) - q| ≤ 1 / 2 := by
  have hle := Nat.floor_le hq
  have hlt := Nat.lt_floor_add_one q
  unfold roundHalfEven
  dsimp only
  rw [abs_le]
  split_ifs <;> constructor <;> push_cast <;> linarith

/-- Below a bound of at least one, rounding moves a number by at most `2 ^ -53` of the bound. -/
theorem rounded_error {q B : ℚ} (hq : 0 ≤ q) (hqB : q ≤ B) (hB : 1 ≤ B) :
    |rounded q - q| ≤ B / 2 ^ 53 := by
  unfold rounded
  split
  · next hq0 =>
    rw [hq0, sub_zero, abs_zero]
    positivity
  next hq0 =>
  have hpos : 0 < q := lt_of_le_of_ne hq (Ne.symm hq0)
  have hpow : (0 : ℚ) < 2 ^ ulpExponent q := by positivity
  have hunit : |(significand q : ℚ) * 2 ^ ulpExponent q - q| ≤ 2 ^ ulpExponent q / 2 := by
    have herror := roundHalfEven_error (q := q / 2 ^ ulpExponent q) (by positivity)
    have hsplit : (significand q : ℚ) * 2 ^ ulpExponent q - q =
        (roundHalfEven (q / 2 ^ ulpExponent q) - q / 2 ^ ulpExponent q) * 2 ^ ulpExponent q := by
      rw [significand, sub_mul, div_mul_cancel₀ _ hpow.ne']
    rw [hsplit, abs_mul, abs_of_pos hpow]
    calc _ ≤ 1 / 2 * (2 : ℚ) ^ ulpExponent q := by gcongr
      _ = 2 ^ ulpExponent q / 2 := by ring
  refine hunit.trans ?_
  -- half a unit in the last place
  have hulp : (2 : ℚ) ^ ulpExponent q ≤ 2 ^ (-52 : ℤ) * B := by
    rcases max_choice (Int.log 2 q - 52) (-1074) with hmax | hmax
    · rw [ulpExponent, hmax, sub_eq_add_neg, zpow_add₀ (by norm_num), mul_comm]
      have hlog := Int.zpow_log_le_self (b := 2) (by norm_num) hpos
      rw [Nat.cast_ofNat] at hlog
      gcongr
      exact hlog.trans hqB
    · rw [ulpExponent, hmax]
      calc (2 : ℚ) ^ (-1074 : ℤ) ≤ 2 ^ (-52 : ℤ) := zpow_le_zpow_right₀ (by norm_num) (by norm_num)
        _ = 2 ^ (-52 : ℤ) * 1 := (mul_one _).symm
        _ ≤ 2 ^ (-52 : ℤ) * B := by gcongr
  calc (2 : ℚ) ^ ulpExponent q / 2 ≤ 2 ^ (-52 : ℤ) * B / 2 := by gcongr
    _ = B / 2 ^ 53 := by norm_num; ring

/-! ## Overflow -/

/-- Rounding does not overflow exactly below `2 ^ 1024`. -/
theorem roundMag_finite_iff {neg : Bool} {q : ℚ} (hq : 0 ≤ q) :
    (∃ x, roundMag neg q = .finite x) ↔ rounded q < 2 ^ 1024 := by
  constructor
  · rintro ⟨x, hx⟩
    rw [← (mag_of_roundMag hx).1, Finite64.mag]
    calc (x.m : ℚ) * 2 ^ x.e < 2 ^ 53 * 2 ^ x.e := by
          gcongr
          exact_mod_cast x.m_lt
      _ ≤ 2 ^ 53 * 2 ^ (971 : ℤ) := by
          gcongr
          · norm_num
          · exact x.e_le
      _ = 2 ^ ((53 : ℤ) + 971) := (zpow_add₀ (by norm_num) 53 971).symm
  · intro hlt
    by_cases hq0 : q = 0
    · exact ⟨_, by rw [roundMag, if_pos hq0]⟩
    have hpos : 0 < q := lt_of_le_of_ne hq (Ne.symm hq0)
    rw [rounded, if_neg hq0] at hlt
    have hmin : -1074 ≤ ulpExponent q := le_max_right _ _
    have hle := significand_le q
    have hnormal : 2 ^ 52 ≤ significand q ∨ ulpExponent q = -1074 := by
      by_cases he : ulpExponent q = -1074
      · exact .inr he
      · exact .inl (le_significand hpos (by omega))
    have hexponent : ∀ k : ℕ, 2 ^ k ≤ significand q → ulpExponent q + k < 1024 := by
      intro k hk
      refine (zpow_lt_zpow_iff_right₀ (by norm_num : (1 : ℚ) < 2)).mp ?_
      calc (2 : ℚ) ^ (ulpExponent q + k) = 2 ^ k * 2 ^ ulpExponent q := by
            rw [zpow_add₀ (by norm_num), zpow_natCast, mul_comm]
        _ ≤ significand q * 2 ^ ulpExponent q := by
            gcongr
            exact_mod_cast hk
        _ < 2 ^ (1024 : ℤ) := hlt
    rw [roundMag, if_neg hq0]
    dsimp only
    by_cases hfull : roundHalfEven (q / (2 : ℚ) ^ ulpExponent q) = 2 ^ 53
    · simp only [hfull, if_true]
      have hover := hexponent 53 hfull.ge
      exact ⟨_, dif_pos ⟨by norm_num, by omega, by omega, .inl (by norm_num)⟩⟩
    · simp only [hfull, if_false]
      refine ⟨_, dif_pos ⟨lt_of_le_of_ne hle hfull, hmin, ?_, hnormal⟩⟩
      rcases hnormal with hnormal | he
      · have := hexponent 52 hnormal
        omega
      · omega

namespace PyFloat

/-- A nonnegative exact value that does not overflow is rounded. -/
theorem ofRat_of_rounded_lt {q : ℚ} (b : Bool) (hq : 0 ≤ q) (hlt : rounded q < 2 ^ 1024) :
    ∃ x, ofRat q b = .finite x ∧ x.toRat = rounded q := by
  have hfinite : ∃ x, ofRat q b = .finite x := by
    unfold ofRat
    split
    · exact ⟨_, rfl⟩
    · exact (roundMag_finite_iff (abs_nonneg q)).mpr (by rwa [abs_of_nonneg hq])
  obtain ⟨x, hx⟩ := hfinite
  exact ⟨x, hx, by rw [toRat_of_ofRat hx, if_neg hq.not_gt]⟩

/-- Below a bound that is far from overflowing, the rounded value is near the exact one. -/
theorem ofRat_near {q B : ℚ} (b : Bool) (hq : 0 ≤ q) (hqB : q ≤ B) (hB : 1 ≤ B) (hmax : B ≤ 2 ^ 100) :
    ∃ x, ofRat q b = .finite x ∧ |x.toRat - q| ≤ B / 2 ^ 53 ∧ 0 ≤ x.toRat := by
  have herror := rounded_error hq hqB hB
  have hlt : rounded q < 2 ^ 1024 := by
    have hle := (abs_le.mp herror).2
    have hpart : B / 2 ^ 53 ≤ B := div_le_self (by linarith) (by norm_num)
    have hpow : (2 : ℚ) ^ 102 ≤ 2 ^ 1024 := pow_le_pow_right₀ (by norm_num) (by norm_num)
    refine lt_of_lt_of_le ?_ hpow
    linarith
  obtain ⟨x, hx, hvalue⟩ := ofRat_of_rounded_lt b hq hlt
  exact ⟨x, hx, by rwa [hvalue], by rw [hvalue]; exact rounded_nonneg q⟩

/-- A difference is finite when a larger one is. -/
theorem sub_finite_of_sub_finite {x y z d : Finite64} (hzy : z ≤ y) (hyx : y ≤ x)
    (hd : (PyFloat.finite x).sub (.finite z) = .finite d) :
    ∃ a, (PyFloat.finite x).sub (.finite y) = .finite a ∧ a.toRat = rounded (x.toRat - y.toRat) := by
  rw [Finite64.le_iff] at hzy hyx
  obtain ⟨s, hs⟩ := sub_finite x z
  obtain ⟨t, ht⟩ := sub_finite x y
  have hlt : rounded (x.toRat - z.toRat) < 2 ^ 1024 := by
    rw [hs] at hd
    unfold ofRat at hd
    split at hd
    · next hzero =>
      rw [hzero, rounded, if_pos rfl]
      positivity
    · have := (roundMag_finite_iff (abs_nonneg _)).mp ⟨d, hd⟩
      rwa [abs_of_nonneg (by linarith)] at this
  have hmono := rounded_mono (p := x.toRat - y.toRat) (q := x.toRat - z.toRat) (by linarith)
    (by linarith)
  rw [ht]
  exact ofRat_of_rounded_lt t (by linarith) (hmono.trans_lt hlt)

end PyFloat

/-! ## Signs -/

namespace PyFloat

/-- `0 <= x`. -/
def Nonneg : PyFloat → Prop
  | .finite x => 0 ≤ x.toRat
  | .inf neg => neg = false
  | .nan => False

theorem roundMag_cases (neg : Bool) (q : ℚ) :
    (∃ x, roundMag neg q = .finite x) ∨ roundMag neg q = .inf neg := by
  unfold roundMag
  dsimp only
  split_ifs <;> first | exact .inl ⟨_, rfl⟩ | exact .inr rfl

theorem Nonneg.ofRat {q : ℚ} (hq : 0 ≤ q) (b : Bool) : (ofRat q b).Nonneg := by
  have hsign : decide (q < 0) = false := decide_eq_false hq.not_gt
  by_cases hq0 : q = 0
  · rw [PyFloat.ofRat, if_pos hq0, Nonneg, Finite64.toRat_zero]
  · rcases roundMag_cases (decide (q < 0)) |q| with ⟨x, hx⟩ | hinf
    · have hvalue := toRat_of_ofRat (b := b) (by rw [PyFloat.ofRat, if_neg hq0]; exact hx)
      rw [PyFloat.ofRat, if_neg hq0, hx, Nonneg, hvalue, if_neg hq.not_gt]
      exact rounded_nonneg q
    · rw [PyFloat.ofRat, if_neg hq0, hinf]
      exact hsign

theorem Nonneg.add {x y : PyFloat} (hx : x.Nonneg) (hy : y.Nonneg) : (x.add y).Nonneg := by
  cases x with
  | nan => exact hx.elim
  | finite x =>
    cases y with
    | nan => exact hy.elim
    | finite y => exact Nonneg.ofRat (show 0 ≤ x.toRat + y.toRat from Left.add_nonneg hx hy) _
    | inf b => exact hy
  | inf a =>
    cases y with
    | nan => exact hy.elim
    | finite y => exact hx
    | inf b =>
      obtain rfl : a = false := hx
      obtain rfl : b = false := hy
      exact (rfl : (false : Bool) = false)

theorem Nonneg.not_lt_zero {x : PyFloat} (h : x.Nonneg) : x.lt (.finite (.zero false)) = false := by
  cases x with
  | nan => rfl
  | finite x => exact decide_eq_false (by rw [Finite64.toRat_zero]; exact not_lt.mpr h)
  | inf b => exact h

end PyFloat

/-! ## `math.fsum` -/

/-- The value of a finite number, and zero otherwise. -/
def PyFloat.exact : PyFloat → ℚ
  | .finite x => x.toRat
  | _ => 0

/-- `math.fsum`. -/
def fsum (xs : List PyFloat) : Except Exc PyFloat :=
  if xs.all PyFloat.isFinite then
    match PyFloat.ofRat (xs.map PyFloat.exact).sum false with
    | .finite y => .ok (.finite y)
    | _ => .error ⟨.overflowError, "intermediate overflow in fsum"⟩
  else if .inf true ∈ xs ∧ .inf false ∈ xs then valueError "-inf + inf in fsum"
  else if .nan ∈ xs then .ok .nan
  else .ok (.inf (decide (.inf true ∈ xs)))

/-- Finite numbers with the same exact sum have the same `fsum`. -/
theorem fsum_congr {xs ys : List PyFloat} (hx : xs.all PyFloat.isFinite = true)
    (hy : ys.all PyFloat.isFinite = true)
    (hsum : (xs.map PyFloat.exact).sum = (ys.map PyFloat.exact).sum) : fsum xs = fsum ys := by
  rw [fsum, fsum, if_pos hx, if_pos hy, hsum]

theorem fsum_of_ofRat {xs : List PyFloat} {y : Finite64} (hx : xs.all PyFloat.isFinite = true)
    (hy : PyFloat.ofRat (xs.map PyFloat.exact).sum false = .finite y) : fsum xs = .ok (.finite y) := by
  rw [fsum, if_pos hx, hy]

end Iperf3Lib.Py
