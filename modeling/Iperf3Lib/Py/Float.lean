import Mathlib.Data.Rat.Floor
import Mathlib.Data.Int.Log
import Mathlib.Algebra.Order.Field.Power
import Mathlib.Tactic.Ring
import Mathlib.Tactic.FieldSimp
import Mathlib.Tactic.Positivity
import Mathlib.Tactic.Linarith

/-!
# Python floats

A Python `float` is an IEEE 754 binary64 number. A finite one is a sign, a 53-bit significand and
an exponent in normal form (`Finite64`), so that its exact value is the rational `Finite64.toRat`.
`roundMag` rounds an exact rational to nearest, ties to even, and every arithmetic operation and
every decimal conversion is the exact result followed by `roundMag`. The one law the rest needs is
that a representable value rounds to itself, `roundMag_mag`.

`shortest` is the decimal that `repr` prints: the fewest digits that read back as the number.
-/

namespace Iperf3Lib.Py

/-- A finite binary64 number `± m * 2 ^ e`, normal or subnormal. -/
structure Finite64 where
  neg : Bool
  m : ℕ
  e : ℤ
  m_lt : m < 2 ^ 53
  le_e : -1074 ≤ e
  e_le : e ≤ 971
  normal : 2 ^ 52 ≤ m ∨ e = -1074
deriving DecidableEq

/-- A binary64 number; all NaNs are one. -/
inductive PyFloat where
  | finite (x : Finite64)
  | inf (neg : Bool)
  | nan
deriving DecidableEq

namespace Finite64

/-- The absolute value, exactly. -/
def mag (x : Finite64) : ℚ := x.m * (2 : ℚ) ^ x.e

/-- The value, exactly. -/
def toRat (x : Finite64) : ℚ := if x.neg then -x.mag else x.mag

/-- Signed zero. -/
def zero (neg : Bool) : Finite64 := ⟨neg, 0, -1074, by norm_num, le_rfl, by norm_num, .inr rfl⟩

@[simp] theorem toRat_zero (neg : Bool) : (zero neg).toRat = 0 := by
  cases neg <;> simp [toRat, mag, zero]

theorem mag_pos {x : Finite64} (h : x.m ≠ 0) : 0 < x.mag := by
  have : (0 : ℚ) < x.m := by exact_mod_cast Nat.pos_of_ne_zero h
  unfold mag; positivity

theorem mag_eq_zero {x : Finite64} : x.mag = 0 ↔ x.m = 0 := by
  constructor
  · intro h
    by_contra hm
    exact (mag_pos hm).ne' h
  · intro h
    simp [mag, h]

/-- A zero significand leaves only the two zeros. -/
theorem eq_zero {x : Finite64} (h : x.m = 0) : x = zero x.neg := by
  obtain ⟨neg, m, e, h1, h2, h3, h4⟩ := x
  simp only at h
  subst h
  obtain rfl : e = -1074 := h4.resolve_left (by norm_num)
  rfl

end Finite64

/-! ## Rounding -/

/-- The nearest natural number, ties to even. -/
def roundHalfEven (q : ℚ) : ℕ :=
  let f := ⌊q⌋₊
  if q - f < 1 / 2 then f else if 1 / 2 < q - f then f + 1 else if f % 2 = 0 then f else f + 1

@[simp] theorem roundHalfEven_natCast (n : ℕ) : roundHalfEven n = n := by
  simp [roundHalfEven]

/-- The exponent of the unit in the last place of a positive magnitude. -/
def ulpExponent (q : ℚ) : ℤ := max (Int.log 2 q - 52) (-1074)

/-- Round a magnitude to binary64, to infinity beyond the largest finite number. -/
def roundMag (neg : Bool) (q : ℚ) : PyFloat :=
  if q = 0 then .finite (.zero neg) else
    let e := ulpExponent q
    let m := roundHalfEven (q / (2 : ℚ) ^ e)
    -- a significand that rounds up to `2 ^ 53` moves to the next exponent
    let r : ℕ × ℤ := if m = 2 ^ 53 then (2 ^ 52, e + 1) else (m, e)
    -- only `r.2 ≤ 971` can fail
    if h : r.1 < 2 ^ 53 ∧ -1074 ≤ r.2 ∧ r.2 ≤ 971 ∧ (2 ^ 52 ≤ r.1 ∨ r.2 = -1074) then
      .finite ⟨neg, r.1, r.2, h.1, h.2.1, h.2.2.1, h.2.2.2⟩
    else .inf neg

/-- The exponent of a number in normal form is the one rounding would choose. -/
theorem ulpExponent_mag {x : Finite64} (hm : x.m ≠ 0) : ulpExponent x.mag = x.e := by
  have hpos := Finite64.mag_pos hm
  have h2 : (2 : ℚ) ≠ 0 := by norm_num
  have hpow : (0 : ℚ) < (2 : ℚ) ^ x.e := by positivity
  have hlt : Int.log 2 x.mag < x.e + 53 := by
    refine (Int.lt_zpow_iff_log_lt (b := 2) (by norm_num) hpos).mp ?_
    rw [Nat.cast_ofNat, zpow_add₀ h2, Finite64.mag, mul_comm]
    exact mul_lt_mul_of_pos_left (by exact_mod_cast x.m_lt) hpow
  rcases x.normal with h52 | he
  · have hle : x.e + 52 ≤ Int.log 2 x.mag := by
      refine (Int.zpow_le_iff_le_log (b := 2) (by norm_num) hpos).mp ?_
      rw [Nat.cast_ofNat, zpow_add₀ h2, Finite64.mag, mul_comm]
      exact mul_le_mul_of_nonneg_right (by exact_mod_cast h52) hpow.le
    have := x.le_e
    unfold ulpExponent
    omega
  · unfold ulpExponent
    omega

/-- A representable magnitude rounds to itself. -/
theorem roundMag_mag (x : Finite64) : roundMag x.neg x.mag = .finite x := by
  by_cases hm : x.m = 0
  · rw [roundMag, if_pos (Finite64.mag_eq_zero.mpr hm), ← Finite64.eq_zero hm]
  · have hq : x.mag / (2 : ℚ) ^ x.e = (x.m : ℚ) := by
      rw [Finite64.mag, mul_div_assoc, div_self (by positivity), mul_one]
    have hne : x.m ≠ 2 ^ 53 := x.m_lt.ne
    rw [roundMag, if_neg (Finite64.mag_pos hm).ne']
    simp only [ulpExponent_mag hm, hq, roundHalfEven_natCast, if_neg hne]
    rw [dif_pos ⟨x.m_lt, x.le_e, x.e_le, x.normal⟩]

/-! ## Arithmetic and comparison -/

namespace PyFloat

/-- `math.isfinite`. -/
def isFinite : PyFloat → Bool
  | .finite _ => true
  | _ => false

/-- Round an exact value, keeping the given sign on zero. -/
def ofRat (q : ℚ) (zeroNeg : Bool) : PyFloat :=
  if q = 0 then .finite (.zero zeroNeg) else roundMag (decide (q < 0)) |q|

/-- `float(n)` for an integer, infinite where Python raises `OverflowError`. -/
def ofInt (n : ℤ) : PyFloat := ofRat n false

/-- `x + y`. -/
def add : PyFloat → PyFloat → PyFloat
  | .finite x, .finite y => ofRat (x.toRat + y.toRat) (x.neg && y.neg)
  | .inf a, .inf b => if a = b then .inf a else .nan
  | .inf a, .finite _ => .inf a
  | .finite _, .inf b => .inf b
  | _, _ => .nan

/-- `x < y`. -/
def lt : PyFloat → PyFloat → Bool
  | .finite x, .finite y => decide (x.toRat < y.toRat)
  | .inf a, .inf b => a && !b
  | .inf a, .finite _ => a
  | .finite _, .inf b => !b
  | _, _ => false

instance : Add PyFloat := ⟨add⟩

/-- `x * y`. -/
def mul : PyFloat → PyFloat → PyFloat
  | .finite x, .finite y => ofRat (x.toRat * y.toRat) (x.neg != y.neg)
  | .inf a, .inf b => .inf (a != b)
  | .inf a, .finite y => if y.m = 0 then .nan else .inf (a != y.neg)
  | .finite x, .inf b => if x.m = 0 then .nan else .inf (x.neg != b)
  | _, _ => .nan

end PyFloat

/-! ## Decimal conversion -/

/-- `float` of the decimal `± n * 10 ^ k`. -/
def floatOfDecimal (neg : Bool) (n : ℕ) (k : ℤ) : PyFloat := roundMag neg (n * (10 : ℚ) ^ k)

/-- Move trailing zeros of the digits into the exponent. -/
def stripZeros : ℕ → ℕ → ℤ → ℕ × ℤ
  | 0, n, k => (n, k)
  | fuel + 1, n, k =>
    if n ≠ 0 ∧ n % 10 = 0 then stripZeros fuel (n / 10) (k + 1) else (n, k)

/-- The neighbour of `x` with its last digit at `10 ^ p` that reads back as `x`, the closer one if
both do. -/
def decimalAt (x : Finite64) (p : ℤ) : Option (ℕ × ℤ) :=
  let lo := ⌊x.mag / (10 : ℚ) ^ p⌋₊
  let reads (n : ℕ) : Bool := decide (floatOfDecimal x.neg n p = .finite x)
  let low := 2 * (x.mag / (10 : ℚ) ^ p - lo) < 1 ∨ (2 * (x.mag / (10 : ℚ) ^ p - lo) = 1 ∧ lo % 2 = 0)
  if reads lo && (!reads (lo + 1) || decide low) then some (lo, p)
  else if reads (lo + 1) then some (lo + 1, p)
  else none

/-- The exact decimal expansion of a binary fraction. -/
def exactDecimal (x : Finite64) : ℕ × ℤ :=
  if 0 ≤ x.e then (x.m * 2 ^ x.e.toNat, 0) else (x.m * 5 ^ (-x.e).toNat, x.e)

/-- The digits and the exponent that `repr` prints for a nonzero number: the first length from one
to seventeen digits that reads back. Seventeen digits always do; the exact expansion stands after
them so that the definition does not rest on that. -/
def shortest (x : Finite64) : ℕ × ℤ :=
  let k := Int.log 10 x.mag
  let d := ((List.range 17).findSome? fun n => decimalAt x (k - n)).getD (exactDecimal x)
  stripZeros d.1 d.1 d.2

theorem stripZeros_value (fuel n : ℕ) (k : ℤ) :
    ((stripZeros fuel n k).1 : ℚ) * (10 : ℚ) ^ (stripZeros fuel n k).2 = n * (10 : ℚ) ^ k := by
  induction fuel generalizing n k with
  | zero => rfl
  | succ fuel ih =>
    unfold stripZeros
    split
    · next h =>
      have hn : (n : ℚ) = (n / 10 : ℕ) * 10 := by exact_mod_cast (Nat.div_mul_cancel
        (Nat.dvd_of_mod_eq_zero h.2)).symm
      rw [ih, zpow_add₀ (by norm_num : (10 : ℚ) ≠ 0), zpow_one, hn]
      ring
    · rfl

theorem stripZeros_ne_zero {fuel n : ℕ} {k : ℤ} (h : n ≠ 0) : (stripZeros fuel n k).1 ≠ 0 := by
  induction fuel generalizing n k with
  | zero => exact h
  | succ fuel ih =>
    unfold stripZeros
    split
    · next h' => exact ih (by omega)
    · exact h

/-- Whatever neighbour is chosen reads back as the number. -/
theorem decimalAt_reads {x : Finite64} {p : ℤ} {d : ℕ × ℤ} (h : decimalAt x p = some d) :
    floatOfDecimal x.neg d.1 d.2 = .finite x := by
  simp only [decimalAt] at h
  split at h
  · next hc =>
    obtain rfl := Option.some.inj h
    simp only [Bool.and_eq_true, decide_eq_true_eq] at hc
    exact hc.1
  · split at h
    · next hc =>
      obtain rfl := Option.some.inj h
      simpa using hc
    · cases h

/-- The exact expansion has the exact value. -/
theorem exactDecimal_value (x : Finite64) :
    ((exactDecimal x).1 : ℚ) * (10 : ℚ) ^ (exactDecimal x).2 = x.mag := by
  unfold exactDecimal
  split
  · next h =>
    simp only [Finite64.mag, zpow_zero, mul_one, Nat.cast_mul, Nat.cast_pow, Nat.cast_ofNat]
    rw [← zpow_natCast, Int.toNat_of_nonneg h]
  · next h =>
    have h10 : (10 : ℚ) = 5 * 2 := by norm_num
    simp only [Finite64.mag, Nat.cast_mul, Nat.cast_pow, Nat.cast_ofNat]
    rw [← zpow_natCast, Int.toNat_of_nonneg (by omega), h10, mul_zpow, mul_assoc, ← mul_assoc (5 ^ _),
      ← zpow_add₀ (by norm_num : (5 : ℚ) ≠ 0), neg_add_cancel, zpow_zero, one_mul]

/-- The printed decimal reads back as the number. -/
theorem floatOfDecimal_shortest (x : Finite64) :
    floatOfDecimal x.neg (shortest x).1 (shortest x).2 = .finite x := by
  unfold shortest floatOfDecimal
  rw [stripZeros_value]
  cases hd : (List.range 17).findSome? fun n => decimalAt x (Int.log 10 x.mag - n) with
  | none =>
    simp only [Option.getD_none]
    rw [exactDecimal_value, roundMag_mag]
  | some d =>
    obtain ⟨n, -, hn⟩ := List.exists_of_findSome?_eq_some hd
    exact decimalAt_reads hn

/-- A nonzero number prints nonzero digits. -/
theorem shortest_ne_zero {x : Finite64} (h : x.m ≠ 0) : (shortest x).1 ≠ 0 := by
  intro h0
  have := floatOfDecimal_shortest x
  rw [h0, floatOfDecimal, Nat.cast_zero, zero_mul, roundMag, if_pos rfl] at this
  exact h (by rw [← PyFloat.finite.inj this]; rfl)

end Iperf3Lib.Py
