import Iperf3Lib.Py.Float

/-!
# Rounding is monotone

Differences of clock readings are rounded, so that comparing them rests on `roundMag` being
monotone. A magnitude that does not exceed a representable one rounds to a finite number.
-/

namespace Iperf3Lib.Py

/-! ## The rounded value of a magnitude -/

theorem roundHalfEven_mono {p q : ℚ} (hpq : p ≤ q) : roundHalfEven p ≤ roundHalfEven q := by
  have hfloor : ⌊p⌋₊ ≤ ⌊q⌋₊ := Nat.floor_mono hpq
  have hup : roundHalfEven p ≤ ⌊p⌋₊ + 1 := by
    unfold roundHalfEven
    dsimp only
    split_ifs <;> omega
  have hdown : ⌊q⌋₊ ≤ roundHalfEven q := by
    unfold roundHalfEven
    dsimp only
    split_ifs <;> omega
  rcases hfloor.lt_or_eq with hlt | heq
  · omega
  · unfold roundHalfEven
    rw [heq]
    dsimp only
    split_ifs <;> first | omega | (exfalso; linarith)

theorem roundHalfEven_le {q : ℚ} {n : ℕ} (h : q ≤ n) : roundHalfEven q ≤ n := by
  have := roundHalfEven_mono h
  rwa [roundHalfEven_natCast] at this

theorem le_roundHalfEven {q : ℚ} {n : ℕ} (h : (n : ℚ) ≤ q) : n ≤ roundHalfEven q := by
  have := roundHalfEven_mono h
  rwa [roundHalfEven_natCast] at this

/-- A positive magnitude in units of its last place, rounded. -/
def significand (q : ℚ) : ℕ := roundHalfEven (q / (2 : ℚ) ^ ulpExponent q)

/-- The exact value that rounding chooses, before it is checked for overflow. -/
def rounded (q : ℚ) : ℚ := if q = 0 then 0 else significand q * (2 : ℚ) ^ ulpExponent q

theorem ulpExponent_mono {p q : ℚ} (hp : 0 < p) (hpq : p ≤ q) : ulpExponent p ≤ ulpExponent q := by
  have := Int.log_mono_right (b := 2) hp hpq
  unfold ulpExponent
  omega

theorem significand_le (q : ℚ) : significand q ≤ 2 ^ 53 := by
  have hpow : (0 : ℚ) < (2 : ℚ) ^ ulpExponent q := by positivity
  refine roundHalfEven_le ?_
  rw [div_le_iff₀ hpow, Nat.cast_pow, Nat.cast_ofNat, ← zpow_natCast, ← zpow_add₀ (by norm_num)]
  have hlt := Int.lt_zpow_succ_log_self (b := 2) (by norm_num) q
  rw [Nat.cast_ofNat] at hlt
  refine hlt.le.trans (zpow_le_zpow_right₀ (by norm_num) ?_)
  unfold ulpExponent
  push_cast
  omega

theorem le_significand {q : ℚ} (hq : 0 < q) (he : -1074 < ulpExponent q) : 2 ^ 52 ≤ significand q := by
  have hpow : (0 : ℚ) < (2 : ℚ) ^ ulpExponent q := by positivity
  refine le_roundHalfEven ?_
  rw [le_div_iff₀ hpow, Nat.cast_pow, Nat.cast_ofNat, ← zpow_natCast, ← zpow_add₀ (by norm_num)]
  have hle := Int.zpow_log_le_self (b := 2) (by norm_num) hq
  rw [Nat.cast_ofNat] at hle
  refine le_trans (zpow_le_zpow_right₀ (by norm_num) ?_) hle
  unfold ulpExponent at he ⊢
  push_cast
  omega

theorem rounded_mono {p q : ℚ} (hp : 0 ≤ p) (hpq : p ≤ q) : rounded p ≤ rounded q := by
  unfold rounded
  by_cases hp0 : p = 0
  · rw [if_pos hp0]
    split
    · exact le_rfl
    · positivity
  have hp' : 0 < p := lt_of_le_of_ne hp (Ne.symm hp0)
  have hq' : 0 < q := hp'.trans_le hpq
  rw [if_neg hp0, if_neg hq'.ne']
  rcases (ulpExponent_mono hp' hpq).lt_or_eq with hlt | heq
  · -- the smaller magnitude rounds at most to the least one of the larger exponent
    calc (significand p : ℚ) * 2 ^ ulpExponent p
        ≤ (2 ^ 53 : ℕ) * 2 ^ ulpExponent p := by
          exact mul_le_mul_of_nonneg_right (by exact_mod_cast significand_le p) (by positivity)
      _ = 2 ^ (ulpExponent p + 53) := by rw [zpow_add₀ (by norm_num)]; push_cast; ring
      _ ≤ 2 ^ (ulpExponent q + 52) := zpow_le_zpow_right₀ (by norm_num) (by omega)
      _ = (2 ^ 52 : ℕ) * 2 ^ ulpExponent q := by rw [zpow_add₀ (by norm_num)]; push_cast; ring
      _ ≤ significand q * 2 ^ ulpExponent q := by
          have hmin : -1074 ≤ ulpExponent p := le_max_right _ _
          exact mul_le_mul_of_nonneg_right
            (by exact_mod_cast le_significand hq' (by omega)) (by positivity)
  · have hsig : significand p ≤ significand q := by
      unfold significand
      rw [heq]
      exact roundHalfEven_mono (by gcongr)
    rw [heq]
    exact mul_le_mul_of_nonneg_right (by exact_mod_cast hsig) (by positivity)

/-- A finite rounding has the rounded value. -/
theorem mag_of_roundMag {neg : Bool} {q : ℚ} {x : Finite64} (h : roundMag neg q = .finite x) :
    x.mag = rounded q ∧ x.neg = neg := by
  unfold roundMag at h
  unfold rounded
  split at h
  · next hq =>
    obtain rfl := PyFloat.finite.inj h
    rw [if_pos hq]
    exact ⟨by simp [Finite64.mag, Finite64.zero], rfl⟩
  · next hq =>
    dsimp only at h
    rw [if_neg hq]
    by_cases hm : roundHalfEven (q / (2 : ℚ) ^ ulpExponent q) = 2 ^ 53
    · rw [significand, hm]
      simp only [hm, if_true] at h
      split at h
      · obtain rfl := PyFloat.finite.inj h
        refine ⟨?_, rfl⟩
        rw [Finite64.mag, zpow_add₀ (by norm_num)]
        push_cast
        ring
      · cases h
    · rw [significand]
      simp only [hm, if_false] at h
      split at h
      · obtain rfl := PyFloat.finite.inj h
        exact ⟨rfl, rfl⟩
      · cases h

namespace Finite64

/-- Finite numbers are ordered by their values; the two zeros are equivalent. -/
instance : Preorder Finite64 := Preorder.lift toRat

instance : DecidableLE Finite64 := fun x y => inferInstanceAs (Decidable (x.toRat ≤ y.toRat))

theorem le_iff {x y : Finite64} : x ≤ y ↔ x.toRat ≤ y.toRat := Iff.rfl

theorem lt_iff {x y : Finite64} : x < y ↔ x.toRat < y.toRat := by
  rw [lt_iff_le_not_ge, le_iff, le_iff, not_le]
  exact ⟨fun h => h.2, fun h => ⟨h.le, h⟩⟩

instance : DecidableLT Finite64 := fun _ _ => decidable_of_iff _ lt_iff.symm

end Finite64

namespace PyFloat

/-- `-x`. -/
def neg : PyFloat → PyFloat
  | .finite x => .finite { x with neg := !x.neg }
  | .inf b => .inf (!b)
  | .nan => .nan

/-- `x - y`. -/
def sub (x y : PyFloat) : PyFloat := x.add y.neg

theorem toRat_of_ofRat {q : ℚ} {b : Bool} {x : Finite64} (h : ofRat q b = .finite x) :
    x.toRat = if q < 0 then -rounded (-q) else rounded q := by
  unfold ofRat at h
  split at h
  · next hq =>
    obtain rfl := PyFloat.finite.inj h
    subst hq
    cases b <;> simp [Finite64.toRat, Finite64.mag, Finite64.zero, rounded]
  · obtain ⟨hmag, hneg⟩ := mag_of_roundMag h
    rw [Finite64.toRat, hmag, hneg]
    split
    · next hlt =>
      rw [if_pos (by simpa using hlt), abs_of_neg (by simpa using hlt)]
    · next hlt =>
      rw [if_neg (by simpa using hlt), abs_of_nonneg (by simpa using hlt)]

theorem rounded_nonneg (q : ℚ) : 0 ≤ rounded q := by
  unfold rounded
  split
  · exact le_rfl
  · positivity

theorem ofRat_mono {p q : ℚ} {b c : Bool} {x y : Finite64} (hpq : p ≤ q) (hp : ofRat p b = .finite x)
    (hq : ofRat q c = .finite y) : x ≤ y := by
  rw [Finite64.le_iff, toRat_of_ofRat hp, toRat_of_ofRat hq]
  have hp0 := rounded_nonneg (-p)
  have hq0 := rounded_nonneg q
  split <;> split
  · have := rounded_mono (p := -q) (q := -p) (by linarith) (by linarith)
    linarith
  · linarith
  · linarith
  · exact rounded_mono (by linarith) hpq

theorem toRat_neg (x : Finite64) : ({ x with neg := !x.neg } : Finite64).toRat = -x.toRat := by
  unfold Finite64.toRat Finite64.mag
  cases x.neg <;> simp

theorem sub_finite (x y : Finite64) :
    ∃ b, (PyFloat.finite x).sub (.finite y) = ofRat (x.toRat - y.toRat) b := by
  refine ⟨x.neg && !y.neg, ?_⟩
  show ofRat _ _ = _
  rw [toRat_neg, sub_eq_add_neg]

/-- Subtraction is monotone in its first argument. -/
theorem sub_mono {x x' y a b : Finite64} (hx : x ≤ x') (ha : (PyFloat.finite x).sub (.finite y) = .finite a)
    (hb : (PyFloat.finite x').sub (.finite y) = .finite b) : a ≤ b := by
  obtain ⟨s, hs⟩ := sub_finite x y
  obtain ⟨t, ht⟩ := sub_finite x' y
  rw [hs] at ha
  rw [ht] at hb
  exact ofRat_mono (sub_le_sub_right (Finite64.le_iff.mp hx) _) ha hb

theorem sub_self_finite {x a : Finite64} (h : (PyFloat.finite x).sub (.finite x) = .finite a) :
    a.toRat = 0 := by
  obtain ⟨s, hs⟩ := sub_finite x x
  rw [hs] at h
  rw [toRat_of_ofRat h, sub_self]
  simp [rounded]

end PyFloat

end Iperf3Lib.Py
