import Iperf3Lib.Exceptions
import Iperf3Lib.Py.FloatOrder
import Iperf3Lib.Py.Num
import Iperf3Lib.Py.Value

/-!
# Arithmetic on floats

Division, `math.isclose` and the extreme of a sequence. Adding or subtracting a zero changes at most
the sign of a zero.
-/

namespace Iperf3Lib.Py

/-- `value == n`. -/
def equalsInt (n : ℤ) : PyVal → Bool
  | .bool b => (if b then 1 else 0) = n
  | .int m => m = n
  | .float x => (PyNum.float x).eq (.int n)
  | _ => false

namespace PyFloat

/-- `x == y`. -/
def eq (x y : PyFloat) : Bool := (PyNum.float x).eq (.float y)

/-- `x <= y`. -/
def le (x y : PyFloat) : Bool := x.lt y || x.eq y

/-- `abs(x)`. -/
def abs : PyFloat → PyFloat
  | .finite x => .finite { x with neg := false }
  | .inf _ => .inf false
  | .nan => .nan

/-- `math.isinf`. -/
def isInf : PyFloat → Bool
  | .inf _ => true
  | _ => false

/-- `math.isclose(a, b, rel_tol=…, abs_tol=…)`. -/
def isclose (a b relTol absTol : PyFloat) : Bool :=
  if a.eq b then true
  else if a.isInf || b.isInf then false
  else
    let diff := (b.sub a).abs
    diff.le (relTol.mul b).abs || diff.le (relTol.mul a).abs || diff.le absTol

end PyFloat

namespace Finite64

/-- `x / y`. -/
def div (x y : Finite64) : Except Exc PyFloat :=
  if y.m = 0 then .error ⟨.zeroDivisionError, "float division by zero"⟩
  else .ok (PyFloat.ofRat (x.toRat / y.toRat) (x.neg != y.neg))

/-- `max(x, *xs)`. -/
def maximum (x : Finite64) (xs : List Finite64) : Finite64 :=
  xs.foldl (fun m y => if m < y then y else m) x

/-- `min(x, *xs)`. -/
def minimum (x : Finite64) (xs : List Finite64) : Finite64 :=
  xs.foldl (fun m y => if y < m then y else m) x

theorem maximum_spec (x : Finite64) (xs : List Finite64) :
    maximum x xs ∈ x :: xs ∧ ∀ y ∈ x :: xs, y.toRat ≤ (maximum x xs).toRat := by
  induction xs generalizing x with
  | nil => simp [maximum]
  | cons y ys ih =>
    have hstep : maximum x (y :: ys) = maximum (if x < y then y else x) ys := rfl
    obtain ⟨hmem, hle⟩ := ih (if x < y then y else x)
    have hfirst := hle _ List.mem_cons_self
    rw [hstep]
    by_cases hxy : x < y
    · rw [if_pos hxy] at hmem hle hfirst ⊢
      refine ⟨List.mem_cons_of_mem _ hmem, ?_⟩
      rw [List.forall_mem_cons]
      exact ⟨(lt_iff.mp hxy).le.trans hfirst, hle⟩
    · rw [if_neg hxy] at hmem hle hfirst ⊢
      rw [lt_iff, not_lt] at hxy
      rw [List.forall_mem_cons] at hle
      refine ⟨?_, List.forall_mem_cons.mpr ⟨hfirst, List.forall_mem_cons.mpr
        ⟨hxy.trans hfirst, hle.2⟩⟩⟩
      rcases List.mem_cons.mp hmem with h | h
      · rw [h]
        exact List.mem_cons_self
      · exact List.mem_cons_of_mem _ (List.mem_cons_of_mem _ h)

theorem minimum_spec (x : Finite64) (xs : List Finite64) :
    minimum x xs ∈ x :: xs ∧ ∀ y ∈ x :: xs, (minimum x xs).toRat ≤ y.toRat := by
  induction xs generalizing x with
  | nil => simp [minimum]
  | cons y ys ih =>
    have hstep : minimum x (y :: ys) = minimum (if y < x then y else x) ys := rfl
    obtain ⟨hmem, hle⟩ := ih (if y < x then y else x)
    have hfirst := hle _ List.mem_cons_self
    rw [hstep]
    by_cases hyx : y < x
    · rw [if_pos hyx] at hmem hle hfirst ⊢
      refine ⟨List.mem_cons_of_mem _ hmem, ?_⟩
      rw [List.forall_mem_cons]
      exact ⟨hfirst.trans (lt_iff.mp hyx).le, hle⟩
    · rw [if_neg hyx] at hmem hle hfirst ⊢
      rw [lt_iff, not_lt] at hyx
      rw [List.forall_mem_cons] at hle
      refine ⟨?_, List.forall_mem_cons.mpr ⟨hfirst, List.forall_mem_cons.mpr
        ⟨hfirst.trans hyx, hle.2⟩⟩⟩
      rcases List.mem_cons.mp hmem with h | h
      · rw [h]
        exact List.mem_cons_self
      · exact List.mem_cons_of_mem _ (List.mem_cons_of_mem _ h)

/-- The largest value does not depend on the order. -/
theorem maximum_toRat_congr {x y : Finite64} {xs ys : List Finite64} (h : (x :: xs).Perm (y :: ys)) :
    (maximum x xs).toRat = (maximum y ys).toRat := by
  obtain ⟨hx, hxle⟩ := maximum_spec x xs
  obtain ⟨hy, hyle⟩ := maximum_spec y ys
  exact le_antisymm (hyle _ (h.mem_iff.mp hx)) (hxle _ (h.mem_iff.mpr hy))

theorem minimum_toRat_congr {x y : Finite64} {xs ys : List Finite64} (h : (x :: xs).Perm (y :: ys)) :
    (minimum x xs).toRat = (minimum y ys).toRat := by
  obtain ⟨hx, hxle⟩ := minimum_spec x xs
  obtain ⟨hy, hyle⟩ := minimum_spec y ys
  exact le_antisymm (hxle _ (h.mem_iff.mpr hy)) (hyle _ (h.mem_iff.mp hx))

end Finite64

/-! ## Zeros -/

namespace PyFloat

/-- A representable value is not rounded. -/
theorem ofRat_toRat (x : Finite64) (b : Bool) :
    ∃ y, ofRat x.toRat b = .finite y ∧ y.toRat = x.toRat := by
  by_cases hm : x.m = 0
  · have hzero : x.toRat = 0 := by rw [Finite64.eq_zero hm, Finite64.toRat_zero]
    exact ⟨.zero b, by rw [ofRat, if_pos hzero], by rw [Finite64.toRat_zero, hzero]⟩
  have hpos := Finite64.mag_pos hm
  refine ⟨x, ?_, rfl⟩
  cases hneg : x.neg with
  | false =>
    have hvalue : x.toRat = x.mag := by rw [Finite64.toRat, hneg]; rfl
    rw [hvalue, ofRat, if_neg hpos.ne', abs_of_pos hpos, decide_eq_false hpos.not_gt, ← hneg,
      roundMag_mag]
  | true =>
    have hvalue : x.toRat = -x.mag := by rw [Finite64.toRat, hneg]; rfl
    rw [hvalue, ofRat, if_neg (neg_ne_zero.mpr hpos.ne'), abs_neg, abs_of_pos hpos,
      decide_eq_true (neg_lt_zero.mpr hpos), ← hneg, roundMag_mag]

theorem add_of_toRat_zero {x z : Finite64} (hz : z.toRat = 0) :
    ∃ y, (PyFloat.finite x).add (.finite z) = .finite y ∧ y.toRat = x.toRat := by
  show ∃ y, ofRat (x.toRat + z.toRat) _ = .finite y ∧ _
  rw [hz, add_zero]
  exact ofRat_toRat x (x.neg && z.neg)

theorem sub_of_toRat_zero {x z : Finite64} (hz : z.toRat = 0) :
    ∃ y, (PyFloat.finite x).sub (.finite z) = .finite y ∧ y.toRat = x.toRat :=
  add_of_toRat_zero (by rw [toRat_neg, hz, neg_zero])

end PyFloat

end Iperf3Lib.Py
