import Iperf3Lib.Py.Float

/-!
# Python numbers

A value annotated `float` may be an `int`. Python compares the two exactly, by their values.
-/

namespace Iperf3Lib.Py

/-- An `int` or a `float`. -/
inductive PyNum where
  | int (n : ℤ)
  | float (x : PyFloat)
deriving DecidableEq

namespace PyNum

/-- The value of a finite number. -/
def value? : PyNum → Option ℚ
  | .int n => some n
  | .float (.finite x) => some x.toRat
  | .float _ => none

/-- `math.isfinite(x)`, false where it raises `OverflowError`. -/
def isFinite : PyNum → Bool
  | .int n => (PyFloat.ofInt n).isFinite
  | .float x => x.isFinite

/-- `x < 0`. -/
def isNeg : PyNum → Bool
  | .int n => n < 0
  | .float x => x.lt (.finite (.zero false))

/-- `x == y`. -/
def eq : PyNum → PyNum → Bool
  | .float (.inf a), .float (.inf b) => a = b
  | x, y =>
    match x.value?, y.value? with
    | some p, some q => p = q
    | _, _ => false

/-- `x < y`. -/
def lt : PyNum → PyNum → Bool
  | .float x, .float y => x.lt y
  | .float (.inf neg), .int _ => neg
  | .int _, .float (.inf neg) => !neg
  | x, y =>
    match x.value?, y.value? with
    | some p, some q => decide (p < q)
    | _, _ => false

/-- Numbers with a value are compared by it. -/
theorem lt_of_value? {x y : PyNum} {p q : ℚ} (hx : x.value? = some p) (hy : y.value? = some q) :
    x.lt y = decide (p < q) := by
  cases x with
  | int m =>
    cases y with
    | int n =>
      cases hx
      cases hy
      rfl
    | float y =>
      cases y <;> cases hy
      cases hx
      rfl
  | float x =>
    cases x <;> cases hx
    cases y with
    | int n =>
      cases hy
      rfl
    | float y =>
      cases y <;> cases hy
      rfl

/-- `min(x, y)`. -/
def min (x y : PyNum) : PyNum := if y.lt x then y else x

/-- `x * k`. -/
def mulNat : PyNum → ℕ → PyNum
  | .int n, k => .int (n * k)
  | .float x, k => .float (x.mul (.ofInt k))

theorem isSome_value?_of_isFinite {x : PyNum} (h : x.isFinite = true) : x.value?.isSome = true := by
  cases x with
  | int n => rfl
  | float x => cases x <;> first | rfl | cases h

theorem eq_refl {x : PyNum} (h : x.value?.isSome = true) : x.eq x = true := by
  cases x with
  | int n => simp [eq, value?]
  | float x =>
    cases x with
    | nan => cases h
    | _ => simp [eq, value?]

/-- Equality of optional numbers. -/
def eq? : Option PyNum → Option PyNum → Bool
  | none, none => true
  | some x, some y => x.eq y
  | _, _ => false

theorem eq?_refl {x : Option PyNum} (h : ∀ y ∈ x, y.value?.isSome = true) : eq? x x = true := by
  cases x with
  | none => rfl
  | some x => exact eq_refl (h x rfl)

end PyNum

end Iperf3Lib.Py
