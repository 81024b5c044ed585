import Mathlib.Data.List.Forall2
import Mathlib.Data.List.Perm.Basic
import Mathlib.Tactic.Common

/-!
# Sequences of fallible steps

A sequence succeeds exactly when each of its steps does.
-/

namespace Iperf3Lib

variable {ε α β : Type}

theorem ok_bind (a : α) (f : α → Except ε β) : (Except.ok a >>= f) = f a := rfl

theorem bind_eq_ok {x : Except ε α} {f : α → Except ε β} {b : β} :
    (x >>= f) = .ok b ↔ ∃ a, x = .ok a ∧ f a = .ok b := by
  cases x <;> simp [bind, Except.bind]

theorem bind_unit_eq_ok {x : Except ε Unit} {f : Unit → Except ε β} {b : β} :
    (x >>= f) = .ok b ↔ x = .ok () ∧ f () = .ok b := by
  cases x <;> simp [bind, Except.bind]

/-- A sequence fails where its first step or the rest behind it fails. -/
theorem bind_eq_error {x : Except ε α} {f : α → Except ε β} {e : ε} :
    (x >>= f) = .error e ↔ x = .error e ∨ ∃ a, x = .ok a ∧ f a = .error e := by
  cases x <;> simp [bind, Except.bind]

/-- A step without a value returns `()`. -/
theorem exists_unit {p : Unit → Prop} : (∃ u, p u) ↔ p () := ⟨fun ⟨_, h⟩ => h, fun h => ⟨(), h⟩⟩

theorem isOk_iff {x : Except ε α} : x.isOk = true ↔ ∃ a, x = .ok a := by
  cases x <;> simp [Except.isOk, Except.toBool]

theorem map_eq_ok {x : Except ε α} {f : α → β} {b : β} :
    x.map f = .ok b ↔ ∃ a, x = .ok a ∧ f a = b := by
  cases x <;> simp [Except.map]

/-- A mapped list is there when every item is. -/
theorem mapM_eq_ok {f : α → Except ε β} {xs : List α} {ys : List β} :
    xs.mapM f = .ok ys ↔ List.Forall₂ (fun x y => f x = .ok y) xs ys := by
  induction xs generalizing ys with
  | nil =>
    cases ys with
    | nil => simp [pure, Except.pure]
    | cons y ys => simp [pure, Except.pure]
  | cons x xs ih =>
    simp only [List.mapM_cons, bind_eq_ok, pure, Except.pure, Except.ok.injEq]
    constructor
    · rintro ⟨y, hy, ys', hys, rfl⟩
      exact .cons hy (ih.mp hys)
    · rintro (_ | ⟨hy, hys⟩)
      exact ⟨_, hy, _, ih.mpr hys, rfl⟩

/-- Related lists have related items at each position. -/
theorem forall₂_getElem? {R : α → β → Prop} {xs : List α} {ys : List β}
    (h : List.Forall₂ R xs ys) {i : ℕ} {x : α} (hx : xs[i]? = some x) :
    ∃ y, ys[i]? = some y ∧ R x y := by
  induction h generalizing i with
  | nil => cases hx
  | cons hxy _ ih =>
    cases i with
    | zero =>
      obtain rfl := Option.some.inj hx
      exact ⟨_, rfl, hxy⟩
    | succ i => exact ih hx

/-- Related lists have related items. -/
theorem exists_mem_of_forall₂ {R : α → β → Prop} {xs : List α} {ys : List β}
    (h : List.Forall₂ R xs ys) {x : α} (hx : x ∈ xs) : ∃ y ∈ ys, R x y := by
  obtain ⟨i, hi⟩ := List.mem_iff_getElem?.mp hx
  obtain ⟨y, hy, hxy⟩ := forall₂_getElem? h hi
  exact ⟨y, List.mem_of_getElem? hy, hxy⟩

/-- Related lists have the same image where related items do. -/
theorem map_eq_of_forall₂ {γ : Type} {R : α → β → Prop} {f : α → γ} {g : β → γ}
    (hR : ∀ x y, R x y → f x = g y) {xs : List α} {ys : List β} (h : List.Forall₂ R xs ys) :
    xs.map f = ys.map g := by
  induction h with
  | nil => rfl
  | cons hxy _ ih => rw [List.map_cons, List.map_cons, hR _ _ hxy, ih]

/-- A step that succeeds on what another one succeeded on, item by item. -/
theorem mapM_map_of_mapM {α' β' : Type} {f : α → Except ε β} {g : α' → Except ε β'} {a : α → α'}
    {b : β → β'} (hf : ∀ x y, f x = .ok y → g (a x) = .ok (b y)) {xs : List α} {ys : List β}
    (h : xs.mapM f = .ok ys) : (xs.map a).mapM g = .ok (ys.map b) := by
  rw [mapM_eq_ok] at h ⊢
  induction h with
  | nil => exact .nil
  | cons hxy _ ih => exact .cons (hf _ _ hxy) ih

/-- What came out of a mapped step. -/
theorem forall_of_mapM {f : α → Except ε β} {P : β → Prop} (hf : ∀ x y, f x = .ok y → P y)
    {xs : List α} {ys : List β} (h : xs.mapM f = .ok ys) : ∀ y ∈ ys, P y := by
  rw [mapM_eq_ok] at h
  induction h with
  | nil => simp
  | cons hxy _ ih => simpa using ⟨hf _ _ hxy, ih⟩

/-- Mapping the same items in another order gives the same results in another order. -/
theorem mapM_perm {f : α → Except ε β} {xs xs' : List α} (hperm : xs.Perm xs') {ys : List β}
    (h : xs.mapM f = .ok ys) : ∃ ys', xs'.mapM f = .ok ys' ∧ ys.Perm ys' := by
  obtain ⟨ys', hys', hperm'⟩ := List.perm_comp_forall₂ hperm.symm (mapM_eq_ok.mp h)
  exact ⟨ys', mapM_eq_ok.mpr hys', hperm'.symm⟩

theorem length_of_mapM {f : α → Except ε β} {xs : List α} {ys : List β}
    (h : xs.mapM f = .ok ys) : ys.length = xs.length := (mapM_eq_ok.mp h).length_eq.symm

/-- What every step of a loop keeps, told of the items in front of it, holds behind the loop. -/
theorem foldlM_induct {f : β → α → Except ε β} {P : List α → β → Prop}
    (hstep : ∀ front b a b', P front b → f b a = .ok b' → P (front ++ [a]) b') {xs : List α} {b b' : β}
    (hstart : P [] b) (h : xs.foldlM f b = .ok b') : P xs b' := by
  suffices hgeneral : ∀ rest front b, P front b → rest.foldlM f b = .ok b' → P (front ++ rest) b' from
    hgeneral xs [] b hstart h
  intro rest
  induction rest with
  | nil =>
    intro front b hfront hrest
    obtain rfl := Except.ok.inj hrest
    rwa [List.append_nil]
  | cons a rest ih =>
    intro front b hfront hrest
    rw [List.foldlM_cons] at hrest
    obtain ⟨next, hnext, hrest⟩ := bind_eq_ok.mp hrest
    have hafter := ih (front ++ [a]) next (hstep front b a next hfront hnext) hrest
    rwa [List.append_assoc] at hafter

/-! ## Steps side by side -/

/-- Where the first step succeeds, the second one does with a related value. -/
def Follows (R : α → β → Prop) (x : Except ε α) (y : Except ε β) : Prop :=
  ∀ a, x = .ok a → ∃ b, y = .ok b ∧ R a b

namespace Follows

variable {γ δ : Type} {R : α → β → Prop} {S : γ → δ → Prop}

theorem ok {a : α} {b : β} (h : R a b) : Follows R (.ok a : Except ε α) (.ok b) := by
  rintro _ ⟨⟩
  exact ⟨b, rfl, h⟩

theorem error {e : ε} {y : Except ε β} : Follows R (.error e) y := by
  rintro a ⟨⟩

theorem bind {x : Except ε α} {y : Except ε β} {f : α → Except ε γ} {g : β → Except ε δ}
    (h : Follows R x y) (hfg : ∀ a b, R a b → Follows S (f a) (g b)) :
    Follows S (x >>= f) (y >>= g) := by
  intro c hc
  obtain ⟨a, ha, hc⟩ := bind_eq_ok.mp hc
  obtain ⟨b, rfl, hR⟩ := h a ha
  exact hfg a b hR c hc

theorem map {x : Except ε α} {y : Except ε β} {f : α → γ} {g : β → δ} (h : Follows R x y)
    (hfg : ∀ a b, R a b → S (f a) (g b)) : Follows S (x.map f) (y.map g) := by
  intro c hc
  obtain ⟨a, ha, rfl⟩ := map_eq_ok.mp hc
  obtain ⟨b, rfl, hR⟩ := h a ha
  exact ⟨g b, rfl, hfg a b hR⟩

end Follows

end Iperf3Lib
