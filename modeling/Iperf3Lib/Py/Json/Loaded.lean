import Iperf3Lib.Py.Json.Dump

/-!
# What the reader builds

A property that the hooks establish of every value they return holds throughout whatever `loads`
returns, and one of every exception they raise holds of whatever `loads` raises. The digits of an
integer are never fewer than those that write it again.
-/

namespace Iperf3Lib.Py.Json

open PyVal

variable {ε : Type} {h : Hooks ε} {P : PyVal → Prop}

/-! ## Digits -/

theorem allDigits_takeDigits (t : PyStr) : AllDigits (takeDigits t).1 := by
  induction t with
  | nil => exact fun _ hc => by cases hc
  | cons c t ih =>
    cases c with
    | surrogate n => exact fun _ hc => by cases hc
    | scalar c =>
      rw [takeDigits]
      by_cases hc : c.isDigit = true
      · rw [if_pos hc]
        intro d hd
        rcases List.mem_cons.mp hd with rfl | hd
        · exact hc
        · exact ih d hd
      · rw [if_neg hc]
        exact fun _ hd => by cases hd

/-- The integer part of a number is a nonempty run of digits. -/
theorem digits_of_intPart {t r : PyStr} {ds : List Char} (ht : intPart t = some (ds, r)) :
    AllDigits ds ∧ ds ≠ [] := by
  unfold intPart at ht
  split at ht
  · cases ht
    refine ⟨fun c hc => ?_, List.cons_ne_nil _ _⟩
    rw [List.mem_singleton.mp hc]
    rfl
  · split at ht
    · cases ht
    · next hne =>
      have hds : (takeDigits t).1 = ds := congrArg Prod.fst (Option.some.inj ht)
      exact ⟨hds ▸ allDigits_takeDigits _, hds ▸ hne⟩

/-- An integer is written with at most the digits it was read from. -/
theorem length_toDigits_of_scanNumber {t r : PyStr} {n : ℤ} {digits : ℕ}
    (ht : scanNumber t = some (.int n digits, r)) :
    (Nat.toDigits 10 n.natAbs).length ≤ digits := by
  unfold scanNumber at ht
  dsimp only at ht
  split at ht
  · cases ht
  · next ds t' hint =>
    obtain ⟨hdigits, hne⟩ := digits_of_intPart hint
    have hnumber := congrArg Prod.fst (Option.some.inj ht)
    dsimp only at hnumber
    unfold numberOf at hnumber
    split at hnumber
    · obtain ⟨hn, rfl⟩ := Number.int.inj hnumber
      have habs : n.natAbs = Nat.ofDigitChars 10 ds 0 := by
        rw [← hn]
        split <;> omega
      rw [habs, Nat.length_toDigits_le_iff (by decide) (List.length_pos_iff.mpr hne)]
      exact ofDigitChars_lt hdigits
    · cases hnumber

/-! ## Values -/

/-- What the hooks return satisfies the predicate throughout, given that what they are handed does. -/
structure Builds (h : Hooks ε) (P : PyVal → Prop) : Prop where
  none : P .none
  bool : ∀ b, P (.bool b)
  str : ∀ s, P (.str s)
  list : ∀ xs, P (.list xs)
  constant : ∀ c v, h.constant c = .ok v → v.All P
  float : ∀ x v, h.float x = .ok v → v.All P
  int : ∀ n digits v, (Nat.toDigits 10 n.natAbs).length ≤ digits → h.int n digits = .ok v → v.All P
  pairs : ∀ kvs v, AllPairs P kvs → h.pairs kvs = .ok v → v.All P

theorem map_pair_eq_ok {x : Except ε PyVal} {t r : PyStr} {v : PyVal}
    (hx : x.map (·, t) = .ok (v, r)) : x = .ok v := by
  obtain ⟨w, hw, heq⟩ := map_eq_ok.mp hx
  rw [hw, (Prod.mk.inj heq).1]

theorem Builds.scanAtom (hb : Builds h P) {t r : PyStr} {v : PyVal}
    (ht : scanAtom h t = .ok (v, r)) : v.All P := by
  unfold Json.scanAtom at ht
  split at ht
  · cases ht
    exact hb.none
  · split at ht
    · cases ht
      exact hb.bool true
    · split at ht
      · cases ht
        exact hb.bool false
      · split at ht
        · exact hb.constant _ _ (map_pair_eq_ok ht)
        · split at ht
          · exact hb.constant _ _ (map_pair_eq_ok ht)
          · split at ht
            · exact hb.constant _ _ (map_pair_eq_ok ht)
            · split at ht
              · next n t' hnumber =>
                have hv := map_pair_eq_ok ht
                cases n with
                | int n digits => exact hb.int n digits v (length_toDigits_of_scanNumber hnumber) hv
                | float x => exact hb.float x v hv
              · cases ht

/-- Everything the scanner builds satisfies the predicate. -/
theorem Builds.scan (hb : Builds h P) (fuel : ℕ) :
    (∀ t v r, scanOnce h fuel t = .ok (v, r) → v.All P) ∧
    (∀ t xs r, scanItems h fuel t = .ok (xs, r) → AllItems P xs) ∧
    (∀ t kvs r, scanPairs h fuel t = .ok (kvs, r) → AllPairs P kvs) := by
  induction fuel with
  | zero =>
    refine ⟨fun t v r ht => ?_, fun t xs r ht => ?_, fun t kvs r ht => ?_⟩
    · cases ht
    · cases ht
    · cases ht
  | succ fuel ih =>
    obtain ⟨honce, hitems, hpairs⟩ := ih
    refine ⟨fun t v r ht => ?_, fun t xs r ht => ?_, fun t kvs r ht => ?_⟩
    · unfold scanOnce at ht
      split at ht
      · split at ht
        · cases ht
          exact hb.str _
        · cases ht
      · split at ht
        · exact hb.pairs [] v trivial (map_pair_eq_ok ht)
        · split at ht
          · next kvs t' hkvs => exact hb.pairs kvs v (hpairs _ _ _ hkvs) (map_pair_eq_ok ht)
          · cases ht
      · split at ht
        · cases ht
          exact ⟨hb.list [], trivial⟩
        · split at ht
          · next xs t' hxs =>
            cases ht
            exact ⟨hb.list xs, hitems _ _ _ hxs⟩
          · cases ht
      · exact hb.scanAtom ht
    · unfold scanItems at ht
      split at ht
      · cases ht
      · next v t' hv =>
        have hall := honce _ _ _ hv
        split at ht
        · cases ht
          exact ⟨hall, trivial⟩
        · split at ht
          · next vs t'' hvs =>
            cases ht
            exact ⟨hall, hitems _ _ _ hvs⟩
          · cases ht
        · cases ht
    · unfold scanPairs at ht
      split at ht
      · split at ht
        · cases ht
        · split at ht
          · split at ht
            · cases ht
            · next v t' hv =>
              have hall := honce _ _ _ hv
              split at ht
              · cases ht
                exact ⟨hb.str _, hall, trivial⟩
              · split at ht
                · next kvs' t'' hkvs =>
                  cases ht
                  exact ⟨hb.str _, hall, hpairs _ _ _ hkvs⟩
                · cases ht
              · cases ht
          · cases ht
      · cases ht

/-- Everything that is read satisfies the predicate. -/
theorem Builds.loads (hb : Builds h P) {t : PyStr} {v : PyVal} (ht : loads h t = .ok v) :
    v.All P := by
  unfold Json.loads at ht
  split at ht
  · cases ht
  · split at ht
    · cases ht
    · next v' r hv =>
      split at ht
      · cases ht
        exact (hb.scan _).1 _ _ _ hv
      · cases ht

/-! ## Exceptions -/

/-- Whatever the hooks raise satisfies the predicate. -/
structure Raises (h : Hooks ε) (Q : ε → Prop) : Prop where
  malformed : Q h.malformed
  constant : ∀ c e, h.constant c = .error e → Q e
  float : ∀ x e, h.float x = .error e → Q e
  int : ∀ n digits e, h.int n digits = .error e → Q e
  pairs : ∀ kvs e, h.pairs kvs = .error e → Q e

variable {Q : ε → Prop}

theorem map_pair_eq_error {x : Except ε PyVal} {t : PyStr} {e : ε}
    (hx : x.map (·, t) = .error e) : x = .error e := by
  cases x with
  | error e' =>
    cases hx
    rfl
  | ok v => cases hx

theorem Raises.scanAtom (hr : Raises h Q) {t : PyStr} {e : ε} (ht : scanAtom h t = .error e) :
    Q e := by
  unfold Json.scanAtom at ht
  split at ht
  · cases ht
  · split at ht
    · cases ht
    · split at ht
      · cases ht
      · split at ht
        · exact hr.constant _ _ (map_pair_eq_error ht)
        · split at ht
          · exact hr.constant _ _ (map_pair_eq_error ht)
          · split at ht
            · exact hr.constant _ _ (map_pair_eq_error ht)
            · split at ht
              · next n t' hnumber =>
                cases n with
                | int n digits => exact hr.int n digits e (map_pair_eq_error ht)
                | float x => exact hr.float x e (map_pair_eq_error ht)
              · cases ht
                exact hr.malformed

/-- Everything the scanner raises satisfies the predicate. -/
theorem Raises.scan (hr : Raises h Q) (fuel : ℕ) :
    (∀ t e, scanOnce h fuel t = .error e → Q e) ∧
    (∀ t e, scanItems h fuel t = .error e → Q e) ∧
    (∀ t e, scanPairs h fuel t = .error e → Q e) := by
  induction fuel with
  | zero =>
    refine ⟨fun t e ht => ?_, fun t e ht => ?_, fun t e ht => ?_⟩
    all_goals
      cases ht
      exact hr.malformed
  | succ fuel ih =>
    obtain ⟨honce, hitems, hpairs⟩ := ih
    refine ⟨fun t e ht => ?_, fun t e ht => ?_, fun t e ht => ?_⟩
    · unfold scanOnce at ht
      split at ht
      · split at ht
        · cases ht
        · cases ht
          exact hr.malformed
      · split at ht
        · exact hr.pairs _ _ (map_pair_eq_error ht)
        · split at ht
          · exact hr.pairs _ _ (map_pair_eq_error ht)
          · next e' he =>
            cases ht
            exact hpairs _ _ he
      · split at ht
        · cases ht
        · split at ht
          · cases ht
          · next e' he =>
            cases ht
            exact hitems _ _ he
      · exact hr.scanAtom ht
    · unfold scanItems at ht
      split at ht
      · next e' he =>
        cases ht
        exact honce _ _ he
      · split at ht
        · cases ht
        · split at ht
          · cases ht
          · next e' he =>
            cases ht
            exact hitems _ _ he
        · cases ht
          exact hr.malformed
    · unfold scanPairs at ht
      split at ht
      · split at ht
        · cases ht
          exact hr.malformed
        · split at ht
          · split at ht
            · next e' he =>
              cases ht
              exact honce _ _ he
            · split at ht
              · cases ht
              · split at ht
                · cases ht
                · next e' he =>
                  cases ht
                  exact hpairs _ _ he
              · cases ht
                exact hr.malformed
          · cases ht
            exact hr.malformed
      · cases ht
        exact hr.malformed

/-- Everything that `loads` raises satisfies the predicate. -/
theorem Raises.loads (hr : Raises h Q) {t : PyStr} {e : ε} (ht : loads h t = .error e) : Q e := by
  unfold Json.loads at ht
  split at ht
  · cases ht
    exact hr.malformed
  · split at ht
    · next e' he =>
      cases ht
      exact (hr.scan _).1 _ _ he
    · split at ht
      · cases ht
      · cases ht
        exact hr.malformed

end Iperf3Lib.Py.Json
