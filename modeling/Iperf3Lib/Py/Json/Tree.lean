import Iperf3Lib.Py.Json.Loaded

/-!
# The tree of a text

The tree of a text keeps every member of every object, repeated keys included. What a reader with
other hooks for objects makes of the text is what these hooks make of the tree, from its leaves up:
`loads_eq_rebuild`.
-/

namespace Iperf3Lib.Py.Json

mutual

/-- The value of a tree whose objects are made by `f`. -/
def rebuild (f : List (PyStr × PyVal) → Option PyVal) : PyVal → Option PyVal
  | .list xs => (rebuildItems f xs).map .list
  | .dict kvs => (rebuildPairs f kvs).bind f
  | v => some v

def rebuildItems (f : List (PyStr × PyVal) → Option PyVal) : List PyVal → Option (List PyVal)
  | [] => some []
  | x :: xs => (rebuild f x).bind fun y => (rebuildItems f xs).map (y :: ·)

def rebuildPairs (f : List (PyStr × PyVal) → Option PyVal) :
    List (PyStr × PyVal) → Option (List (PyStr × PyVal))
  | [] => some []
  | (k, v) :: kvs => (rebuild f v).bind fun w => (rebuildPairs f kvs).map ((k, w) :: ·)

end

theorem rebuildItems_eq_some {f : List (PyStr × PyVal) → Option PyVal} {xs ys : List PyVal} :
    rebuildItems f xs = some ys ↔ List.Forall₂ (fun x y => rebuild f x = some y) xs ys := by
  induction xs generalizing ys with
  | nil =>
    rw [rebuildItems, List.forall₂_nil_left_iff, Option.some.injEq, eq_comm]
  | cons x xs ih =>
    simp only [rebuildItems, Option.bind_eq_some_iff, Option.map_eq_some_iff, ih]
    constructor
    · rintro ⟨y, hy, ys', hys, rfl⟩
      exact .cons hy hys
    · rintro (_ | ⟨hy, hys⟩)
      exact ⟨_, hy, _, hys, rfl⟩

theorem rebuildPairs_eq_some {f : List (PyStr × PyVal) → Option PyVal}
    {kvs ws : List (PyStr × PyVal)} : rebuildPairs f kvs = some ws ↔
      List.Forall₂ (fun kv kw => kw.1 = kv.1 ∧ rebuild f kv.2 = some kw.2) kvs ws := by
  induction kvs generalizing ws with
  | nil =>
    rw [rebuildPairs, List.forall₂_nil_left_iff, Option.some.injEq, eq_comm]
  | cons kv kvs ih =>
    obtain ⟨k, v⟩ := kv
    simp only [rebuildPairs, Option.bind_eq_some_iff, Option.map_eq_some_iff, ih]
    constructor
    · rintro ⟨w, hw, ws', hws, rfl⟩
      exact .cons ⟨rfl, hw⟩ hws
    · rintro (_ | @⟨_, ⟨k', w⟩, _, ws', ⟨rfl, hw⟩, hws⟩)
      exact ⟨w, hw, ws', hws, rfl⟩

/-- No container. -/
def IsLeaf : PyVal → Prop
  | .list _ | .dict _ => False
  | _ => True

theorem rebuild_leaf {f : List (PyStr × PyVal) → Option PyVal} {v : PyVal} (h : IsLeaf v) :
    rebuild f v = some v := by
  cases v <;> first | rfl | exact h.elim

variable {ε ε' : Type} {g : Hooks ε} {h : Hooks ε'}

/-- The first hooks build the tree, and the second ones agree with them on its leaves. -/
structure Agrees (g : Hooks ε) (h : Hooks ε') : Prop where
  constant : ∀ c v, g.constant c = .ok v → h.constant c = .ok v ∧ IsLeaf v
  float : ∀ x v, g.float x = .ok v → h.float x = .ok v ∧ IsLeaf v
  int : ∀ n digits v, g.int n digits = .ok v → h.int n digits = .ok v ∧ IsLeaf v
  pairs : ∀ kvs, g.pairs kvs = .ok (.dict kvs)

/-- What the hooks make of an object, if they accept it. -/
def Hooks.object? (h : Hooks ε') (kvs : List (PyStr × PyVal)) : Option PyVal := (h.pairs kvs).toOption

theorem toOption_map {α β : Type} (x : Except ε α) (f : α → β) :
    (x.map f).toOption = x.toOption.map f := by
  cases x <;> rfl

theorem toOption_eq_some {α : Type} {x : Except ε α} {a : α} : x.toOption = some a ↔ x = .ok a := by
  cases x <;> simp [Except.toOption]

/-- Either both steps fail, or the first one returns what the second one determines. -/
theorem toOption_cases {α β : Type} {x : Except ε α} {o : Option β} {f : β → α}
    (hx : x.toOption = o.map f) : (∃ e, x = .error e ∧ o = none) ∨ ∃ b, o = some b ∧ x = .ok (f b) := by
  cases x with
  | error e => exact .inl ⟨e, rfl, Option.map_eq_none_iff.mp hx.symm⟩
  | ok a =>
    obtain ⟨b, hb, rfl⟩ := Option.map_eq_some_iff.mp hx.symm
    exact .inr ⟨b, hb, rfl⟩

/-- An atom is the same with both hooks. -/
theorem Agrees.scanAtom (ha : Agrees g h) {t r : PyStr} {v : PyVal}
    (ht : scanAtom g t = .ok (v, r)) : scanAtom h t = .ok (v, r) ∧ IsLeaf v := by
  have hpair : ∀ {x : Except ε PyVal} {y : Except ε' PyVal} {s : PyStr},
      (∀ w, x = .ok w → y = .ok w ∧ IsLeaf w) → x.map (·, s) = .ok (v, r) →
      y.map (·, s) = .ok (v, r) ∧ IsLeaf v := by
    intro x y s hxy hx
    obtain ⟨w, hw, heq⟩ := map_eq_ok.mp hx
    obtain ⟨hy, hleaf⟩ := hxy w hw
    obtain ⟨rfl, rfl⟩ := Prod.mk.inj heq
    exact ⟨by rw [hy]; rfl, hleaf⟩
  unfold Json.scanAtom at ht ⊢
  split at ht
  · cases ht
    exact ⟨rfl, trivial⟩
  · split at ht
    · cases ht
      exact ⟨rfl, trivial⟩
    · split at ht
      · cases ht
        exact ⟨rfl, trivial⟩
      · split at ht
        · exact hpair (ha.constant _) ht
        · split at ht
          · exact hpair (ha.constant _) ht
          · split at ht
            · exact hpair (ha.constant _) ht
            · split at ht
              · next n t' _ =>
                cases n with
                | int n digits => exact hpair (ha.int n digits) ht
                | float x => exact hpair (ha.float x) ht
              · cases ht

/-- Scanning with the second hooks gives what they make of the tree. -/
theorem Agrees.scan (ha : Agrees g h) (fuel : ℕ) :
    (∀ t v r, scanOnce g fuel t = .ok (v, r) →
      (scanOnce h fuel t).toOption = (rebuild h.object? v).map (·, r)) ∧
    (∀ t xs r, scanItems g fuel t = .ok (xs, r) →
      (scanItems h fuel t).toOption = (rebuildItems h.object? xs).map (·, r)) ∧
    (∀ t kvs r, scanPairs g fuel t = .ok (kvs, r) →
      (scanPairs h fuel t).toOption = (rebuildPairs h.object? kvs).map (·, r)) := by
  induction fuel with
  | zero =>
    refine ⟨fun t v r ht => ?_, fun t xs r ht => ?_, fun t kvs r ht => ?_⟩
    all_goals cases ht
  | succ fuel ih =>
    obtain ⟨honce, hitems, hpairs⟩ := ih
    refine ⟨fun t v r ht => ?_, fun t xs r ht => ?_, fun t kvs r ht => ?_⟩
    · unfold scanOnce at ht ⊢
      split at ht
      · split at ht
        · cases ht
          rfl
        · cases ht
      · split at ht
        · rw [ha.pairs] at ht
          cases ht
          exact toOption_map _ _
        · split at ht
          · next kvs t' hkvs =>
            rw [ha.pairs] at ht
            cases ht
            rw [rebuild]
            rcases toOption_cases (hpairs _ _ _ hkvs) with ⟨e, hx, hnone⟩ | ⟨ws, hws, hx⟩
            · rw [hx, hnone]
              rfl
            · rw [hx, hws]
              exact toOption_map _ _
          · cases ht
      · split at ht
        · cases ht
          rfl
        · split at ht
          · next xs t' hxs =>
            cases ht
            rw [rebuild]
            rcases toOption_cases (hitems _ _ _ hxs) with ⟨e, hx, hnone⟩ | ⟨ws, hws, hx⟩
            · rw [hx, hnone]
              rfl
            · rw [hx, hws]
              rfl
          · cases ht
      · obtain ⟨hatom, hleaf⟩ := ha.scanAtom ht
        rw [rebuild_leaf hleaf, hatom]
        rfl
    · unfold scanItems at ht ⊢
      split at ht
      · cases ht
      · next v t' hv =>
        have hhead := toOption_cases (honce _ _ _ hv)
        split at ht
        · next hclose =>
          cases ht
          rcases hhead with ⟨e, hx, hnone⟩ | ⟨w, hw, hx⟩
          · rw [hx, rebuildItems, hnone]
            rfl
          · rw [hx, rebuildItems, hw]
            simp only [hclose]
            rfl
        · next hcomma =>
          split at ht
          · next vs t'' hvs =>
            cases ht
            rcases hhead with ⟨e, hx, hnone⟩ | ⟨w, hw, hx⟩
            · rw [hx, rebuildItems, hnone]
              rfl
            · rw [hx, rebuildItems, hw]
              simp only [hcomma]
              rcases toOption_cases (hitems _ _ _ hvs) with ⟨e, hy, hnone⟩ | ⟨ws, hws, hy⟩
              · rw [hy, hnone]
                rfl
              · rw [hy, hws]
                rfl
          · cases ht
        · cases ht
    · unfold scanPairs at ht ⊢
      split at ht
      · split at ht
        · cases ht
        · split at ht
          · split at ht
            · cases ht
            · next v t' hv =>
              have hhead := toOption_cases (honce _ _ _ hv)
              split at ht
              · next hclose =>
                cases ht
                rcases hhead with ⟨e, hx, hnone⟩ | ⟨w, hw, hx⟩
                · rw [hx, rebuildPairs, hnone]
                  rfl
                · rw [hx, rebuildPairs, hw]
                  simp only [hclose]
                  rfl
              · next hcomma =>
                split at ht
                · next kvs' t'' hkvs =>
                  cases ht
                  rcases hhead with ⟨e, hx, hnone⟩ | ⟨w, hw, hx⟩
                  · rw [hx, rebuildPairs, hnone]
                    rfl
                  · rw [hx, rebuildPairs, hw]
                    simp only [hcomma]
                    rcases toOption_cases (hpairs _ _ _ hkvs) with ⟨e, hy, hnone⟩ | ⟨ws, hws, hy⟩
                    · rw [hy, hnone]
                      rfl
                    · rw [hy, hws]
                      rfl
                · cases ht
              · cases ht
          · cases ht
      · cases ht

/-- Reading with the second hooks gives what they make of the tree. -/
theorem Agrees.loads (ha : Agrees g h) {t : PyStr} {tree : PyVal} (ht : loads g t = .ok tree) :
    (loads h t).toOption = rebuild h.object? tree := by
  unfold Json.loads at ht ⊢
  split at ht
  · cases ht
  · next hmark =>
    rw [if_neg hmark]
    split at ht
    · cases ht
    · next v r hv =>
      split at ht
      · next hrest =>
        cases ht
        rcases toOption_cases ((ha.scan _).1 _ _ _ hv) with ⟨e, hx, hnone⟩ | ⟨w, hw, hx⟩
        · rw [hx, hnone]
          rfl
        · rw [hx, hw]
          simp only [hrest, if_true]
          rfl
      · cases ht

end Iperf3Lib.Py.Json
