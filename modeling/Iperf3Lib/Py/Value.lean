import Iperf3Lib.Py.Str
import Iperf3Lib.Py.Float

/-!
# Python values

The values that cross the codecs of the library: JSON scalars and containers, tuples, and instances
of a dataclass, named by its class. A dictionary is the list of its items in insertion order and its
keys are strings; a value of any other type is an `obj` of that class without fields, which every
codec refuses by its class.
-/

namespace Iperf3Lib.Py

inductive PyVal where
  | none
  | bool (b : Bool)
  | int (n : ℤ)
  | float (x : PyFloat)
  | str (s : PyStr)
  | list (xs : List PyVal)
  | tuple (xs : List PyVal)
  | dict (kvs : List (PyStr × PyVal))
  | obj (cls : String) (fields : List (PyStr × PyVal))

instance : Inhabited PyVal := ⟨.none⟩

namespace PyVal

/-- Induction over a value with the hypothesis for every member of a container. -/
@[elab_as_elim, induction_eliminator]
theorem induction {P : PyVal → Prop} (none : P .none) (bool : ∀ b, P (.bool b))
    (int : ∀ n, P (.int n)) (float : ∀ x, P (.float x)) (str : ∀ s, P (.str s))
    (list : ∀ xs, (∀ x ∈ xs, P x) → P (.list xs))
    (tuple : ∀ xs, (∀ x ∈ xs, P x) → P (.tuple xs))
    (dict : ∀ kvs, (∀ kv ∈ kvs, P kv.2) → P (.dict kvs))
    (obj : ∀ cls fields, (∀ kv ∈ fields, P kv.2) → P (.obj cls fields)) (v : PyVal) : P v :=
  PyVal.rec (motive_2 := fun xs => ∀ x ∈ xs, P x) (motive_3 := fun kvs => ∀ kv ∈ kvs, P kv.2)
    (motive_4 := fun kv => P kv.2) none bool int float str list tuple dict obj
    (by simp) (fun _ _ hx hxs => by simpa using ⟨hx, hxs⟩)
    (by simp) (fun _ _ hx hxs => by simpa using ⟨hx, by simpa using hxs⟩) (fun _ _ h => h) v

/-- `type(v).__name__`. -/
def typeName : PyVal → String
  | .none => "NoneType"
  | .bool _ => "bool"
  | .int _ => "int"
  | .float _ => "float"
  | .str _ => "str"
  | .list _ => "list"
  | .tuple _ => "tuple"
  | .dict _ => "dict"
  | .obj cls _ => cls

/-! ### Deciding equality -/

mutual

/-- Whether two values are the same. -/
def same : PyVal → PyVal → Bool
  | .none, .none => true
  | .bool a, .bool b => a = b
  | .int m, .int n => m = n
  | .float x, .float y => x = y
  | .str s, .str t => s = t
  | .list xs, .list ys => sameItems xs ys
  | .tuple xs, .tuple ys => sameItems xs ys
  | .dict xs, .dict ys => samePairs xs ys
  | .obj a xs, .obj b ys => a = b && samePairs xs ys
  | _, _ => false

def sameItems : List PyVal → List PyVal → Bool
  | [], [] => true
  | x :: xs, y :: ys => same x y && sameItems xs ys
  | _, _ => false

def samePairs : List (PyStr × PyVal) → List (PyStr × PyVal) → Bool
  | [], [] => true
  | (j, x) :: xs, (k, y) :: ys => j = k && (same x y && samePairs xs ys)
  | _, _ => false

end

theorem sameItems_iff {xs ys : List PyVal} (ih : ∀ x ∈ xs, ∀ y, same x y = true ↔ x = y) :
    sameItems xs ys = true ↔ xs = ys := by
  induction xs generalizing ys with
  | nil => cases ys <;> simp [sameItems]
  | cons x xs ihxs =>
    cases ys with
    | nil => simp [sameItems]
    | cons y ys =>
      rw [sameItems, Bool.and_eq_true, ih x List.mem_cons_self,
        ihxs fun x hx => ih x (List.mem_cons_of_mem _ hx), List.cons.injEq]

theorem samePairs_iff {xs ys : List (PyStr × PyVal)}
    (ih : ∀ kv ∈ xs, ∀ y, same kv.2 y = true ↔ kv.2 = y) : samePairs xs ys = true ↔ xs = ys := by
  induction xs generalizing ys with
  | nil => cases ys <;> simp [samePairs]
  | cons kv xs ihxs =>
    obtain ⟨j, x⟩ := kv
    cases ys with
    | nil => simp [samePairs]
    | cons kw ys =>
      obtain ⟨k, y⟩ := kw
      rw [samePairs, Bool.and_eq_true, Bool.and_eq_true, ih (j, x) List.mem_cons_self,
        ihxs fun x hx => ih x (List.mem_cons_of_mem _ hx), decide_eq_true_eq, List.cons.injEq,
        Prod.mk.injEq, and_assoc]

theorem same_iff (v : PyVal) : ∀ w, same v w = true ↔ v = w := by
  induction v with
  | list xs ih => intro w; cases w <;> simp [same, sameItems_iff ih]
  | tuple xs ih => intro w; cases w <;> simp [same, sameItems_iff ih]
  | dict kvs ih => intro w; cases w <;> simp [same, samePairs_iff ih]
  | obj cls fields ih => intro w; cases w <;> simp [same, samePairs_iff ih]
  | none | bool | int | float | str => intro w; cases w <;> simp [same]

instance : DecidableEq PyVal := fun v w => decidable_of_iff _ (same_iff v w)

end PyVal

/-! ## Dictionaries -/

/-- A Python dictionary with string keys, in insertion order. -/
abbrev PyDict := List (PyStr × PyVal)

namespace PyDict

/-- `d.get(key)`, absent as Lean's `none`. -/
def get? : PyDict → PyStr → Option PyVal
  | [], _ => .none
  | (k, v) :: d, key => if k = key then some v else get? d key

/-- `d.keys()`. -/
def keys (d : PyDict) : List PyStr := d.map Prod.fst

/-- `d[key] = v`, in place for a known key and at the end for a new one. -/
def set : PyDict → PyStr → PyVal → PyDict
  | [], key, v => [(key, v)]
  | (k, w) :: d, key, v => if k = key then (k, v) :: d else (k, w) :: set d key v

/-- `{**d, **e}`. -/
def update (d e : PyDict) : PyDict := e.foldl (fun d kv => set d kv.1 kv.2) d

@[simp] theorem get?_nil (key : PyStr) : get? [] key = .none := rfl

@[simp] theorem get?_cons_self (d : PyDict) (key : PyStr) (v : PyVal) :
    get? ((key, v) :: d) key = some v := by simp [get?]

theorem get?_cons (d : PyDict) (k key : PyStr) (v : PyVal) :
    get? ((k, v) :: d) key = if k = key then some v else get? d key := rfl

@[simp] theorem get?_cons_ne (d : PyDict) {k key : PyStr} (h : k ≠ key) (v : PyVal) :
    get? ((k, v) :: d) key = get? d key := by simp [get?, h]

/-- A key is present exactly when the lookup succeeds. -/
theorem get?_isSome {d : PyDict} {key : PyStr} : (get? d key).isSome ↔ key ∈ keys d := by
  induction d with
  | nil => simp [keys]
  | cons kv d ih =>
    obtain ⟨k, v⟩ := kv
    rw [get?_cons]
    split
    · next h => simp [keys, h]
    · next h => simp [keys, ih, Ne.symm h]

theorem get?_eq_none {d : PyDict} {key : PyStr} : get? d key = .none ↔ key ∉ keys d := by
  rw [← get?_isSome, Bool.not_eq_true, Option.isSome_eq_false_iff, Option.isNone_iff_eq_none]

theorem mem_of_get? {d : PyDict} {key : PyStr} {v : PyVal} (h : get? d key = some v) :
    (key, v) ∈ d := by
  induction d with
  | nil => simp at h
  | cons kv d ih =>
    obtain ⟨k, w⟩ := kv
    rw [get?_cons] at h
    split at h
    · next hk => simp_all
    · exact List.mem_cons_of_mem _ (ih h)

/-- With distinct keys an item is what the lookup finds. -/
theorem get?_of_mem {d : PyDict} (hd : (keys d).Nodup) {key : PyStr} {v : PyVal}
    (h : (key, v) ∈ d) : get? d key = some v := by
  induction d with
  | nil => simp at h
  | cons kv d ih =>
    obtain ⟨k, w⟩ := kv
    simp only [keys, List.map_cons, List.nodup_cons] at hd
    rcases List.mem_cons.mp h with heq | hmem
    · obtain ⟨rfl, rfl⟩ := Prod.mk.inj heq
      exact get?_cons_self _ _ _
    · have hne : k ≠ key := by
        rintro rfl
        exact hd.1 (List.mem_map_of_mem (f := Prod.fst) hmem)
      rw [get?_cons_ne _ hne, ih hd.2 hmem]

/-- Assigning a key that is absent appends the item. -/
theorem set_of_not_mem {d : PyDict} {key : PyStr} (h : key ∉ keys d) (v : PyVal) :
    set d key v = d ++ [(key, v)] := by
  induction d with
  | nil => rfl
  | cons kv d ih =>
    obtain ⟨k, w⟩ := kv
    simp only [keys, List.map_cons, List.mem_cons, not_or] at h
    simp [set, Ne.symm h.1, ih h.2]

theorem get?_set (d : PyDict) (k key : PyStr) (v : PyVal) :
    get? (set d k v) key = if k = key then some v else get? d key := by
  induction d with
  | nil => rfl
  | cons kv d ih =>
    obtain ⟨k', w⟩ := kv
    rw [set]
    by_cases hk : k' = k
    · rw [if_pos hk, get?_cons, get?_cons, hk]
      split <;> rfl
    · rw [if_neg hk, get?_cons, get?_cons, ih]
      by_cases hkey : k' = key
      · rw [if_pos hkey, if_pos hkey, if_neg fun h => hk (hkey.trans h.symm)]
      · rw [if_neg hkey, if_neg hkey]

/-- Updating with new, distinct keys appends the items. -/
theorem update_of_disjoint {d e : PyDict} (he : (keys e).Nodup)
    (h : ∀ key ∈ keys e, key ∉ keys d) : update d e = d ++ e := by
  induction e generalizing d with
  | nil => simp [update]
  | cons kv e ih =>
    obtain ⟨k, v⟩ := kv
    simp only [keys, List.map_cons, List.nodup_cons, List.mem_cons, forall_eq_or_imp] at he h
    have hstep : update d ((k, v) :: e) = update (set d k v) e := rfl
    rw [hstep, set_of_not_mem h.1, ih he.2]
    · simp
    · intro key hkey
      simp only [keys, List.map_append, List.map_cons, List.map_nil, List.mem_append,
        List.mem_singleton, not_or]
      exact ⟨h.2 key hkey, fun heq => he.1 (heq ▸ hkey)⟩

/-- `d[key]` when it is an `int` and no `bool`. -/
def int? (d : PyDict) (key : PyStr) : Option ℤ :=
  match d.get? key with
  | some (.int n) => some n
  | _ => none

/-- `d[key]` when it is a `str`. -/
def str? (d : PyDict) (key : PyStr) : Option PyStr :=
  match d.get? key with
  | some (.str s) => some s
  | _ => none

theorem get?_append (d e : PyDict) (key : PyStr) :
    get? (d ++ e) key = (get? d key).or (get? e key) := by
  induction d with
  | nil => rfl
  | cons kv d ih =>
    obtain ⟨k, v⟩ := kv
    rw [List.cons_append, get?_cons, get?_cons]
    split
    · rfl
    · exact ih

end PyDict

end Iperf3Lib.Py
