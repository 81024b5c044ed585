import Iperf3Lib.General.Except
import Iperf3Lib.Py.Json.Scan

/-!
# The JSON writer

`json.dumps` with the layouts the library uses. `reads_dump` shows by induction over the value that
what is written is read back as `asJson v`: the same value with its tuples as lists.
-/

namespace Iperf3Lib.Py

namespace PyVal

mutual

/-- What a value becomes on its way through JSON: tuples read back as lists. -/
def asJson : PyVal → PyVal
  | .list xs => .list (asJsonItems xs)
  | .tuple xs => .list (asJsonItems xs)
  | .dict kvs => .dict (asJsonPairs kvs)
  | v => v

def asJsonItems : List PyVal → List PyVal
  | [] => []
  | x :: xs => asJson x :: asJsonItems xs

def asJsonPairs : List (PyStr × PyVal) → List (PyStr × PyVal)
  | [] => []
  | (k, v) :: kvs => (k, asJson v) :: asJsonPairs kvs

end

mutual

/-- The predicate holds of every value inside a value, itself and its keys included. -/
def All (P : PyVal → Prop) : PyVal → Prop
  | .list xs => P (.list xs) ∧ AllItems P xs
  | .tuple xs => P (.tuple xs) ∧ AllItems P xs
  | .dict kvs => P (.dict kvs) ∧ AllPairs P kvs
  | v => P v

def AllItems (P : PyVal → Prop) : List PyVal → Prop
  | [] => True
  | x :: xs => All P x ∧ AllItems P xs

def AllPairs (P : PyVal → Prop) : List (PyStr × PyVal) → Prop
  | [] => True
  | (k, v) :: kvs => P (.str k) ∧ All P v ∧ AllPairs P kvs

end

theorem asJsonItems_eq (xs : List PyVal) : asJsonItems xs = xs.map asJson := by
  induction xs with
  | nil => rfl
  | cons x xs ih => rw [asJsonItems, ih, List.map_cons]

theorem asJsonPairs_eq (kvs : List (PyStr × PyVal)) :
    asJsonPairs kvs = kvs.map fun kv => (kv.1, asJson kv.2) := by
  induction kvs with
  | nil => rfl
  | cons kv kvs ih => rw [asJsonPairs, ih, List.map_cons]

@[simp] theorem keys_asJsonPairs (kvs : List (PyStr × PyVal)) :
    PyDict.keys (asJsonPairs kvs) = PyDict.keys kvs := by
  simp [asJsonPairs_eq, PyDict.keys]

theorem All.self {P : PyVal → Prop} {v : PyVal} (h : All P v) : P v := by
  cases v <;> first | exact h.1 | exact h

theorem allItems_iff {P : PyVal → Prop} {xs : List PyVal} :
    AllItems P xs ↔ ∀ x ∈ xs, All P x := by
  induction xs with
  | nil => simp [AllItems]
  | cons x xs ih => simp [AllItems, ih]

theorem allPairs_iff {P : PyVal → Prop} {kvs : List (PyStr × PyVal)} :
    AllPairs P kvs ↔ ∀ kv ∈ kvs, P (.str kv.1) ∧ All P kv.2 := by
  induction kvs with
  | nil => simp [AllPairs]
  | cons kv kvs ih => obtain ⟨k, v⟩ := kv; simp [AllPairs, ih, and_assoc]

/-- Predicates that hold inside a value combine. -/
theorem All.and {P Q R : PyVal → Prop} (h : ∀ v, P v → Q v → R v) {v : PyVal} (hp : All P v)
    (hq : All Q v) : All R v := by
  induction v with
  | list xs ih =>
    exact ⟨h _ hp.1 hq.1, allItems_iff.mpr fun x hx =>
      ih x hx (allItems_iff.mp hp.2 x hx) (allItems_iff.mp hq.2 x hx)⟩
  | tuple xs ih =>
    exact ⟨h _ hp.1 hq.1, allItems_iff.mpr fun x hx =>
      ih x hx (allItems_iff.mp hp.2 x hx) (allItems_iff.mp hq.2 x hx)⟩
  | dict kvs ih =>
    refine ⟨h _ hp.1 hq.1, allPairs_iff.mpr fun kv hkv => ?_⟩
    have hp' := allPairs_iff.mp hp.2 kv hkv
    have hq' := allPairs_iff.mp hq.2 kv hkv
    exact ⟨h _ hp'.1 hq'.1, ih kv hkv hp'.2 hq'.2⟩
  | _ => exact h _ hp hq

end PyVal

namespace Json

/-- The white space of `json.dumps`: after brackets and commas by the nesting depth, and after
colons. -/
structure Layout where
  ensureAscii : Bool
  /-- After an opening bracket and before a closing one. -/
  brk : ℕ → PyStr
  comma : ℕ → PyStr
  colon : PyStr
  ws_brk : ∀ d, Ws (brk d)
  ws_comma : ∀ d, Ws (comma d)
  ws_colon : Ws colon

/-- `ensure_ascii=False, separators=(",", ":")`. -/
def Layout.compact : Layout := ⟨false, fun _ => [], fun _ => [], [], fun _ => .nil, fun _ => .nil, .nil⟩

/-- What a `json.dumps` call raises, and the interpreter's limit on decimal digits. -/
structure Faults (ε : Type) where
  /-- `allow_nan=False`. -/
  nonfinite : ε
  /-- The class is not JSON serializable. -/
  unsupported : String → ε
  /-- The integer exceeds the limit for its conversion to a string. -/
  digits : ε
  /-- `sys.get_int_max_str_digits()`. -/
  maxStrDigits : ℕ

variable {ε : Type}

/-- `json.dumps` of a scalar, which the codec also calls by itself. -/
def dumpAtom (F : Faults ε) : PyVal → Except ε PyStr
  | .none => .ok ("null" : String)
  | .bool b => .ok ((if b then "true" else "false" : String) : PyStr)
  | .int n =>
    if (Nat.toDigits 10 n.natAbs).length ≤ F.maxStrDigits then .ok ((intRepr n).map .scalar)
    else .error F.digits
  | .float (.finite x) => .ok ((floatRepr x).map .scalar)
  | .float _ => .error F.nonfinite
  | v => .error (F.unsupported v.typeName)

mutual

/-- `json.dumps` at a nesting depth. -/
def dump (L : Layout) (F : Faults ε) : ℕ → PyVal → Except ε PyStr
  | _, .str s => .ok (dumpStr L.ensureAscii s)
  | d, .list xs =>
    if xs.isEmpty then .ok ("[]" : String) else do
      let body ← dumpItems L F d xs
      return .scalar '[' :: (L.brk (d + 1) ++ body)
  | d, .tuple xs =>
    if xs.isEmpty then .ok ("[]" : String) else do
      let body ← dumpItems L F d xs
      return .scalar '[' :: (L.brk (d + 1) ++ body)
  | d, .dict kvs =>
    if kvs.isEmpty then .ok ("{}" : String) else do
      let body ← dumpPairs L F d kvs
      return .scalar '{' :: (L.brk (d + 1) ++ body)
  | _, v => dumpAtom F v

/-- The items of an array and its closing bracket. -/
def dumpItems (L : Layout) (F : Faults ε) : ℕ → List PyVal → Except ε PyStr
  | d, [] => .ok (L.brk d ++ [.scalar ']'])
  | d, x :: xs => do
    let t ← dump L F (d + 1) x
    let rest ← dumpItems L F d xs
    return t ++ (if xs.isEmpty then rest else .scalar ',' :: (L.comma (d + 1) ++ rest))

/-- The members of an object and its closing brace. -/
def dumpPairs (L : Layout) (F : Faults ε) : ℕ → List (PyStr × PyVal) → Except ε PyStr
  | d, [] => .ok (L.brk d ++ [.scalar '}'])
  | d, (k, v) :: kvs => do
    let t ← dump L F (d + 1) v
    let rest ← dumpPairs L F d kvs
    return .scalar '"' :: (escapeStr L.ensureAscii k ++ .scalar '"' :: .scalar ':' :: (L.colon ++
      (t ++ (if kvs.isEmpty then rest else .scalar ',' :: (L.comma (d + 1) ++ rest)))))

end

/-- The reader's side of the writer's faults: what the writer accepts the hooks build. -/
structure Accepts (h : Hooks ε) (F : Faults ε) : Prop where
  int : ∀ n digits, digits ≤ F.maxStrDigits → h.int n digits = .ok (.int n)
  float : ∀ x, h.float (.finite x) = .ok (.float (.finite x))
  pairs : ∀ kvs : PyDict, kvs.keys.Nodup → h.pairs kvs = .ok (.dict kvs)

/-- What the layout needs of one value: distinct keys and strings that survive their escaping. -/
def Faithful (L : Layout) : PyVal → Prop
  | .str s => ReadsStr s (escapeStr L.ensureAscii s)
  | .dict kvs => (PyDict.keys kvs).Nodup
  | _ => True

section Reads

variable {h : Hooks ε} {F : Faults ε} {L : Layout}

theorem reads_dumpAtom (ha : Accepts h F) {v : PyVal} {t : PyStr} (ht : dumpAtom F v = .ok t) :
    Reads h v t := by
  cases v with
  | none => cases ht; exact .none
  | bool b => cases ht; exact .bool b
  | int n =>
    simp only [dumpAtom] at ht
    split at ht
    · next hn =>
      cases ht
      exact .int (ha.int n _ hn)
    · cases ht
  | float x =>
    cases x with
    | finite x => cases ht; exact .float (ha.float x)
    | inf _ => cases ht
    | nan => cases ht
  | _ => cases ht

/-- The items of an array, from what each is read as. -/
theorem reads_dumpItems {g : PyVal → PyVal} {d : ℕ} {xs : List PyVal} (hne : xs ≠ [])
    (ih : ∀ x ∈ xs, ∀ d t, dump L F d x = .ok t → Reads h (g x) t) {t : PyStr}
    (ht : dumpItems L F d xs = .ok t) : ReadsItems h (xs.map g) t := by
  induction xs generalizing t with
  | nil => exact absurd rfl hne
  | cons x xs ihx =>
    simp only [dumpItems, bind_eq_ok, pure, Except.pure, Except.ok.injEq] at ht
    obtain ⟨tx, htx, rest, hrest, rfl⟩ := ht
    have hx := ih x List.mem_cons_self _ _ htx
    by_cases hxs : xs = []
    · subst hxs
      cases hrest
      exact .last hx (L.ws_brk d)
    · rw [if_neg (by simpa using hxs)]
      exact .cons hx (L.ws_comma _)
        (ihx hxs (fun y hy => ih y (List.mem_cons_of_mem _ hy)) hrest)

/-- The members of an object, from what each name and each value is read as. -/
theorem reads_dumpPairs {f : PyStr → PyStr} {g : PyVal → PyVal} {d : ℕ}
    {kvs : List (PyStr × PyVal)} (hne : kvs ≠ [])
    (hf : ∀ kv ∈ kvs, ReadsStr (f kv.1) (escapeStr L.ensureAscii kv.1))
    (ih : ∀ kv ∈ kvs, ∀ d t, dump L F d kv.2 = .ok t → Reads h (g kv.2) t) {t : PyStr}
    (ht : dumpPairs L F d kvs = .ok t) :
    ReadsPairs h (kvs.map fun kv => (f kv.1, g kv.2)) t := by
  induction kvs generalizing t with
  | nil => exact absurd rfl hne
  | cons kv kvs ihk =>
    obtain ⟨k, v⟩ := kv
    simp only [dumpPairs, bind_eq_ok, pure, Except.pure, Except.ok.injEq] at ht
    obtain ⟨tv, htv, rest, hrest, rfl⟩ := ht
    have hk := hf (k, v) List.mem_cons_self
    have hv := ih (k, v) List.mem_cons_self _ _ htv
    by_cases hkvs : kvs = []
    · subst hkvs
      cases hrest
      exact .last hk L.ws_colon hv (L.ws_brk d)
    · rw [if_neg (by simpa using hkvs)]
      exact .cons hk L.ws_colon hv (L.ws_comma _)
        (ihk hkvs (fun kv hkv => hf kv (List.mem_cons_of_mem _ hkv))
          (fun kv hkv => ih kv (List.mem_cons_of_mem _ hkv)) hrest)

/-- An array, from its items. -/
theorem reads_dumpList {d : ℕ} {xs ys : List PyVal} {t : PyStr} (hnil : xs = [] → ys = [])
    (hi : xs ≠ [] → ∀ t, dumpItems L F d xs = .ok t → ReadsItems h ys t)
    (ht : (if xs.isEmpty then .ok ("[]" : String) else do
      let body ← dumpItems L F d xs
      return .scalar '[' :: (L.brk (d + 1) ++ body)) = Except.ok t) :
    Reads h (.list ys) t := by
  by_cases hxs : xs = []
  · rw [hnil hxs]
    subst hxs
    cases ht
    exact .emptyList
  · rw [if_neg (by simpa using hxs)] at ht
    simp only [bind_eq_ok, pure, Except.pure, Except.ok.injEq] at ht
    obtain ⟨body, hbody, rfl⟩ := ht
    exact .list (L.ws_brk _) (hi hxs _ hbody)

/-- An object, from its members. -/
theorem reads_dumpDict {d : ℕ} {kvs kvs' : List (PyStr × PyVal)} {t : PyStr}
    (hnil : kvs = [] → kvs' = [])
    (hi : kvs ≠ [] → ∀ t, dumpPairs L F d kvs = .ok t → ReadsPairs h kvs' t)
    (hpairs : h.pairs kvs' = .ok (.dict kvs')) (ht : dump L F d (.dict kvs) = .ok t) :
    Reads h (.dict kvs') t := by
  simp only [dump] at ht
  by_cases hkvs : kvs = []
  · rw [hnil hkvs] at hpairs ⊢
    subst hkvs
    cases ht
    exact .emptyDict hpairs
  · rw [if_neg (by simpa using hkvs)] at ht
    simp only [bind_eq_ok, pure, Except.pure, Except.ok.injEq] at ht
    obtain ⟨body, hbody, rfl⟩ := ht
    exact .dict (L.ws_brk _) (hi hkvs _ hbody) hpairs

/-- What the writer writes is read back, tuples as lists. -/
theorem reads_dump (ha : Accepts h F) {v : PyVal} (hv : v.All (Faithful L)) {d : ℕ} {t : PyStr}
    (ht : dump L F d v = .ok t) : Reads h v.asJson t := by
  induction v generalizing d t with
  | str s => cases ht; exact .str hv
  | list xs ih =>
    rw [PyVal.asJson, PyVal.asJsonItems_eq]
    exact reads_dumpList (fun hxs => by rw [hxs, List.map_nil]) (fun hne t => reads_dumpItems hne
      fun x hx d t => ih x hx (PyVal.allItems_iff.mp hv.2 x hx)) ht
  | tuple xs ih =>
    rw [PyVal.asJson, PyVal.asJsonItems_eq]
    exact reads_dumpList (fun hxs => by rw [hxs, List.map_nil]) (fun hne t => reads_dumpItems hne
      fun x hx d t => ih x hx (PyVal.allItems_iff.mp hv.2 x hx)) ht
  | dict kvs ih =>
    have hall := PyVal.allPairs_iff.mp hv.2
    have hpairs := ha.pairs (PyVal.asJsonPairs kvs) (by rw [PyVal.keys_asJsonPairs]; exact hv.1)
    rw [PyVal.asJson]
    rw [PyVal.asJsonPairs_eq] at hpairs ⊢
    exact reads_dumpDict (fun hkvs => by rw [hkvs, List.map_nil])
      (fun hne t => reads_dumpPairs (f := id) hne (fun kv hkv => (hall kv hkv).1)
        fun kv hkv d t => ih kv hkv (hall kv hkv).2) hpairs ht
  | none | bool | int | float => exact reads_dumpAtom ha ht
  | obj cls fields => cases ht

end Reads

end Json

end Iperf3Lib.Py
