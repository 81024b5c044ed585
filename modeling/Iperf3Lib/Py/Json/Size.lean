import Iperf3Lib.Py.Json.Dump

/-!
# The size of a text

`textSize` is the number of bytes of the compact text of a value. It is a sum over the value, so that
the size of an object is known from the sizes of its members.
-/

namespace Iperf3Lib.Py

/-- The length of the UTF-8 form of a string. -/
def PyStr.utf8Len (s : PyStr) : ℕ :=
  (s.map fun
    | .scalar c => c.utf8Size
    | .surrogate _ => 3).sum

namespace PyStr

@[simp] theorem utf8Len_nil : utf8Len [] = 0 := rfl

@[simp] theorem utf8Len_scalar (c : Char) (s : PyStr) :
    utf8Len (.scalar c :: s) = c.utf8Size + utf8Len s := rfl

@[simp] theorem utf8Len_append (s t : PyStr) : utf8Len (s ++ t) = utf8Len s + utf8Len t := by
  rw [utf8Len, List.map_append, List.sum_append]
  rfl

/-- A string that encodes has as many bytes as its length says. -/
theorem length_utf8Encode {s : PyStr} {b : List UInt8} (h : s.utf8Encode = some b) :
    b.length = utf8Len s := by
  simp only [utf8Encode, Option.map_eq_some_iff] at h
  obtain ⟨cs, hcs, rfl⟩ := h
  rw [toChars?_eq_some] at hcs
  subst hcs
  induction cs with
  | nil => rfl
  | cons c cs ih =>
    rw [List.flatMap_cons, List.length_append, ih, String.length_utf8EncodeChar, List.map_cons,
      utf8Len_scalar]

end PyStr

namespace Json

/-- The size of a string with its quotes. -/
def strSize (s : PyStr) : ℕ := (escapeStr false s).utf8Len + 2

mutual

/-- The size of the compact text of a value. -/
def textSize : PyVal → ℕ
  | .none => 4
  | .bool b => if b then 4 else 5
  | .int n => PyStr.utf8Len ((intRepr n).map .scalar)
  | .float (.finite x) => PyStr.utf8Len ((floatRepr x).map .scalar)
  | .float _ => 0
  | .str s => strSize s
  | .list xs => 2 + (xs.length - 1) + itemsSize xs
  | .tuple xs => 2 + (xs.length - 1) + itemsSize xs
  | .dict kvs => 2 + (kvs.length - 1) + pairsSize kvs
  | .obj _ _ => 0

/-- The sizes of the items without their commas. -/
def itemsSize : List PyVal → ℕ
  | [] => 0
  | x :: xs => textSize x + itemsSize xs

/-- The sizes of the members without their commas. -/
def pairsSize : List (PyStr × PyVal) → ℕ
  | [] => 0
  | (k, v) :: kvs => strSize k + 1 + textSize v + pairsSize kvs

end

theorem itemsSize_eq (xs : List PyVal) : itemsSize xs = (xs.map textSize).sum := by
  induction xs with
  | nil => rfl
  | cons x xs ih => rw [itemsSize, ih, List.map_cons, List.sum_cons]

theorem pairsSize_eq (kvs : PyDict) :
    pairsSize kvs = (kvs.map fun kv => strSize kv.1 + 1 + textSize kv.2).sum := by
  induction kvs with
  | nil => rfl
  | cons kv kvs ih => rw [pairsSize, ih, List.map_cons, List.sum_cons]

theorem textSize_cons (k : PyStr) (v : PyVal) (kvs : PyDict) (hne : kvs ≠ []) :
    textSize (.dict ((k, v) :: kvs)) = strSize k + 2 + textSize v + textSize (.dict kvs) := by
  have hlength := List.length_pos_iff.mpr hne
  simp only [textSize, pairsSize, List.length_cons]
  omega

/-- The order of the members does not matter. -/
theorem textSize_perm {d e : PyDict} (h : d.Perm e) : textSize (.dict d) = textSize (.dict e) := by
  simp only [textSize, pairsSize_eq, h.length_eq, (h.map _).sum_eq]

theorem textSize_le_of_mem {d : PyDict} {kv : PyStr × PyVal} (h : kv ∈ d) :
    textSize kv.2 ≤ textSize (.dict d) := by
  have hle := List.le_sum_of_mem (List.mem_map_of_mem (f := fun kv : PyStr × PyVal =>
    strSize kv.1 + 1 + textSize kv.2) h)
  rw [← pairsSize_eq] at hle
  simp only [textSize]
  omega

/-- A new member adds its own text. -/
theorem textSize_set_le (d : PyDict) (k : PyStr) (v : PyVal) :
    textSize (.dict (PyDict.set d k v)) ≤ textSize (.dict d) + strSize k + 2 + textSize v := by
  have hset : ∀ d : PyDict, (PyDict.set d k v).length ≤ d.length + 1 ∧
      pairsSize (PyDict.set d k v) ≤ pairsSize d + strSize k + 1 + textSize v := by
    intro d
    induction d with
    | nil => simp [PyDict.set, pairsSize]
    | cons kv d ih =>
      obtain ⟨k', w⟩ := kv
      rw [PyDict.set]
      split
      · next hk =>
        rw [hk]
        simp only [List.length_cons, pairsSize]
        omega
      · simp only [List.length_cons, pairsSize]
        omega
  have := hset d
  simp only [textSize]
  omega

/-- A member that takes the place of another one changes the size by the difference. -/
theorem textSize_set_of_get? {d : PyDict} {k : PyStr} {w : PyVal} (h : d.get? k = some w)
    (v : PyVal) :
    textSize (.dict (PyDict.set d k v)) + textSize w = textSize (.dict d) + textSize v := by
  have hset : ∀ d : PyDict, d.get? k = some w → (PyDict.set d k v).length = d.length ∧
      pairsSize (PyDict.set d k v) + textSize w = pairsSize d + textSize v := by
    intro d hd
    induction d with
    | nil => cases hd
    | cons kv d ih =>
      obtain ⟨k', w'⟩ := kv
      rw [PyDict.get?_cons] at hd
      rw [PyDict.set]
      by_cases hk : k' = k
      · rw [if_pos hk] at hd ⊢
        cases hd
        simp only [List.length_cons, pairsSize, true_and]
        omega
      · rw [if_neg hk] at hd ⊢
        have := ih hd
        simp only [List.length_cons, pairsSize]
        omega
  have := hset d h
  simp only [textSize]
  omega

theorem textSize_concat (xs : List PyVal) (x : PyVal) :
    textSize (.list (xs ++ [x])) ≤ textSize (.list xs) + 1 + textSize x := by
  simp only [textSize, itemsSize_eq, List.map_append, List.sum_append, List.length_append,
    List.map_singleton, List.sum_singleton, List.length_singleton]
  omega

variable {ε : Type} {F : Faults ε}

theorem utf8Len_dumpAtom {v : PyVal} {t : PyStr} (ht : dumpAtom F v = .ok t) :
    t.utf8Len = textSize v := by
  cases v with
  | none =>
    cases ht
    decide
  | bool b =>
    cases ht
    cases b <;> decide
  | int n =>
    simp only [dumpAtom] at ht
    split at ht
    · cases ht
      rfl
    · cases ht
  | float x =>
    cases x with
    | finite x =>
      cases ht
      rfl
    | inf | nan => cases ht
  | str | list | tuple | dict | obj => cases ht

/-- The size of a nonempty array, from its items. -/
theorem utf8Len_dumpItems {xs : List PyVal} (hne : xs ≠ [])
    (hxs : ∀ x ∈ xs, ∀ d t, dump .compact F d x = .ok t → t.utf8Len = textSize x) {d : ℕ} {t : PyStr}
    (ht : dumpItems .compact F d xs = .ok t) : t.utf8Len = 1 + (xs.length - 1) + itemsSize xs := by
  induction xs generalizing t with
  | nil => exact absurd rfl hne
  | cons x xs ih =>
    simp only [dumpItems, bind_eq_ok, pure, Except.pure, Except.ok.injEq] at ht
    obtain ⟨tx, htx, rest, hrest, rfl⟩ := ht
    have hx := hxs x List.mem_cons_self _ _ htx
    by_cases hnil : xs = []
    · subst hnil
      cases hrest
      rw [PyStr.utf8Len_append, hx, itemsSize, itemsSize]
      exact Nat.add_comm _ _
    · have hlength := List.length_pos_iff.mpr hnil
      have hrest := ih hnil (fun y hy => hxs y (List.mem_cons_of_mem _ hy)) hrest
      rw [if_neg (by simpa using hnil), PyStr.utf8Len_append, hx, itemsSize, List.length_cons]
      change _ + (1 + rest.utf8Len) = _
      omega

/-- The size of a nonempty object, from its members. -/
theorem utf8Len_dumpPairs {kvs : PyDict} (hne : kvs ≠ [])
    (hkvs : ∀ kv ∈ kvs, ∀ d t, dump .compact F d kv.2 = .ok t → t.utf8Len = textSize kv.2) {d : ℕ}
    {t : PyStr} (ht : dumpPairs .compact F d kvs = .ok t) :
    t.utf8Len = 1 + (kvs.length - 1) + pairsSize kvs := by
  induction kvs generalizing t with
  | nil => exact absurd rfl hne
  | cons kv kvs ih =>
    obtain ⟨k, v⟩ := kv
    simp only [dumpPairs, bind_eq_ok, pure, Except.pure, Except.ok.injEq] at ht
    obtain ⟨tv, htv, rest, hrest, rfl⟩ := ht
    have hv : tv.utf8Len = textSize v := hkvs (k, v) List.mem_cons_self _ _ htv
    have hmember : ∀ u : PyStr, PyStr.utf8Len (.scalar '"' :: (escapeStr false k ++ .scalar '"' ::
        .scalar ':' :: ([] ++ (tv ++ u)))) = strSize k + 1 + textSize v + u.utf8Len := by
      intro u
      rw [PyStr.utf8Len_scalar, PyStr.utf8Len_append, PyStr.utf8Len_scalar, PyStr.utf8Len_scalar,
        List.nil_append, PyStr.utf8Len_append, hv]
      change 1 + ((escapeStr false k).utf8Len + (1 + (1 + _))) = (escapeStr false k).utf8Len + 2 + _ + _ + _
      omega
    by_cases hnil : kvs = []
    · subst hnil
      cases hrest
      exact (hmember _).trans (Nat.add_comm _ _)
    · have hlength := List.length_pos_iff.mpr hnil
      have hrest := ih hnil (fun kv hkv => hkvs kv (List.mem_cons_of_mem _ hkv)) hrest
      rw [if_neg (by simpa using hnil)]
      refine (hmember _).trans ?_
      change _ + (1 + rest.utf8Len) = 1 + (kvs.length + 1 - 1) +
        (strSize k + 1 + textSize v + pairsSize kvs)
      omega

theorem utf8Len_array {xs : List PyVal} {d : ℕ} {t : PyStr}
    (hxs : ∀ x ∈ xs, ∀ d t, dump .compact F d x = .ok t → t.utf8Len = textSize x)
    (ht : (if xs.isEmpty then .ok ("[]" : String) else do
      let body ← dumpItems .compact F d xs
      return .scalar '[' :: ([] ++ body)) = Except.ok t) :
    t.utf8Len = 2 + (xs.length - 1) + itemsSize xs := by
  by_cases hnil : xs = []
  · subst hnil
    cases ht
    decide
  · rw [if_neg (by simpa using hnil)] at ht
    simp only [bind_eq_ok, pure, Except.pure, Except.ok.injEq] at ht
    obtain ⟨body, hbody, rfl⟩ := ht
    have hbody := utf8Len_dumpItems hnil hxs hbody
    change 1 + body.utf8Len = _
    omega

/-- The compact text of a value has the size that its parts add up to. -/
theorem utf8Len_dump {v : PyVal} {d : ℕ} {t : PyStr} (ht : dump .compact F d v = .ok t) :
    t.utf8Len = textSize v := by
  induction v generalizing d t with
  | str s =>
    cases ht
    change 1 + PyStr.utf8Len (escapeStr false s ++ [.scalar '"']) = (escapeStr false s).utf8Len + 2
    rw [PyStr.utf8Len_append]
    exact Nat.add_comm _ _
  | list xs ih => exact utf8Len_array (fun x hx d t => ih x hx) ht
  | tuple xs ih => exact utf8Len_array (fun x hx d t => ih x hx) ht
  | dict kvs ih =>
    simp only [dump] at ht
    by_cases hnil : kvs = []
    · subst hnil
      cases ht
      decide
    · rw [if_neg (by simpa using hnil)] at ht
      simp only [bind_eq_ok, pure, Except.pure, Except.ok.injEq] at ht
      obtain ⟨body, hbody, rfl⟩ := ht
      have hbody := utf8Len_dumpPairs hnil (fun kv hkv d t => ih kv hkv) hbody
      change 1 + body.utf8Len = 2 + (kvs.length - 1) + pairsSize kvs
      omega
  | none | bool | int | float => exact utf8Len_dumpAtom (F := F) ht
  | obj cls fields => cases ht

/-! ## Scalars -/

/-- Strings hold no surrogates. -/
def ScalarStr : PyVal → Prop
  | .str s => s.isScalar = true
  | _ => True

theorem isScalar_ws {w : PyStr} (hw : Ws w) : w.isScalar = true := by
  refine List.all_eq_true.mpr fun c hc => ?_
  have := hw c hc
  cases c with
  | scalar c => rfl
  | surrogate n => cases this

theorem isScalar_dumpAtom {v : PyVal} {t : PyStr} (ht : dumpAtom F v = .ok t) :
    t.isScalar = true := by
  cases v with
  | none =>
    cases ht
    rfl
  | bool b =>
    cases ht
    exact PyStr.isScalar_ofString _
  | int n =>
    simp only [dumpAtom] at ht
    split at ht
    · cases ht
      exact PyStr.isScalar_map_scalar _
    · cases ht
  | float x =>
    cases x with
    | finite x =>
      cases ht
      exact PyStr.isScalar_map_scalar _
    | inf | nan => cases ht
  | str | list | tuple | dict | obj => cases ht

theorem isScalar_dumpItems {L : Layout} {xs : List PyVal}
    (hxs : ∀ x ∈ xs, ∀ d t, dump L F d x = .ok t → t.isScalar = true) {d : ℕ} {t : PyStr}
    (ht : dumpItems L F d xs = .ok t) : t.isScalar = true := by
  induction xs generalizing t with
  | nil =>
    cases ht
    rw [PyStr.isScalar_append, isScalar_ws (L.ws_brk d)]
    rfl
  | cons x xs ih =>
    simp only [dumpItems, bind_eq_ok, pure, Except.pure, Except.ok.injEq] at ht
    obtain ⟨tx, htx, rest, hrest, rfl⟩ := ht
    have hrest := ih (fun y hy => hxs y (List.mem_cons_of_mem _ hy)) hrest
    rw [PyStr.isScalar_append, hxs x List.mem_cons_self _ _ htx]
    split
    · exact hrest
    · change PyStr.isScalar (L.comma (d + 1) ++ rest) = true
      rw [PyStr.isScalar_append, isScalar_ws (L.ws_comma _), hrest]
      rfl

theorem isScalar_dumpPairs {L : Layout} {kvs : PyDict} (hkeys : ∀ kv ∈ kvs, kv.1.isScalar = true)
    (hkvs : ∀ kv ∈ kvs, ∀ d t, dump L F d kv.2 = .ok t → t.isScalar = true) {d : ℕ} {t : PyStr}
    (ht : dumpPairs L F d kvs = .ok t) : t.isScalar = true := by
  induction kvs generalizing t with
  | nil =>
    cases ht
    rw [PyStr.isScalar_append, isScalar_ws (L.ws_brk d)]
    rfl
  | cons kv kvs ih =>
    obtain ⟨k, v⟩ := kv
    simp only [dumpPairs, bind_eq_ok, pure, Except.pure, Except.ok.injEq] at ht
    obtain ⟨tv, htv, rest, hrest, rfl⟩ := ht
    have hrest := ih (fun kv hkv => hkeys kv (List.mem_cons_of_mem _ hkv))
      (fun kv hkv => hkvs kv (List.mem_cons_of_mem _ hkv)) hrest
    have hrest' : PyStr.isScalar (if kvs.isEmpty then rest
        else .scalar ',' :: (L.comma (d + 1) ++ rest)) = true := by
      split
      · exact hrest
      · change PyStr.isScalar (L.comma (d + 1) ++ rest) = true
        rw [PyStr.isScalar_append, isScalar_ws (L.ws_comma _), hrest]
        rfl
    change PyStr.isScalar (escapeStr L.ensureAscii k ++ _) = true
    rw [PyStr.isScalar_append, isScalar_escapeStr (hkeys (k, v) List.mem_cons_self)]
    change PyStr.isScalar (L.colon ++ _) = true
    rw [PyStr.isScalar_append, PyStr.isScalar_append, isScalar_ws L.ws_colon,
      hkvs (k, v) List.mem_cons_self _ _ htv, hrest']
    rfl

/-- A text of strings without surrogates holds none. -/
theorem isScalar_dump {L : Layout} {v : PyVal} (hv : v.All ScalarStr) {d : ℕ} {t : PyStr}
    (ht : dump L F d v = .ok t) : t.isScalar = true := by
  induction v generalizing d t with
  | str s =>
    cases ht
    change PyStr.isScalar (escapeStr L.ensureAscii s ++ _) = true
    rw [PyStr.isScalar_append, isScalar_escapeStr hv]
    rfl
  | list xs ih | tuple xs ih =>
    have hxs := PyVal.allItems_iff.mp hv.2
    simp only [dump] at ht
    split at ht
    · cases ht
      rfl
    · simp only [bind_eq_ok, pure, Except.pure, Except.ok.injEq] at ht
      obtain ⟨body, hbody, rfl⟩ := ht
      change PyStr.isScalar (L.brk (d + 1) ++ body) = true
      rw [PyStr.isScalar_append, isScalar_ws (L.ws_brk _),
        isScalar_dumpItems (fun x hx d t => ih x hx (hxs x hx)) hbody]
      rfl
  | dict kvs ih =>
    have hkvs := PyVal.allPairs_iff.mp hv.2
    simp only [dump] at ht
    split at ht
    · cases ht
      rfl
    · simp only [bind_eq_ok, pure, Except.pure, Except.ok.injEq] at ht
      obtain ⟨body, hbody, rfl⟩ := ht
      change PyStr.isScalar (L.brk (d + 1) ++ body) = true
      rw [PyStr.isScalar_append, isScalar_ws (L.ws_brk _), isScalar_dumpPairs
        (fun kv hkv => (hkvs kv hkv).1) (fun kv hkv d t => ih kv hkv (hkvs kv hkv).2) hbody]
      rfl
  | none | bool b | int n | float x =>
    simp only [dump] at ht
    exact isScalar_dumpAtom ht
  | obj cls fields => cases ht

end Json

end Iperf3Lib.Py
