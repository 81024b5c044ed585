import Iperf3Lib.Py.Json.Exact

/-!
# Values with the same text

What `json.dumps` with sorted keys writes is read back as `asRead`: tuples as lists, escaped surrogate
pairs as one code point. Values that are exactly equal are therefore read back as the same value, and
so are their members and their items.
-/

namespace Iperf3Lib.Py.Json

open PyVal

/-! ## What is read back -/

/-- What a written string is read back as. -/
def spelled (ensureAscii : Bool) (s : PyStr) : PyStr := joinSurrogates (s.flatMap (units ensureAscii))

theorem readsStr_spelled (ensureAscii : Bool) (s : PyStr) :
    ReadsStr (spelled ensureAscii s) (escapeStr ensureAscii s) := by
  intro r
  rw [scanString, lexString_escapeStr]
  rfl

/-- The surrogates that a supplementary code point is written as are joined again. -/
theorem joinSurrogates_pair {c : Char} (hc : 0x10000 ≤ c.toNat) (us : List (PyChar × Bool)) :
    joinSurrogates ((.chr (0xD800 + (c.toNat - 0x10000) / 1024), true) ::
      (.chr (0xDC00 + (c.toNat - 0x10000) % 1024), true) :: us) = .scalar c :: joinSurrogates us := by
  have hmax : c.toNat < 0x110000 := by
    rcases c.valid with h | h
    · exact lt_trans h (by decide)
    · exact h.2
  generalize hrest : c.toNat - 0x10000 = rest
  have hhi : PyChar.chr (0xD800 + rest / 1024) = .surrogate ⟨rest / 1024, by omega⟩ :=
    chr_surrogate ⟨rest / 1024, by omega⟩
  have hcode : 0xDC00 + rest % 1024 = 0xD800 + (1024 + rest % 1024) := by omega
  have hlo : PyChar.chr (0xDC00 + rest % 1024) = .surrogate ⟨1024 + rest % 1024, by omega⟩ := by
    rw [hcode]
    exact chr_surrogate ⟨1024 + rest % 1024, by omega⟩
  have hhigh : rest / 1024 < 1024 := by omega
  rw [hhi, hlo, joinSurrogates, if_pos ⟨hhigh, Nat.le_add_right _ _⟩, joinPair]
  have hjoined : 0x10000 + rest / 1024 * 1024 + (1024 + rest % 1024 - 1024) = c.toNat := by omega
  rw [hjoined, Char.ofNat_toNat]

/-- A text without surrogates is read back as it is. -/
theorem spelled_map_scalar (ensureAscii : Bool) (cs : List Char) :
    spelled ensureAscii (cs.map .scalar) = cs.map .scalar := by
  have hone : ∀ (c : Char) (us : List (PyChar × Bool)),
      joinSurrogates (units ensureAscii (.scalar c) ++ us) = .scalar c :: joinSurrogates us := by
    intro c us
    rw [units]
    split_ifs with hshort hcontrol hescaped hbasic
    · rfl
    · rfl
    · rfl
    · exact joinSurrogates_pair (by omega) us
    · rfl
  unfold spelled
  induction cs with
  | nil => rfl
  | cons c cs ih => rw [List.map_cons, List.flatMap_cons, hone, ih]

theorem spelled_ofString (ensureAscii : Bool) (s : String) :
    spelled ensureAscii (PyStr.ofString s) = PyStr.ofString s :=
  spelled_map_scalar ensureAscii s.toList

mutual

/-- What a written value is read back as. -/
def asRead : PyVal → PyVal
  | .str s => .str (spelled true s)
  | .list xs => .list (asReadItems xs)
  | .tuple xs => .list (asReadItems xs)
  | .dict kvs => .dict (asReadPairs kvs)
  | v => v

def asReadItems : List PyVal → List PyVal
  | [] => []
  | x :: xs => asRead x :: asReadItems xs

def asReadPairs : List (PyStr × PyVal) → List (PyStr × PyVal)
  | [] => []
  | (k, v) :: kvs => (spelled true k, asRead v) :: asReadPairs kvs

end

theorem asReadItems_eq (xs : List PyVal) : asReadItems xs = xs.map asRead := by
  induction xs with
  | nil => rfl
  | cons x xs ih => rw [asReadItems, ih, List.map_cons]

theorem asReadPairs_eq (kvs : List (PyStr × PyVal)) :
    asReadPairs kvs = kvs.map fun kv => (spelled true kv.1, asRead kv.2) := by
  induction kvs with
  | nil => rfl
  | cons kv kvs ih => rw [asReadPairs, ih, List.map_cons]

theorem sortKeysItems_eq (xs : List PyVal) : sortKeysItems xs = xs.map sortKeys := by
  induction xs with
  | nil => rfl
  | cons x xs ih => rw [sortKeysItems, ih, List.map_cons]

theorem sortKeysPairs_eq (kvs : List (PyStr × PyVal)) :
    sortKeysPairs kvs = kvs.map fun kv => (kv.1, sortKeys kv.2) := by
  induction kvs with
  | nil => rfl
  | cons kv kvs ih => rw [sortKeysPairs, ih, List.map_cons]

/-- A reader that builds every value as it is written. -/
def plainHooks : Hooks Exc where
  malformed := ⟨.valueError, "Expecting value"⟩
  constant _ := .error ⟨.valueError, "Expecting value"⟩
  float x := .ok (.float x)
  int n _ := .ok (.int n)
  pairs kvs := .ok (.dict kvs)

theorem accepts_plainHooks (maxStrDigits : ℕ) : Accepts plainHooks (standardFaults maxStrDigits) where
  int _ _ _ := rfl
  float _ := rfl
  pairs _ _ := rfl

/-- A reader builds the objects of a value as they are written. -/
def Kept (h : Hooks Exc) : PyVal → Prop
  | .dict kvs => h.pairs (asReadPairs kvs) = .ok (.dict (asReadPairs kvs))
  | _ => True

theorem kept_plainHooks (v : PyVal) : v.All (Kept plainHooks) := by
  induction v with
  | list xs ih => exact ⟨trivial, allItems_iff.mpr fun x hx => ih x hx⟩
  | tuple xs ih => exact ⟨trivial, allItems_iff.mpr fun x hx => ih x hx⟩
  | dict kvs ih => exact ⟨rfl, allPairs_iff.mpr fun kv hkv => ⟨trivial, ih kv hkv⟩⟩
  | none | bool | int | float | str | obj => exact trivial

/-- What is written with escapes is read back, where the reader keeps its objects. -/
theorem reads_asRead {h : Hooks Exc} {maxStrDigits : ℕ} (ha : Accepts h (standardFaults maxStrDigits))
    {v : PyVal} (hv : v.All (Kept h)) {d : ℕ} {t : PyStr}
    (ht : dump .standard (standardFaults maxStrDigits) d v = .ok t) : Reads h (asRead v) t := by
  induction v generalizing d t with
  | str s =>
    cases ht
    exact .str (readsStr_spelled true s)
  | list xs ih =>
    rw [asRead, asReadItems_eq]
    exact reads_dumpList (fun hxs => by rw [hxs, List.map_nil])
      (fun hne t => reads_dumpItems hne fun x hx d t => ih x hx (allItems_iff.mp hv.2 x hx)) ht
  | tuple xs ih =>
    rw [asRead, asReadItems_eq]
    exact reads_dumpList (fun hxs => by rw [hxs, List.map_nil])
      (fun hne t => reads_dumpItems hne fun x hx d t => ih x hx (allItems_iff.mp hv.2 x hx)) ht
  | dict kvs ih =>
    have hpairs := hv.1
    rw [Kept, asReadPairs_eq] at hpairs
    rw [asRead, asReadPairs_eq]
    exact reads_dumpDict (fun hkvs => by rw [hkvs, List.map_nil])
      (fun hne t => reads_dumpPairs (f := spelled true) hne (fun kv _ => readsStr_spelled true kv.1)
        fun kv hkv d t => ih kv hkv (allPairs_iff.mp hv.2 kv hkv).2) hpairs ht
  | none | bool | int | float => exact reads_dumpAtom ha ht
  | obj cls fields => cases ht

/-! ## Exactly equal values -/

/-- The values are read back as the same value, whatever the order of their keys was. -/
def Same (x y : PyVal) : Prop := asRead (sortKeys x) = asRead (sortKeys y)

/-- Exactly equal values are read back as the same value. -/
theorem same_of_exactEqual {maxStrDigits : ℕ} {x y : PyVal}
    (h : exactEqual maxStrDigits x y = .ok true) : Same x y := by
  simp only [exactEqual, dumpsSorted, bind_eq_ok, pure, Except.pure, Except.ok.injEq,
    decide_eq_true_eq] at h
  obtain ⟨t, hx, u, hy, rfl⟩ := h
  have hloads : ∀ v, dump .standard (standardFaults maxStrDigits) 0 (sortKeys v) = .ok t →
      loads plainHooks t = .ok (asRead (sortKeys v)) := by
    intro v hv
    have hread := loads_of_reads
      (reads_asRead (accepts_plainHooks maxStrDigits) (kept_plainHooks _) hv) Ws.nil
    rwa [List.append_nil] at hread
  have hsame := (hloads x hx).symm.trans (hloads y hy)
  exact Except.ok.inj hsame

namespace Same

theorem int {m n : ℤ} (h : Same (.int m) (.int n)) : m = n := PyVal.int.inj h

theorem str {s t : String} (h : Same (.str (PyStr.ofString s)) (.str (PyStr.ofString t))) : s = t := by
  have hspelled := PyVal.str.inj h
  rwa [spelled_ofString, spelled_ofString, PyStr.ofString_inj] at hspelled

/-- The items of the same sequences are the same. -/
theorem tuple {xs ys : List PyVal} (h : Same (.tuple xs) (.tuple ys)) : List.Forall₂ Same xs ys := by
  have hitems := PyVal.list.inj h
  rw [asReadItems_eq, asReadItems_eq, sortKeysItems_eq, sortKeysItems_eq, List.map_map,
    List.map_map] at hitems
  rw [← List.forall₂_eq_eq_eq, List.forall₂_map_left_iff, List.forall₂_map_right_iff] at hitems
  exact hitems

/-- The members of the same objects are the same, where no name is used twice. -/
theorem member {xs ys : List (String × PyVal)} {name : String} {x y : PyVal}
    (h : Same (.dict (xs.map fun field => (PyStr.ofString field.1, field.2)))
      (.dict (ys.map fun field => (PyStr.ofString field.1, field.2))))
    (hnodup : (ys.map Prod.fst).Nodup) (hx : (name, x) ∈ xs) (hy : (name, y) ∈ ys) : Same x y := by
  have hpairs := PyVal.dict.inj h
  rw [asReadPairs_eq, asReadPairs_eq] at hpairs
  -- the member of the first object is found among those of the second one
  have hmem : (PyStr.ofString name, asRead (sortKeys x)) ∈
      ((sortKeysPairs (ys.map fun field => (PyStr.ofString field.1, field.2))).insertionSort
        fun a b => !b.1.lt a.1).map fun kv => (spelled true kv.1, asRead kv.2) := by
    rw [← hpairs, sortKeysPairs_eq]
    refine List.mem_map.mpr ⟨(PyStr.ofString name, sortKeys x), ?_, by rw [spelled_ofString]⟩
    rw [List.mem_insertionSort, List.map_map]
    exact List.mem_map_of_mem (f := _ ∘ _) hx
  rw [sortKeysPairs_eq, List.map_map] at hmem
  obtain ⟨⟨key, value⟩, hfound, heq⟩ := List.mem_map.mp hmem
  obtain ⟨⟨name', y'⟩, hy', heq'⟩ := List.mem_map.mp ((List.mem_insertionSort _).mp hfound)
  obtain ⟨rfl, rfl⟩ := Prod.mk.inj heq'
  obtain ⟨hname, hvalue⟩ := Prod.mk.inj heq
  rw [spelled_ofString, PyStr.ofString_inj] at hname
  subst hname
  obtain rfl : y' = y := by
    by_contra hne
    exact hne (congrArg Prod.snd (List.inj_on_of_nodup_map hnodup hy' hy rfl))
  exact hvalue.symm

end Same

end Iperf3Lib.Py.Json
