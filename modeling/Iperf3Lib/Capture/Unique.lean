import Iperf3Lib.Capture.Strict
import Iperf3Lib.PartialEvents
import Iperf3Lib.Py.Json.Tree

/-!
# The one repetition

`_native_object` refuses an object that repeats a key, with one exception: the start object may hold
`target_bitrate` twice, with the same nonnegative integer. The check of the pairs does not know where
an object is; it notes the objects with a repeated rate, and only the root is compared with them. So
what is refused and what is admitted is read off the tree of the text, which keeps every member.
-/

namespace Iperf3Lib.Capture

open Py Json Ipc

variable {n : ℕ}

/-! ## Trees -/

/-- The hooks that keep every member. -/
def treeHooks (maxStrDigits : ℕ) : Hooks NativeFault :=
  { nativeHooks maxStrDigits with pairs := fun kvs => .ok (.dict kvs) }

/-- `"target_bitrate"`. -/
def rateKey : PyStr := "target_bitrate"

/-- The rate is written twice with the same nonnegative integer, and nothing else is repeated; `merged`
is the object without its second rate. -/
def RepeatsRate (kvs merged : List (PyStr × PyVal)) : Prop :=
  ∃ before between after rate, 0 ≤ rate ∧
    kvs = before ++ (rateKey, .int rate) :: (between ++ (rateKey, .int rate) :: after) ∧
    merged = before ++ (rateKey, .int rate) :: (between ++ after) ∧
    (PyDict.keys merged).Nodup

/-- An object that repeats the rate, around objects that repeat no key. -/
def RepeatsOnlyRate (v : PyVal) : Prop :=
  ∃ kvs merged, v = .dict kvs ∧ RepeatsRate kvs merged ∧ PyVal.AllPairs DistinctKeys kvs

/-- No object repeats a key, but those members of the root that may may repeat the rate. -/
def UniqueKeys (mayRepeat : PyStr → Prop) (tree : List (PyStr × PyVal)) : Prop :=
  (PyDict.keys tree).Nodup ∧
    ∀ kv ∈ tree, kv.2.All DistinctKeys ∨ (mayRepeat kv.1 ∧ RepeatsOnlyRate kv.2)

/-- What a text is read as has no tuples and no instances. -/
def IsJson : PyVal → Prop
  | .tuple _ | .obj .. => False
  | _ => True

theorem agrees_nativeHooks : Agrees (treeHooks n) (nativeHooks n) where
  constant c v h := by cases h
  float x v h := by
    cases h
    exact ⟨rfl, trivial⟩
  int m digits v h := by
    refine ⟨h, ?_⟩
    simp only [treeHooks, nativeHooks] at h
    split at h <;> cases h
    trivial
  pairs _ := rfl

theorem agrees_standardHooks : Agrees (treeHooks n) (standardHooks n) where
  constant c v h := by cases h
  float x v h := by
    cases h
    exact ⟨rfl, trivial⟩
  int m digits v h := by
    simp only [treeHooks, nativeHooks] at h
    split at h
    · next hdigits =>
      cases h
      exact ⟨if_pos hdigits, trivial⟩
    · cases h
  pairs _ := rfl

theorem builds_treeHooks : Builds (treeHooks n) IsJson where
  none := trivial
  bool _ := trivial
  str _ := trivial
  list _ := trivial
  constant _ _ h := by cases h
  float _ _ h := by
    cases h
    trivial
  int m digits v _ h := by
    simp only [treeHooks, nativeHooks] at h
    split at h <;> cases h
    trivial
  pairs kvs v hkvs h := by
    cases h
    exact ⟨trivial, hkvs⟩

/-! ## One object -/

theorem set_same {d : PyDict} {key : PyStr} {v : PyVal} (h : d.get? key = some v) :
    PyDict.set d key v = d := by
  induction d with
  | nil => cases h
  | cons kv d ih =>
    obtain ⟨k, w⟩ := kv
    rw [PyDict.get?_cons] at h
    rw [PyDict.set]
    split at h
    · next hk =>
      rw [if_pos hk, Option.some.inj h]
    · next hk =>
      rw [if_neg hk, ih h]

theorem isRepeatedRate_eq_true {key : PyStr} {repeated : Bool} {earlier value : PyVal} :
    isRepeatedRate key repeated earlier value = true ↔
      key = rateKey ∧ repeated = false ∧ ∃ rate : ℤ, 0 ≤ rate ∧ earlier = .int rate ∧ value = .int rate := by
  unfold isRepeatedRate
  split
  · next m k =>
    simp only [Bool.and_eq_true, decide_eq_true_eq, Bool.not_eq_true', PyVal.int.injEq]
    constructor
    · rintro ⟨⟨⟨hkey, hrepeated⟩, hpos⟩, rfl⟩
      exact ⟨hkey, hrepeated, k, hpos, rfl, rfl⟩
    · rintro ⟨hkey, hrepeated, rate, hpos, rfl, rfl⟩
      exact ⟨⟨⟨hkey, hrepeated⟩, hpos⟩, rfl⟩
  · next hno =>
    refine ⟨(by intro h; cases h), ?_⟩
    rintro ⟨-, -, rate, -, rfl, rfl⟩
    exact (hno rate rate rfl rfl).elim

theorem keys_append (d e : PyDict) : PyDict.keys (d ++ e) = d.keys ++ e.keys := List.map_append

/-- Behind a repetition every key is new. -/
theorem objectPairs_true {result kvs d : PyDict} {b : Bool} (hresult : result.keys.Nodup) :
    objectPairs result true kvs = .ok (d, b) ↔
      b = true ∧ d = result ++ kvs ∧ (PyDict.keys (result ++ kvs)).Nodup := by
  induction kvs generalizing result with
  | nil =>
    rw [objectPairs, List.append_nil, Except.ok.injEq, Prod.mk.injEq]
    constructor
    · rintro ⟨rfl, rfl⟩
      exact ⟨rfl, rfl, hresult⟩
    · rintro ⟨rfl, rfl, -⟩
      exact ⟨rfl, rfl⟩
  | cons kv kvs ih =>
    obtain ⟨key, value⟩ := kv
    rw [objectPairs]
    split
    · next earlier hearlier =>
      have hmem : key ∈ result.keys := PyDict.get?_isSome.mp (by rw [hearlier]; rfl)
      have hrefused : ¬ isRepeatedRate key true earlier value = true := by
        rw [isRepeatedRate_eq_true]
        rintro ⟨-, h, -⟩
        cases h
      rw [if_neg hrefused]
      refine iff_of_false (by intro h; cases h) ?_
      rintro ⟨-, -, hnodup⟩
      rw [keys_append, List.nodup_append] at hnodup
      exact hnodup.2.2 key hmem key List.mem_cons_self rfl
    · next hnew =>
      have hnot : key ∉ result.keys := PyDict.get?_eq_none.mp hnew
      have hnext := PyDict.nodup_keys_set hresult key value
      rw [ih hnext, PyDict.set_of_not_mem hnot, List.append_assoc, List.singleton_append]

/-- Without a repetition every key is new. -/
theorem objectPairs_false {result kvs d : PyDict} (hresult : result.keys.Nodup) :
    objectPairs result false kvs = .ok (d, false) ↔
      d = result ++ kvs ∧ (PyDict.keys (result ++ kvs)).Nodup := by
  induction kvs generalizing result with
  | nil =>
    rw [objectPairs, List.append_nil, Except.ok.injEq, Prod.mk.injEq]
    constructor
    · rintro ⟨rfl, -⟩
      exact ⟨rfl, hresult⟩
    · rintro ⟨rfl, -⟩
      exact ⟨rfl, rfl⟩
  | cons kv kvs ih =>
    obtain ⟨key, value⟩ := kv
    have hnext := PyDict.nodup_keys_set hresult key value
    rw [objectPairs]
    split
    · next earlier hearlier =>
      have hmem : key ∈ result.keys := PyDict.get?_isSome.mp (by rw [hearlier]; rfl)
      refine iff_of_false ?_ ?_
      · split
        · rw [objectPairs_true hnext]
          rintro ⟨h, -⟩
          cases h
        · intro h
          cases h
      · rintro ⟨-, hnodup⟩
        rw [keys_append, List.nodup_append] at hnodup
        exact hnodup.2.2 key hmem key List.mem_cons_self rfl
    · next hnew =>
      have hnot : key ∉ result.keys := PyDict.get?_eq_none.mp hnew
      rw [ih hnext, PyDict.set_of_not_mem hnot, List.append_assoc, List.singleton_append]

/-- With a repetition one rate is written a second time. -/
theorem objectPairs_repeated {result kvs d : PyDict} (hresult : result.keys.Nodup) :
    objectPairs result false kvs = .ok (d, true) ↔
      ∃ between after rate, 0 ≤ rate ∧ kvs = between ++ (rateKey, .int rate) :: after ∧
        PyDict.get? (result ++ between) rateKey = some (.int rate) ∧
        d = result ++ (between ++ after) ∧ (PyDict.keys d).Nodup := by
  induction kvs generalizing result with
  | nil =>
    rw [objectPairs]
    refine iff_of_false (by intro h; cases h) ?_
    rintro ⟨between, after, rate, -, h, -⟩
    exact absurd h.symm (by simp)
  | cons kv kvs ih =>
    obtain ⟨key, value⟩ := kv
    have hnext := PyDict.nodup_keys_set hresult key value
    rw [objectPairs]
    split
    · next earlier hearlier =>
      have hmem : key ∈ result.keys := PyDict.get?_isSome.mp (by rw [hearlier]; rfl)
      by_cases hrate : isRepeatedRate key false earlier value = true
      · rw [if_pos hrate, objectPairs_true hnext]
        obtain ⟨rfl, -, rate, hpos, rfl, rfl⟩ := isRepeatedRate_eq_true.mp hrate
        rw [set_same hearlier]
        constructor
        · rintro ⟨-, rfl, hnodup⟩
          refine ⟨[], kvs, rate, hpos, rfl, ?_, rfl, hnodup⟩
          rwa [List.append_nil]
        · rintro ⟨between, after, rate', -, hkvs, -, rfl, hnodup⟩
          cases between with
          | nil =>
            obtain ⟨-, rfl⟩ := List.cons.inj hkvs
            exact ⟨rfl, rfl, hnodup⟩
          | cons kv between =>
            -- the key is already there, so that it cannot be a new one
            obtain ⟨rfl, -⟩ := List.cons.inj hkvs
            rw [keys_append, List.nodup_append] at hnodup
            exact (hnodup.2.2 _ hmem _ List.mem_cons_self rfl).elim
      · rw [if_neg hrate]
        refine iff_of_false (by intro h; cases h) ?_
        rintro ⟨between, after, rate, hpos, hkvs, hget, rfl, hnodup⟩
        cases between with
        | nil =>
          obtain ⟨hkv, -⟩ := List.cons.inj hkvs
          obtain ⟨rfl, rfl⟩ := Prod.mk.inj hkv
          rw [List.append_nil, hearlier] at hget
          exact hrate (isRepeatedRate_eq_true.mpr ⟨rfl, rfl, rate, hpos, Option.some.inj hget, rfl⟩)
        | cons kv between =>
          obtain ⟨rfl, -⟩ := List.cons.inj hkvs
          rw [keys_append, List.nodup_append] at hnodup
          exact (hnodup.2.2 _ hmem _ List.mem_cons_self rfl).elim
    · next hnew =>
      have hnot : key ∉ result.keys := PyDict.get?_eq_none.mp hnew
      rw [ih hnext, PyDict.set_of_not_mem hnot]
      constructor
      · rintro ⟨between, after, rate, hpos, rfl, hget, rfl, hnodup⟩
        rw [List.append_assoc, List.singleton_append] at hget hnodup
        refine ⟨(key, value) :: between, after, rate, hpos, rfl, hget, ?_, ?_⟩
        · rw [List.append_assoc, List.singleton_append, List.cons_append]
        · rw [List.append_assoc, List.singleton_append]
          exact hnodup
      · rintro ⟨between, after, rate, hpos, hkvs, hget, rfl, hnodup⟩
        cases between with
        | nil =>
          obtain ⟨hkv, -⟩ := List.cons.inj hkvs
          obtain ⟨rfl, rfl⟩ := Prod.mk.inj hkv
          rw [List.append_nil, hnew] at hget
          cases hget
        | cons kv between =>
          obtain ⟨rfl, rfl⟩ := List.cons.inj hkvs
          refine ⟨between, after, rate, hpos, rfl, ?_, ?_, hnodup⟩
          · rwa [List.append_assoc, List.singleton_append]
          · rw [List.append_assoc, List.singleton_append, List.cons_append]

theorem nodup_keys_nil : (PyDict.keys []).Nodup := List.nodup_nil

theorem objectPairs_repeatsRate {kvs d : PyDict} :
    objectPairs [] false kvs = .ok (d, true) ↔ RepeatsRate kvs d := by
  rw [objectPairs_repeated nodup_keys_nil]
  simp only [List.nil_append]
  constructor
  · rintro ⟨between, after, rate, hpos, rfl, hget, rfl, hnodup⟩
    obtain ⟨before, between, rfl⟩ := List.append_of_mem (PyDict.mem_of_get? hget)
    refine ⟨before, between, after, rate, hpos, ?_, ?_, hnodup⟩
    · rw [List.append_assoc, List.cons_append]
    · rw [List.append_assoc, List.cons_append]
  · rintro ⟨before, between, after, rate, hpos, rfl, rfl, hnodup⟩
    refine ⟨before ++ (rateKey, .int rate) :: between, after, rate, hpos, ?_, ?_, ?_, hnodup⟩
    · rw [List.append_assoc, List.cons_append]
    · refine PyDict.get?_of_mem ?_ (List.mem_append_right _ List.mem_cons_self)
      refine hnodup.sublist (List.Sublist.map _ ?_)
      exact List.Sublist.append_left ((List.sublist_append_left between after).cons_cons _) before
    · rw [List.append_assoc, List.cons_append]

theorem object?_eq_some {kvs : List (PyStr × PyVal)} {w : PyVal} :
    (nativeHooks n).object? kvs = some w ↔
      (w = .dict kvs ∧ (PyDict.keys kvs).Nodup) ∨
        ∃ merged, w = .tuple [.dict merged] ∧ RepeatsRate kvs merged := by
  rw [Hooks.object?, toOption_eq_some, nativeHooks, map_eq_ok]
  constructor
  · rintro ⟨⟨d, _ | _⟩, hpairs, rfl⟩
    · obtain ⟨rfl, hnodup⟩ := (objectPairs_false nodup_keys_nil).mp hpairs
      exact .inl ⟨rfl, hnodup⟩
    · exact .inr ⟨d, rfl, objectPairs_repeatsRate.mp hpairs⟩
  · rintro (⟨rfl, hnodup⟩ | ⟨merged, rfl, h⟩)
    · exact ⟨(kvs, false), (objectPairs_false nodup_keys_nil).mpr ⟨rfl, hnodup⟩, rfl⟩
    · exact ⟨(merged, true), objectPairs_repeatsRate.mpr h, rfl⟩

/-! ## Values without a mark -/

theorem unmarkedItems_iff {xs : List PyVal} :
    unmarkedItems xs = true ↔ ∀ x ∈ xs, unmarked x = true := by
  induction xs with
  | nil => simp [unmarkedItems]
  | cons x xs ih => simp [unmarkedItems, ih]

theorem unmarkedPairs_iff {kvs : List (PyStr × PyVal)} :
    unmarkedPairs kvs = true ↔ ∀ kv ∈ kvs, unmarked kv.2 = true := by
  induction kvs with
  | nil => simp [unmarkedPairs]
  | cons kv kvs ih =>
    obtain ⟨k, v⟩ := kv
    simp [unmarkedPairs, ih]

/-- A value whose objects repeat no key stays as it is with hooks that keep such objects. -/
theorem rebuild_distinct {f : List (PyStr × PyVal) → Option PyVal}
    (hf : ∀ kvs, (PyDict.keys kvs).Nodup → f kvs = some (.dict kvs)) {v : PyVal}
    (hv : v.All DistinctKeys) : rebuild f v = some v := by
  induction v with
  | list xs ih =>
    have hitems : rebuildItems f xs = some xs := rebuildItems_eq_some.mpr
      (List.forall₂_same.mpr fun x hx => ih x hx (PyVal.allItems_iff.mp hv.2 x hx))
    rw [rebuild, hitems, Option.map_some]
  | dict kvs ih =>
    have hpairs : rebuildPairs f kvs = some kvs := rebuildPairs_eq_some.mpr
      (List.forall₂_same.mpr fun kv hkv => ⟨rfl, ih kv hkv (PyVal.allPairs_iff.mp hv.2 kv hkv).2⟩)
    rw [rebuild, hpairs, Option.bind_some, hf kvs hv.1]
  | none | bool | int | float | str | tuple | obj => exact rebuild_leaf trivial

/-- Members that are rebuilt without a mark are the members of the tree. -/
theorem members_unmarked {kvs ws : List (PyStr × PyVal)}
    (ih : ∀ kv ∈ kvs, kv.2.All IsJson → ∀ w,
      rebuild (nativeHooks n).object? kv.2 = some w ∧ unmarked w = true ↔
        w = kv.2 ∧ kv.2.All DistinctKeys)
    (hjson : PyVal.AllPairs IsJson kvs) :
    rebuildPairs (nativeHooks n).object? kvs = some ws ∧ unmarkedPairs ws = true ↔
      ws = kvs ∧ PyVal.AllPairs DistinctKeys kvs := by
  rw [PyVal.allPairs_iff] at hjson
  rw [rebuildPairs_eq_some, unmarkedPairs_iff, PyVal.allPairs_iff]
  constructor
  · rintro ⟨h, hunmarked⟩
    induction h with
    | nil => exact ⟨rfl, by simp⟩
    | @cons kv kw kvs ws hkv _ ihrest =>
      rw [List.forall_mem_cons] at hunmarked hjson
      obtain ⟨hvalue, hdistinct⟩ := (ih kv List.mem_cons_self hjson.1.2 kw.2).mp
        ⟨hkv.2, hunmarked.1⟩
      obtain ⟨hrest, hall⟩ := ihrest (fun kv hkv => ih kv (List.mem_cons_of_mem _ hkv)) hjson.2
        hunmarked.2
      rw [hrest, List.forall_mem_cons]
      exact ⟨congrArg (· :: kvs) (Prod.ext hkv.1 hvalue), ⟨trivial, hdistinct⟩, hall⟩
  · rintro ⟨rfl, hdistinct⟩
    have hmember : ∀ kv ∈ ws, rebuild (nativeHooks n).object? kv.2 = some kv.2 ∧
        unmarked kv.2 = true := fun kv hkv =>
      (ih kv hkv (hjson kv hkv).2 kv.2).mpr ⟨rfl, (hdistinct kv hkv).2⟩
    exact ⟨List.forall₂_same.mpr fun kv hkv => ⟨rfl, (hmember kv hkv).1⟩,
      fun kv hkv => (hmember kv hkv).2⟩

/-- A value without a mark is one whose objects repeat no key, and it stays as it is. -/
theorem rebuild_unmarked {v : PyVal} (hv : v.All IsJson) : ∀ w : PyVal,
    rebuild (nativeHooks n).object? v = some w ∧ unmarked w = true ↔
      w = v ∧ v.All DistinctKeys := by
  induction v with
  | list xs ih =>
    intro w
    have hjson := PyVal.allItems_iff.mp hv.2
    rw [rebuild, Option.map_eq_some_iff]
    simp only [rebuildItems_eq_some]
    constructor
    · rintro ⟨⟨ys, hys, rfl⟩, hunmarked⟩
      rw [unmarked, unmarkedItems_iff] at hunmarked
      have hsame : ys = xs ∧ ∀ x ∈ xs, x.All DistinctKeys := by
        induction hys with
        | nil => exact ⟨rfl, by simp⟩
        | @cons x y xs ys hxy _ ihrest =>
          rw [List.forall_mem_cons] at hunmarked hjson
          obtain ⟨hy, hdistinct⟩ := (ih x List.mem_cons_self hjson.1 y).mp ⟨hxy, hunmarked.1⟩
          obtain ⟨hrest, hall⟩ := ihrest (fun x hx => ih x (List.mem_cons_of_mem _ hx))
            ⟨trivial, PyVal.allItems_iff.mpr hjson.2⟩ hjson.2 hunmarked.2
          rw [hy, hrest, List.forall_mem_cons]
          exact ⟨rfl, hdistinct, hall⟩
      rw [hsame.1]
      exact ⟨rfl, trivial, PyVal.allItems_iff.mpr hsame.2⟩
    · rintro ⟨rfl, hdistinct⟩
      have hitem : ∀ x ∈ xs, rebuild (nativeHooks n).object? x = some x ∧ unmarked x = true :=
        fun x hx => (ih x hx (hjson x hx) x).mpr ⟨rfl, PyVal.allItems_iff.mp hdistinct.2 x hx⟩
      refine ⟨⟨xs, List.forall₂_same.mpr fun x hx => (hitem x hx).1, rfl⟩, ?_⟩
      rw [unmarked, unmarkedItems_iff]
      exact fun x hx => (hitem x hx).2
  | dict kvs ih =>
    intro w
    rw [rebuild, Option.bind_eq_some_iff]
    simp only [object?_eq_some]
    constructor
    · rintro ⟨⟨ws, hws, ⟨rfl, hnodup⟩ | ⟨merged, rfl, -⟩⟩, hunmarked⟩
      · rw [unmarked] at hunmarked
        obtain ⟨rfl, hdistinct⟩ := (members_unmarked ih hv.2).mp ⟨hws, hunmarked⟩
        exact ⟨rfl, hnodup, hdistinct⟩
      · cases hunmarked
    · rintro ⟨rfl, hnodup, hdistinct⟩
      obtain ⟨hws, hunmarked⟩ := (members_unmarked ih hv.2).mpr ⟨@rfl _ kvs, hdistinct⟩
      exact ⟨⟨kvs, hws, .inl ⟨rfl, hnodup⟩⟩, hunmarked⟩
  | tuple xs => exact hv.1.elim
  | obj cls fields => exact hv.elim
  | none | bool | int | float | str =>
    intro w
    simp only [rebuild, Option.some.injEq]
    constructor
    · rintro ⟨rfl, -⟩
      exact ⟨rfl, trivial⟩
    · rintro ⟨rfl, -⟩
      exact ⟨rfl, rfl⟩

/-! ## The members of the root -/

/-- What a member of the root is settled to: itself, or the start object without its second rate. -/
def Settles (mayRepeat : Prop) (v settled : PyVal) : Prop :=
  (settled = v ∧ v.All DistinctKeys) ∨
    (mayRepeat ∧ ∃ kvs merged, v = .dict kvs ∧ settled = .dict merged ∧ RepeatsRate kvs merged ∧
      PyVal.AllPairs DistinctKeys kvs)

theorem RepeatsRate.mem_iff {kvs merged : List (PyStr × PyVal)} (h : RepeatsRate kvs merged)
    (kv : PyStr × PyVal) : kv ∈ kvs ↔ kv ∈ merged := by
  obtain ⟨before, between, after, rate, -, rfl, rfl, -⟩ := h
  simp only [List.mem_append, List.mem_cons]
  tauto

/-- A mark comes of an object that repeats the rate. -/
theorem rebuild_tuple {v : PyVal} (hv : v.All IsJson) {xs : List PyVal}
    (h : rebuild (nativeHooks n).object? v = some (.tuple xs)) :
    ∃ kvs ws merged, v = .dict kvs ∧ rebuildPairs (nativeHooks n).object? kvs = some ws ∧
      RepeatsRate ws merged ∧ xs = [.dict merged] := by
  cases v with
  | list ys =>
    rw [rebuild, Option.map_eq_some_iff] at h
    obtain ⟨zs, -, hzs⟩ := h
    cases hzs
  | dict kvs =>
    rw [rebuild, Option.bind_eq_some_iff] at h
    obtain ⟨ws, hws, hobject⟩ := h
    rcases object?_eq_some.mp hobject with ⟨heq, -⟩ | ⟨merged, heq, hrepeats⟩
    · cases heq
    · cases heq
      exact ⟨kvs, ws, merged, rfl, hws, hrepeats, rfl⟩
  | tuple ys => exact hv.1.elim
  | obj cls fields => exact hv.elim
  | none | bool | int | float | str => cases h

theorem unmark_of_isJson {v : PyVal} (hv : v.All IsJson) : unmark v = v := by
  cases v with
  | tuple xs => exact hv.1.elim
  | _ => rfl

/-- The member is settled without a mark exactly as `Settles` says. -/
theorem settles_iff {mayRepeat : Prop} [Decidable mayRepeat] {v settled : PyVal}
    (hv : v.All IsJson) :
    (∃ w, rebuild (nativeHooks n).object? v = some w ∧
      (if mayRepeat then unmark w else w) = settled ∧ unmarked settled = true) ↔
        Settles mayRepeat v settled := by
  constructor
  · rintro ⟨w, hw, hsettled, hunmarked⟩
    by_cases hplain : (if mayRepeat then unmark w else w) = w
    · rw [hplain] at hsettled
      subst hsettled
      exact .inl ((rebuild_unmarked hv w).mp ⟨hw, hunmarked⟩)
    · by_cases hmay : mayRepeat
      · rw [if_pos hmay] at hsettled hplain
        unfold unmark at hsettled hplain
        split at hsettled
        · next x =>
          obtain ⟨kvs, ws, merged, rfl, hws, hrepeats, hx⟩ := rebuild_tuple hv hw
          obtain ⟨rfl, -⟩ := List.cons.inj hx
          subst hsettled
          rw [unmarked, unmarkedPairs_iff] at hunmarked
          have hmembers := (members_unmarked (fun kv _ => rebuild_unmarked) hv.2).mp
            ⟨hws, unmarkedPairs_iff.mpr fun kv hkv => hunmarked kv ((hrepeats.mem_iff kv).mp hkv)⟩
          obtain ⟨rfl, hdistinct⟩ := hmembers
          exact .inr ⟨hmay, ws, merged, rfl, rfl, hrepeats, hdistinct⟩
        · next hno =>
          exact (hplain (by split <;> first | rfl | exact (hno _ rfl).elim)).elim
      · exact (hplain (if_neg hmay)).elim
  · rintro (⟨rfl, hdistinct⟩ | ⟨hmay, kvs, merged, rfl, rfl, hrepeats, hdistinct⟩)
    · obtain ⟨hself, hunmarked⟩ := (rebuild_unmarked (n := n) hv settled).mpr ⟨rfl, hdistinct⟩
      refine ⟨settled, hself, ?_, hunmarked⟩
      rw [unmark_of_isJson hv, ite_self]
    · obtain ⟨hws, hunmarked⟩ := (members_unmarked (n := n) (fun kv _ => rebuild_unmarked) hv.2).mpr
        ⟨@rfl _ kvs, hdistinct⟩
      refine ⟨.tuple [.dict merged], ?_, if_pos hmay, ?_⟩
      · rw [rebuild, hws, Option.bind_some]
        exact object?_eq_some.mpr (.inr ⟨merged, rfl, hrepeats⟩)
      · rw [unmarked, unmarkedPairs_iff]
        exact fun kv hkv => unmarkedPairs_iff.mp hunmarked kv ((hrepeats.mem_iff kv).mpr hkv)

/-! ## The ordinary value -/

theorem update_append (d e e' : PyDict) : d.update (e ++ e') = (d.update e).update e' :=
  List.foldl_append

theorem update_repeatsRate {kvs merged : PyDict} (h : RepeatsRate kvs merged) :
    PyDict.update [] kvs = merged := by
  obtain ⟨before, between, after, rate, -, rfl, rfl, hnodup⟩ := h
  have hsplit : before ++ (rateKey, PyVal.int rate) :: (between ++ after) =
      (before ++ (rateKey, .int rate) :: between) ++ after := by
    rw [List.append_assoc, List.cons_append]
  rw [hsplit] at hnodup ⊢
  rw [keys_append, List.nodup_append] at hnodup
  obtain ⟨hfirst, hlast, hdisjoint⟩ := hnodup
  have hsplit' : before ++ (rateKey, PyVal.int rate) :: (between ++ (rateKey, .int rate) :: after) =
      (before ++ (rateKey, .int rate) :: between) ++ (rateKey, .int rate) :: after := by
    rw [List.append_assoc, List.cons_append]
  have hmem : (rateKey, PyVal.int rate) ∈ before ++ (rateKey, .int rate) :: between :=
    List.mem_append_right before List.mem_cons_self
  have hstep : PyDict.update (before ++ (rateKey, .int rate) :: between)
      ((rateKey, .int rate) :: after) =
        PyDict.update (before ++ (rateKey, .int rate) :: between) after := by
    rw [PyDict.update, List.foldl_cons, set_same (PyDict.get?_of_mem hfirst hmem)]
    rfl
  rw [hsplit', update_append, PyDict.update_of_disjoint hfirst fun _ _ => List.not_mem_nil,
    List.nil_append, hstep]
  exact PyDict.update_of_disjoint hlast fun key hkey hmem => hdisjoint key hmem key hkey rfl

theorem object?_standard (kvs : List (PyStr × PyVal)) :
    (standardHooks n).object? kvs = some (.dict (PyDict.update [] kvs)) := rfl

theorem object?_standard_of_nodup {kvs : List (PyStr × PyVal)} (h : (PyDict.keys kvs).Nodup) :
    (standardHooks n).object? kvs = some (.dict kvs) := by
  rw [object?_standard, PyDict.update_of_disjoint h fun _ _ => List.not_mem_nil, List.nil_append]

/-- A settled member is the ordinary value of the member. -/
theorem Settles.ordinary {mayRepeat : Prop} {v settled : PyVal} (h : Settles mayRepeat v settled) :
    rebuild (standardHooks n).object? v = some settled := by
  rcases h with ⟨rfl, hdistinct⟩ | ⟨-, kvs, merged, rfl, rfl, hrepeats, hdistinct⟩
  · exact rebuild_distinct (fun kvs => object?_standard_of_nodup) hdistinct
  · have hpairs : rebuildPairs (standardHooks n).object? kvs = some kvs := by
      refine rebuildPairs_eq_some.mpr (List.forall₂_same.mpr fun kv hkv => ⟨rfl, ?_⟩)
      exact rebuild_distinct (fun kvs => object?_standard_of_nodup)
        (PyVal.allPairs_iff.mp hdistinct kv hkv).2
    rw [rebuild, hpairs, Option.bind_some, object?_standard, update_repeatsRate hrepeats]

/-! ## The root -/

theorem keys_of_members {R : PyStr × PyVal → PyStr × PyVal → Prop} {kvs ws : PyDict}
    (h : List.Forall₂ (fun kv kw => kw.1 = kv.1 ∧ R kv kw) kvs ws) : ws.keys = kvs.keys := by
  induction h with
  | nil => rfl
  | cons hkv _ ih => exact congrArg₂ List.cons hkv.1 ih

/-- Whether a member may repeat the rate is seen before the members are rebuilt as well as after it. -/
theorem startMember_rebuildPairs {tree ws : PyDict}
    (h : rebuildPairs (nativeHooks n).object? tree = some ws)
    (hjson : PyVal.AllPairs IsJson tree) : startMember ws = startMember tree := by
  have hget : ∀ key, PyDict.get? ws key =
      (PyDict.get? tree key).bind (rebuild (nativeHooks n).object?) := by
    intro key
    have hmembers := rebuildPairs_eq_some.mp h
    clear h hjson
    induction hmembers with
    | nil => rfl
    | @cons kv kw kvs ws hkv _ ih =>
      obtain ⟨k, v⟩ := kv
      obtain ⟨k', w⟩ := kw
      obtain ⟨rfl, hw⟩ := hkv
      rw [PyDict.get?_cons, PyDict.get?_cons]
      split
      · exact hw.symm
      · exact ih
  have hsome : ∀ key, (PyDict.get? ws key).isSome = (PyDict.get? tree key).isSome := by
    intro key
    have hkeys := keys_of_members (rebuildPairs_eq_some.mp h)
    rw [Bool.eq_iff_iff, PyDict.get?_isSome, PyDict.get?_isSome, hkeys]
  have hevent : PyDict.str? ws "event" = PyDict.str? tree "event" := by
    rw [PyDict.str?, PyDict.str?, hget]
    cases hvalue : PyDict.get? tree "event" with
    | none => rfl
    | some v =>
      have hv := (PyVal.allPairs_iff.mp hjson _ (PyDict.mem_of_get? hvalue)).2
      rw [Option.bind_some]
      cases v with
      | list xs =>
        rw [rebuild]
        cases rebuildItems (nativeHooks n).object? xs <;> rfl
      | dict kvs =>
        -- an object stays an object, or becomes a marked one
        cases hw : rebuild (nativeHooks n).object? (.dict kvs) with
        | none => rfl
        | some w =>
          rw [rebuild, Option.bind_eq_some_iff] at hw
          obtain ⟨ws', -, hobject⟩ := hw
          rcases object?_eq_some.mp hobject with ⟨rfl, -⟩ | ⟨merged, rfl, -⟩ <;> rfl
      | tuple xs => exact hv.1.elim
      | obj cls fields => exact hv.elim
      | none | bool | int | float | str => rfl
  rw [startMember, startMember, isWrapped, isWrapped, hsome, hsome, hevent]

variable {copied : List UInt8} {text : PyStr} {tree data : PyDict} {maximum : ℕ}

/-- The member of the settled root. -/
def settledMember (start : Option PyStr) (kv : PyStr × PyVal) : PyStr × PyVal :=
  if start = some kv.1 then (kv.1, unmark kv.2) else kv

theorem settledMember_eq (start : Option PyStr) (kv : PyStr × PyVal) :
    settledMember start kv = (kv.1, if start = some kv.1 then unmark kv.2 else kv.2) := by
  unfold settledMember
  split <;> rfl

theorem settleStart_eq_ok {ws : PyDict} : settleStart ws = .ok data ↔
    ws.map (settledMember (startMember ws)) = data ∧ unmarkedPairs data = true := by
  unfold settleStart
  dsimp only
  change (if unmarkedPairs (ws.map (settledMember (startMember ws))) = true then _ else _) = _ ↔ _
  split
  · next h =>
    rw [Except.ok.injEq]
    exact ⟨fun heq => ⟨heq, heq ▸ h⟩, fun heq => heq.1⟩
  · next h =>
    refine iff_of_false (by intro h; cases h) ?_
    rintro ⟨rfl, hunmarked⟩
    exact h hunmarked

/-- The root is accepted exactly when its keys are distinct and each member is settled. -/
theorem root_iff (hjson : PyVal.AllPairs IsJson tree) :
    (∃ w, rebuild (nativeHooks n).object? (.dict tree) = some w ∧ rootObject w = .ok data) ↔
      (PyDict.keys tree).Nodup ∧
        List.Forall₂ (fun kv kd => kd.1 = kv.1 ∧ Settles (startMember tree = some kv.1) kv.2 kd.2)
          tree data := by
  have hvalue := PyVal.allPairs_iff.mp hjson
  constructor
  · rintro ⟨w, hw, hroot⟩
    rw [rebuild, Option.bind_eq_some_iff] at hw
    obtain ⟨ws, hws, hobject⟩ := hw
    rcases object?_eq_some.mp hobject with ⟨rfl, hnodup⟩ | ⟨merged, rfl, -⟩
    · obtain ⟨rfl, hunmarked⟩ := settleStart_eq_ok.mp hroot
      rw [unmarkedPairs_iff, List.forall_mem_map] at hunmarked
      have hmembers := rebuildPairs_eq_some.mp hws
      rw [keys_of_members hmembers] at hnodup
      rw [startMember_rebuildPairs hws hjson] at hunmarked ⊢
      refine ⟨hnodup, ?_⟩
      rw [List.forall₂_map_right_iff]
      clear hws hobject hroot hnodup hjson
      generalize startMember tree = start at hunmarked ⊢
      induction hmembers with
      | nil => exact .nil
      | @cons kv kw kvs ws hkv _ ih =>
        rw [List.forall_mem_cons] at hvalue hunmarked
        refine .cons ?_ (ih hvalue.2 hunmarked.2)
        have hsettled := hunmarked.1
        rw [settledMember_eq, hkv.1] at hsettled ⊢
        exact ⟨rfl, (settles_iff hvalue.1.2).mp ⟨kw.2, hkv.2, rfl, hsettled⟩⟩
    · cases hroot
  · rintro ⟨hnodup, hmembers⟩
    have hrebuilt : ∀ start : Option PyStr,
        List.Forall₂ (fun kv kd => kd.1 = kv.1 ∧ Settles (start = some kv.1) kv.2 kd.2) tree data →
        ∃ ws, rebuildPairs (nativeHooks n).object? tree = some ws ∧
          ws.map (settledMember start) = data ∧ unmarkedPairs data = true := by
      intro start h
      simp only [rebuildPairs_eq_some, unmarkedPairs_iff]
      clear hnodup hmembers hjson
      induction h with
      | nil => exact ⟨[], .nil, rfl, by simp⟩
      | @cons kv kd kvs data hkd _ ih =>
        rw [List.forall_mem_cons] at hvalue
        obtain ⟨ws, hws, hmap, hunmarked⟩ := ih hvalue.2
        obtain ⟨w, hw, hsettled, hplain⟩ := (settles_iff (n := n) hvalue.1.2).mpr hkd.2
        refine ⟨(kv.1, w) :: ws, .cons ⟨rfl, hw⟩ hws, ?_, List.forall_mem_cons.mpr ⟨hplain, hunmarked⟩⟩
        rw [List.map_cons, hmap, settledMember_eq]
        exact congrArg (· :: data) (Prod.ext hkd.1.symm hsettled)
    obtain ⟨ws, hws, hmap, hunmarked⟩ := hrebuilt _ hmembers
    refine ⟨.dict ws, ?_, ?_⟩
    · rw [rebuild, hws, Option.bind_some]
      refine object?_eq_some.mpr (.inl ⟨rfl, ?_⟩)
      rw [keys_of_members (rebuildPairs_eq_some.mp hws)]
      exact hnodup
    · refine settleStart_eq_ok.mpr ⟨?_, hunmarked⟩
      rw [startMember_rebuildPairs hws hjson]
      exact hmap

/-- An accepted text is one whose root is accepted and whose value keeps the limits. -/
theorem nativeObject_eq_ok (htext : PyStr.utf8Decode copied = some text)
    (htree : loads (treeHooks n) text = .ok (.dict tree)) :
    nativeObject n copied maximum = .ok data ↔
      ((PyDict.keys tree).Nodup ∧
        List.Forall₂ (fun kv kd => kd.1 = kv.1 ∧ Settles (startMember tree = some kv.1) kv.2 kd.2)
          tree data) ∧
      checkJson (.dict data) maximum = .ok () := by
  have hjson : (PyVal.dict tree).All IsJson := builds_treeHooks.loads htree
  have hloads := agrees_nativeHooks.loads htree
  rw [nativeObject, htext, ← root_iff (n := n) hjson.2]
  simp only [bind_eq_ok, ← hloads, toOption_eq_some]
  constructor
  · rintro ⟨w, hw, data', hroot, h⟩
    split at h
    · next hcheck =>
      cases h
      exact ⟨⟨w, hw, hroot⟩, hcheck⟩
    · cases h
  · rintro ⟨⟨w, hw, hroot⟩, hcheck⟩
    refine ⟨w, hw, data, hroot, ?_⟩
    rw [hcheck]
    rfl

/-- What is accepted is the ordinary value of the text. -/
theorem loads_standard (htree : loads (treeHooks n) text = .ok (.dict tree))
    (hnodup : (PyDict.keys tree).Nodup)
    (hmembers : List.Forall₂ (fun kv kd => kd.1 = kv.1 ∧
      Settles (startMember tree = some kv.1) kv.2 kd.2) tree data) :
    loads (standardHooks n) text = .ok (.dict data) := by
  rw [← toOption_eq_some, agrees_standardHooks.loads htree, rebuild]
  have hpairs : rebuildPairs (standardHooks n).object? tree = some data :=
    rebuildPairs_eq_some.mpr (hmembers.imp fun _ _ h => ⟨h.1, h.2.ordinary⟩)
  rw [hpairs, Option.bind_some]
  refine object?_standard_of_nodup ?_
  rw [keys_of_members hmembers]
  exact hnodup

/-- Members that repeat no key, or only the rate where they may, can be settled. -/
theorem exists_settled {mayRepeat : PyStr → Prop} {tree : PyDict}
    (h : ∀ kv ∈ tree, kv.2.All DistinctKeys ∨ (mayRepeat kv.1 ∧ RepeatsOnlyRate kv.2)) :
    ∃ data : PyDict, List.Forall₂ (fun kv kd => kd.1 = kv.1 ∧ Settles (mayRepeat kv.1) kv.2 kd.2)
      tree data := by
  induction tree with
  | nil => exact ⟨[], .nil⟩
  | cons kv tree ih =>
    rw [List.forall_mem_cons] at h
    obtain ⟨data, hdata⟩ := ih h.2
    rcases h.1 with hdistinct | ⟨hmay, kvs, merged, hkvs, hrepeats, hdistinct⟩
    · exact ⟨kv :: data, .cons ⟨rfl, .inl ⟨rfl, hdistinct⟩⟩ hdata⟩
    · exact ⟨(kv.1, .dict merged) :: data,
        .cons ⟨rfl, .inr ⟨hmay, kvs, merged, hkvs, rfl, hrepeats, hdistinct⟩⟩ hdata⟩

/-- A UTF-8 text of an object whose value keeps the limits is accepted exactly when no object in it
repeats a key, but that the start object may write its rate twice; and what is accepted is the
ordinary value of the text. -/
theorem native_keys_unique (htext : PyStr.utf8Decode copied = some text)
    (htree : loads (treeHooks n) text = .ok (.dict tree)) {v : PyVal}
    (hvalue : loads (standardHooks n) text = .ok v) (hlimits : checkJson v maximum = .ok ()) :
    ((∃ data, nativeObject n copied maximum = .ok data) ↔
      UniqueKeys (fun key => startMember tree = some key) tree) ∧
    ∀ data, nativeObject n copied maximum = .ok data → v = .dict data := by
  have hdata : ∀ data, nativeObject n copied maximum = .ok data → v = .dict data := by
    intro data h
    obtain ⟨⟨hnodup, hmembers⟩, -⟩ := (nativeObject_eq_ok htext htree).mp h
    exact Except.ok.inj (hvalue.symm.trans (loads_standard htree hnodup hmembers))
  refine ⟨⟨?_, ?_⟩, hdata⟩
  · rintro ⟨data, h⟩
    obtain ⟨⟨hnodup, hmembers⟩, -⟩ := (nativeObject_eq_ok htext htree).mp h
    refine ⟨hnodup, fun kv hkv => ?_⟩
    obtain ⟨kd, -, -, hsettles⟩ := exists_mem_of_forall₂ hmembers hkv
    rcases hsettles with ⟨-, hdistinct⟩ | ⟨hmay, kvs, merged, hkvs, -, hrepeats, hdistinct⟩
    · exact .inl hdistinct
    · exact .inr ⟨hmay, kvs, merged, hkvs, hrepeats, hdistinct⟩
  · rintro ⟨hnodup, hmember⟩
    obtain ⟨data, hmembers⟩ := @exists_settled (fun key => startMember tree = some key) tree hmember
    have hsame := Except.ok.inj (hvalue.symm.trans (loads_standard htree hnodup hmembers))
    rw [hsame] at hlimits
    exact ⟨data, (nativeObject_eq_ok htext htree).mpr ⟨⟨hnodup, hmembers⟩, hlimits⟩⟩

/-! ## An envelope with a start member -/

/-- The `start` member of any root, and the `data` member of an envelope of the event `start`. -/
def namedStart (tree : PyDict) (key : PyStr) : Prop :=
  key = "start" ∨ (key = "data" ∧ PyDict.str? tree "event" = some "start")

/-- A start object with a repeated rate. -/
def repeatedStart : PyVal := .dict [(rateKey, .int 1), (rateKey, .int 1)]

theorem repeatsOnlyRate_repeatedStart : RepeatsOnlyRate repeatedStart :=
  ⟨_, _, rfl, ⟨[], [], [], 1, by decide, rfl, rfl, by decide⟩, trivial, trivial, trivial, trivial,
    trivial⟩

/-- `{"start":{"target_bitrate":1,"target_bitrate":1}}`. -/
def startDocument : PyStr :=
  PyStr.ofString "\x7b\"start\":\x7b\"target_bitrate\":1,\"target_bitrate\":1\x7d\x7d"

/-- The same in an envelope. -/
def startEnvelope : PyStr :=
  PyStr.ofString "\x7b\"event\":\"x\",\"data\":0,\"start\":\x7b\"target_bitrate\":1,\"target_bitrate\":1\x7d\x7d"

/-- A document may repeat the rate in its start object. -/
theorem native_keys_unique_document :
    ((∃ data, nativeObject 4300 (startDocument.utf8Encode.getD []) 1000 = .ok data) ↔
      UniqueKeys (fun key => startMember [("start", repeatedStart)] = some key)
        [("start", repeatedStart)]) ∧
    ∀ data, nativeObject 4300 (startDocument.utf8Encode.getD []) 1000 = .ok data →
      PyVal.dict [("start", .dict [(rateKey, .int 1)])] = .dict data :=
  native_keys_unique (by decide +kernel : _ = some startDocument) (by decide +kernel)
    (by decide +kernel) (by decide +kernel)

/-- The tree of the envelope. -/
def envelopeTree : PyDict := [("event", .str "x"), ("data", .int 0), ("start", repeatedStart)]

/-- Its ordinary value. -/
def envelopeValue : PyVal :=
  .dict [("event", .str "x"), ("data", .int 0), ("start", .dict [(rateKey, .int 1)])]

/-- An envelope has no start member: it may not repeat the rate there. -/
theorem native_keys_unique_envelope :
    PyStr.utf8Decode (startEnvelope.utf8Encode.getD []) = some startEnvelope ∧
    loads (treeHooks 4300) startEnvelope = .ok (.dict envelopeTree) ∧
    loads (standardHooks 4300) startEnvelope = .ok envelopeValue ∧
    checkJson envelopeValue 1000 = .ok () ∧
    ¬ ((∃ data, nativeObject 4300 (startEnvelope.utf8Encode.getD []) 1000 = .ok data) ↔
      UniqueKeys (namedStart envelopeTree) envelopeTree) := by
  refine ⟨by decide +kernel, by decide +kernel, by decide +kernel, by decide +kernel, fun h => ?_⟩
  have hunique : UniqueKeys (namedStart envelopeTree) envelopeTree := by
    refine ⟨by decide, fun kv hkv => ?_⟩
    simp only [envelopeTree, List.mem_cons, List.not_mem_nil, or_false] at hkv
    rcases hkv with rfl | rfl | rfl
    · exact .inl trivial
    · exact .inl trivial
    · exact .inr ⟨.inl rfl, repeatsOnlyRate_repeatedStart⟩
  have hrefused : (nativeObject 4300 (startEnvelope.utf8Encode.getD []) 1000).isOk = false := by
    decide +kernel
  rw [isOk_iff.mpr (h.mpr hunique)] at hrefused
  cases hrefused

end Iperf3Lib.Capture
