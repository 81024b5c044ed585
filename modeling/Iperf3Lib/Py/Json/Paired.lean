import Iperf3Lib.Py.Json.Same

/-!
# What survives `json.dumps` and `json.loads`

With `ensure_ascii` a high surrogate right before a low one is written like the supplementary code
point of the pair and comes back as that code point. Every other string comes back as it was. A value
whose integers are short enough and whose numbers are finite is always written.
-/

namespace Iperf3Lib.Py.Json

open PyVal

/-! ## Strings -/

/-- A high surrogate stands right before a low one. -/
def hasPair : PyStr → Bool
  | .surrogate hi :: .surrogate lo :: s =>
    (hi.val < 1024 && 1024 ≤ lo.val) || hasPair (.surrogate lo :: s)
  | _ :: s => hasPair s
  | [] => false

theorem hasPair_ofString (s : String) : hasPair (PyStr.ofString s) = false := by
  unfold PyStr.ofString
  induction s.toList with
  | nil => rfl
  | cons c cs ih => exact ih

/-! ## What a joined pair does not change -/

section Spared

variable {P : PyChar → Bool} {b : Bool}

end Spared

/-- A scalar that `json.dumps` writes. -/
def Writable (maxStrDigits : ℕ) : PyVal → Prop
  | .int n => (Nat.toDigits 10 n.natAbs).length ≤ maxStrDigits
  | .float x => x.isFinite = true
  | .obj _ _ => False
  | _ => True

/-- A value of writable members is written. -/
theorem exists_dump {L : Layout} {maxStrDigits : ℕ} {v : PyVal}
    (hv : v.All (Writable maxStrDigits)) (d : ℕ) :
    ∃ t, dump L (standardFaults maxStrDigits) d v = .ok t := by
  have hitems : ∀ (xs : List PyVal) (d : ℕ),
      (∀ x ∈ xs, ∀ d, ∃ t, dump L (standardFaults maxStrDigits) d x = .ok t) →
      ∃ t, dumpItems L (standardFaults maxStrDigits) d xs = .ok t := by
    intro xs d h
    induction xs with
    | nil => exact ⟨_, rfl⟩
    | cons x xs ih =>
      obtain ⟨t, ht⟩ := h x List.mem_cons_self (d + 1)
      obtain ⟨rest, hrest⟩ := ih fun y hy => h y (List.mem_cons_of_mem _ hy)
      exact ⟨_, by rw [dumpItems, ht, ok_bind, hrest, ok_bind]; rfl⟩
  have hpairs : ∀ (kvs : List (PyStr × PyVal)) (d : ℕ),
      (∀ kv ∈ kvs, ∀ d, ∃ t, dump L (standardFaults maxStrDigits) d kv.2 = .ok t) →
      ∃ t, dumpPairs L (standardFaults maxStrDigits) d kvs = .ok t := by
    intro kvs d h
    induction kvs with
    | nil => exact ⟨_, rfl⟩
    | cons kv kvs ih =>
      obtain ⟨k, v⟩ := kv
      obtain ⟨t, ht⟩ := h (k, v) List.mem_cons_self (d + 1)
      obtain ⟨rest, hrest⟩ := ih fun y hy => h y (List.mem_cons_of_mem _ hy)
      exact ⟨_, by rw [dumpPairs, ht, ok_bind, hrest, ok_bind]; rfl⟩
  induction v generalizing d with
  | none | bool | str => exact ⟨_, rfl⟩
  | int n =>
    have hn : (Nat.toDigits 10 n.natAbs).length ≤ maxStrDigits := hv.self
    exact ⟨_, if_pos hn⟩
  | float x =>
    have hx : x.isFinite = true := hv.self
    cases x with
    | finite x => exact ⟨_, rfl⟩
    | inf | nan => cases hx
  | list xs ih =>
    rw [dump]
    split
    · exact ⟨_, rfl⟩
    · obtain ⟨t, ht⟩ := hitems xs d fun x hx => ih x hx (allItems_iff.mp hv.2 x hx)
      exact ⟨_, by rw [ht, ok_bind]; rfl⟩
  | tuple xs ih =>
    rw [dump]
    split
    · exact ⟨_, rfl⟩
    · obtain ⟨t, ht⟩ := hitems xs d fun x hx => ih x hx (allItems_iff.mp hv.2 x hx)
      exact ⟨_, by rw [ht, ok_bind]; rfl⟩
  | dict kvs ih =>
    rw [dump]
    split
    · exact ⟨_, rfl⟩
    · obtain ⟨t, ht⟩ := hpairs kvs d fun kv hkv => ih kv hkv (allPairs_iff.mp hv.2 kv hkv).2
      exact ⟨_, by rw [ht, ok_bind]; rfl⟩
  | obj => exact hv.self.elim

/-- A value that is written comes back as it is read. -/
theorem exists_copy {h : Hooks Exc} {maxStrDigits : ℕ} (ha : Accepts h (standardFaults maxStrDigits))
    {v : PyVal} (hkept : v.All (Kept h)) (hwritable : v.All (Writable maxStrDigits)) :
    ∃ text, dump .standard (standardFaults maxStrDigits) 0 v = .ok text ∧
      loads h text = .ok (asRead v) := by
  obtain ⟨text, htext⟩ := exists_dump (L := .standard) hwritable 0
  refine ⟨text, htext, ?_⟩
  have hread := loads_of_reads (reads_asRead ha hkept htext) Ws.nil
  rwa [List.append_nil] at hread

end Iperf3Lib.Py.Json
