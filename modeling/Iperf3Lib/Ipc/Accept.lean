import Iperf3Lib.Ipc.Encode

/-!
# What the encoder accepts

The converse of `encodes_of_strict`: a message that `encodeFrame` turns into a frame is strict JSON,
so that its peer reads it back.
-/

namespace Iperf3Lib.Ipc

open Py Json PyVal

variable {F : Faults Exc}

/-- What a Python dictionary has by itself. -/
def DistinctKeys : PyVal → Prop
  | .dict kvs => (PyDict.keys kvs).Nodup
  | _ => True

/-- What `visit` checks of one value. -/
def Checked : PyVal → Prop
  | .str s => s.isScalar = true
  | .float x => x.isFinite = true
  | .obj _ _ => False
  | _ => True

/-- What the writer checks of one value. -/
def Convertible (F : Faults Exc) : PyVal → Prop
  | .int n => (Nat.toDigits 10 n.natAbs).length ≤ F.maxStrDigits
  | _ => True

theorem le_of_bounded {maximum minimum m : ℕ} (h : bounded maximum minimum = .ok m) :
    m = minimum := by
  unfold bounded at h
  split at h
  · cases h
  · exact (Except.ok.inj h).symm

theorem checked_of_visitStr {maximum minimum m : ℕ} {s : PyStr}
    (h : visitStr maximum s minimum = .ok m) : s.isScalar = true := by
  simp only [visitStr, bind_eq_ok] at h
  obtain ⟨a, -, h⟩ := h
  split at h
  · next hs => exact hs
  · cases h

theorem depth_of_visit {maximum depth minimum m : ℕ} {v : PyVal}
    (h : visit maximum v depth minimum = .ok m) : depth ≤ maxDepth := by
  by_contra hd
  rw [visit.eq_def] at h
  dsimp only at h
  rw [if_pos (by omega)] at h
  cases h

/-- A visited value is checked throughout and stays within the nesting. -/
theorem checked_of_visit {v : PyVal} {maximum depth minimum m : ℕ}
    (h : visit maximum v depth minimum = .ok m) :
    v.All Checked ∧ depth + height v ≤ maxDepth := by
  have hitems : ∀ xs : List PyVal, (∀ x ∈ xs, ∀ depth minimum m,
        visit maximum x depth minimum = .ok m → x.All Checked ∧ depth + height x ≤ maxDepth) →
      ∀ depth minimum m, depth ≤ maxDepth → visitItems maximum xs (depth + 1) minimum = .ok m →
      AllItems Checked xs ∧ depth + heightItems xs ≤ maxDepth := by
    intro xs hxs depth minimum m hd h
    induction xs generalizing minimum with
    | nil => exact ⟨trivial, hd⟩
    | cons x xs ih =>
      simp only [visitItems, bind_eq_ok] at h
      obtain ⟨a, hx, hrest⟩ := h
      have h1 := hxs x List.mem_cons_self _ _ _ hx
      have h2 := ih (fun y hy => hxs y (List.mem_cons_of_mem _ hy)) _ hrest
      refine ⟨⟨h1.1, h2.1⟩, ?_⟩
      simp only [heightItems]
      omega
  induction v generalizing depth minimum m with
  | str s =>
    have hd := depth_of_visit h
    rw [visit, if_neg (by omega)] at h
    exact ⟨checked_of_visitStr h, hd⟩
  | float x =>
    have hd := depth_of_visit h
    rw [visit, if_neg (by omega)] at h
    split at h
    · next hx => exact ⟨hx, hd⟩
    · cases h
  | list xs ih =>
    have hd := depth_of_visit h
    rw [visit, if_neg (by omega)] at h
    simp only [bind_eq_ok] at h
    obtain ⟨a, -, b, hb, -⟩ := h
    obtain ⟨h1, h2⟩ := hitems xs (fun x hx depth minimum m h => ih x hx h) _ _ _ hd hb
    exact ⟨⟨trivial, h1⟩, h2⟩
  | tuple xs ih =>
    have hd := depth_of_visit h
    rw [visit, if_neg (by omega)] at h
    simp only [bind_eq_ok] at h
    obtain ⟨a, -, b, hb, -⟩ := h
    obtain ⟨h1, h2⟩ := hitems xs (fun x hx depth minimum m h => ih x hx h) _ _ _ hd hb
    exact ⟨⟨trivial, h1⟩, h2⟩
  | dict kvs ih =>
    have hd := depth_of_visit h
    rw [visit, if_neg (by omega)] at h
    simp only [bind_eq_ok] at h
    obtain ⟨a, -, b, hb, -⟩ := h
    have hpairs : AllPairs Checked kvs ∧ depth + heightPairs kvs ≤ maxDepth := by
      induction kvs generalizing a with
      | nil => exact ⟨trivial, hd⟩
      | cons kv kvs ihk =>
        obtain ⟨k, v⟩ := kv
        simp only [visitPairs, bind_eq_ok] at hb
        obtain ⟨c, hk, e, hv, hrest⟩ := hb
        have h1 : v.All Checked ∧ depth + 1 + height v ≤ maxDepth := ih (k, v) List.mem_cons_self hv
        have h2 := ihk (fun kv hkv => ih kv (List.mem_cons_of_mem _ hkv)) _ hrest
        have h3 : k.isScalar = true := by
          unfold visitKey at hk
          split at hk
          · cases hk
          · exact checked_of_visitStr hk
        refine ⟨⟨h3, h1.1, h2.1⟩, ?_⟩
        simp only [heightPairs]
        omega
    exact ⟨⟨trivial, hpairs.1⟩, hpairs.2⟩
  | obj cls fields =>
    have hd := depth_of_visit h
    rw [visit, if_neg (by omega)] at h
    cases h
  | none | bool | int => exact ⟨trivial, depth_of_visit h⟩

/-- Joined chunks were all there. -/
theorem ok_of_joinChunks {maxBytes : ℕ} {body b : List UInt8}
    {chunks : List (Except Exc (List UInt8))} (h : joinChunks maxBytes body chunks = .ok b) :
    ∀ c ∈ chunks, ∃ a, c = .ok a := by
  induction chunks generalizing body with
  | nil => simp
  | cons c chunks ih =>
    cases c with
    | error e => cases h
    | ok a =>
      rw [joinChunks] at h
      split at h
      · cases h
      · intro c hc
        rcases List.mem_cons.mp hc with rfl | hc
        · exact ⟨a, rfl⟩
        · exact ih h c hc

/-- A value all of whose chunks are there holds no integer beyond the limit. -/
theorem convertible_of_chunks {v : PyVal} (h : ∀ c ∈ jsonChunks F v, ∃ a, c = .ok a) :
    v.All (Convertible F) := by
  have hitems : ∀ xs : List PyVal, (∀ x ∈ xs, (∀ c ∈ jsonChunks F x, ∃ a, c = .ok a) →
        x.All (Convertible F)) →
      ∀ first, (∀ c ∈ itemChunks F first xs, ∃ a, c = .ok a) → AllItems (Convertible F) xs := by
    intro xs hxs first h
    induction xs generalizing first with
    | nil => trivial
    | cons x xs ih =>
      rw [itemChunks] at h
      exact ⟨hxs x List.mem_cons_self fun c hc => h c (by simp [hc]),
        ih (fun y hy => hxs y (List.mem_cons_of_mem _ hy)) false fun c hc => h c (by simp [hc])⟩
  induction v with
  | int n =>
    obtain ⟨a, ha⟩ := h _ (List.mem_singleton.mpr rfl)
    by_contra hn
    simp only [All, Convertible] at hn
    simp [dumpAtom, hn, bind, Except.bind] at ha
  | list xs ih =>
    refine ⟨trivial, hitems xs (fun x hx h => ih x hx h) true fun c hc => h c ?_⟩
    rw [jsonChunks]
    simp [hc]
  | tuple xs ih =>
    refine ⟨trivial, hitems xs (fun x hx h => ih x hx h) true fun c hc => h c ?_⟩
    rw [jsonChunks]
    simp [hc]
  | dict kvs ih =>
    have hpairs : ∀ first, (∀ c ∈ pairChunks F first kvs, ∃ a, c = .ok a) →
        AllPairs (Convertible F) kvs := by
      clear h
      induction kvs with
      | nil => exact fun _ _ => trivial
      | cons kv kvs ihk =>
        obtain ⟨k, v⟩ := kv
        intro first h
        rw [pairChunks] at h
        exact ⟨trivial, ih (k, v) List.mem_cons_self fun c hc => h c (by simp [hc]),
          ihk (fun kv hkv => ih kv (List.mem_cons_of_mem _ hkv)) false fun c hc => h c (by simp [hc])⟩
    refine ⟨trivial, hpairs true fun c hc => h c ?_⟩
    rw [jsonChunks]
    simp [hc]
  | none | bool | float | str | obj => trivial

/-- A frame comes of strict JSON only. -/
theorem strict_of_encodeFrame {kvs : PyDict} (hd : All DistinctKeys (.dict kvs)) {maxBytes : ℤ}
    {frame : List UInt8} (h : encodeFrame F (.dict kvs) maxBytes = .ok frame) :
    Strict F (.dict kvs) := by
  have hmax : 0 < maxBytes ∧ maxBytes ≤ maxFrameBytes := by
    by_contra hmax
    simp [encodeFrame, hmax, bind, Except.bind] at h
  simp only [encodeFrame, hmax, and_self, not_true, if_false, bind_eq_ok] at h
  obtain ⟨event, -, _, hcheck, b, hb, -⟩ := h
  simp only [checkJson, bind_eq_ok] at hcheck
  obtain ⟨m, hm, -⟩ := hcheck
  obtain ⟨hchecked, hheight⟩ := checked_of_visit hm
  have hconv := convertible_of_chunks (ok_of_joinChunks hb)
  refine ⟨?_, by omega⟩
  refine All.and (P := fun v => DistinctKeys v ∧ Checked v) ?_
    (All.and (fun _ h1 h2 => ⟨h1, h2⟩) hd hchecked) hconv
  intro v h1 h2
  cases v <;> first | exact h1.1 | exact h1.2 | exact h2

/-! ## What the writer raises -/

/-- Whatever is raised is an `IPCError`. -/
def RaisesIpc {α : Type} (x : Except Exc α) : Prop := ∀ e, x = .error e → e.cls = .ipcError

theorem RaisesIpc.ok {α : Type} (a : α) : RaisesIpc (.ok a) := fun _ h => by cases h

theorem raisesIpc_ipcError {α : Type} (message : PyStr) :
    RaisesIpc (ipcError message : Except Exc α) := by
  rintro e ⟨⟩
  rfl

theorem RaisesIpc.bind {α β : Type} {x : Except Exc α} {f : α → Except Exc β} (hx : RaisesIpc x)
    (hf : ∀ a, RaisesIpc (f a)) : RaisesIpc (x >>= f) := by
  cases x with
  | error e => exact fun e' h => hx e' (by cases h; rfl)
  | ok a => exact hf a

theorem RaisesIpc.ite {α : Type} {c : Prop} [Decidable c] {x y : Except Exc α} (hx : RaisesIpc x)
    (hy : RaisesIpc y) : RaisesIpc (if c then x else y) := by
  split
  · exact hx
  · exact hy

theorem raisesIpc_bounded (maximum minimum : ℕ) : RaisesIpc (bounded maximum minimum) :=
  (raisesIpc_ipcError _).ite (.ok _)

theorem raisesIpc_visitStr (maximum : ℕ) (s : PyStr) (minimum : ℕ) :
    RaisesIpc (visitStr maximum s minimum) :=
  (raisesIpc_bounded _ _).bind fun _ => .ite (.ok _) (raisesIpc_ipcError _)

theorem raisesIpc_visit (maximum : ℕ) (v : PyVal) :
    ∀ depth minimum, RaisesIpc (visit maximum v depth minimum) := by
  have hitems : ∀ xs : List PyVal, (∀ x ∈ xs, ∀ depth minimum,
      RaisesIpc (visit maximum x depth minimum)) →
      ∀ depth minimum, RaisesIpc (visitItems maximum xs depth minimum) := by
    intro xs hxs
    induction xs with
    | nil => exact fun _ _ => .ok _
    | cons x xs ih =>
      intro depth minimum
      rw [visitItems]
      exact (hxs x List.mem_cons_self _ _).bind fun _ =>
        ih (fun y hy => hxs y (List.mem_cons_of_mem _ hy)) _ _
  have hpairs : ∀ kvs : PyDict, (∀ kv ∈ kvs, ∀ depth minimum,
      RaisesIpc (visit maximum kv.2 depth minimum)) →
      ∀ depth minimum, RaisesIpc (visitPairs maximum kvs depth minimum) := by
    intro kvs hkvs
    induction kvs with
    | nil => exact fun _ _ => .ok _
    | cons kv kvs ih =>
      obtain ⟨k, v⟩ := kv
      intro depth minimum
      rw [visitPairs]
      refine RaisesIpc.bind ?_ fun _ => ?_
      · exact (raisesIpc_ipcError _).ite (raisesIpc_visitStr _ _ _)
      · exact (hkvs (k, v) List.mem_cons_self _ _).bind fun _ =>
          ih (fun kv hkv => hkvs kv (List.mem_cons_of_mem _ hkv)) _ _
  induction v with
  | none | bool | int =>
    intro depth minimum
    rw [visit]
    exact (raisesIpc_ipcError _).ite (raisesIpc_bounded _ _)
  | float x =>
    intro depth minimum
    rw [visit]
    exact (raisesIpc_ipcError _).ite (.ite (raisesIpc_bounded _ _) (raisesIpc_ipcError _))
  | str s =>
    intro depth minimum
    rw [visit]
    exact (raisesIpc_ipcError _).ite (raisesIpc_visitStr _ _ _)
  | list xs ih | tuple xs ih =>
    intro depth minimum
    rw [visit]
    exact (raisesIpc_ipcError _).ite ((raisesIpc_bounded _ _).bind fun _ =>
      (hitems xs ih _ _).bind fun _ => raisesIpc_bounded _ _)
  | dict kvs ih =>
    intro depth minimum
    rw [visit]
    exact (raisesIpc_ipcError _).ite ((raisesIpc_bounded _ _).bind fun _ =>
      (hpairs kvs ih _ _).bind fun _ => raisesIpc_bounded _ _)
  | obj cls fields =>
    intro depth minimum
    rw [visit]
    exact (raisesIpc_ipcError _).ite (raisesIpc_ipcError _)

theorem raisesIpc_joinChunks (maxBytes : ℕ) (chunks : List (Except Exc (List UInt8))) :
    ∀ body, RaisesIpc (joinChunks maxBytes body chunks) := by
  induction chunks with
  | nil => exact fun body => .ok body
  | cons c chunks ih =>
    intro body
    cases c with
    | error e => exact raisesIpc_ipcError _
    | ok a => exact (raisesIpc_ipcError _).ite (ih _)

/-- A message whose type is a string is framed or refused with an `IPCError`. -/
theorem raisesIpc_encodeFrame {kvs : PyDict} {type : PyStr}
    (htype : kvs.get? "type" = some (.str type)) {maxBytes : ℤ}
    (hmax : 0 < maxBytes ∧ maxBytes ≤ maxFrameBytes) :
    RaisesIpc (encodeFrame F (.dict kvs) maxBytes) := by
  have hevent : ∃ event, isEvent kvs = .ok event := by
    unfold isEvent
    rw [htype]
    exact ⟨_, rfl⟩
  obtain ⟨event, hevent⟩ := hevent
  unfold encodeFrame
  dsimp only
  rw [if_neg (not_not.mpr hmax), hevent]
  refine (RaisesIpc.ok event).bind fun _ => RaisesIpc.bind ?_ fun _ =>
    (raisesIpc_joinChunks _ _ _).bind fun _ => .ok _
  exact (raisesIpc_visit _ _ _ _).bind fun _ => .ok _

end Iperf3Lib.Ipc
