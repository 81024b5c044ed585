import Iperf3Lib.Capture.Native
import Iperf3Lib.Py.Json.Loaded
import Iperf3Lib.Py.Json.Size

/-!
# Native JSON is strict

What `nativeObject` returns is strict JSON: its keys are distinct, its integers can be written again,
and `checkJson` has seen every string and number in it.
-/

namespace Iperf3Lib.Py

/-! ## Dictionaries -/

namespace PyDict

theorem keys_set (d : PyDict) (key : PyStr) (v : PyVal) :
    keys (set d key v) = if key ∈ keys d then keys d else keys d ++ [key] := by
  induction d with
  | nil => simp [set, keys]
  | cons kv d ih =>
    obtain ⟨k, w⟩ := kv
    rw [set]
    by_cases hk : k = key
    · rw [if_pos hk, if_pos]
      · rfl
      · exact hk ▸ List.mem_cons_self
    · rw [if_neg hk]
      change k :: keys (set d key v) = _
      rw [ih]
      by_cases hmem : key ∈ keys d
      · have hcons : key ∈ keys ((k, w) :: d) := List.mem_cons_of_mem _ hmem
        rw [if_pos hmem, if_pos hcons]
        rfl
      · have hcons : key ∉ keys ((k, w) :: d) := fun h =>
          (List.mem_cons.mp h).elim (fun h => hk h.symm) hmem
        rw [if_neg hmem, if_neg hcons]
        rfl

theorem nodup_keys_set {d : PyDict} (h : (keys d).Nodup) (key : PyStr) (v : PyVal) :
    (keys (set d key v)).Nodup := by
  rw [keys_set]
  split
  · exact h
  · next hmem =>
    refine List.nodup_append.mpr ⟨h, List.nodup_singleton key, fun a ha b hb hab => ?_⟩
    exact hmem (List.mem_singleton.mp hb ▸ hab ▸ ha)

theorem mem_set {d : PyDict} {key : PyStr} {v : PyVal} {kv : PyStr × PyVal}
    (h : kv ∈ set d key v) : kv ∈ d ∨ kv = (key, v) := by
  induction d with
  | nil => exact .inr (List.mem_singleton.mp h)
  | cons kv' d ih =>
    obtain ⟨k, w⟩ := kv'
    rw [set] at h
    split at h
    · next hk =>
      rcases List.mem_cons.mp h with h | h
      · exact .inr (hk ▸ h)
      · exact .inl (List.mem_cons_of_mem _ h)
    · rcases List.mem_cons.mp h with h | h
      · exact .inl (h ▸ List.mem_cons_self)
      · exact (ih h).imp_left (List.mem_cons_of_mem _)

end PyDict

theorem PyVal.allPairs_set {P : PyVal → Prop} {d : PyDict} (hd : PyVal.AllPairs P d) {key : PyStr}
    (hkey : P (.str key)) {v : PyVal} (hv : v.All P) : PyVal.AllPairs P (PyDict.set d key v) := by
  rw [PyVal.allPairs_iff] at hd ⊢
  intro kv hkv
  rcases PyDict.mem_set hkv with hkv | rfl
  · exact hd kv hkv
  · exact ⟨hkey, hv⟩

end Iperf3Lib.Py

namespace Iperf3Lib.Capture

open Py Json Ipc PyVal

variable {F : Faults Exc}

/-! ## Reading -/

/-- What the hooks establish of every value. -/
def Loaded (F : Faults Exc) (v : PyVal) : Prop := Convertible F v ∧ DistinctKeys v

theorem objectPairs_spec {pairs : List (PyStr × PyVal)} (hpairs : AllPairs (Loaded F) pairs)
    {result data : PyDict} {repeated repeated' : Bool} (hresult : AllPairs (Loaded F) result)
    (hdistinct : result.keys.Nodup)
    (h : objectPairs result repeated pairs = .ok (data, repeated')) :
    AllPairs (Loaded F) data ∧ data.keys.Nodup := by
  induction pairs generalizing result repeated with
  | nil =>
    cases h
    exact ⟨hresult, hdistinct⟩
  | cons kv pairs ih =>
    obtain ⟨key, value⟩ := kv
    obtain ⟨hkey, hvalue, hpairs⟩ := hpairs
    have hset := allPairs_set hresult hkey hvalue
    have hnodup := PyDict.nodup_keys_set hdistinct key value
    rw [objectPairs] at h
    split at h
    · split at h
      · exact ih hpairs hset hnodup h
      · cases h
    · exact ih hpairs hset hnodup h

theorem builds_nativeHooks : Builds (nativeHooks F.maxStrDigits) (Loaded F) where
  none := ⟨trivial, trivial⟩
  bool _ := ⟨trivial, trivial⟩
  str _ := ⟨trivial, trivial⟩
  list _ := ⟨trivial, trivial⟩
  constant _ _ h := by cases h
  float _ _ h := by
    cases h
    exact ⟨trivial, trivial⟩
  int n digits v hdigits h := by
    simp only [nativeHooks] at h
    split at h
    · next hmax =>
      cases h
      exact ⟨Nat.le_trans hdigits hmax, trivial⟩
    · cases h
  pairs kvs v hkvs h := by
    obtain ⟨⟨data, repeated⟩, hpairs, hv⟩ := map_eq_ok.mp h
    obtain ⟨hdata, hdistinct⟩ := objectPairs_spec hkvs
      (show AllPairs (Loaded F) [] from trivial) List.nodup_nil hpairs
    have hdict : (PyVal.dict data).All (Loaded F) := ⟨⟨trivial, hdistinct⟩, hdata⟩
    rw [← hv]
    cases repeated with
    | true => exact ⟨⟨trivial, trivial⟩, hdict, trivial⟩
    | false => exact hdict

theorem all_unmark {v : PyVal} (h : v.All (Loaded F)) : (unmark v).All (Loaded F) := by
  unfold unmark
  split
  · exact h.2.1
  · exact h

/-- The settled object holds the values of the loaded one. -/
theorem settleStart_spec {data settled : PyDict} (hdata : (PyVal.dict data).All (Loaded F))
    (h : settleStart data = .ok settled) : (PyVal.dict settled).All (Loaded F) := by
  unfold settleStart at h
  dsimp only at h
  split at h
  · cases h
    have hkeys : PyDict.keys (data.map fun kv =>
        if startMember data = some kv.1 then (kv.1, unmark kv.2) else (kv.1, kv.2)) =
        data.keys := by
      unfold PyDict.keys
      rw [List.map_map]
      refine List.map_congr_left fun kv _ => ?_
      dsimp only [Function.comp_apply]
      split <;> rfl
    refine ⟨⟨trivial, ?_⟩, ?_⟩
    · change (PyDict.keys _).Nodup
      rw [hkeys]
      exact hdata.1.2
    have hpairs := allPairs_iff.mp hdata.2
    rw [allPairs_iff]
    intro kv hkv
    obtain ⟨kv', hkv', rfl⟩ := List.mem_map.mp hkv
    have hmember := hpairs kv' hkv'
    split
    · exact ⟨hmember.1, all_unmark hmember.2⟩
    · exact hmember
  · cases h

/-- A parsed native object is strict JSON. -/
theorem strict_of_nativeObject {copied : List UInt8} {maximum : ℕ} {data : PyDict}
    (h : nativeObject F.maxStrDigits copied maximum = .ok data) : Strict F (.dict data) := by
  unfold nativeObject at h
  split at h
  · cases h
  · next text _ =>
    simp only [bind_eq_ok] at h
    obtain ⟨loaded, hloads, data', hroot, h⟩ := h
    have hdata : (PyVal.dict data').All (Loaded F) := by
      have hloaded := builds_nativeHooks.loads hloads
      unfold rootObject at hroot
      split at hroot
      · exact settleStart_spec hloaded hroot
      · cases hroot
      · cases hroot
    split at h
    · next hcheck =>
      cases h
      simp only [checkJson, bind_eq_ok] at hcheck
      obtain ⟨m, hm, -⟩ := hcheck
      obtain ⟨hchecked, hheight⟩ := checked_of_visit hm
      refine ⟨?_, by omega⟩
      refine All.and (fun v h1 h2 => ?_) hdata hchecked
      cases v <;> first | exact h1.1 | exact h1.2 | exact h2
    · cases h

end Iperf3Lib.Capture
