import Iperf3Lib.Artifacts.Schemas

/-!
# What the codec returns

Conversion keeps the shape of a value: a model has the same members on both sides, each converted by
its own specification, an array is converted item by item, and what is absent stays absent. A member
is read in the same way from a mapping and from an instance.
-/

namespace Iperf3Lib.Artifacts

open Py

/-- A member of a mapping or of an instance. -/
def member (name : String) : PyVal → Option PyVal
  | .dict d => PyDict.get? d (PyStr.ofString name)
  | .obj _ fields => PyDict.get? fields (PyStr.ofString name)
  | _ => none

theorem attr_eq_ok {value x : PyVal} {name : String} (h : value.attr name = .ok x) :
    member name value = some x := by
  obtain ⟨cls, fields, rfl, hx⟩ := PyVal.getattr_eq_ok.mp h
  exact hx

/-! ## Objects -/

theorem object_eq_ok {path : PyStr} {value : PyVal} {data : PyDict}
    (h : object path value = .ok data) : value = .dict data := by
  unfold object at h
  split at h
  · rw [Except.ok.inj h]
  · cases h
  · cases h

/-- The data of a model holds the members of the value. -/
theorem modelData_eq_ok {models : Bool} {cls : String} {names : List PyStr} {value : PyVal}
    {path : PyStr} {data : PyDict} (h : modelData models cls names value path = .ok data)
    {name : String} {x : PyVal} (hx : PyDict.get? data (PyStr.ofString name) = some x) : member name value = some x := by
  unfold modelData at h
  split at h
  · split at h
    · next cls' fields =>
      rw [bind_unit_eq_ok] at h
      have hmem := PyDict.mem_of_get? hx
      have hall := forall_of_mapM (P := fun kv => PyDict.get? fields kv.1 = some kv.2)
        (fun key kv hkv => by
          obtain ⟨y, hy, rfl⟩ := map_eq_ok.mp hkv
          obtain ⟨_, _, heq, hfound⟩ := PyVal.getattr_eq_ok.mp hy
          obtain ⟨-, rfl⟩ := PyVal.obj.inj heq
          exact hfound) h.2
      exact hall _ hmem
    · cases h
  · rw [object_eq_ok h]
    exact hx

/-! ## Models -/

/-- Every field of a model is there, converted by its specification. -/
theorem convertFields_eq_ok {models : Bool} {schema : Schema} {data out : PyDict} {path : PyStr}
    (h : convertFields models schema data path = .ok out) (hnodup : (schema.map Prod.fst).Nodup)
    {name : String} {spec : Spec} (hfield : (name, spec) ∈ schema) :
    ∃ x y, PyDict.get? data (PyStr.ofString name) = some x ∧
      convert models spec x (child path (PyStr.ofString name)) = .ok y ∧
      PyDict.get? out (PyStr.ofString name) = some y := by
  induction schema generalizing out with
  | nil => cases hfield
  | cons field schema ih =>
    obtain ⟨name', spec'⟩ := field
    simp only [convertFields, bind_eq_ok, pure, Except.pure, Except.ok.injEq] at h
    obtain ⟨x, hx, y, hy, rest, hrest, rfl⟩ := h
    rw [List.map_cons, List.nodup_cons] at hnodup
    rcases List.mem_cons.mp hfield with heq | hfield
    · obtain ⟨rfl, rfl⟩ := Prod.mk.inj heq
      refine ⟨x, y, ?_, hy, PyDict.get?_cons_self _ _ _⟩
      unfold item at hx
      split at hx
      · next v hv => rw [hv, Except.ok.inj hx]
      · cases hx
    · have hne : name' ≠ name := by
        rintro rfl
        exact hnodup.1 (List.mem_map.mpr ⟨_, hfield, rfl⟩)
      obtain ⟨x', y', hx', hy', hout⟩ := ih hrest hnodup.2 hfield
      refine ⟨x', y', hx', hy', ?_⟩
      rw [PyDict.get?_cons_ne _ (mt PyStr.ofString_inj.mp hne), hout]

/-- A converted model: a mapping of its fields, or an instance with them. -/
theorem convert_model_eq_ok {models : Bool} {cls : String} {schema : Schema} {value w : PyVal}
    {path : PyStr} (h : convert models (.model cls schema) value path = .ok w) :
    ∃ data out, modelData models cls schema.names value path = .ok data ∧
      convertFields models schema data path = .ok out ∧
      w = if models then .dict out else .obj cls out := by
  simp only [convert, bind_eq_ok, pure, Except.pure, Except.ok.injEq] at h
  obtain ⟨data, hdata, -, -, out, hout, rfl⟩ := h
  exact ⟨data, out, hdata, hout, rfl⟩

/-- The members of a model on both sides. -/
theorem convert_member {models : Bool} {cls : String} {schema : Schema} {value w : PyVal}
    {path : PyStr} (h : convert models (.model cls schema) value path = .ok w)
    (hnodup : (schema.map Prod.fst).Nodup) {name : String} {spec : Spec}
    (hfield : (name, spec) ∈ schema) :
    ∃ x y, member name value = some x ∧
      convert models spec x (child path (PyStr.ofString name)) = .ok y ∧ member name w = some y := by
  obtain ⟨data, out, hdata, hout, rfl⟩ := convert_model_eq_ok h
  obtain ⟨x, y, hx, hy, hget⟩ := convertFields_eq_ok hout hnodup hfield
  refine ⟨x, y, modelData_eq_ok hdata hx, hy, ?_⟩
  cases models <;> exact hget

theorem convert_model_isNone {models : Bool} {cls : String} {schema : Schema} {value w : PyVal}
    {path : PyStr} (h : convert models (.model cls schema) value path = .ok w) : w.isNone = false := by
  obtain ⟨_, _, _, _, rfl⟩ := convert_model_eq_ok h
  cases models <;> rfl

/-! ## Absent values and arrays -/

/-- What is absent stays absent; anything else is converted. -/
theorem convert_optional_eq_ok {models : Bool} {spec : Spec} {value w : PyVal} {path : PyStr}
    (h : convert models (.optional spec) value path = .ok w) :
    (value.isNone = true ∧ w = .none) ∨
      (value.isNone = false ∧ convert models spec value path = .ok w) := by
  rw [convert] at h
  split at h
  · next hnone => exact .inl ⟨hnone, (Except.ok.inj h).symm⟩
  · next hnone => exact .inr ⟨Bool.not_eq_true _ ▸ hnone, h⟩

theorem convert_optional_model_isNone {models : Bool} {cls : String} {schema : Schema}
    {value w : PyVal} {path : PyStr}
    (h : convert models (.optional (.model cls schema)) value path = .ok w) :
    w.isNone = value.isNone := by
  rcases convert_optional_eq_ok h with ⟨hnone, rfl⟩ | ⟨hnone, h⟩
  · exact hnone.symm
  · rw [convert_model_isNone h, hnone]

/-- The items of an array, side by side. -/
theorem convert_array_eq_ok {models : Bool} {spec : Spec} {value w : PyVal} {path : PyStr}
    (h : convert models (.array spec) value path = .ok w) :
    ∃ xs ys, value = .list xs ∧ w = .list ys ∧
      List.Forall₂ (fun x y => ∃ path, convert models spec x path = .ok y) xs ys := by
  rw [convert.eq_def] at h
  cases value with
  | list xs =>
    obtain ⟨ys, hys, rfl⟩ := map_eq_ok.mp h
    refine ⟨xs, ys, rfl, rfl, ?_⟩
    have hall : List.Forall₂ (fun (x : PyVal × ℕ) y => ∃ path, convert models spec x.1 path = .ok y)
        xs.zipIdx ys := (mapM_eq_ok.mp hys).imp fun _ _ hxy => ⟨_, hxy⟩
    rw [← List.forall₂_map_left_iff (f := Prod.fst)
      (R := fun x y => ∃ path, convert models spec x path = .ok y), List.zipIdx_map_fst] at hall
    exact hall
  | _ => cases h

/-! ## Scalars -/

/-- A pointer is kept, and it has tokens. -/
theorem convert_pointer_eq_ok {models : Bool} {value w : PyVal} {path : PyStr}
    (h : convert models .pointer value path = .ok w) :
    ∃ s tokens, value = .str s ∧ w = .str s ∧ pointer s path = .ok tokens := by
  change convertString .pointer value path = .ok w at h
  unfold convertString at h
  split at h
  · next s =>
    simp only [bind_eq_ok, exists_unit, failIf_eq_ok, if_true, pure, Except.pure,
      Except.ok.injEq] at h
    obtain ⟨-, tokens, htokens, rfl⟩ := h
    exact ⟨s, tokens, rfl, rfl, htokens⟩
  · cases h

end Iperf3Lib.Artifacts
