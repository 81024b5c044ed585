import Iperf3Lib.General.Stateful
import Iperf3Lib.Py.Dynamic
import Iperf3Lib.Result.Model

/-!
# Reading a native document

The readers of `result_from_iperf_json`: a field is absent, well formed or refused. What the normalizer
notes on its way are the diagnostics, the evidence for what is not available, and whether there was an
end measurement.
-/

namespace Iperf3Lib.Results

open Py

/-! ## Fields -/

/-- `math.isfinite` and the sign of a number; only `start` and `end` may be negative. -/
def checkRange (name : String) (x : PyNum) : Except Exc PyNum :=
  match x with
  | .int n =>
    if (PyFloat.ofInt n).isFinite = false then
      .error ⟨.overflowError, ("int too large to convert to float" : String)⟩
    else if name ∉ ["start", "end"] ∧ n < 0 then
      valueError (s!"iperf JSON {name} must be non-negative" : String)
    else .ok x
  | .float y =>
    if y.isFinite = false then valueError (s!"iperf JSON {name} must be finite" : String)
    else if name ∉ ["start", "end"] ∧ x.isNeg = true then
      valueError (s!"iperf JSON {name} must be non-negative" : String)
    else .ok x

/-- `_optional_number`. -/
def optionalNumber (data : PyDict) (name : String) : Except Exc (Option PyNum) :=
  match data.get? name with
  | none | some .none => .ok none
  | some (.int n) => (checkRange name (.int n)).map some
  | some (.float x) => (checkRange name (.float x)).map some
  | some _ => valueError (s!"iperf JSON {name} must be numeric" : String)

/-- `_optional_number` with `integer=True`. -/
def optionalInteger (data : PyDict) (name : String) : Except Exc (Option ℤ) :=
  match data.get? name with
  | none | some .none => .ok none
  | some (.int n) => (checkRange name (.int n)).map fun _ => some n
  | some _ => valueError (s!"iperf JSON {name} must be numeric" : String)

/-- `_optional_flag`. -/
def optionalFlag (data : PyDict) (name : String) : Except Exc (Option Bool) :=
  match data.get? name with
  | none => .ok none
  | some (.bool b) => .ok (some b)
  | some (.int n) =>
    if n = 0 then .ok (some false)
    else if n = 1 then .ok (some true)
    else valueError (s!"iperf JSON {name} flag must be zero or one" : String)
  | some _ => valueError (s!"iperf JSON {name} flag must be a boolean or integer" : String)

/-- `isinstance(value, dict)`. -/
def asObject (message : String) : PyVal → Except Exc PyDict
  | .dict data => .ok data
  | _ => valueError message

/-- An object, empty where it is absent. -/
def optionalObject (data : PyDict) (name message : String) : Except Exc PyDict :=
  match data.get? name with
  | none | some .none => .ok []
  | some value => asObject message value

/-- An array, empty where it is absent. -/
def optionalArray (data : PyDict) (name message : String) : Except Exc (List PyVal) :=
  match data.get? name with
  | none | some .none => .ok []
  | some (.list values) => .ok values
  | some _ => valueError message

/-- `data.get(name) is not None`. -/
def isPresent (data : PyDict) (name : String) : Bool :=
  match data.get? name with
  | none | some .none => false
  | some _ => true

/-! ## What the normalizer catches from its caller -/

/-- The classes that `_decode_result` catches. -/
def caughtClasses : List ExcClass := [.valueError, .typeError, .attributeError, .keyError, .overflowError]

/-- `_decode_result` catches the exception. -/
def Caught (e : Exc) : Prop := e.cls ∈ caughtClasses

theorem caught_of_valueError {e : Exc} (h : e.cls = .valueError) : Caught e := by
  rw [Caught, h]
  exact List.mem_cons_self

section Readers

variable (data : PyDict) (name : String)

/-- A refusal by a `ValueError` is caught. -/
theorem meets_valueError {α : Type} {P : α → Prop} (message : PyStr) :
    Meets P Caught (valueError message : Except Exc α) := caught_of_valueError rfl

theorem meets_reject {condition : Prop} [Decidable condition] (message : PyStr) :
    Meets (fun _ => ¬ condition) Caught (reject condition message) := by
  by_cases h : condition
  · rw [reject, if_pos h]
    exact meets_valueError message
  · rw [reject, if_neg h]
    exact h

theorem meets_checkRange (x : PyNum) : Meets (· = x) Caught (checkRange name x) := by
  cases x with
  | int n =>
    rw [checkRange]
    split_ifs
    · exact show (ExcClass.overflowError) ∈ caughtClasses by decide
    · exact meets_valueError _
    · rfl
  | float x =>
    rw [checkRange]
    split_ifs
    · exact meets_valueError _
    · exact meets_valueError _
    · rfl

theorem meets_optionalNumber : Meets (fun _ => True) Caught (optionalNumber data name) := by
  unfold optionalNumber
  split
  · trivial
  · trivial
  · exact (meets_checkRange name _).map fun _ _ => trivial
  · exact (meets_checkRange name _).map fun _ _ => trivial
  · exact meets_valueError _

theorem meets_optionalInteger :
    Meets (fun value => ∀ n, value = some n → data.get? name = some (.int n)) Caught
      (optionalInteger data name) := by
  unfold optionalInteger
  split
  · rintro n ⟨⟩
  · rintro n ⟨⟩
  · next n hn =>
    refine (meets_checkRange name _).map fun _ _ => ?_
    rintro m ⟨⟩
    exact hn
  · exact meets_valueError _

theorem meets_optionalFlag : Meets (fun _ => True) Caught (optionalFlag data name) := by
  unfold optionalFlag
  split
  · trivial
  · trivial
  · split_ifs
    · trivial
    · trivial
    · exact meets_valueError _
  · exact meets_valueError _

theorem meets_asObject (message : String) (value : PyVal) :
    Meets (fun data => value = .dict data) Caught (asObject message value) := by
  unfold asObject
  split
  · rfl
  · exact meets_valueError _

theorem meets_optionalObject (message : String) :
    Meets (fun _ => True) Caught (optionalObject data name message) := by
  unfold optionalObject
  split
  · trivial
  · trivial
  · exact (meets_asObject message _).mono fun _ _ => trivial

theorem meets_optionalArray (message : String) :
    Meets (fun _ => True) Caught (optionalArray data name message) := by
  unfold optionalArray
  split
  · trivial
  · trivial
  · trivial
  · exact meets_valueError _

end Readers

/-! ## Notes -/

/-- `diagnostics`, `availability` and `has_end_measurements`. -/
structure Notes where
  diagnostics : List Diagnostic := []
  availability : List (PyStr × FieldAvailability) := []
  hasEndMeasurements : Bool := false

/-- A step of the normalizer. -/
abbrev Normalize (α : Type) := StateT Notes (Except Exc) α

/-- `d[key] = value`. -/
def assign {α : Type} (key : PyStr) (value : α) : List (PyStr × α) → List (PyStr × α)
  | [] => [(key, value)]
  | (k, v) :: rest => if k = key then (k, value) :: rest else (k, v) :: assign key value rest

/-- `_diagnose`: a diagnostic is kept once. -/
def diagnose (diagnostic : Diagnostic) : Normalize Unit :=
  modify fun notes =>
    if diagnostic ∈ notes.diagnostics then notes
    else { notes with diagnostics := notes.diagnostics ++ [diagnostic] }

/-- `availability[path] = FieldAvailability(state, evidence_paths)`. -/
def setAvailability (path : PyStr) (state : AvailabilityState) (evidencePaths : List PyStr) :
    Normalize Unit :=
  modify fun notes => { notes with availability := assign path ⟨state, evidencePaths⟩ notes.availability }

/-- `has_end_measurements = True`. -/
def measured : Normalize Unit := modify fun notes => { notes with hasEndMeasurements := true }

/-- `if condition: step`. -/
def when (condition : Prop) [Decidable condition] (step : Normalize Unit) : Normalize Unit :=
  if condition then step else pure ()

theorem yields_when {condition : Prop} [Decidable condition] {step : Normalize Unit}
    (h : Yields (fun _ => True) Caught step) : Yields (fun _ => True) Caught (when condition step) := by
  by_cases hc : condition
  · rw [when, if_pos hc]
    exact h
  · rw [when, if_neg hc]
    exact .pure trivial

theorem yields_diagnose (diagnostic : Diagnostic) :
    Yields (fun _ => True) Caught (diagnose diagnostic) := .modify

theorem yields_setAvailability (path : PyStr) (state : AvailabilityState) (evidence : List PyStr) :
    Yields (fun _ => True) Caught (setAvailability path state evidence) := .modify

theorem yields_measured : Yields (fun _ => True) Caught measured := .modify

end Iperf3Lib.Results
