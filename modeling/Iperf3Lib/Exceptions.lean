import Iperf3Lib.Py.Str

/-!
# Exceptions

What the modelled functions raise: the class of the exception, as far as a caller tells classes
apart, and its message.
-/

namespace Iperf3Lib

open Py

/-- The classes of the exceptions that the library raises or lets pass. -/
inductive ExcClass where
  | ipcError
  | typeError
  | valueError
  | eofError
  | queueEmpty
  | keyError
  | assertionError
  | overflowError
  | reportValidationError
  | iperfLibraryError
  | zeroDivisionError
  | attributeError
  | artifactValidationError
  | unsupportedArtifactVersion
  | unsupportedFeatureError
deriving DecidableEq, Repr

/-- A raised exception. -/
structure Exc where
  cls : ExcClass
  message : PyStr
deriving DecidableEq, Repr

/-- `raise IPCError(message)`. -/
def ipcError {α : Type} (message : PyStr) : Except Exc α := .error ⟨.ipcError, message⟩

/-- `raise ValueError(message)`. -/
def valueError {α : Type} (message : PyStr) : Except Exc α := .error ⟨.valueError, message⟩

/-- `raise TypeError(message)`. -/
def typeError {α : Type} (message : PyStr) : Except Exc α := .error ⟨.typeError, message⟩

/-- `if condition: raise ValueError(message)`. -/
def reject (condition : Prop) [Decidable condition] (message : PyStr) : Except Exc Unit :=
  if condition then valueError message else .ok ()

theorem reject_eq_ok {condition : Prop} [Decidable condition] {message : PyStr} :
    reject condition message = .ok () ↔ ¬ condition := by
  unfold reject valueError
  split <;> simp_all

theorem cls_of_reject {condition : Prop} [Decidable condition] {message : PyStr} {e : Exc}
    (h : reject condition message = .error e) : e.cls = .valueError := by
  unfold reject at h
  split at h <;> cases h
  rfl

end Iperf3Lib
