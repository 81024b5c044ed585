import Iperf3Lib.Result.Renamed

/-!
# A renamed document

A document and the same document with other socket numbers are normalized side by side. They note the
same diagnostics, except that the ones that quote a socket quote its other number.
-/

namespace Iperf3Lib.Results

open Py

/-! ## Quoting sockets -/

theorem socketText_injective : Function.Injective socketText := by
  have hnone : ∀ n : ℤ, (Json.intRepr n).map PyChar.scalar ≠ PyStr.ofString "None" := by
    intro n h
    have hscan := Json.scanNumber_intRepr n Json.Stops.nil
    rw [h] at hscan
    cases hscan
  intro m n h
  cases m with
  | none =>
    cases n with
    | none => rfl
    | some n => exact absurd h.symm (hnone n)
  | some m =>
    cases n with
    | none => exact absurd h (hnone m)
    | some n =>
      have hchars : Function.Injective PyChar.scalar := fun _ _ h => PyChar.scalar.inj h
      exact congrArg some (Json.intRepr_injective (List.map_injective_iff.mpr hchars h))

/-- The complaint quotes the socket. -/
def Complaint.Quotes (complaint : Complaint) : Prop := complaint ≠ .unknownBidirectional

/-- The diagnostic of a complaint. -/
def Complaint.diagnostic (complaint : Complaint) (streamId : Option ℤ) (sourcePath : PyStr) :
    Diagnostic where
  message := complaint.message streamId
  code := complaint.code
  evidencePaths := [sourcePath]

theorem Complaint.message_ne (m n : Option ℤ) :
    Complaint.conflictingSenders.message m ≠ Complaint.conflictingDirection.message n := by
  intro h
  have hhead := congrArg List.head? h
  have hleft : (PyStr.ofString "Conflicting native sender provenance for socket ").head? =
      some (.scalar 'C') := by decide
  have hright : (PyStr.ofString "Native sender provenance for socket ").head? =
      some (.scalar 'N') := by decide
  simp only [Complaint.message, List.append_assoc, List.head?_append, hleft, hright,
    Option.some_or] at hhead
  cases hhead

/-- A diagnostic that quotes a socket tells the complaint, the socket and the path. -/
theorem Complaint.diagnostic_inj {c c' : Complaint} (hc : c.Quotes) (hc' : c'.Quotes)
    {n n' : Option ℤ} {p p' : PyStr} (h : c.diagnostic n p = c'.diagnostic n' p') :
    c = c' ∧ n = n' ∧ p = p' := by
  have hmessage : c.message n = c'.message n' := congrArg Diagnostic.message h
  have hpath : [p] = [p'] := congrArg Diagnostic.evidencePaths h
  refine (?_ : c = c' ∧ n = n').imp_right fun hn => ⟨hn, List.singleton_inj.mp hpath⟩
  cases c with
  | unknownBidirectional => exact absurd rfl hc
  | conflictingSenders =>
    cases c' with
    | unknownBidirectional => exact absurd rfl hc'
    | conflictingDirection => exact absurd hmessage (Complaint.message_ne n n')
    | conflictingSenders =>
      exact ⟨rfl, socketText_injective (List.append_cancel_left (List.append_cancel_right hmessage))⟩
  | conflictingDirection =>
    cases c' with
    | unknownBidirectional => exact absurd rfl hc'
    | conflictingSenders => exact absurd hmessage.symm (Complaint.message_ne n' n)
    | conflictingDirection =>
      exact ⟨rfl, socketText_injective (List.append_cancel_left (List.append_cancel_right hmessage))⟩

/-- The diagnostic may be one that quotes a socket. -/
def Diagnostic.MayQuote (d : Diagnostic) : Prop := d.code = "provenance.conflict" ∧ d.path = none

theorem Complaint.mayQuote {c : Complaint} (hc : c.Quotes) (n : Option ℤ) (p : PyStr) :
    (c.diagnostic n p).MayQuote := by
  cases c with
  | unknownBidirectional => exact absurd rfl hc
  | conflictingSenders => exact ⟨rfl, rfl⟩
  | conflictingDirection => exact ⟨rfl, rfl⟩

section Notes

variable (ρ : ℤ → ℤ)

/-- The diagnostic of the renamed document: the same, unless a socket is quoted in it. -/
inductive Requoted : Diagnostic → Diagnostic → Prop
  | plain {d : Diagnostic} (h : ¬ d.MayQuote) : Requoted d d
  | quoting {c : Complaint} (h : c.Quotes) (n : Option ℤ) (p : PyStr) :
      Requoted (c.diagnostic n p) (c.diagnostic (n.map ρ) p)

variable {ρ}

/-- The renamed diagnostics are as different as the diagnostics. -/
theorem Requoted.eq_iff (hρ : Function.Injective ρ) {d d' e e' : Diagnostic} (hd : Requoted ρ d d')
    (he : Requoted ρ e e') : d' = e' ↔ d = e := by
  cases hd with
  | plain hplain =>
    cases he with
    | plain => rfl
    | quoting hc n p =>
      refine iff_of_false ?_ ?_
      · rintro rfl
        exact hplain (Complaint.mayQuote hc _ p)
      · rintro rfl
        exact hplain (Complaint.mayQuote hc n p)
  | quoting hc n p =>
    cases he with
    | plain hplain =>
      refine iff_of_false ?_ ?_
      · rintro rfl
        exact hplain (Complaint.mayQuote hc _ p)
      · rintro rfl
        exact hplain (Complaint.mayQuote hc n p)
    | quoting hc' m q =>
      constructor
      · intro h
        obtain ⟨rfl, hn, rfl⟩ := Complaint.diagnostic_inj hc hc' h
        rw [Option.map_injective hρ hn]
      · intro h
        obtain ⟨rfl, rfl, rfl⟩ := Complaint.diagnostic_inj hc hc' h
        rfl

section Readers

variable {data : PyDict} {name : String} (hname : name ≠ "socket")
include hname

end Readers

variable (hρ : Function.Injective ρ)
include hρ

variable {ctx : Context} {records : SocketSenders}

/-- The senders under the other names. -/
def renamedSenders (ρ : ℤ → ℤ) (records : SocketSenders) : SocketSenders :=
  records.map fun record => (ρ record.1, record.2)

end Notes

end Iperf3Lib.Results
