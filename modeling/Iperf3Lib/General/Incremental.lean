import Mathlib.Data.List.Basic
import Mathlib.Tactic.Common

/-!
# Incremental machines

A machine takes one symbol at a time, emits outputs and may fail. Its input arrives in chunks, and
a caller sees the outputs of a chunk only when the whole chunk was taken. `feedAll_eq` and
`feedAll_prefix` say that the chunks do not matter: an input that is taken gives the same outputs
and the same state in any split, and one that fails gives the same failure in any split, behind a
prefix of the outputs that stand before it.
-/

namespace Iperf3Lib.Incremental

variable {σ β ο ε : Type}

/-- A result followed by what its state gives. -/
def andThen (r : List ο × Except ε σ) (f : σ → List ο × Except ε σ) : List ο × Except ε σ :=
  match r.2 with
  | .error e => (r.1, .error e)
  | .ok s => (r.1 ++ (f s).1, (f s).2)

@[simp] theorem andThen_ok (os : List ο) (s : σ) (f : σ → List ο × Except ε σ) :
    andThen (os, .ok s) f = (os ++ (f s).1, (f s).2) := rfl

@[simp] theorem andThen_error (os : List ο) (e : ε) (f : σ → List ο × Except ε σ) :
    andThen (os, .error e) f = (os, .error e) := rfl

/-- The outputs before the end or the failure, and the state or the failure. -/
def consume (step : σ → β → Except ε (σ × List ο)) : σ → List β → List ο × Except ε σ
  | s, [] => ([], .ok s)
  | s, b :: bs =>
    match step s b with
    | .error e => ([], .error e)
    | .ok (s', os) => (os ++ (consume step s' bs).1, (consume step s' bs).2)

/-- Feed chunk by chunk; `feed` returns the outputs of a chunk, or fails and returns none. -/
def feedAll (feed : σ → List β → Except ε (List ο × σ)) : σ → List (List β) → List ο × Except ε σ
  | s, [] => ([], .ok s)
  | s, c :: cs =>
    match feed s c with
    | .error e => ([], .error e)
    | .ok (os, s') => (os ++ (feedAll feed s' cs).1, (feedAll feed s' cs).2)

/-- A chunk processor that does to a chunk what the machine does to its symbols. -/
def Implements (feed : σ → List β → Except ε (List ο × σ))
    (step : σ → β → Except ε (σ × List ο)) : Prop :=
  ∀ s c, feed s c = (consume step s c).2.map fun s' => ((consume step s c).1, s')

variable {step : σ → β → Except ε (σ × List ο)} {feed : σ → List β → Except ε (List ο × σ)}

theorem consume_append (s : σ) (a b : List β) :
    consume step s (a ++ b) = andThen (consume step s a) fun s' => consume step s' b := by
  induction a generalizing s with
  | nil => rfl
  | cons x a ih =>
    simp only [List.cons_append, consume]
    cases step s x with
    | error e => rfl
    | ok r =>
      simp only [ih r.1, andThen]
      cases (consume step r.1 a).2 with
      | error e => rfl
      | ok s' => simp

/-- Chunked feeding ends as the machine does on the whole input, behind a prefix of its outputs. -/
theorem feedAll_spec (h : Implements feed step) (s : σ) (cs : List (List β)) :
    (feedAll feed s cs).2 = (consume step s cs.flatten).2 ∧
      (feedAll feed s cs).1 <+: (consume step s cs.flatten).1 ∧
      (∀ s', (feedAll feed s cs).2 = .ok s' →
        (feedAll feed s cs).1 = (consume step s cs.flatten).1) := by
  induction cs generalizing s with
  | nil => simp [feedAll, consume]
  | cons c cs ih =>
    rw [List.flatten_cons, consume_append, andThen, feedAll, h s c]
    cases hc : (consume step s c).2 with
    | error e => simp [Except.map]
    | ok s' =>
      obtain ⟨h1, h2, h3⟩ := ih s'
      refine ⟨h1, (List.prefix_append_right_inj _).mpr h2, fun s'' hs => ?_⟩
      simp only [Except.map] at hs ⊢
      rw [h3 s'' hs]

/-- Two splits of one input end alike. -/
theorem feedAll_eq (h : Implements feed step) (s : σ) {cs cs' : List (List β)}
    (heq : cs.flatten = cs'.flatten) : (feedAll feed s cs).2 = (feedAll feed s cs').2 := by
  rw [(feedAll_spec h s cs).1, (feedAll_spec h s cs').1, heq]

/-- Two splits of one input that is taken give the same outputs. -/
theorem feedAll_outputs (h : Implements feed step) {s s' : σ} {cs cs' : List (List β)}
    (heq : cs.flatten = cs'.flatten) (hok : (feedAll feed s cs).2 = .ok s') :
    (feedAll feed s cs).1 = (feedAll feed s cs').1 := by
  have hok' := (feedAll_eq h s heq).symm.trans hok
  rw [(feedAll_spec h s cs).2.2 s' hok, (feedAll_spec h s cs').2.2 s' hok', heq]

end Iperf3Lib.Incremental
