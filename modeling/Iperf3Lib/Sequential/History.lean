import Iperf3Lib.Sequential.Durations

/-!
# The history of `run_plan`

The validator goes over the records with less than `run_plan` knew when it wrote them. What it
remembers at a record follows from the state in front of the trial: while there is no stop reason, no
trial was left out, and with `stop_on_error` none was unsuccessful. So every history passes, as far as
its durations fit.
-/

namespace Iperf3Lib.Trials

open Py

variable {A : Type} {x : Setup A} {s t : Run A} {parse : IpParser} {spec : TrialSpec}
  {outcome : Outcome A} {execute : ℕ → Outcome A}

/-! ## Outcomes -/

/-- What the `try` statement computes, by the kind of its status. -/
inductive Settled.Sound (artifacts : Artifacts A) : Settled A → Prop
  | native (a : A) : Sound artifacts { status := .native (artifacts.status a), artifact := some a }
  | exception (error : TrialException) (evidence : Option PyDict) (diagnostics : List PyStr) :
      error.typeName ≠ [] → (evidence ≠ none → diagnostics ≠ []) → Sound artifacts
        { status := .exception, exception := some error, evidence, diagnostics }

theorem settle_sound (artifacts : Artifacts A) (outcome : Outcome A) :
    (settle artifacts outcome).Sound artifacts := by
  have hname : ∀ error : Raised, error.toTrialException.typeName ≠ [] := by
    intro error hnil
    have := error.hasText_typeName
    rw [hnil] at this
    cases this
  rcases outcome with a | ⟨fields, error⟩ | error
  · rw [settle, artifacts.execution_eq]
    exact .native a
  · exact .exception _ _ _ (hname error) fun _ => (hasText_diagnostics fields).1
  · exact .exception _ none [] (hname error) fun h => absurd rfl h

namespace Run

/-! ## Durations -/

/-- The readings of a run and what it recorded of them. -/
def ledger (s : Run A) : Ledger :=
  ⟨s.reads, s.records.map TrialRecord.elapsed, s.pauseElapsed, s.work, s.pauses⟩

/-- What the checks and the pause keep holds behind the stop decisions in front of a trial. -/
theorem beforeTrial_induction {P : Run A → Prop} (index : ℕ) (h : P s)
    (hcheck : ∀ u : Run A, P u → P (u.checkLimit x)) (hpause : ∀ u : Run A, P u → P (u.pause x)) :
    P (s.beforeTrial x index) := by
  have hchecked : P (if s.stopReason = none then s.checkLimit x else s) := by
    split
    · exact hcheck s h
    · exact h
  unfold beforeTrial
  dsimp only
  generalize (if s.stopReason = none then s.checkLimit x else s) = u at hchecked ⊢
  split
  · exact hcheck _ (hpause u hchecked)
  · exact hchecked

/-- What is known of the stop reason. -/
structure Stops (x : Setup A) (s : Run A) : Prop where
  reasons : ∀ reason ∈ s.stopReason, reason = stopOnError ∨ reason = elapsedAdmissionLimit
  elapsed : s.stopReason = some elapsedAdmissionLimit →
    x.plan.budget.stopAfterElapsedSeconds ≠ none
  onError : s.stopReason = some stopOnError → x.plan.policy.stopOnError = true ∧
    ∃ r ∈ s.records, r.status ≠ .native .completed ∧ r.status ≠ .notRun

theorem stopOnError_ne : stopOnError ≠ elapsedAdmissionLimit := by decide

theorem Stops.start : Stops x (start : Run A) :=
  ⟨by simp [Run.start], by simp [Run.start], by simp [Run.start]⟩

/-- What the records hold of a decided stop only grows. -/
theorem Stops.grow (h : Stops x s) (hreason : t.stopReason = s.stopReason)
    (hrecords : s.records ⊆ t.records) : Stops x t where
  reasons := hreason ▸ h.reasons
  elapsed := hreason ▸ h.elapsed
  onError hstop := by
    obtain ⟨hpolicy, r, hr, hstatus⟩ := h.onError (hreason ▸ hstop)
    exact ⟨hpolicy, r, hrecords hr, hstatus⟩

theorem Stops.checkLimit (h : Stops x s) : Stops x (s.checkLimit x) := by
  unfold Run.checkLimit
  split
  · exact h
  · next limit hlimit =>
    split
    · refine ⟨?_, fun _ => by simp [hlimit], fun hstop => ?_⟩
      · rintro reason ⟨⟩
        exact .inr rfl
      · exact absurd (Option.some.inj hstop).symm stopOnError_ne
    · exact h.grow rfl (List.Subset.refl _)

theorem Stops.beforeTrial (index : ℕ) (h : Stops x s) : Stops x (s.beforeTrial x index) :=
  beforeTrial_induction index h (fun _ h => h.checkLimit) fun _ h => h.grow rfl (List.Subset.refl _)

/-- The status of a trial that was started. -/
theorem record_started (x : Setup A) (s : Run A) (spec : TrialSpec) (outcome : Outcome A) :
    (s.record x spec outcome).status ≠ .notRun := by
  have hsound := settle_sound x.artifacts outcome
  show (settle x.artifacts outcome).status ≠ .notRun
  generalize settle x.artifacts outcome = settled at hsound ⊢
  cases hsound <;> simp

theorem records_trial (x : Setup A) (spec : TrialSpec) (outcome : Outcome A) (s : Run A) :
    (s.trial x spec outcome).records = s.records ++ [s.record x spec outcome] := by
  unfold trial
  dsimp only
  split <;> rfl

theorem Stops.trial (h : Stops x s) (spec : TrialSpec) (outcome : Outcome A) :
    Stops x (s.trial x spec outcome) := by
  have hmem : s.record x spec outcome ∈ (s.trial x spec outcome).records := by
    rw [records_trial]
    exact List.mem_append_right _ List.mem_cons_self
  unfold Run.trial at hmem ⊢
  dsimp only at hmem ⊢
  split
  · next hfailed =>
    rw [if_pos hfailed] at hmem
    refine ⟨?_, fun hstop => ?_, fun _ => ?_⟩
    · rintro reason ⟨⟩
      exact .inl rfl
    · exact absurd (Option.some.inj hstop) stopOnError_ne
    · exact ⟨hfailed.2, _, hmem, hfailed.1, record_started x s spec outcome⟩
  · exact h.grow rfl (List.subset_append_left _ _)

theorem Stops.step (item : TrialSpec × ℕ) (h : Stops x s) : Stops x (s.step x execute item) := by
  unfold Run.step
  dsimp only
  split
  · exact (h.beforeTrial item.2).grow rfl (List.subset_append_left _ _)
  · exact (h.beforeTrial item.2).trial _ _

theorem Stops.run (x : Setup A) (execute : ℕ → Outcome A) : Stops x (run x execute) := by
  have hloop : ∀ (items : List (TrialSpec × ℕ)) (s : Run A), Stops x s →
      Stops x (items.foldl (Run.step x execute) s) := by
    intro items
    induction items with
    | nil => exact fun _ h => h
    | cons item items ih => exact fun s h => ih _ (h.step item)
  exact hloop _ _ Stops.start

/-! ## The records -/

/-- What the validator remembers in front of a record, while the run is not stopped. -/
def Agrees (x : Setup A) (s : Run A) (seen : Seen) : Prop :=
  s.stopReason = none → seen.stopped = false ∧
    (x.plan.policy.stopOnError = true → seen.executionFailed = false)

/-- Records of trials that were started, and behind them records that carry the stop reason. -/
def Divided (stopReason : Option PyStr) (records : List (TrialRecord A)) : Prop :=
  ∃ ran rest, records = ran ++ rest ∧ (∀ r ∈ ran, r.status ≠ .notRun) ∧
    ∀ r ∈ rest, r.status = .notRun ∧ r.reason = stopReason ∧ stopReason ≠ none

/-- Every planned trial has one record, in the order of the plan; those that were not started stand at
the end and carry the stop reason. -/
structure Retained (result : PlanResult A) : Prop where
  specs : result.trials.map TrialRecord.spec = result.plan.trials
  divided : Divided result.stopReason result.trials

end Run

end Iperf3Lib.Trials
