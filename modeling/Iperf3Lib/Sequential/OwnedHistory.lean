import Iperf3Lib.Sequential.History

/-!
# The history of an owned plan

The stop reason of `_Run` is decided at many places, and the first decision wins. During a trial it can
only be one of the three that interrupt; what the outcome of the child adds to it is what its record
needs. So the pair of status and reason in the record of an interrupted trial is one that the
validator expects.
-/

namespace Iperf3Lib.AsyncTrials

open Py

variable {A : Type} {x : Setup A} {s t u : Run A} {parse : IpParser} {spec : TrialSpec}
  {turn : Turn A} {turns : ℕ → Turn A}

namespace Run

/-! ## Steps without a record -/

/-- The readings of a run and what it recorded of them. -/
def ledger (s : Run A) : Ledger :=
  ⟨s.reads, s.records.map PlanTrialRecord.elapsed, s.pauseElapsed, s.work, s.pauses⟩

/-- Between `s` and `t` clocks were read and stops were called. -/
structure Quiet (s t : Run A) : Prop where
  reads : s.reads ≤ t.reads
  ledger : t.ledger = s.ledger.advance t.reads
  records : t.records = s.records
  stopReason : ∀ reason, s.stopReason = some reason → t.stopReason = some reason

theorem Quiet.refl (s : Run A) : Quiet s s := ⟨le_rfl, rfl, rfl, fun _ h => h⟩

theorem Quiet.trans (h : Quiet s t) (h' : Quiet t u) : Quiet s u where
  reads := h.reads.trans h'.reads
  ledger := by rw [h'.ledger, h.ledger]; rfl
  records := h'.records.trans h.records
  stopReason reason hs := h'.stopReason reason (h.stopReason reason hs)

theorem Quiet.sound (h : Quiet s t) (hs : s.ledger.Sound x.clock) : t.ledger.Sound x.clock := by
  rw [h.ledger]
  exact hs.advance h.reads

theorem quiet_tick (s : Run A) : Quiet s s.tick := ⟨Nat.le_succ _, rfl, rfl, fun _ h => h⟩

theorem quiet_stop (reason : StopReason) (cause : Option Failure) (s : Run A) :
    Quiet s (s.stop reason cause) := by
  unfold stop
  split
  · next hnone => exact ⟨le_rfl, rfl, rfl, fun _ h => by rw [hnone] at h; cases h⟩
  · exact .refl s

theorem quiet_readRemaining (x : Setup A) (s : Run A) : Quiet s (s.readRemaining x) := by
  unfold readRemaining
  split
  · exact .refl s
  · exact quiet_tick s

theorem quiet_checkDeadline (x : Setup A) (s : Run A) : Quiet s (s.checkDeadline x) := by
  unfold checkDeadline
  split
  · exact (quiet_readRemaining x s).trans (quiet_stop _ _ _)
  · exact quiet_readRemaining x s

theorem quiet_interrupt (s : Run A) (error : Raised) : Quiet s (s.interrupt error) :=
  quiet_stop _ _ s

theorem quiet_drain (index : ℕ) (draining : List Raised) (s : Run A) :
    Quiet s (s.drain index draining) := by
  have hloop : ∀ (draining : List Raised) (s : Run A), Quiet s (draining.foldl interrupt s) := by
    intro draining
    induction draining with
    | nil => exact .refl
    | cons error draining ih => exact fun s => (quiet_interrupt s error).trans (ih _)
  refine Quiet.trans ?_ (hloop draining _)
  exact ⟨le_rfl, rfl, rfl, fun _ h => h⟩

theorem quiet_await (x : Setup A) (index : ℕ) (turn : Turn A) (s : Run A) :
    Quiet s (s.await x index turn) := by
  refine (quiet_readRemaining x s).trans ?_
  unfold await
  dsimp only
  split
  · exact quiet_checkDeadline x _
  · split
    · exact quiet_checkDeadline x _
    · exact (quiet_stop _ _ _).trans (quiet_drain _ _ _)
  · split
    · exact quiet_interrupt _ _
    · exact (quiet_interrupt _ _).trans (quiet_drain _ _ _)

theorem quiet_stopFor (x : Setup A) (result : TaskResult A) (s : Run A) :
    Quiet s (s.stopFor x result) := by
  unfold stopFor
  split
  · next error prior =>
    have hnoted : Quiet s { s with cleanupErrors := s.cleanupErrors ++ [error] } :=
      ⟨le_rfl, rfl, rfl, fun _ h => h⟩
    refine Quiet.trans ?_ (quiet_stop _ _ _)
    cases prior with
    | cancelled prior => exact hnoted.trans (quiet_stop _ _ _)
    | timeout prior =>
      dsimp only
      split
      · exact hnoted.trans (quiet_stop _ _ _)
      · exact hnoted
    | other => exact hnoted
  · exact quiet_interrupt _ _
  · split
    · exact .refl s
    · exact quiet_stop _ _ s
  · exact .refl s

/-! ## Durations -/

/-- What the quiet steps and the pause keep holds behind `before_trial`. -/
theorem beforeTrial_induction {P : Run A → Prop} (index : ℕ) (turn : Turn A) (h : P s)
    (hlimits : ∀ u : Run A, P u → P (u.checkLimits x))
    (hinterrupt : ∀ (u : Run A) (error : Raised), P u → P (u.interrupt error))
    (hpause : ∀ u : Run A, P u → P (u.pause x)) : P (s.beforeTrial x index turn) := by
  unfold beforeTrial
  split
  · exact hinterrupt s _ h
  · unfold afterSleep
    dsimp only
    split
    · exact hlimits s h
    · split
      · exact hinterrupt _ _ (hpause _ (hlimits s h))
      · exact hlimits _ (hpause _ (hlimits s h))

/-- The state behind the calls of `stop` for the outcome of a trial. -/
def settled (x : Setup A) (index : ℕ) (turn : Turn A) (s : Run A) : Run A :=
  (s.tick.await x index turn).stopFor x turn.result

theorem quiet_settled (x : Setup A) (index : ℕ) (turn : Turn A) (s : Run A) :
    Quiet s.tick (s.settled x index turn) :=
  (quiet_await x index turn s.tick).trans (quiet_stopFor x turn.result _)

/-- What has to hold for a stop reason. -/
def Grounds (x : Setup A) (records : List (PlanTrialRecord A)) : StopReason → Prop
  | .stopOnError => x.plan.policy.stopOnError = true ∧
      ∃ r ∈ records, r.status ≠ .native .completed ∧ r.status ≠ .notRun
  | .elapsedAdmissionLimit => x.plan.budget.stopAfterElapsedSeconds ≠ none
  | .hard .cancelled => True
  | .hard .timeout => x.timeout ≠ none
  | .hard .cleanupFailed => ∃ r ∈ records, r.cleanupConfirmed = false

/-- The stop reason has its grounds. -/
def Grounded (x : Setup A) (s : Run A) : Prop :=
  ∀ reason, s.stopReason = some reason → Grounds x s.records reason

theorem Grounds.mono {records records' : List (PlanTrialRecord A)} {reason : StopReason}
    (h : Grounds x records reason) (hsub : records ⊆ records') : Grounds x records' reason := by
  rcases reason with _ | _ | (_ | _ | _)
  · obtain ⟨hpolicy, r, hr, hstatus⟩ := h
    exact ⟨hpolicy, r, hsub hr, hstatus⟩
  · exact h
  · exact h
  · exact h
  · obtain ⟨r, hr, hunconfirmed⟩ := h
    exact ⟨r, hsub hr, hunconfirmed⟩

theorem Grounded.grow (h : Grounded x s) (hreason : t.stopReason = s.stopReason)
    (hsub : s.records ⊆ t.records) : Grounded x t :=
  fun reason hstop => (h reason (hreason ▸ hstop)).mono hsub

theorem Grounded.stop (h : Grounded x s) {reason : StopReason} (hgrounds : Grounds x s.records reason)
    (cause : Option Failure) : Grounded x (s.stop reason cause) := by
  unfold Run.stop
  split
  · rintro reason ⟨⟩
    exact hgrounds
  · exact h

theorem Grounded.readRemaining (h : Grounded x s) : Grounded x (s.readRemaining x) := by
  unfold Run.readRemaining
  split
  · exact h
  · exact h.grow rfl (List.Subset.refl _)

theorem timeout_of_expired (h : s.expired x = true) : x.timeout ≠ none := by
  intro hnone
  simp [expired, remaining, hnone] at h

theorem Grounded.checkDeadline (h : Grounded x s) : Grounded x (s.checkDeadline x) := by
  unfold Run.checkDeadline
  split
  · next hexpired =>
    exact h.readRemaining.stop (show Grounds x _ (.hard .timeout) from timeout_of_expired hexpired) _
  · exact h.readRemaining

theorem Grounded.checkLimits (h : Grounded x s) : Grounded x (s.checkLimits x) := by
  have hdeadline := h.checkDeadline
  unfold Run.checkLimits checkElapsed
  split
  · exact hdeadline
  · next limit hlimit =>
    have hticked := hdeadline.grow (t := (s.checkDeadline x).tick) rfl (List.Subset.refl _)
    split
    · exact hticked.stop (show Grounds x _ .elapsedAdmissionLimit by simp [Grounds, hlimit]) none
    · exact hticked

theorem Grounded.interrupt (h : Grounded x s) (error : Raised) : Grounded x (s.interrupt error) :=
  h.stop (show Grounds x _ (.hard .cancelled) from trivial) _

theorem readRemaining_records (x : Setup A) (s : Run A) :
    (s.readRemaining x).records = s.records := (quiet_readRemaining x s).records

theorem readRemaining_stopReason (x : Setup A) (s : Run A) :
    (s.readRemaining x).stopReason = s.stopReason := by
  unfold readRemaining
  split <;> rfl

theorem Grounded.pause (h : Grounded x s) : Grounded x (s.pause x) := by
  refine h.grow ?_ ?_
  · exact readRemaining_stopReason x s.tick
  · rw [show (s.pause x).records = s.records from readRemaining_records x s.tick]
    exact List.Subset.refl _

theorem Grounded.beforeTrial (index : ℕ) (turn : Turn A) (h : Grounded x s) :
    Grounded x (s.beforeTrial x index turn) :=
  beforeTrial_induction index turn h (fun _ h => h.checkLimits) (fun _ error h => h.interrupt error)
    fun _ h => h.pause

/-! ## Interruptions -/

/-- The stop reasons that can be decided during a trial; `cleanup` says whether its outcome is an
unconfirmed cleanup. -/
def Interrupted (x : Setup A) (cleanup : Prop) (s : Run A) : Prop :=
  ∀ reason, s.stopReason = some reason → ∃ hard, reason = .hard hard ∧
    (hard = .timeout → x.timeout ≠ none) ∧ (hard = .cleanupFailed → cleanup)

variable {cleanup : Prop}

theorem Interrupted.stop (h : Interrupted x cleanup s) {hard : HardStop}
    (htimeout : hard = .timeout → x.timeout ≠ none) (hcleanup : hard = .cleanupFailed → cleanup)
    (cause : Option Failure) : Interrupted x cleanup (s.stop (.hard hard) cause) := by
  unfold Run.stop
  split
  · rintro reason ⟨⟩
    exact ⟨hard, rfl, htimeout, hcleanup⟩
  · exact h

theorem Interrupted.mono {cleanup' : Prop} (h : Interrupted x cleanup s) (himp : cleanup → cleanup')
    (hreason : t.stopReason = s.stopReason) : Interrupted x cleanup' t := by
  intro reason hstop
  obtain ⟨hard, heq, htimeout, hcleanup⟩ := h reason (hreason ▸ hstop)
  exact ⟨hard, heq, htimeout, fun hfailed => himp (hcleanup hfailed)⟩

theorem Interrupted.interrupt (h : Interrupted x cleanup s) (error : Raised) :
    Interrupted x cleanup (s.interrupt error) :=
  h.stop (by simp) (by simp) _

theorem Interrupted.drain (h : Interrupted x cleanup s) (index : ℕ) (draining : List Raised) :
    Interrupted x cleanup (s.drain index draining) := by
  have hloop : ∀ (draining : List Raised) (s : Run A), Interrupted x cleanup s →
      Interrupted x cleanup (draining.foldl Run.interrupt s) := by
    intro draining
    induction draining with
    | nil => exact fun _ h => h
    | cons error draining ih => exact fun s h => ih _ (h.interrupt error)
  exact hloop draining _ (h.mono id rfl)

theorem Interrupted.checkDeadline (h : Interrupted x cleanup s) :
    Interrupted x cleanup (s.checkDeadline x) := by
  have hread := h.mono (t := s.readRemaining x) id (readRemaining_stopReason x s)
  unfold Run.checkDeadline
  split
  · next hexpired => exact hread.stop (fun _ => timeout_of_expired hexpired) (by simp) _
  · exact hread

theorem Interrupted.await (h : Interrupted x cleanup s) (index : ℕ) (turn : Turn A) :
    Interrupted x cleanup (s.await x index turn) := by
  have hread := h.mono (t := s.readRemaining x) id (readRemaining_stopReason x s)
  unfold Run.await
  dsimp only
  split
  · exact hread.checkDeadline
  · split
    · exact hread.checkDeadline
    · next htimeout => exact (hread.stop (fun _ => htimeout) (by simp) _).drain index _
  · split
    · exact hread.interrupt _
    · exact (hread.interrupt _).drain index _

/-- The outcome is an unconfirmed cleanup. -/
def isCleanup : TaskResult A → Prop
  | .raised (.cleanup _ _) => True
  | _ => False

theorem Interrupted.stopFor (h : Interrupted x False s) (result : TaskResult A) :
    Interrupted x (isCleanup result) (s.stopFor x result) := by
  unfold Run.stopFor
  split
  · next error prior =>
    have hnoted : Interrupted x (isCleanup (.raised (.cleanup error prior) : TaskResult A))
        { s with cleanupErrors := s.cleanupErrors ++ [error] } := h.mono False.elim rfl
    refine Interrupted.stop ?_ (by simp) (fun _ => trivial) _
    cases prior with
    | cancelled prior => exact hnoted.stop (by simp) (by simp) _
    | timeout prior =>
      dsimp only
      split
      · next htimeout => exact hnoted.stop (fun _ => htimeout) (by simp) _
      · exact hnoted
    | other => exact hnoted
  · exact (h.mono False.elim rfl).interrupt _
  · split
    · exact h.mono False.elim rfl
    · next htimeout => exact (h.mono False.elim rfl).stop (fun _ => htimeout) (by simp) _
  · exact h.mono False.elim rfl

/-- During a trial only an interruption is decided. -/
theorem interrupted_settled (hrunning : s.stopReason = none) (index : ℕ) (turn : Turn A) :
    Interrupted x (isCleanup turn.result) (s.settled x index turn) := by
  have hstart : Interrupted x False s.tick := by
    intro reason hstop
    rw [show s.tick.stopReason = none from hrunning] at hstop
    cases hstop
  exact (hstart.await index turn).stopFor turn.result

/-! ## Outcomes -/

/-- What the `try` statement computes, by the kind of its status; `stopReason` is the one behind its
calls of `stop`. -/
inductive Settled.Sound (artifacts : Artifacts A) (stopReason : Option StopReason) :
    Settled A → Prop
  | native (a : A) : Sound artifacts stopReason
      { status := .native (artifacts.status a), artifact := some a }
  | exception (error : TrialException) (evidence : Option PyDict) (diagnostics : List PyStr) :
      error.typeName.hasText = true → (evidence ≠ none → diagnostics ≠ []) →
      (∀ item ∈ diagnostics, item.hasText = true) → Sound artifacts stopReason
        { status := .exception, exception := some error, evidence, diagnostics }
  | interrupted (status : TrialStatus) (error : TrialException) (hard : HardStop) :
      status.isInterrupted = true → error.typeName.hasText = true →
      stopReason = some (.hard hard) → hard ∈ expected status → Sound artifacts stopReason
        { status, exception := some error, reason := some (StopReason.hard hard).text
          cleanupConfirmed := decide (status ≠ .cleanupFailed) }

theorem stop_ne_none (reason : StopReason) (cause : Option Failure) (s : Run A) :
    (s.stop reason cause).stopReason ≠ none := by
  unfold stop
  split
  · simp
  · assumption

/-- A stop that is called during a trial leaves an interruption. -/
theorem Interrupted.exists_hard (h : Interrupted x cleanup s) (hne : s.stopReason ≠ none) :
    ∃ hard, s.stopReason = some (.hard hard) ∧ (hard = .cleanupFailed → cleanup) := by
  obtain ⟨reason, hreason⟩ := Option.ne_none_iff_exists'.mp hne
  obtain ⟨hard, rfl, -, hcleanup⟩ := h reason hreason
  exact ⟨hard, hreason, hcleanup⟩

theorem settle_sound (hrunning : s.stopReason = none) (index : ℕ) (turn : Turn A) :
    ((s.settled x index turn).settle x turn.result).Sound x.artifacts
      (s.settled x index turn).stopReason := by
  have hinterrupted := interrupted_settled (x := x) hrunning index turn
  have hcalled : ∀ error : Raised, turn.result = .raised (.cancelled error) ∨
      (turn.result = .raised (.timeout error) ∧ x.timeout ≠ none) →
      (s.settled x index turn).stopReason ≠ none := by
    rintro error (hresult | ⟨hresult, htimeout⟩)
    · rw [settled, hresult, stopFor]
      exact stop_ne_none _ _ _
    · rw [settled, hresult, stopFor, if_neg htimeout]
      exact stop_ne_none _ _ _
  have hcleanup : ∀ error prior, turn.result = .raised (.cleanup error prior) →
      (s.settled x index turn).stopReason ≠ none := by
    intro error prior hresult
    rw [settled, hresult]
    exact stop_ne_none (.hard .cleanupFailed) _ _
  generalize s.settled x index turn = u at hinterrupted hcalled hcleanup ⊢
  generalize turn.result = result at hinterrupted hcalled hcleanup ⊢
  rcases result with a | ⟨fields, error⟩ | (⟨error, prior⟩ | error | error | error)
  · exact .native a
  · obtain ⟨hne, htext⟩ := hasText_diagnostics fields
    exact .exception _ _ _ error.hasText_typeName (fun _ => hne) htext
  · obtain ⟨hard, hreason, -⟩ := hinterrupted.exists_hard (hcleanup error prior rfl)
    rw [settle, hreason]
    refine .interrupted .cleanupFailed _ hard rfl error.hasText_typeName rfl ?_
    cases hard <;> simp [expected]
  · obtain ⟨hard, hreason, hnot⟩ := hinterrupted.exists_hard (hcalled error (.inl rfl))
    rw [settle, hreason]
    cases hard with
    | cancelled => exact .interrupted .cancelled _ _ rfl error.hasText_typeName rfl (by simp [expected])
    | timeout => exact .interrupted .timedOut _ _ rfl error.hasText_typeName rfl (by simp [expected])
    | cleanupFailed => exact (hnot rfl).elim
  · rw [settle]
    split
    · exact .exception _ none [] error.hasText_typeName (by simp) (by simp)
    · next htimeout =>
      obtain ⟨hard, hreason, hnot⟩ :=
        hinterrupted.exists_hard (hcalled error (.inr ⟨rfl, htimeout⟩))
      rw [hreason]
      cases hard with
      | cancelled => exact .interrupted .cancelled _ _ rfl error.hasText_typeName rfl (by simp [expected])
      | timeout => exact .interrupted .timedOut _ _ rfl error.hasText_typeName rfl (by simp [expected])
      | cleanupFailed => exact (hnot rfl).elim
  · exact .exception _ none [] error.hasText_typeName (by simp) (by simp)

/-- The record of the trial that is started. -/
def trialRecord (x : Setup A) (index : ℕ) (spec : TrialSpec) (turn : Turn A) (s : Run A) :
    PlanTrialRecord A :=
  (s.settled x index turn).record x s.reads spec turn

theorem trial_eq (x : Setup A) (index : ℕ) (spec : TrialSpec) (turn : Turn A) (s : Run A) :
    s.trial x index spec turn =
      (s.settled x index turn).append x s.reads (s.trialRecord x index spec turn) := rfl

theorem records_trial (x : Setup A) (index : ℕ) (spec : TrialSpec) (turn : Turn A) (s : Run A) :
    (s.trial x index spec turn).records = s.records ++ [s.trialRecord x index spec turn] := by
  have hrecords : (s.settled x index turn).records = s.records := (quiet_settled x index turn s).records
  rw [trial_eq, append]
  dsimp only
  split
  · rw [(quiet_stop _ _ _).records, hrecords]
  · rw [hrecords]

theorem record_started (hrunning : s.stopReason = none) (index : ℕ) (spec : TrialSpec)
    (turn : Turn A) : (s.trialRecord x index spec turn).status ≠ .notRun := by
  have hsound := settle_sound (x := x) hrunning index turn
  show ((s.settled x index turn).settle x turn.result).status ≠ .notRun
  generalize (s.settled x index turn).settle x turn.result = settled at hsound ⊢
  cases hsound with
  | native a => simp
  | exception => simp
  | interrupted status _ _ hinterrupted =>
    rintro rfl
    cases hinterrupted

end Run

end Iperf3Lib.AsyncTrials
