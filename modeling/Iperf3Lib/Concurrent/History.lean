import Iperf3Lib.Concurrent.Safety
import Iperf3Lib.Concurrent.Reports

/-!
# The history that a run records

`History` holds at every await point: where each record comes from, how the offsets of admissions,
releases and stops are ordered, and which of them explain a stop. Everything that the validator of
reports looks at follows from it once the run is over.
-/

namespace Iperf3Lib

open Py

/-! ## Offsets -/

namespace Clock

variable (clock : Clock)

theorem offset_spec (k : ℕ) : (PyFloat.finite (clock.monotonic k)).sub
    (.finite (clock.monotonic 0)) = .finite (clock.offset k) := by
  obtain ⟨d, hd⟩ := clock.finite k
  rw [Clock.offset, hd]
  rfl

theorem offset_mono {i j : ℕ} (hij : i ≤ j) : clock.offset i ≤ clock.offset j :=
  PyFloat.sub_mono (clock.monotone hij) (clock.offset_spec i) (clock.offset_spec j)

theorem offset_nonneg (k : ℕ) : 0 ≤ (clock.offset k).toRat := by
  have hle := Finite64.le_iff.mp (clock.offset_mono (Nat.zero_le k))
  rwa [PyFloat.sub_self_finite (clock.offset_spec 0)] at hle

end Clock

namespace Run

variable {A : Type} {x : Setup A} {s s' : Run A} {parse : IpParser} {result : TaskResult A}

/-- The offset is one of the readings so far. -/
def Past (x : Setup A) (s : Run A) (t : Finite64) : Prop := ∃ k < s.reads, t = x.clock.offset k

theorem Past.mono (hreads : s.reads ≤ s'.reads) {t : Finite64} (h : Past x s t) : Past x s' t := by
  obtain ⟨k, hk, rfl⟩ := h
  exact ⟨k, hk.trans_le hreads, rfl⟩

theorem Past.nonneg {t : Finite64} (h : Past x s t) : 0 ≤ t.toRat := by
  obtain ⟨k, -, rfl⟩ := h
  exact x.clock.offset_nonneg k

/-- Nothing so far is later than the next reading. -/
theorem Past.le_offset {t : Finite64} (h : Past x s t) : t ≤ s.offset x := by
  obtain ⟨k, hk, rfl⟩ := h
  exact x.clock.offset_mono hk.le

/-- The reading that is taken now is past afterwards. -/
theorem past_offset (hreads : s.reads < s'.reads) : Past x s' (s.offset x) := ⟨_, hreads, rfl⟩

theorem offset_le (hreads : s.reads ≤ s'.reads) : s.offset x ≤ s'.offset x :=
  x.clock.offset_mono hreads

/-- The decisions to stop. -/
structure Stops (x : Setup A) (s : Run A) : Prop where
  running : s.stopReason = none → s.stoppedOffset = none ∧ s.terminationReason = none
  stopped : ∀ reason, s.stopReason = some reason → ∃ o, s.stoppedOffset = some o ∧ Past x s o ∧
    ∀ e ∈ s.admittedLog, e.admitted ≤ o
  unterminated : s.terminationReason = none → s.terminationOffset = none
  terminated : ∀ reason, s.terminationReason = some reason → ∃ o o', s.stoppedOffset = some o ∧
    s.terminationOffset = some o' ∧ Past x s o' ∧ o ≤ o'
  hard : ∀ reason, s.stopReason = some (.hard reason) →
    s.terminationReason = some reason ∧ s.terminationOffset = s.stoppedOffset
  timeout : s.terminationReason = some .timeout → x.timeout ≠ none
  elapsed : s.stopReason = some .elapsedAdmissionLimit → ∃ limit o,
    x.admission.plan.budget.stopAfterElapsedSeconds = some limit ∧ s.stoppedOffset = some o ∧
      limit.reachedBy o = true

/-- The admissions and the children they left behind. -/
structure Log (x : Setup A) (s : Run A) : Prop where
  past : ∀ e ∈ s.admittedLog, Past x s e.admitted
  sorted : s.admittedLog.Pairwise fun e e' => e.admitted ≤ e'.admitted
  fits : ∀ e ∈ s.admittedLog, x.limits.Fits e.active ∧ e.index ∈ e.active
  active : ∀ index owned, (index, owned) ∈ s.active → owned.events.Inv x.maxStrDigits ∧
    ∃ k e, s.admittedLog[k]? = some e ∧ e.index = index ∧ owned.admissionIndex = k + 1 ∧
      owned.admitted = e.admitted

/-- A record was written by `consume`, in an earlier state `t` whose stop decisions still stand. -/
structure Written (x : Setup A) (s : Run A) (index : ℕ) (r : TrialRecord A) (t : Run A)
    (spec : TrialSpec) (owned : Owned A) (result : TaskResult A) : Prop where
  record : r = t.record x index spec owned result
  spec : x.trials[index]? = some spec
  reads : t.reads + 1 < s.reads
  keeps : Keeps t s
  interrupted : (t.settle x result).status.isInterrupted = true → ∃ reason o,
    t.terminationReason = some reason ∧ t.terminationOffset = some o ∧ Past x t o
  events : owned.events.Inv x.maxStrDigits
  log : ∃ k e, s.admittedLog[k]? = some e ∧ e.index = index ∧ owned.admissionIndex = k + 1 ∧
    owned.admitted = e.admitted ∧ Past x t e.admitted

/-- Every record comes from `consume`. -/
def Records (x : Setup A) (s : Run A) : Prop :=
  ∀ index r, (index, r) ∈ s.records → ∃ t spec owned result, Written x s index r t spec owned result

/-- An earlier child was still there, or had released its reservation, when another was admitted. -/
structure Peers (x : Setup A) (s : Run A) : Prop where
  released : s.admittedLog.Pairwise fun e e' => e.index ∈ e'.active ∨
    ∃ r o, (e.index, r) ∈ s.records ∧ r.releasedOffset = some o ∧ o ≤ e'.admitted
  predecessors : ∀ k e, s.admittedLog[k]? = some e → ∀ p ∈ x.predecessor e.index,
    ∃ r a o, (p, r) ∈ s.records ∧ r.admissionIndex = some a ∧ a ≤ k ∧
      r.releasedOffset = some o ∧ o ≤ e.admitted

/-- The records that explain a stop, and the stops that records call for. -/
structure Errors (x : Setup A) (s : Run A) : Prop where
  onError : s.stopReason = some .stopOnError → x.admission.plan.policy.stopOnError = true ∧
    ∃ item ∈ s.records, ∃ f o, item.2.failure = some f ∧ s.stoppedOffset = some o ∧ f ≤ o
  stops : x.admission.plan.policy.stopOnError = true → ∀ item ∈ s.records,
    ∀ f, item.2.failure = some f → s.stopReason ≠ none ∧ ∀ e ∈ s.admittedLog, e.admitted ≤ f
  cleanup : s.terminationReason = some .cleanupFailed →
    ∃ item ∈ s.records, item.2.cleanupConfirmed = false

/-- What every await point keeps of the past. -/
structure History (x : Setup A) (s : Run A) : Prop where
  accounts : Accounts x s
  stops : Stops x s
  log : Log x s
  records : Records x s
  peers : Peers x s
  errors : Errors x s

theorem getElem?_of_prefix {log log' : List Admitted} (h : log <+: log') {k : ℕ} {e : Admitted}
    (hk : log[k]? = some e) : log'[k]? = some e := by
  obtain ⟨rest, rfl⟩ := h
  rw [List.getElem?_append_left (List.getElem?_eq_some_iff.mp hk).1, hk]

/-! ## Decisions -/

/-- A step that reads clocks and decides to stop. -/
structure Decides (s s' : Run A) : Prop where
  quiet : Quiet s s'
  keeps : Keeps s s'
  reads : s.reads ≤ s'.reads

theorem Decides.refl (s : Run A) : Decides s s := ⟨.refl s, .refl s, le_rfl⟩

theorem Decides.trans {s s' s'' : Run A} (h : Decides s s') (h' : Decides s' s'') : Decides s s'' :=
  ⟨h.quiet.trans h'.quiet, h.keeps.trans h'.keeps, h.reads.trans h'.reads⟩

theorem Decides.tick (s : Run A) : Decides s s.tick :=
  ⟨.tick s, ⟨fun _ h => ⟨h, rfl⟩, fun _ h => ⟨h, rfl⟩⟩, Nat.le_succ _⟩

theorem Decides.stop (x : Setup A) (s : Run A) (reason : StopReason) :
    Decides s (s.stop x reason) := ⟨.stop x s reason, .stopReason x s reason, reads_stop x s reason⟩

theorem Decides.terminate (x : Setup A) (s : Run A) (reason : HardStop) (cause : Failure) :
    Decides s (s.terminate x reason cause) :=
  ⟨.terminate x s reason cause, .terminate x s reason cause, by simp⟩

theorem Decides.terminateFor (x : Setup A) (s : Run A) (result : TaskResult A) :
    Decides s (s.terminateFor x result) := by
  refine ⟨.terminateFor x s result, .terminateFor x s result, ?_⟩
  rcases result with _ | _ | (⟨error, prior⟩ | error | error | error)
  · exact le_rfl
  · exact le_rfl
  · cases prior <;> unfold Run.terminateFor <;> dsimp only
    · rw [reads_terminate, reads_terminate]
      exact (Nat.le_succ _).trans (Nat.le_succ _)
    · split
      · rw [reads_terminate, reads_terminate]
        exact (Nat.le_succ _).trans (Nat.le_succ _)
      · rw [reads_terminate]
        exact Nat.le_succ _
    · rw [reads_terminate]
      exact Nat.le_succ _
  · simp [Run.terminateFor]
  · unfold Run.terminateFor
    dsimp only
    split <;> simp
  · exact le_rfl

theorem Log.decides (h : Log x s) (hd : Decides s s') : Log x s' := by
  refine ⟨?_, ?_, ?_, ?_⟩
  · rw [hd.quiet.admittedLog]
    exact fun e he => (h.past e he).mono hd.reads
  · rw [hd.quiet.admittedLog]
    exact h.sorted
  · rw [hd.quiet.admittedLog]
    exact h.fits
  · rw [hd.quiet.admittedLog, hd.quiet.active]
    exact h.active

theorem Written.mono {index : ℕ} {r : TrialRecord A} {t : Run A} {spec : TrialSpec}
    {owned : Owned A} {result : TaskResult A} (h : Written x s index r t spec owned result)
    (hkeeps : Keeps s s') (hreads : s.reads ≤ s'.reads) (hlog : s.admittedLog <+: s'.admittedLog) :
    Written x s' index r t spec owned result := by
  obtain ⟨h1, h2, h3, h4, h5, h6, k, e, hk, hrest⟩ := h
  exact ⟨h1, h2, h3.trans_le hreads, h4.trans hkeeps, h5, h6, k, e, getElem?_of_prefix hlog hk,
    hrest⟩

theorem Records.decides (h : Records x s) (hd : Decides s s') : Records x s' := by
  intro index r hr
  rw [hd.quiet.records] at hr
  obtain ⟨t, spec, owned, result, hw⟩ := h index r hr
  exact ⟨t, spec, owned, result, hw.mono hd.keeps hd.reads (hd.quiet.admittedLog ▸ List.prefix_rfl)⟩

theorem Peers.decides (h : Peers x s) (hq : Quiet s s') : Peers x s' := by
  obtain ⟨h1, h2⟩ := h
  refine ⟨?_, ?_⟩
  · rwa [hq.admittedLog, hq.records]
  · rwa [hq.admittedLog, hq.records]

/-- Reading a clock changes no decision. -/
theorem Stops.tick (h : Stops x s) : Stops x s.tick := by
  obtain ⟨h1, h2, h3, h4, h5, h6, h7⟩ := h
  refine ⟨h1, fun reason hr => ?_, h3, fun reason hr => ?_, h5, h6, h7⟩
  · obtain ⟨o, ho, hpast, hlog⟩ := h2 reason hr
    exact ⟨o, ho, hpast.mono (Nat.le_succ _), hlog⟩
  · obtain ⟨o, o', ho, ho', hpast, hle⟩ := h4 reason hr
    exact ⟨o, o', ho, ho', hpast.mono (Nat.le_succ _), hle⟩

/-- The first reason to terminate is also a reason to stop, at the latest now. -/
theorem Stops.terminate (h : Stops x s) (hlog : ∀ e ∈ s.admittedLog, Past x s e.admitted)
    {reason : HardStop} (htimeout : reason = .timeout → x.timeout ≠ none) (cause : Failure) :
    Stops x (s.terminate x reason cause) := by
  have hd := Decides.terminate x s reason cause
  have hnow : Past x (s.terminate x reason cause) (s.offset x) := past_offset (by simp)
  cases hstop : s.stopReason with
  | none =>
    obtain ⟨hoffset, hterm⟩ := h.running hstop
    refine ⟨?_, ?_, ?_, ?_, ?_, ?_, ?_⟩
    · simp [hstop]
    · intro _ _
      refine ⟨s.offset x, by simp [hstop], hnow, ?_⟩
      rw [hd.quiet.admittedLog]
      exact fun e he => (hlog e he).le_offset
    · simp [hterm]
    · intro _ _
      exact ⟨s.offset x, s.offset x, by simp [hstop], by simp [hterm], hnow, le_rfl⟩
    · simp [hstop, hterm]
    · simpa [hterm] using htimeout
    · simp [hstop]
  | some r =>
    obtain ⟨o, ho, hpast, hle⟩ := h.stopped r hstop
    have hkeep := hd.keeps.stop r hstop
    refine ⟨?_, ?_, ?_, ?_, ?_, ?_, ?_⟩
    · simp [hstop]
    · intro _ _
      exact ⟨o, hkeep.2.trans ho, hpast.mono hd.reads, hd.quiet.admittedLog ▸ hle⟩
    · simp
    · intro _ _
      cases hterm : s.terminationReason with
      | none =>
        exact ⟨o, s.offset x, hkeep.2.trans ho, by simp [hterm], hnow, hpast.le_offset⟩
      | some r' =>
        obtain ⟨o₁, o', ho₁, ho', hpast', hle'⟩ := h.terminated r' hterm
        exact ⟨o₁, o', hkeep.2.trans ho₁, by simp [hterm, ho'], hpast'.mono hd.reads, hle'⟩
    · intro r' hr'
      rw [hkeep.1, ← hstop] at hr'
      obtain ⟨h1, h2⟩ := h.hard r' hr'
      have hterm := hd.keeps.termination r' h1
      exact ⟨hterm.1, hterm.2.trans (h2.trans hkeep.2.symm)⟩
    · intro hr'
      cases hterm : s.terminationReason with
      | none => exact htimeout (by simpa [hterm] using hr')
      | some r' => exact h.timeout (by simpa [hterm] using hr')
    · intro hr'
      rw [hkeep.1, ← hstop] at hr'
      obtain ⟨limit, o', hlimit, ho', hreached⟩ := h.elapsed hr'
      exact ⟨limit, o', hlimit, hkeep.2.trans ho', hreached⟩

/-- A soft stop. -/
theorem Stops.stop (h : Stops x s) (hlog : ∀ e ∈ s.admittedLog, Past x s e.admitted)
    {reason : StopReason} (hsoft : reason.hard? = none)
    (helapsed : reason = .elapsedAdmissionLimit → ∃ limit,
      x.admission.plan.budget.stopAfterElapsedSeconds = some limit ∧
        limit.reachedBy (s.offset x) = true) : Stops x (s.stop x reason) := by
  have hd := Decides.stop x s reason
  cases hstop : s.stopReason with
  | some r =>
    have heq : s.stop x reason = s := by
      unfold Run.stop
      rw [if_neg (by simp [hstop])]
    rwa [heq]
  | none =>
    obtain ⟨hoffset, hterm⟩ := h.running hstop
    have hnow : Past x (s.stop x reason) (s.offset x) := past_offset (by
      unfold Run.stop
      rw [if_pos hstop]
      exact Nat.lt_succ_self _)
    refine ⟨?_, ?_, ?_, ?_, ?_, ?_, ?_⟩
    · simp [hstop]
    · intro _ _
      refine ⟨s.offset x, by simp [hstop], hnow, ?_⟩
      rw [hd.quiet.admittedLog]
      exact fun e he => (hlog e he).le_offset
    · simpa using h.unterminated
    · simp [hterm]
    · intro r hr
      rw [stopReason_stop, hstop, Option.none_or, Option.some.injEq] at hr
      subst hr
      cases hsoft
    · simp [hterm]
    · intro hr
      rw [stopReason_stop, hstop, Option.none_or, Option.some.injEq] at hr
      obtain ⟨limit, hlimit, hreached⟩ := helapsed hr
      exact ⟨limit, s.offset x, hlimit, by simp [hstop], hreached⟩

/-- All calls of `terminate` for one outcome. -/
theorem Stops.terminateFor (h : Stops x s) (hlog : ∀ e ∈ s.admittedLog, Past x s e.admitted)
    (result : TaskResult A) : Stops x (s.terminateFor x result) := by
  have hcleanup : ∀ error, Stops x { s with cleanupErrors := s.cleanupErrors ++ [error] } := by
    obtain ⟨h1, h2, h3, h4, h5, h6, h7⟩ := h
    exact fun _ => ⟨h1, h2, h3, h4, h5, h6, h7⟩
  have hagain : ∀ {t : Run A}, Stops x t → (∀ e ∈ t.admittedLog, Past x t e.admitted) →
      ∀ {first : HardStop}, (first = .timeout → x.timeout ≠ none) → ∀ cause error prior,
      Stops x ((t.terminate x first cause).terminate x .cleanupFailed (.cleanup error prior)) := by
    intro t ht htlog first hfirst cause error prior
    have hd := Decides.terminate x t first cause
    refine (ht.terminate htlog hfirst cause).terminate ?_ (by simp) _
    rw [hd.quiet.admittedLog]
    exact fun e he => (htlog e he).mono hd.reads
  rcases result with _ | _ | (⟨error, prior⟩ | error | error | error)
  · exact h
  · exact h
  · unfold Run.terminateFor
    cases prior with
    | cancelled prior => exact hagain (hcleanup error) hlog (by simp) _ _ _
    | timeout prior =>
      dsimp only
      split
      · next htimeout => exact hagain (hcleanup error) hlog (fun _ => htimeout) _ _ _
      · exact (hcleanup error).terminate hlog (by simp) _
    | other => exact (hcleanup error).terminate hlog (by simp) _
  · exact h.terminate hlog (by simp) _
  · unfold Run.terminateFor
    dsimp only
    split
    · exact h
    · next htimeout => exact h.terminate hlog (fun _ => htimeout) _
  · exact h

/-- Decisions other than a failed cleanup or an error stop call for no new record. -/
theorem Errors.decides (h : Errors x s) (hd : Decides s s')
    (honError : s'.stopReason = some .stopOnError → s.stopReason = some .stopOnError)
    (hcleanup : s'.terminationReason = some .cleanupFailed →
      s.terminationReason = some .cleanupFailed) : Errors x s' := by
  refine ⟨?_, ?_, ?_⟩
  · intro hr
    obtain ⟨hpolicy, item, hitem, f, o, hf, ho, hle⟩ := h.onError (honError hr)
    exact ⟨hpolicy, item, hd.quiet.records ▸ hitem, f, o, hf,
      (hd.keeps.stop _ (honError hr)).2.trans ho, hle⟩
  · intro hpolicy item hitem f hf
    rw [hd.quiet.records] at hitem
    obtain ⟨hstop, hle⟩ := h.stops hpolicy item hitem f hf
    obtain ⟨reason, hreason⟩ := Option.ne_none_iff_exists'.mp hstop
    refine ⟨by rw [(hd.keeps.stop _ hreason).1]; simp, hd.quiet.admittedLog ▸ hle⟩
  · intro hr
    rw [hd.quiet.records]
    exact h.cleanup (hcleanup hr)

namespace History

theorem tick (h : History x s) : History x s.tick :=
  ⟨h.accounts.quiet (.tick s), h.stops.tick, h.log.decides (.tick s), h.records.decides (.tick s),
    h.peers.decides (.tick s), h.errors.decides (.tick s) id id⟩

theorem terminate (h : History x s) {reason : HardStop} (hreason : reason ≠ .cleanupFailed)
    (htimeout : reason = .timeout → x.timeout ≠ none) (cause : Failure) :
    History x (s.terminate x reason cause) := by
  have hd := Decides.terminate x s reason cause
  refine ⟨h.accounts.quiet hd.quiet, h.stops.terminate h.log.past htimeout cause, h.log.decides hd,
    h.records.decides hd, h.peers.decides hd.quiet, h.errors.decides hd ?_ ?_⟩
  · cases hstop : s.stopReason <;> simp [hstop]
  · cases hterm : s.terminationReason <;> simp [hterm, hreason]

theorem stop (h : History x s) {limit : PyNum}
    (hlimit : x.admission.plan.budget.stopAfterElapsedSeconds = some limit)
    (hreached : limit.reachedBy (s.offset x) = true) :
    History x (s.stop x .elapsedAdmissionLimit) := by
  have hd := Decides.stop x s .elapsedAdmissionLimit
  refine ⟨h.accounts.quiet hd.quiet,
    h.stops.stop h.log.past rfl fun _ => ⟨limit, hlimit, hreached⟩, h.log.decides hd,
    h.records.decides hd, h.peers.decides hd.quiet, h.errors.decides hd ?_ ?_⟩
  · cases hstop : s.stopReason <;> simp [hstop]
  · simp

theorem arrive (h : History x s) (w : Wake A) : History x (s.arrive x w) := by
  obtain ⟨h1, ⟨s1, s2, s3, s4, s5, s6, s7⟩, ⟨l1, l2, l3, l4⟩, h4, ⟨p1, p2⟩, ⟨e1, e2, e3⟩⟩ := h
  refine ⟨h1.arrive w, ⟨s1, s2, s3, s4, s5, s6, s7⟩, ⟨l1, l2, l3, fun index owned hmem => ?_⟩, ?_,
    ⟨p1, p2⟩, ⟨e1, e2, e3⟩⟩
  · simp only [Run.arrive, List.mem_map, Prod.exists, Prod.mk.injEq] at hmem
    obtain ⟨_, o, hmem, rfl, rfl⟩ := hmem
    obtain ⟨hevents, hlog⟩ := l4 _ o hmem
    exact ⟨hevents.deliver _, hlog⟩
  · intro index r hr
    obtain ⟨t, spec, owned, result, hw⟩ := h4 index r hr
    exact ⟨t, spec, owned, result,
      hw.mono ⟨fun _ h => ⟨h, rfl⟩, fun _ h => ⟨h, rfl⟩⟩ le_rfl List.prefix_rfl⟩

theorem cancelActive (h : History x s) : History x s.cancelActive := by
  obtain ⟨h1, ⟨s1, s2, s3, s4, s5, s6, s7⟩, ⟨l1, l2, l3, l4⟩, h4, ⟨p1, p2⟩, ⟨e1, e2, e3⟩⟩ := h
  refine ⟨h1.cancelActive, ⟨s1, s2, s3, s4, s5, s6, s7⟩, ⟨l1, l2, l3, fun index owned hmem => ?_⟩,
    ?_, ⟨p1, p2⟩, ⟨e1, e2, e3⟩⟩
  · simp only [Run.cancelActive, List.mem_map, Prod.exists, Prod.mk.injEq] at hmem
    obtain ⟨_, o, hmem, rfl, rfl⟩ := hmem
    have hlog := l4 _ o hmem
    split <;> exact hlog
  · intro index r hr
    obtain ⟨t, spec, owned, result, hw⟩ := h4 index r hr
    exact ⟨t, spec, owned, result,
      hw.mono ⟨fun _ h => ⟨h, rfl⟩, fun _ h => ⟨h, rfl⟩⟩ le_rfl List.prefix_rfl⟩

/-- While nothing has stopped, every recorded trial has released its reservation. -/
theorem released (h : History x s) (hstop : s.stopReason = none) {index : ℕ} {r : TrialRecord A}
    (hr : (index, r) ∈ s.records) :
    ∃ a o, r.admissionIndex = some a ∧ a ≤ s.admittedLog.length ∧ r.releasedOffset = some o ∧
      o ≤ s.offset x := by
  obtain ⟨t, spec, owned, result, hw⟩ := h.records index r hr
  obtain ⟨k, e, hk, -, hindex, -⟩ := hw.log
  have hlt := (List.getElem?_eq_some_iff.mp hk).1
  have hconfirmed : (t.settle x result).cleanupConfirmed = true := by
    by_contra hfalse
    have hinterrupted : (t.settle x result).status.isInterrupted = true := by
      rcases result with _ | _ | (_ | _ | _ | _) <;> simp_all [settle, TrialStatus.isInterrupted]
      split at hfalse <;> simp at hfalse
    obtain ⟨reason, -, hreason, -⟩ := hw.interrupted hinterrupted
    have := (hw.keeps.termination reason hreason).1
    rw [(h.stops.running hstop).2] at this
    cases this
  refine ⟨k + 1, t.offset x, by rw [hw.record, record, hindex], hlt, ?_, ?_⟩
  · rw [hw.record, record]
    simp [hconfirmed]
  · have := hw.reads
    exact offset_le (by omega)

/-- An admission. -/
theorem reserve (h : History x s) {index : ℕ} (submission : Submission A)
    (hpending : index ∈ s.pending) (hadmissible : s.Admissible x index) :
    History x (s.reserveChild x index submission) := by
  have hstop := hadmissible.stopReason
  obtain ⟨-, hterm⟩ := h.stops.running hstop
  have haccounts := h.accounts.reserve submission hpending hadmissible
  have hreads : s.reads ≤ (s.reserveChild x index submission).reads :=
    (Nat.le_succ _).trans (Nat.le_succ _)
  have hstop' : (s.reserveChild x index submission).stopReason = none := hstop
  have hterm' : (s.reserveChild x index submission).terminationReason = none := hterm
  have hlog : s.admittedLog <+: (s.reserveChild x index submission).admittedLog :=
    List.prefix_append _ _
  have hnew : ∀ k e, (s.reserveChild x index submission).admittedLog[k]? = some e →
      s.admittedLog[k]? = some e ∨ (k = s.admittedLog.length ∧ e.index = index ∧
        e.admitted = s.offset x) := by
    intro k e hk
    simp only [reserveChild] at hk
    rcases lt_or_ge k s.admittedLog.length with hlt | hge
    · exact .inl (by rwa [List.getElem?_append_left hlt] at hk)
    · rw [List.getElem?_append_right hge, List.getElem?_singleton] at hk
      split at hk
      · obtain rfl := Option.some.inj hk
        exact .inr ⟨by omega, rfl, rfl⟩
      · cases hk
  refine ⟨haccounts, ⟨fun _ => ⟨(h.stops.running hstop).1, hterm⟩, ?_, fun _ => h.stops.unterminated hterm,
    ?_, ?_, ?_, ?_⟩, ⟨?_, ?_, ?_, ?_⟩, ?_, ⟨?_, ?_⟩, ⟨?_, ?_, ?_⟩⟩
  · intro _ hr
    simp [hstop'] at hr
  · intro _ hr
    simp [hterm'] at hr
  · intro _ hr
    simp [hstop'] at hr
  · simp [hterm']
  · simp [hstop']
  · intro e he
    rcases List.mem_append.mp he with hold | he
    · exact (h.log.past e hold).mono hreads
    · rw [List.mem_singleton.mp he]
      exact past_offset (Nat.lt_succ_of_lt (Nat.lt_succ_self _))
  · refine List.pairwise_append.mpr ⟨h.log.sorted, List.pairwise_singleton _ _, fun e he e' he' => ?_⟩
    rw [List.mem_singleton.mp he']
    exact (h.log.past e he).le_offset
  · intro e he
    rcases List.mem_append.mp he with hold | he
    · exact h.log.fits e hold
    · rw [List.mem_singleton.mp he]
      exact ⟨activeIndices_reserveChild x s index submission ▸ haccounts.fits, by simp⟩
  · intro i owned hmem
    rcases List.mem_append.mp hmem with hold | hmem
    · obtain ⟨hevents, k, e, hk, hrest⟩ := h.log.active i owned hold
      exact ⟨hevents, k, e, getElem?_of_prefix hlog hk, hrest⟩
    · obtain ⟨rfl, rfl⟩ := Prod.mk.inj (List.mem_singleton.mp hmem)
      refine ⟨Events.Inv.empty.deliver _, s.admittedLog.length,
        ⟨i, s.offset x, s.stopReason, s.activeIndices ++ [i]⟩, ?_, rfl, ?_, rfl⟩
      · simp [reserveChild]
      · rw [newChild, h.accounts.admissions]
  · intro i r hr
    obtain ⟨t, spec, owned, result, hw⟩ := h.records i r hr
    exact ⟨t, spec, owned, result,
      hw.mono ⟨fun _ h => ⟨h, rfl⟩, fun _ h => ⟨h, rfl⟩⟩ hreads hlog⟩
  · refine List.pairwise_append.mpr
      ⟨h.peers.released, List.pairwise_singleton _ _, fun e he e' he' => ?_⟩
    rw [List.mem_singleton.mp he']
    -- the earlier child is still active, or it has been recorded and released
    have hmem : e.index ∈ s.activeIndices ++ s.recordedIndices :=
      h.accounts.log.mem_iff.mp (List.mem_map_of_mem he)
    rcases List.mem_append.mp hmem with hactive | hrecorded
    · exact .inl (List.mem_append_left _ hactive)
    · obtain ⟨⟨i, r⟩, hr, rfl⟩ := List.mem_map.mp hrecorded
      obtain ⟨a, o, -, -, ho, hle⟩ := h.released hstop hr
      exact .inr ⟨r, o, hr, ho, hle⟩
  · intro k e hk p hp
    rcases hnew k e hk with hold | ⟨rfl, rfl, hadmitted⟩
    · exact h.peers.predecessors k e hold p hp
    · obtain ⟨⟨i, r⟩, hr, rfl⟩ := List.mem_map.mp (recorded_iff.mp (hadmissible.predecessor p hp))
      obtain ⟨a, o, ha, hle, ho, hoffset⟩ := h.released hstop hr
      exact ⟨r, a, o, hr, ha, hle, ho, hadmitted ▸ hoffset⟩
  · simp [hstop']
  · intro hpolicy item hitem f hf
    exact absurd hstop (h.errors.stops hpolicy item hitem f hf).1
  · simp [hterm']

end History

/-! ## Settlements -/

/-- An outcome that is recorded as an interruption has terminated the run. -/
theorem interrupted_terminateFor (h : Stops x (s.terminateFor x result))
    (hstatus : ((s.terminateFor x result).settle x result).status.isInterrupted = true) :
    ∃ reason o, (s.terminateFor x result).terminationReason = some reason ∧
      (s.terminateFor x result).terminationOffset = some o ∧
      Past x (s.terminateFor x result) o := by
  have hsome : (s.terminateFor x result).terminationReason ≠ none := by
    rcases result with _ | _ | (⟨error, prior⟩ | error | error | error)
    · cases hstatus
    · cases hstatus
    · unfold terminateFor
      simp
    · simp [terminateFor]
    · unfold terminateFor
      dsimp only
      split
      · next hnone => simp [settle, hnone, TrialStatus.isInterrupted] at hstatus
      · simp
    · cases hstatus
  obtain ⟨reason, hreason⟩ := Option.ne_none_iff_exists'.mp hsome
  obtain ⟨_, o, _, ho, hpast, _⟩ := h.terminated reason hreason
  exact ⟨reason, o, hreason, ho, hpast⟩

/-- No soft stop was set. -/
def NoSoftStop (s t : Run A) : Prop :=
  t.stopReason = s.stopReason ∨ ∃ hard, t.stopReason = some (.hard hard)

theorem NoSoftStop.trans {s t u : Run A} (h : NoSoftStop s t) (h' : NoSoftStop t u) :
    NoSoftStop s u := by
  rcases h' with h' | h'
  · rw [NoSoftStop, h']
    exact h
  · exact .inr h'

theorem NoSoftStop.terminate (x : Setup A) (s : Run A) (reason : HardStop) (cause : Failure) :
    NoSoftStop s (s.terminate x reason cause) := by
  rw [NoSoftStop, stopReason_terminate]
  cases s.stopReason with
  | none => exact .inr ⟨reason, rfl⟩
  | some r => exact .inl rfl

/-- An outcome sets no soft stop. -/
theorem NoSoftStop.terminateFor (x : Setup A) (s : Run A) (result : TaskResult A) :
    NoSoftStop s (s.terminateFor x result) := by
  have herrors : ∀ error, NoSoftStop s { s with cleanupErrors := s.cleanupErrors ++ [error] } :=
    fun _ => .inl rfl
  rcases result with _ | _ | (⟨error, prior⟩ | error | error | error)
  · exact .inl rfl
  · exact .inl rfl
  · unfold Run.terminateFor
    refine (herrors error).trans ?_
    cases prior with
    | cancelled prior => exact (NoSoftStop.terminate _ _ _ _).trans (.terminate _ _ _ _)
    | timeout prior =>
      dsimp only
      split
      · exact (NoSoftStop.terminate _ _ _ _).trans (.terminate _ _ _ _)
      · exact .terminate _ _ _ _
    | other => exact .terminate _ _ _ _
  · exact .terminate _ _ _ _
  · unfold Run.terminateFor
    dsimp only
    split
    · exact .inl rfl
    · exact .terminate _ _ _ _
  · exact .inl rfl

/-- Only a cleanup error terminates a run for a failed cleanup. -/
theorem cleanup_of_terminateFor (hnone : s.terminationReason = none)
    (hcleanup : (s.terminateFor x result).terminationReason = some .cleanupFailed) :
    ∃ error prior, result = .raised (.cleanup error prior) := by
  rcases result with _ | _ | (⟨error, prior⟩ | error | error | error)
  · simp [terminateFor, hnone] at hcleanup
  · simp [terminateFor, hnone] at hcleanup
  · exact ⟨error, prior, rfl⟩
  · simp [terminateFor, hnone] at hcleanup
  · unfold terminateFor at hcleanup
    dsimp only at hcleanup
    split at hcleanup <;> simp [hnone] at hcleanup
  · simp [terminateFor, hnone] at hcleanup

/-- The state behind the record of one outcome. -/
def wrote (x : Setup A) (s : Run A) (index : ℕ) (spec : TrialSpec) (owned : Owned A)
    (result : TaskResult A) : Run A :=
  { (s.terminateFor x result).tick.tick with
    records := s.records ++ [(index, (s.terminateFor x result).record x index spec owned result)] }

theorem consume_eq {index : ℕ} {spec : TrialSpec} (hspec : x.trials[index]? = some spec)
    (owned : Owned A) (result : TaskResult A) : s.consume x index owned result =
      if ((s.terminateFor x result).settle x result).status ≠ .native .completed ∧
          x.admission.plan.policy.stopOnError = true then
        (s.wrote x index spec owned result).stop x .stopOnError
      else s.wrote x index spec owned result := by
  simp only [consume, hspec, wrote, (Quiet.terminateFor x s result).records]
  rfl

/-- The record of an outcome other than a completed trial is a failure at the time of the record. -/
theorem failure_record (x : Setup A) (t : Run A) (index : ℕ) (spec : TrialSpec) (owned : Owned A)
    (result : TaskResult A) : (t.record x index spec owned result).failure =
      if (t.settle x result).status = .native .completed then none else some (t.offset x) := by
  have hstarted : (t.settle x result).status ≠ .notRun := by
    rcases result with _ | _ | (_ | _ | _ | _) <;> simp only [settle, interruption] <;>
      (repeat' split) <;> simp
  simp only [TrialRecord.failure, record, hstarted, or_false]

/-- What `consume` decides behind the record. -/
theorem consume_spec {index : ℕ} {spec : TrialSpec} (hspec : x.trials[index]? = some spec)
    (owned : Owned A) (result : TaskResult A)
    (hstops : Stops x (s.wrote x index spec owned result))
    (hpast : ∀ e ∈ (s.wrote x index spec owned result).admittedLog,
      Past x (s.wrote x index spec owned result) e.admitted) :
    let u := s.wrote x index spec owned result
    let v := s.consume x index owned result
    let failed := ((s.terminateFor x result).settle x result).status ≠ .native .completed
    Stops x v ∧ Decides u v ∧ v.terminationReason = u.terminationReason ∧
      (v.stopReason = some .stopOnError → u.stopReason = some .stopOnError ∨
        (x.admission.plan.policy.stopOnError = true ∧ failed ∧
          v.stoppedOffset = some (u.offset x))) ∧
      (x.admission.plan.policy.stopOnError = true → failed → v.stopReason ≠ none) := by
  intro u v failed
  have hv : v = if failed ∧ x.admission.plan.policy.stopOnError = true then u.stop x .stopOnError
      else u := consume_eq hspec owned result
  by_cases hstop : failed ∧ x.admission.plan.policy.stopOnError = true
  · rw [if_pos hstop] at hv
    rw [hv]
    refine ⟨hstops.stop hpast rfl (by simp), .stop x u .stopOnError, by simp, fun hr => ?_, ?_⟩
    · cases hu : u.stopReason with
      | none => exact .inr ⟨hstop.2, hstop.1, by simp [hu]⟩
      | some reason => exact .inl (by simpa [hu] using hr)
    · intro _ _
      rw [stopReason_stop]
      cases u.stopReason <;> simp
  · rw [if_neg hstop] at hv
    rw [hv]
    exact ⟨hstops, .refl u, rfl, .inl, fun hpolicy hfailed => absurd ⟨hfailed, hpolicy⟩ hstop⟩

namespace History

variable {index : ℕ} {owned : Owned A} {result : TaskResult A}

/-- A settled child leaves its record, and the run stops if the policy asks for it. -/
theorem settle (hf : x.admission.Facts parse) (h : History x s) (hmem : (index, owned) ∈ s.active) :
    History x (s.settleChild x index owned result) := by
  have hindex : index < x.trials.length := h.accounts.lt_of_active (List.mem_map_of_mem hmem)
  obtain ⟨spec, hspec⟩ : ∃ spec, x.trials[index]? = some spec :=
    ⟨_, List.getElem?_eq_getElem hindex⟩
  have hd := Decides.terminateFor x s result
  have hstops := h.stops.terminateFor h.log.past result
  obtain ⟨hevents, k, e, hk, he, hadmissionIndex, hadmitted⟩ := h.log.active index owned hmem
  have hsettled : Accounts x (s.settleChild x index owned result) := h.accounts.settle hf hmem
  have hsoft := NoSoftStop.terminateFor x s result
  have hinterrupted := interrupted_terminateFor hstops
  have hcleanup : s.terminationReason = none →
      (s.terminateFor x result).terminationReason = some .cleanupFailed →
      ∃ error prior, result = .raised (.cleanup error prior) := cleanup_of_terminateFor
  -- the state behind the record, and the one behind the stop that may follow
  have hupast : ∀ e ∈ (s.wrote x index spec owned result).admittedLog,
      Past x (s.wrote x index spec owned result) e.admitted := by
    intro e he
    have := (h.log.past e (hd.quiet.admittedLog ▸ he)).mono hd.reads
    exact this.mono ((Nat.le_succ _).trans (Nat.le_succ _))
  have hustops : Stops x (s.wrote x index spec owned result) := by
    obtain ⟨s1, s2, s3, s4, s5, s6, s7⟩ := hstops.tick.tick
    exact ⟨s1, s2, s3, s4, s5, s6, s7⟩
  obtain ⟨hvstops, hvd, hvterm, hvstop, hvpolicy⟩ := consume_spec hspec owned result hustops hupast
  have hfailure := failure_record x (s.terminateFor x result) index spec owned result
  have hukeeps : Keeps (s.terminateFor x result) (s.wrote x index spec owned result) :=
    ⟨fun _ h => ⟨h, rfl⟩, fun _ h => ⟨h, rfl⟩⟩
  have hureads : (s.wrote x index spec owned result).reads = (s.terminateFor x result).reads + 2 :=
    rfl
  have hulog : (s.wrote x index spec owned result).admittedLog = s.admittedLog :=
    hd.quiet.admittedLog
  have hurecords : (s.wrote x index spec owned result).records = s.records ++
    [(index, (s.terminateFor x result).record x index spec owned result)] := rfl
  unfold settleChild at hsettled ⊢
  set t := s.terminateFor x result
  set u := s.wrote x index spec owned result
  set v := s.consume x index owned result
  set r := t.record x index spec owned result with hr
  have hvlog : v.admittedLog = s.admittedLog := hvd.quiet.admittedLog.trans hulog
  have hvrecords : v.records = s.records ++ [(index, r)] := hvd.quiet.records.trans hurecords
  have hvkeeps : Keeps t v := hukeeps.trans hvd.keeps
  have hvreads : t.reads + 1 < v.reads := by
    have := hvd.reads
    omega
  have hsv : s.reads ≤ v.reads := hd.reads.trans (by omega)
  have hold : ∀ item ∈ s.records, item ∈ v.records :=
    fun item hitem => hvrecords ▸ List.mem_append_left _ hitem
  have hnew : (index, r) ∈ v.records := hvrecords ▸ List.mem_append_right _ (List.mem_singleton_self _)
  refine ⟨hsettled, ?_, ⟨?_, ?_, ?_, ?_⟩, ?_, ⟨?_, ?_⟩, ⟨?_, ?_, ?_⟩⟩
  · obtain ⟨s1, s2, s3, s4, s5, s6, s7⟩ := hvstops
    exact ⟨s1, s2, s3, s4, s5, s6, s7⟩
  · intro e he
    exact (h.log.past e (hvlog ▸ he)).mono hsv
  · exact hvlog ▸ h.log.sorted
  · intro e he
    exact h.log.fits e (hvlog ▸ he)
  · intro i o hio
    have hactive : v.active = s.active := (Quiet.consume x s index owned result).active
    show _ ∧ ∃ k e, v.admittedLog[k]? = some e ∧ _
    rw [hvlog]
    exact h.log.active i o (hactive ▸ (List.mem_filter.mp hio).1)
  · intro i r' hr'
    replace hr' : (i, r') ∈ s.records ++ [(index, r)] := hvrecords ▸ hr'
    have hlog' : s.admittedLog <+: v.admittedLog := hvlog ▸ List.prefix_rfl
    rcases List.mem_append.mp hr' with hr' | hr'
    · obtain ⟨t', spec', owned', result', hw⟩ := h.records i r' hr'
      obtain ⟨h1, h2, h3, h4, h5, h6, h7⟩ := hw.mono (hd.keeps.trans hvkeeps) hsv hlog'
      exact ⟨t', spec', owned', result', h1, h2, h3, ⟨h4.1, h4.2⟩, h5, h6, h7⟩
    · obtain ⟨rfl, rfl⟩ := Prod.mk.inj (List.mem_singleton.mp hr')
      refine ⟨t, spec, owned, result, rfl, hspec, hvreads, ⟨hvkeeps.1, hvkeeps.2⟩, hinterrupted,
        hevents, k, e, ?_, he, hadmissionIndex, hadmitted, ?_⟩
      · exact getElem?_of_prefix hlog' hk
      · exact (h.log.past e (List.mem_of_getElem? hk)).mono hd.reads
  · refine hvlog ▸ h.peers.released.imp ?_
    rintro e e' (hactive | ⟨r', o, hr', hrest⟩)
    · exact .inl hactive
    · exact .inr ⟨r', o, hold _ hr', hrest⟩
  · intro k e hk p hp
    obtain ⟨r', a, o, hr', hrest⟩ := h.peers.predecessors k e (hvlog ▸ hk) p hp
    exact ⟨r', a, o, hold _ hr', hrest⟩
  · intro hreason
    rcases hvstop hreason with hu | ⟨hpolicy, hfailed, hoffset⟩
    · -- the run had stopped before, for an earlier record
      have hs : s.stopReason = some .stopOnError := by
        rcases hsoft with heq | ⟨hard, hhard⟩
        · exact heq ▸ hu
        · exact absurd (hhard.symm.trans hu) (by simp)
      obtain ⟨hpolicy, item, hitem, f, o, hf, ho, hle⟩ := h.errors.onError hs
      exact ⟨hpolicy, item, hold _ hitem, f, o, hf,
        (((hd.keeps.trans hvkeeps).stop _ hs).2).trans ho, hle⟩
    · refine ⟨hpolicy, (index, r), hnew, t.offset x, u.offset x, ?_, hoffset, ?_⟩
      · rw [hfailure, if_neg hfailed]
      · exact offset_le (by omega)
  · intro hpolicy item hitem f hf
    replace hitem : item ∈ s.records ++ [(index, r)] := hvrecords ▸ hitem
    rcases List.mem_append.mp hitem with hitem | hitem
    · obtain ⟨hstop, hle⟩ := h.errors.stops hpolicy item hitem f hf
      obtain ⟨reason, hreason⟩ := Option.ne_none_iff_exists'.mp hstop
      refine ⟨?_, fun e he => hle e (hvlog ▸ he)⟩
      show v.stopReason ≠ none
      rw [((hd.keeps.trans hvkeeps).stop _ hreason).1]
      simp
    · rw [List.mem_singleton.mp hitem, hfailure] at hf
      split at hf
      · cases hf
      · next hfailed =>
        refine ⟨hvpolicy hpolicy hfailed, fun e he => ?_⟩
        rw [← Option.some.inj hf]
        exact ((h.log.past e (hvlog ▸ he)).mono hd.reads).le_offset
  · intro hreason
    replace hreason : t.terminationReason = some .cleanupFailed := hvterm ▸ hreason
    cases hs : s.terminationReason with
    | some reason =>
      rw [(hd.keeps.termination _ hs).1, ← hs] at hreason
      obtain ⟨item, hitem, hunconfirmed⟩ := h.errors.cleanup hreason
      exact ⟨item, hold _ hitem, hunconfirmed⟩
    | none =>
      obtain ⟨error, prior, hresult⟩ := hcleanup hs hreason
      refine ⟨(index, r), hnew, ?_⟩
      rw [hr, record, hresult]
      rfl

theorem start (hf : x.admission.Facts parse) : History x (start x) := by
  refine ⟨.start hf, ⟨fun _ => ⟨rfl, rfl⟩, ?_, fun _ => rfl, ?_, ?_, ?_, ?_⟩, ⟨?_, .nil, ?_, ?_⟩, ?_,
    ⟨.nil, ?_⟩, ⟨?_, ?_, ?_⟩⟩ <;> simp [Run.start, Records]

end History

/-! ## The end of a run -/

end Run

end Iperf3Lib
