import Iperf3Lib.Cancellation.Arbitration

/-!
# The run lock of a server

`Server._run_once` holds the run lock while `run_worker` owns a process. `run_worker` closes the
control on every path behind `Popen`, and closing waits for the thread that supervises the process: it
returns once the process was reaped, and raises a cleanup error otherwise. The lock is then released
at once or handed to the control. Steps of the operation, of the supervising thread, of the process
and of all other threads interleave.
-/

namespace Iperf3Lib.Cancellation

/-! ## The operation and its threads -/

/-- The native worker, as the system sees it. -/
inductive Worker where
  | absent
  | alive
  | exited
deriving DecidableEq

/-- A control: that of the operation, or that of another one whose cleanup error a callback of the
caller raised. -/
inductive Owner where
  | own
  | other
deriving DecidableEq

/-- A callback in a control: `self._run_lock.release` of this operation, or any other. -/
inductive Callback where
  | release
  | foreign
deriving DecidableEq

/-- How `_run_worker` ends: it returns, raises, or raises an `IperfCleanupError` with a control. -/
inductive Ending where
  | returned
  | raised
  | cleanupFailed (owner : Owner)
deriving DecidableEq

/-- Where `_run_once` is, from the acquired run lock on. -/
inductive Stage where
  | working
  /-- Behind `Popen`, in front of `control.register`. -/
  | spawned
  | owning
  /-- In `control.close()`, with the result or the exception that is on its way. -/
  | closing (ending : Ending)
  | finished (ending : Ending)
  /-- Cleanup was not confirmed, and `when_reaped` is called next. -/
  | retaining (owner : Owner)
  | done
deriving DecidableEq

/-- Where the thread that supervises the process is. -/
inductive Reaper where
  | absent
  /-- The loop of `_supervise`. -/
  | watching
  /-- In `_stop_process`. -/
  | stopping
  /-- The exit was observed, and `_mark_reaped` is called next. -/
  | marking
  /-- In `_mark_reaped`, behind its critical section. -/
  | marked
  /-- `_cleanup_error` was set. -/
  | failing
  /-- The loop of `_reap_later`. -/
  | later
  | finished
deriving DecidableEq

/-- The state of one admitted operation and of the threads around it. -/
structure World (E : Type) where
  own : System E Unit Callback := .initial
  other : System E Unit Callback := .initial
  worker : Worker := .absent
  cleanupAttempted : Bool := false
  cleanupError : Bool := false
  stage : Stage := .working
  reaper : Reaper := .absent
  /-- How often the operation itself has released the lock. -/
  released : ℕ := 0

variable {E : Type}

namespace World

/-- The control of an owner. -/
def control (w : World E) : Owner → Control E Unit Callback
  | .own => w.own.control
  | .other => w.other.control

/-- `release_control` in the `finally` of `_run_once`; `given` says whether `_control` was passed. -/
def releaseControl (given : Bool) : Ending → Option Owner
  | .cleanupFailed owner => some owner
  | _ => if given then some .own else none

/-- How often the run lock was released, by the operation and by callbacks. -/
def releases (w : World E) : ℕ :=
  w.released + w.own.ran.count .release + w.other.ran.count .release

/-- A step of another thread on a control: it does not register, reap or pass the release, and no
callback raises. -/
def Elsewhere (op : Op E Unit Callback) : Prop :=
  op.registers = none ∧ op.reaps = false ∧ op.passes ≠ some .release ∧ op.Quiet

/-- One step of some thread. -/
inductive Step (given : Bool) : World E → World E → Prop where
  /-- `_run_worker` ends in front of `Popen`. -/
  | refuse (w : World E) (ending : Ending) : w.stage = .working → ending ≠ .cleanupFailed .own →
      Step given w { w with stage := .finished ending }
  | spawn (w : World E) : w.stage = .working →
      Step given w { w with stage := .spawned, worker := .alive }
  /-- `control.register`, whose thread may fail to start. -/
  | register (w : World E) (supervised : Bool) : w.stage = .spawned →
      Step given w { w with
        stage := .owning
        own := (w.own.step (.register ())).2
        reaper := if supervised then .watching else .absent }
  /-- The body of `_run_worker` ends and `control.close()` begins; where no thread was started the
  operation stops the process itself. -/
  | close (w : World E) (ending : Ending) : w.stage = .owning → ending ≠ .cleanupFailed .own →
      Step given w { w with
        stage := .closing ending
        reaper := if w.reaper = .absent then .stopping else w.reaper }
  | closed (w : World E) (ending : Ending) : w.stage = .closing ending → w.cleanupAttempted = true →
      w.cleanupError = false → Step given w { w with stage := .finished ending }
  | closeRaised (w : World E) (ending : Ending) : w.stage = .closing ending →
      w.cleanupAttempted = true → w.cleanupError = true →
      Step given w { w with stage := .finished (.cleanupFailed .own) }
  /-- Without a control to wait for, or with confirmed cleanup, the lock is released. -/
  | release (w : World E) (ending : Ending) : w.stage = .finished ending →
      (∀ owner ∈ releaseControl given ending, (w.control owner).cleanupConfirmed = true) →
      Step given w { w with stage := .done, released := w.released + 1 }
  | retain (w : World E) (ending : Ending) (owner : Owner) : w.stage = .finished ending →
      releaseControl given ending = some owner → (w.control owner).cleanupConfirmed = false →
      Step given w { w with stage := .retaining owner }
  | whenReapedOwn (w : World E) : w.stage = .retaining .own →
      Step given w { w with stage := .done, own := (w.own.step (.whenReaped .release)).2 }
  | whenReapedOther (w : World E) : w.stage = .retaining .other →
      Step given w { w with stage := .done, other := (w.other.step (.whenReaped .release)).2 }
  /-- `process.poll()` of the supervising loop. -/
  | observe (w : World E) : w.reaper = .watching → w.worker = .exited →
      Step given w { w with reaper := .marking }
  /-- The loop is woken, or cannot observe the process. -/
  | stop (w : World E) : w.reaper = .watching → Step given w { w with reaper := .stopping }
  /-- The process is gone, by itself or by a signal, and was waited for. -/
  | stopped (w : World E) : w.reaper = .stopping → w.worker = .exited →
      Step given w { w with reaper := .marking }
  | fail (w : World E) : w.reaper = .stopping →
      Step given w { w with reaper := .failing, cleanupError := true }
  | failed (w : World E) : w.reaper = .failing →
      Step given w { w with reaper := .later, cleanupAttempted := true }
  | reapLater (w : World E) : w.reaper = .later → w.worker = .exited →
      Step given w { w with reaper := .marking }
  | markReaped (w : World E) : w.reaper = .marking →
      Step given w { w with reaper := .marked, own := (w.own.step .markReaped).2 }
  | attempted (w : World E) : w.reaper = .marked →
      Step given w { w with reaper := .finished, cleanupAttempted := true }
  | exit (w : World E) : w.worker = .alive → Step given w { w with worker := .exited }
  /-- Any other thread on the control of the operation, and whoever calls what it took out. -/
  | elsewhere (w : World E) (op : Op E Unit Callback) : Elsewhere op →
      Step given w { w with own := (w.own.step op).2 }
  /-- Any thread on the control of another operation. -/
  | foreign (w : World E) (op : Op E Unit Callback) : op.passes ≠ some .release → op.Quiet →
      Step given w { w with other := (w.other.step op).2 }

/-- The states of an operation that acquired the run lock. -/
inductive Reachable (given : Bool) : World E → Prop where
  | acquired : Reachable given {}
  | step {w w' : World E} : Reachable given w → Step given w w' → Reachable given w'

/-! ## The process -/

/-- How the flags follow the process. -/
structure Supervised (w : World E) : Prop where
  working : w.stage = .working → w.worker = .absent
  unregistered : w.own.control.process = none → w.worker = .absent ∨ w.stage = .spawned
  reaped : w.own.control.reaped = true → w.worker = .exited
  marking : w.reaper = .marking → w.worker = .exited
  marked : w.reaper = .marked → w.own.control.reaped = true
  failing : w.reaper = .failing → w.cleanupError = true
  attempted : w.cleanupAttempted = true → w.own.control.reaped = true ∨ w.cleanupError = true

theorem Supervised.acquired : Supervised ({} : World E) :=
  ⟨fun _ => rfl, fun _ => .inl rfl, nofun, nofun, nofun, nofun, nofun⟩

/-- Where cleanup is confirmed behind the registration, the process is gone. -/
theorem Supervised.gone {w : World E} (h : Supervised w) (hstage : w.stage ≠ .spawned)
    (hconfirmed : w.own.control.cleanupConfirmed = true) : w.worker ≠ .alive := by
  rw [Control.cleanupConfirmed, Bool.or_eq_true, Option.isNone_iff_eq_none] at hconfirmed
  rcases hconfirmed with hnone | hreaped
  · rw [(h.unregistered hnone).resolve_right hstage]
    decide
  · rw [h.reaped hreaped]
    decide

/-- A section that does not reap leaves the flag, and only `register` brings in a process. -/
theorem control_of_not_reaps {s : System E Unit Callback} {op : Op E Unit Callback}
    (hreaps : op.reaps = false) :
    (s.step op).2.control.process = s.control.process.or op.registers ∧
      (s.step op).2.control.reaped = s.control.reaped := by
  obtain ⟨hprocess, hreaped, -⟩ := s.step_control op
  rw [hreaps, Bool.or_false] at hreaped
  exact ⟨hprocess, hreaped⟩

/-- One step of some thread keeps the flags in agreement with the process. -/
theorem Supervised.step {given : Bool} {w w' : World E} (h : Supervised w) (hstep : Step given w w') :
    Supervised w' := by
  -- behind the registration an unregistered process is absent
  have habsent : w.stage ≠ .spawned → w.own.control.process = none → w.worker = .absent :=
    fun hstage hnone => (h.unregistered hnone).resolve_right hstage
  cases hstep with
  | refuse ending hstage _ =>
    exact ⟨nofun, fun _ => .inl (h.working hstage), h.reaped, h.marking, h.marked, h.failing,
      h.attempted⟩
  | spawn hstage =>
    have hworker := h.working hstage
    refine ⟨nofun, fun _ => .inr rfl, fun hr => ?_, fun hm => ?_, h.marked, h.failing, h.attempted⟩
    · exact absurd (hworker.symm.trans (h.reaped hr)) nofun
    · exact absurd (hworker.symm.trans (h.marking hm)) nofun
  | register supervised hstage =>
    obtain ⟨hprocess, hreaped⟩ := @control_of_not_reaps _ w.own (.register ()) rfl
    refine ⟨nofun, fun hnone => ?_, fun hr => h.reaped (hreaped ▸ hr), ?_, ?_, ?_, ?_⟩
    · rw [hprocess] at hnone
      cases hw : w.own.control.process <;> rw [hw] at hnone <;> cases hnone
    · cases supervised <;> exact nofun
    · cases supervised <;> exact nofun
    · cases supervised <;> exact nofun
    · exact fun ha => (h.attempted ha).imp_left fun hr => hreaped.trans hr
  | close ending hstage _ =>
    refine ⟨nofun, fun hnone => .inl (habsent (by rw [hstage]; exact nofun) hnone), h.reaped, ?_, ?_, ?_,
      h.attempted⟩ <;>
    · intro hr
      dsimp only at hr
      split at hr
      · cases hr
      · first | exact h.marking hr | exact h.marked hr | exact h.failing hr
  | closed ending hstage _ _ =>
    exact ⟨nofun, fun hnone => .inl (habsent (by rw [hstage]; exact nofun) hnone), h.reaped, h.marking,
      h.marked, h.failing, h.attempted⟩
  | closeRaised ending hstage _ _ =>
    exact ⟨nofun, fun hnone => .inl (habsent (by rw [hstage]; exact nofun) hnone), h.reaped, h.marking,
      h.marked, h.failing, h.attempted⟩
  | release ending hstage _ =>
    exact ⟨nofun, fun hnone => .inl (habsent (by rw [hstage]; exact nofun) hnone), h.reaped, h.marking,
      h.marked, h.failing, h.attempted⟩
  | retain ending owner hstage _ _ =>
    exact ⟨nofun, fun hnone => .inl (habsent (by rw [hstage]; exact nofun) hnone), h.reaped, h.marking,
      h.marked, h.failing, h.attempted⟩
  | whenReapedOwn hstage =>
    obtain ⟨hprocess, hreaped⟩ := @control_of_not_reaps _ w.own (.whenReaped .release) rfl
    rw [show (Op.whenReaped Callback.release : Op E Unit Callback).registers = none from rfl,
      Option.or_none] at hprocess
    exact ⟨nofun, fun hnone => .inl (habsent (by rw [hstage]; exact nofun) (hprocess ▸ hnone)),
      fun hr => h.reaped (hreaped ▸ hr), h.marking, fun hm => hreaped.trans (h.marked hm), h.failing,
      fun ha => (h.attempted ha).imp_left fun hr => hreaped.trans hr⟩
  | whenReapedOther hstage =>
    exact ⟨nofun, fun hnone => .inl (habsent (by rw [hstage]; exact nofun) hnone), h.reaped, h.marking,
      h.marked, h.failing, h.attempted⟩
  | observe _ hexited =>
    exact ⟨h.working, h.unregistered, h.reaped, fun _ => hexited, nofun, nofun, h.attempted⟩
  | stop _ => exact ⟨h.working, h.unregistered, h.reaped, nofun, nofun, nofun, h.attempted⟩
  | stopped _ hexited =>
    exact ⟨h.working, h.unregistered, h.reaped, fun _ => hexited, nofun, nofun, h.attempted⟩
  | fail _ => exact ⟨h.working, h.unregistered, h.reaped, nofun, nofun, fun _ => rfl, fun _ => .inr rfl⟩
  | failed hfailing =>
    exact ⟨h.working, h.unregistered, h.reaped, nofun, nofun, nofun, fun _ => .inr (h.failing hfailing)⟩
  | reapLater _ hexited =>
    exact ⟨h.working, h.unregistered, h.reaped, fun _ => hexited, nofun, nofun, h.attempted⟩
  | markReaped hmarking =>
    exact ⟨h.working, h.unregistered, fun _ => h.marking hmarking, nofun, fun _ => rfl, nofun,
      fun _ => .inl rfl⟩
  | attempted hmarked =>
    exact ⟨h.working, h.unregistered, h.reaped, nofun, nofun, nofun, fun _ => .inl (h.marked hmarked)⟩
  | exit halive =>
    refine ⟨fun hw => ?_, fun hnone => ?_, fun _ => rfl, fun _ => rfl, h.marked, h.failing, h.attempted⟩
    · exact absurd (halive.symm.trans (h.working hw)) nofun
    · rcases h.unregistered hnone with hw | hspawned
      · exact absurd (halive.symm.trans hw) nofun
      · exact .inr hspawned
  | elsewhere op hop =>
    obtain ⟨hprocess, hreaped⟩ := control_of_not_reaps (s := w.own) hop.2.1
    rw [hop.1, Option.or_none] at hprocess
    exact ⟨h.working, fun hnone => h.unregistered (hprocess ▸ hnone), fun hr => h.reaped (hreaped ▸ hr),
      h.marking, fun hm => hreaped.trans (h.marked hm), h.failing,
      fun ha => (h.attempted ha).imp_left fun hr => hreaped.trans hr⟩
  | foreign op _ _ =>
    exact ⟨h.working, h.unregistered, h.reaped, h.marking, h.marked, h.failing, h.attempted⟩

/-! ## The lock -/

/-- Nothing was dropped, and callbacks wait only for a process. -/
def Calls (s : System E Unit Callback) : Prop := s.Waiting ∧ s.dropped = []

theorem Calls.step {s : System E Unit Callback} (h : Calls s) {op : Op E Unit Callback}
    (hquiet : op.Quiet) : Calls (s.step op).2 :=
  ⟨h.1.step op, System.dropped_run (s := s) [op] (fun _ hmem => List.mem_singleton.mp hmem ▸ hquiet) h.2⟩

/-- A step that does not pass the release moves it at most from place to place. -/
theorem count_places {s : System E Unit Callback} {op : Op E Unit Callback}
    (hpasses : op.passes ≠ some .release) :
    (s.step op).2.places.count .release = s.places.count .release := by
  have hnone : op.passes.toList.count Callback.release = 0 := by
    rw [List.count_eq_zero, Option.mem_toList]
    exact hpasses
  rw [(s.step_places op).count_eq, List.count_append, hnone, Nat.add_zero]

/-- Passing the release brings it in once. -/
theorem count_places_release (s : System E Unit Callback) :
    (s.step (.whenReaped .release)).2.places.count .release = s.places.count .release + 1 := by
  rw [(s.step_places _).count_eq, List.count_append]
  rfl

/-- Where the release is, and that it is not called while the process is alive. -/
structure Locked (w : World E) : Prop where
  own : Calls w.own
  other : Calls w.other
  count : w.released + w.own.places.count .release + w.other.places.count .release =
    if w.stage = .done then 1 else 0
  finished : ∀ ending, w.stage = .finished ending → ending ≠ .cleanupFailed .own → w.worker ≠ .alive
  retaining : w.stage = .retaining .other → w.worker ≠ .alive
  direct : 0 < w.released → w.worker ≠ .alive
  ownOut : .release ∈ w.own.out → w.worker ≠ .alive
  otherHas : .release ∈ w.other.places → w.worker ≠ .alive

theorem Locked.acquired : Locked ({} : World E) :=
  ⟨⟨fun h => absurd rfl h, rfl⟩, ⟨fun h => absurd rfl h, rfl⟩, rfl, nofun, nofun, nofun, nofun, nofun⟩

section Locked

variable {given : Bool} {w w' : World E}

/-- In front of the end nothing was released or handed over. -/
theorem Locked.none_of_ne_done (h : Locked w) (hstage : w.stage ≠ .done) :
    w.released = 0 ∧ .release ∉ w.own.places ∧ .release ∉ w.other.places := by
  have hcount := h.count
  rw [if_neg hstage] at hcount
  refine ⟨by omega, ?_, ?_⟩ <;>
  · rw [← List.count_eq_zero]
    omega

theorem mem_places_of_out {s : System E Unit Callback} {callback : Callback} (h : callback ∈ s.out) :
    callback ∈ s.places := by
  rw [System.places_eq]
  exact List.mem_append_left _ h

/-- A change of the stage in front of the end that leaves the process alone. -/
theorem Locked.advance (h : Locked w) (hstage : w.stage ≠ .done) (hown : Calls w'.own)
    (hother : w'.other = w.other) (hdone : w'.stage ≠ .done) (hreleased : w'.released = w.released)
    (hcount : w'.own.places.count .release = w.own.places.count .release)
    (hfinished : ∀ ending, w'.stage = .finished ending → ending ≠ .cleanupFailed .own →
      w'.worker ≠ .alive)
    (hretaining : w'.stage = .retaining .other → w'.worker ≠ .alive) : Locked w' := by
  obtain ⟨hzero, hnotOwn, hnotOther⟩ := h.none_of_ne_done hstage
  rw [List.count_eq_zero.mpr hnotOwn] at hcount
  rw [hzero] at hreleased
  refine ⟨hown, hother ▸ h.other, ?_, hfinished, hretaining, ?_, ?_, ?_⟩
  · rw [hreleased, hcount, hother, if_neg hdone, List.count_eq_zero.mpr hnotOther]
  · rw [hreleased]
    exact nofun
  · intro hmem
    exact absurd (mem_places_of_out hmem) (List.count_eq_zero.mp hcount)
  · intro hmem
    rw [hother] at hmem
    exact absurd hmem hnotOther

/-- What the `finally` waits for is the process of the operation, unless that is gone already. -/
theorem Locked.gone_of_finished (h : Locked w) (hsup : Supervised w) {ending : Ending}
    (hstage : w.stage = .finished ending)
    (hconfirmed : ∀ owner ∈ releaseControl given ending,
      (w.control owner).cleanupConfirmed = true) : w.worker ≠ .alive := by
  by_cases hfailed : ending = .cleanupFailed .own
  · subst hfailed
    exact hsup.gone (by rw [hstage]; exact nofun) (hconfirmed .own rfl)
  · exact h.finished ending hstage hfailed

/-- One step of some thread keeps the account of the release. -/
theorem Locked.step (h : Locked w) (hsup : Supervised w) (hstep : Step given w w') : Locked w' := by
  cases hstep with
  | refuse ending hstage _ =>
    refine h.advance (by rw [hstage]; exact nofun) h.own rfl nofun rfl rfl ?_ nofun
    intro _ _ _
    rw [hsup.working hstage]
    exact nofun
  | spawn hstage =>
    exact h.advance (by rw [hstage]; exact nofun) h.own rfl nofun rfl rfl nofun nofun
  | register supervised hstage =>
    exact h.advance (by rw [hstage]; exact nofun) (h.own.step trivial) rfl nofun rfl
      (count_places nofun) nofun nofun
  | close ending hstage _ =>
    exact h.advance (by rw [hstage]; exact nofun) h.own rfl nofun rfl rfl nofun nofun
  | closed ending hstage hattempted herror =>
    refine h.advance (by rw [hstage]; exact nofun) h.own rfl nofun rfl rfl ?_ nofun
    intro _ _ _
    -- closing without an error has waited for the reaping
    have hreaped := (hsup.attempted hattempted).resolve_right (by rw [herror]; exact nofun)
    rw [hsup.reaped hreaped]
    exact nofun
  | closeRaised ending hstage _ _ =>
    refine h.advance (by rw [hstage]; exact nofun) h.own rfl nofun rfl rfl ?_ nofun
    intro ending' hending hne
    exact absurd (Stage.finished.inj hending).symm hne
  | release ending hstage hconfirmed =>
    obtain ⟨hzero, hnotOwn, hnotOther⟩ := h.none_of_ne_done (by rw [hstage]; exact nofun)
    have hgone := h.gone_of_finished hsup hstage hconfirmed
    refine ⟨h.own, h.other, ?_, nofun, nofun, fun _ => hgone,
      fun hmem => absurd (mem_places_of_out hmem) hnotOwn, fun hmem => absurd hmem hnotOther⟩
    dsimp only
    rw [hzero, List.count_eq_zero.mpr hnotOwn, List.count_eq_zero.mpr hnotOther]
    rfl
  | retain ending owner hstage howner hunconfirmed =>
    refine h.advance (by rw [hstage]; exact nofun) h.own rfl nofun rfl rfl nofun ?_
    intro hother
    obtain rfl := Stage.retaining.inj hother
    refine h.finished ending hstage ?_
    rintro rfl
    cases howner
  | whenReapedOwn hstage =>
    obtain ⟨hzero, hnotOwn, hnotOther⟩ := h.none_of_ne_done (by rw [hstage]; exact nofun)
    refine ⟨h.own.step trivial, h.other, ?_, nofun, nofun, ?_, ?_, fun hmem => absurd hmem hnotOther⟩
    · dsimp only
      rw [hzero, count_places_release, List.count_eq_zero.mpr hnotOwn, List.count_eq_zero.mpr hnotOther]
      rfl
    · dsimp only
      rw [hzero]
      exact nofun
    · -- the operation calls the release itself only if there is nothing to wait for
      intro hmem
      rw [(w.own.step_out (.whenReaped .release)).mem_iff, List.mem_append] at hmem
      rcases hmem with hmem | hmem
      · exact absurd (mem_places_of_out hmem) hnotOwn
      · refine hsup.gone (by rw [hstage]; exact nofun) ?_
        by_contra hunconfirmed
        have hout : Callback.release ∈
            if w.own.control.cleanupConfirmed = true then [Callback.release] else [] := hmem
        rw [if_neg hunconfirmed] at hout
        cases hout
  | whenReapedOther hstage =>
    obtain ⟨hzero, hnotOwn, hnotOther⟩ := h.none_of_ne_done (by rw [hstage]; exact nofun)
    refine ⟨h.own, h.other.step trivial, ?_, nofun, nofun, ?_,
      fun hmem => absurd (mem_places_of_out hmem) hnotOwn, fun _ => h.retaining hstage⟩
    · dsimp only
      rw [hzero, count_places_release, List.count_eq_zero.mpr hnotOwn, List.count_eq_zero.mpr hnotOther]
      rfl
    · dsimp only
      rw [hzero]
      exact nofun
  | observe _ _ =>
    exact ⟨h.own, h.other, h.count, h.finished, h.retaining, h.direct, h.ownOut, h.otherHas⟩
  | stop _ =>
    exact ⟨h.own, h.other, h.count, h.finished, h.retaining, h.direct, h.ownOut, h.otherHas⟩
  | stopped _ _ =>
    exact ⟨h.own, h.other, h.count, h.finished, h.retaining, h.direct, h.ownOut, h.otherHas⟩
  | fail _ =>
    exact ⟨h.own, h.other, h.count, h.finished, h.retaining, h.direct, h.ownOut, h.otherHas⟩
  | failed _ =>
    exact ⟨h.own, h.other, h.count, h.finished, h.retaining, h.direct, h.ownOut, h.otherHas⟩
  | reapLater _ _ =>
    exact ⟨h.own, h.other, h.count, h.finished, h.retaining, h.direct, h.ownOut, h.otherHas⟩
  | markReaped hmarking =>
    have hgone : w.worker ≠ .alive := by
      rw [hsup.marking hmarking]
      exact nofun
    refine ⟨h.own.step trivial, h.other, ?_, fun _ _ _ => hgone, fun _ => hgone, fun _ => hgone,
      fun _ => hgone, fun _ => hgone⟩
    have hpasses : (Op.markReaped : Op E Unit Callback).passes ≠ some .release := nofun
    dsimp only
    rw [count_places hpasses]
    exact h.count
  | attempted _ =>
    exact ⟨h.own, h.other, h.count, h.finished, h.retaining, h.direct, h.ownOut, h.otherHas⟩
  | exit _ =>
    have hgone : Worker.exited ≠ .alive := nofun
    exact ⟨h.own, h.other, h.count, fun _ _ _ => hgone, fun _ => hgone, fun _ => hgone, fun _ => hgone,
      fun _ => hgone⟩
  | elsewhere op hop =>
    obtain ⟨-, hreaps, hpasses, hquiet⟩ := hop
    refine ⟨h.own.step hquiet, h.other, ?_, h.finished, h.retaining, h.direct, fun hmem => ?_,
      h.otherHas⟩
    · dsimp only
      rw [count_places hpasses]
      exact h.count
    · rw [(w.own.step_out op).mem_iff, hreaps, if_neg Bool.false_ne_true, List.mem_append] at hmem
      rcases hmem with hmem | hmem
      · exact h.ownOut hmem
      · split at hmem
        · exact absurd (Option.mem_toList.mp hmem) hpasses
        · cases hmem
  | foreign op hpasses hquiet =>
    refine ⟨h.own, h.other.step hquiet, ?_, h.finished, h.retaining, h.direct, h.ownOut, fun hmem => ?_⟩
    · dsimp only
      rw [count_places hpasses]
      exact h.count
    · rw [← List.count_pos_iff, count_places hpasses, List.count_pos_iff] at hmem
      exact h.otherHas hmem

end Locked

/-- What holds at every point of every interleaving. -/
theorem reachable_locked {given : Bool} {w : World E} (h : Reachable given w) :
    Supervised w ∧ Locked w := by
  induction h with
  | acquired => exact ⟨.acquired, .acquired⟩
  | step _ hstep ih => exact ⟨ih.1.step hstep, ih.2.step ih.1 hstep⟩

/-- Nothing is left to be done: the operation has ended, no process of a control is waited for, and no
thread has a callback to call. -/
structure Settled (w : World E) : Prop where
  done : w.stage = .done
  confirmed : ∀ owner, (w.control owner).cleanupConfirmed = true
  called : w.own.due.flatten = [] ∧ w.other.due.flatten = []

/-- Without waiting and without callbacks to call, what is in a control has run. -/
theorem count_ran {s : System E Unit Callback} (h : Calls s)
    (hconfirmed : s.control.cleanupConfirmed = true) (hdue : s.due.flatten = []) :
    s.ran.count .release = s.places.count .release := by
  have hstored : s.control.reapCallbacks = [] := by
    by_contra hne
    obtain ⟨hsome, hreaped⟩ := h.1 hne
    rw [Control.cleanupConfirmed, hreaped, Bool.or_false, Option.isNone_iff_eq_none] at hconfirmed
    rw [hconfirmed] at hsome
    cases hsome
  rw [System.places, h.2, hdue, hstored, List.append_nil, List.append_nil, List.append_nil]

/-- The run lock is released at most once, not while the worker may be alive, and once in the end. -/
theorem reachable_releases {given : Bool} {w : World E} (h : Reachable given w) :
    w.releases ≤ 1 ∧ (0 < w.releases → w.worker ≠ .alive) ∧ (Settled w → w.releases = 1) := by
  obtain ⟨-, hlocked⟩ := reachable_locked h
  have hran : ∀ s : System E Unit Callback, s.ran.count .release ≤ s.places.count .release := by
    intro s
    rw [System.places, List.count_append]
    exact Nat.le_add_right _ _
  have hcount := hlocked.count
  have hown := hran w.own
  have hother := hran w.other
  refine ⟨?_, ?_, ?_⟩
  · unfold releases
    split at hcount <;> omega
  · intro hpos
    unfold releases at hpos
    by_cases hdirect : 0 < w.released
    · exact hlocked.direct hdirect
    by_cases hin : 0 < w.own.ran.count .release
    · refine hlocked.ownOut ?_
      rw [System.out]
      exact List.mem_append_left _ (List.count_pos_iff.mp hin)
    · refine hlocked.otherHas (List.count_pos_iff.mp ?_)
      omega
  · intro hsettled
    rw [if_pos hsettled.done] at hcount
    unfold releases
    rw [count_ran hlocked.own (hsettled.confirmed .own) hsettled.called.1,
      count_ran hlocked.other (hsettled.confirmed .other) hsettled.called.2]
    exact hcount

end World

/-! ## Arbitration and release -/

/-- Every interleaving on a control commits one outcome and calls every callback once, and an operation
of a server releases its run lock once, not while its worker may be alive. -/
theorem control_arbitrates {P C : Type} : (∀ ops : List (Op E P C), Arbitrates ops) ∧
    ∀ (given : Bool) (w : World E), World.Reachable given w →
      w.releases ≤ 1 ∧ (0 < w.releases → w.worker ≠ .alive) ∧ (w.Settled → w.releases = 1) :=
  ⟨System.arbitrates, fun _ _ => World.reachable_releases⟩

/-- A callback that waits for a process, which is then reaped. -/
def retainedOps : List (Op Unit Unit ℕ) :=
  [.register (), .whenReaped 7, .markReaped, .call 0 false]

theorem control_arbitrates_retained :
    (passed retainedOps).Perm (System.initial.run retainedOps).ran ∧
      ({} : World Unit).releases ≤ 1 := by
  obtain ⟨harbitrates, hreleases⟩ := @control_arbitrates Unit Unit ℕ
  refine ⟨(harbitrates retainedOps).once ?_ rfl rfl, (hreleases false {} .acquired).1⟩
  simp [retainedOps, Op.Quiet]

/-- What an arbitrary interleaving does not guarantee: completion in front of any `begin` lets a
cancelled operation begin, a callback that raises drops those behind it, and a callback that is passed
in front of the registration is called at once. -/
theorem control_arbitrates_limits :
    ((System.initial.run [.complete, .abort ()] : System Unit Unit ℕ).answer .isStarted = .bool false ∧
        (System.initial.run [.complete, .abort (), .isStarted] : System Unit Unit ℕ).answer .begin =
          .bool true) ∧
      (System.initial.run [.register (), .whenReaped 1, .whenReaped 2, .markReaped, .call 0 true] :
        System Unit Unit ℕ).ran = [1] ∧
      (System.initial.run [.whenReaped 1, .call 0 false, .register ()] : System Unit Unit ℕ).ran = [1] ∧
      (System.initial.run [.whenReaped 1, .call 0 false, .register ()] :
        System Unit Unit ℕ).control.cleanupConfirmed = false :=
  ⟨⟨rfl, rfl⟩, rfl, rfl, rfl⟩

end Iperf3Lib.Cancellation
