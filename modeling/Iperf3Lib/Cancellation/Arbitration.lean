import Iperf3Lib.Cancellation.Control

/-!
# One outcome, and every callback once

Whatever the order in which threads enter the lock, the first `abort` or `complete` decides the
outcome (`run_outcome`), and a callback is stored, taken out, called or dropped, but never lost or
doubled (`perm_places`). Callbacks are only stored while a process is owned that was not reaped.
-/

namespace Iperf3Lib.Cancellation

variable {E P C : Type}

/-! ## The outcome -/

/-- What is committed at most once. -/
inductive Outcome (E : Type) where
  | completed
  | failed (cause : E)
deriving DecidableEq

/-- The committed outcome. -/
def Control.outcome (c : Control E P C) : Option (Outcome E) :=
  if c.completed then some .completed else c.cause.map .failed

/-- The outcome that a critical section commits, where none is committed yet. -/
def Op.commits : Op E P C → Option (Outcome E)
  | .abort error => some (.failed error)
  | .complete => some .completed
  | _ => none

/-- The first critical section to commit an outcome. -/
def firstCommit (ops : List (Op E P C)) : Option (Outcome E) := ops.findSome? Op.commits

/-- At most one of the two is committed. -/
def Control.Exclusive (c : Control E P C) : Prop := c.completed = true → c.cause = none

theorem Control.outcome_eq_failed {c : Control E P C} (h : c.Exclusive) {cause : E} :
    c.outcome = some (.failed cause) ↔ c.cause = some cause := by
  unfold Control.outcome
  split
  · next hcompleted => simp [h hcompleted]
  · simp

theorem Control.outcome_abort {c : Control E P C} (error : E) :
    (c.abort error).outcome = c.outcome.or (some (.failed error)) := by
  unfold Control.abort Control.outcome
  cases hcompleted : c.completed <;> cases hcause : c.cause <;> simp [hcompleted, hcause]

theorem Control.exclusive_abort {c : Control E P C} (h : c.Exclusive) (error : E) :
    (c.abort error).Exclusive := by
  unfold Control.abort
  split
  · next hopen =>
    intro hcompleted
    exact absurd (hcompleted.symm.trans hopen.1) (Ne.symm Bool.false_ne_true)
  · exact h

namespace System

variable (s : System E P C)

/-- Completion raises exactly what was committed as a cause. -/
theorem answer_complete {cause : E} :
    s.answer .complete = .raised cause ↔ s.control.cause = some cause := by
  unfold answer step Control.complete
  cases s.control.cause <;> simp

theorem answer_check {cause : E} : s.answer .check = .raised cause ↔ s.control.cause = some cause := by
  unfold answer step Control.check
  cases s.control.cause <;> simp

theorem answer_begin : s.answer .begin = .bool false ↔ s.control.cause.isSome = true := by
  unfold answer step Control.begin
  cases s.control.cause <;> simp

/-- Critical sections that commit nothing leave both as they are. -/
theorem step_of_commits_none {op : Op E P C} (h : op.commits = none) :
    (s.step op).2.control.completed = s.control.completed ∧
      (s.step op).2.control.cause = s.control.cause := by
  cases op with
  | begin =>
    unfold step Control.begin
    dsimp only
    split <;> exact ⟨rfl, rfl⟩
  | abort error => cases h
  | isStarted => exact ⟨rfl, rfl⟩
  | check =>
    unfold step
    dsimp only
    split <;> exact ⟨rfl, rfl⟩
  | complete => cases h
  | register process =>
    unfold step Control.register
    dsimp only
    cases s.control.process <;> exact ⟨rfl, rfl⟩
  | whenReaped callback =>
    unfold step Control.whenReaped
    dsimp only
    split <;> exact ⟨rfl, rfl⟩
  | markReaped => exact ⟨rfl, rfl⟩
  | call batch raises =>
    unfold step
    dsimp only
    split <;> exact ⟨rfl, rfl⟩

/-- One critical section keeps the two apart and commits only where nothing is committed. -/
theorem step_outcome (h : s.control.Exclusive) (op : Op E P C) :
    (s.step op).2.control.Exclusive ∧
      (s.step op).2.control.outcome = s.control.outcome.or op.commits := by
  cases hcommits : op.commits with
  | none =>
    obtain ⟨hcompleted, hcause⟩ := s.step_of_commits_none hcommits
    refine ⟨fun hc => hcause.trans (h (hcompleted ▸ hc)), ?_⟩
    rw [Option.or_none, Control.outcome, Control.outcome, hcompleted, hcause]
  | some outcome =>
    cases op with
    | abort error =>
      obtain rfl := Option.some.inj hcommits
      exact ⟨Control.exclusive_abort h error, Control.outcome_abort error⟩
    | complete =>
      obtain rfl := Option.some.inj hcommits
      unfold step Control.complete
      cases hcause : s.control.cause with
      | some cause =>
        refine ⟨h, ?_⟩
        rw [(Control.outcome_eq_failed h).mpr hcause]
        rfl
      | none =>
        dsimp only
        refine ⟨fun _ => rfl, ?_⟩
        unfold Control.outcome
        rw [hcause]
        cases s.control.completed <;> rfl
    | begin => cases hcommits
    | isStarted => cases hcommits
    | check => cases hcommits
    | register process => cases hcommits
    | whenReaped callback => cases hcommits
    | markReaped => cases hcommits
    | call batch raises => cases hcommits

variable {s}

theorem run_outcome_of (h : s.control.Exclusive) (ops : List (Op E P C)) :
    (s.run ops).control.Exclusive ∧
      (s.run ops).control.outcome = s.control.outcome.or (firstCommit ops) := by
  induction ops generalizing s with
  | nil => exact ⟨h, (Option.or_none).symm⟩
  | cons op ops ih =>
    obtain ⟨hstep, houtcome⟩ := s.step_outcome h op
    obtain ⟨hrun, hrest⟩ := ih hstep
    refine ⟨hrun, ?_⟩
    rw [run_cons, hrest, houtcome, Option.or_assoc, firstCommit, firstCommit, List.findSome?_cons]
    cases op.commits <;> rfl

end System

/-- A new control in use by the threads. -/
def System.initial : System E P C := {}

/-- The first critical section to commit an outcome decides it. -/
theorem System.run_outcome (ops : List (Op E P C)) :
    (System.initial.run ops).control.Exclusive ∧
      (System.initial.run ops).control.outcome = firstCommit ops :=
  System.run_outcome_of (fun _ => rfl) ops

/-- A cause stays. -/
theorem System.cause_run {s : System E P C} (h : s.control.Exclusive) {cause : E}
    (hcause : s.control.cause = some cause) (ops : List (Op E P C)) :
    (s.run ops).control.cause = some cause := by
  obtain ⟨hrun, houtcome⟩ := System.run_outcome_of h ops
  rw [← Control.outcome_eq_failed hrun, houtcome, (Control.outcome_eq_failed h).mpr hcause]
  rfl

/-! ## Callbacks -/

/-- The callback that is passed. -/
def Op.passes : Op E P C → Option C
  | .whenReaped callback => some callback
  | _ => none

/-- The critical section of `_mark_reaped`. -/
def Op.reaps : Op E P C → Bool
  | .markReaped => true
  | _ => false

/-- The process that is registered. -/
def Op.registers : Op E P C → Option P
  | .register process => some process
  | _ => none

/-- No callback raises. -/
def Op.Quiet : Op E P C → Prop
  | .call _ raises => raises = false
  | _ => True

/-- The callbacks that were passed to `when_reaped`. -/
def passed (ops : List (Op E P C)) : List C := ops.filterMap Op.passes

namespace System

/-- All the places where a callback can be. -/
def places (s : System E P C) : List C :=
  s.ran ++ (s.dropped ++ (s.due.flatten ++ s.control.reapCallbacks))

/-- A thread's batch in the middle of the others. -/
theorem flatten_set_perm {due : List (List C)} {i : ℕ} {callback : C} {callbacks : List C}
    (h : due[i]? = some (callback :: callbacks)) :
    ∃ rest, due.flatten.Perm (callback :: callbacks ++ rest) ∧
      ∀ batch, (due.set i batch).flatten.Perm (batch ++ rest) := by
  induction due generalizing i with
  | nil => cases h
  | cons first due ih =>
    cases i with
    | zero =>
      obtain rfl := Option.some.inj h
      exact ⟨due.flatten, .refl _, fun batch => .refl _⟩
    | succ i =>
      obtain ⟨rest, hperm, hset⟩ := ih h
      refine ⟨first ++ rest, ?_, fun batch => ?_⟩
      · exact (hperm.append_left first).trans (List.perm_append_comm_assoc _ _ _)
      · exact ((hset batch).append_left first).trans (List.perm_append_comm_assoc _ _ _)

variable (s : System E P C)

/-- A step moves callbacks from place to place, and brings in what is passed. -/
theorem step_places (op : Op E P C) :
    (s.step op).2.places.Perm (s.places ++ op.passes.toList) := by
  have hsame : s.places.Perm (s.places ++ []) := by rw [List.append_nil]
  cases op with
  | begin =>
    unfold step Control.begin
    dsimp only
    split <;> exact hsame
  | abort error =>
    unfold step Control.abort
    dsimp only
    split <;> exact hsame
  | isStarted => exact hsame
  | check =>
    unfold step
    dsimp only
    split <;> exact hsame
  | complete =>
    unfold step Control.complete
    dsimp only
    cases s.control.cause <;> exact hsame
  | register process =>
    unfold step Control.register
    dsimp only
    cases s.control.process <;> exact hsame
  | whenReaped callback =>
    unfold step Control.whenReaped places
    dsimp only
    split
    · simp only [Bool.false_eq_true, if_false, Op.passes, Option.toList_some, List.append_assoc]
      exact .refl _
    · simp only [if_true, Op.passes, Option.toList_some, List.flatten_append, List.flatten_singleton,
        List.append_assoc]
      exact ((List.perm_append_comm.append_left _).append_left _).append_left _
  | markReaped =>
    unfold step Control.markReaped places
    simp only [Op.passes, Option.toList_none, List.flatten_append, List.flatten_singleton,
      List.append_nil]
    exact .refl _
  | call batch raises =>
    unfold step
    dsimp only
    split
    · next callback callbacks hbatch =>
      obtain ⟨rest, hperm, hset⟩ := flatten_set_perm hbatch
      unfold places
      simp only [Op.passes, Option.toList_none, List.append_nil, List.append_assoc]
      refine .append_left _ ?_
      -- the called callback stood in front of its batch
      have hcalled : (s.dropped ++ (s.due.flatten ++ s.control.reapCallbacks)).Perm
          ([callback] ++ (s.dropped ++ (callbacks ++ (rest ++ s.control.reapCallbacks)))) := by
        refine ((hperm.append_right _).append_left _).trans ?_
        show (s.dropped ++ ([callback] ++ (callbacks ++ rest ++ s.control.reapCallbacks))).Perm _
        rw [List.append_assoc callbacks]
        exact List.perm_append_comm_assoc s.dropped [callback] _
      refine .trans (.append_left _ ?_) hcalled.symm
      cases raises with
      | true =>
        simp only [if_true, List.append_assoc]
        exact (((hset []).append_right _).append_left _).append_left _
      | false =>
        simp only [Bool.false_eq_true, if_false]
        refine .append_left _ ?_
        rw [← List.append_assoc callbacks]
        exact (hset callbacks).append_right _
    · exact hsame

theorem run_places (ops : List (Op E P C)) : (s.run ops).places.Perm (s.places ++ passed ops) := by
  induction ops generalizing s with
  | nil => rw [run_nil, passed, List.filterMap_nil, List.append_nil]
  | cons op ops ih =>
    refine (ih (s.step op).2).trans (((s.step_places op).append_right _).trans ?_)
    rw [List.append_assoc, passed, passed, List.filterMap_cons]
    cases op.passes <;> exact .refl _

/-- What a step does to the callbacks in the control, and to the two fields they depend on. -/
theorem step_control (op : Op E P C) :
    (s.step op).2.control.process = s.control.process.or op.registers ∧
      (s.step op).2.control.reaped = (s.control.reaped || op.reaps) ∧
      (s.step op).2.control.reapCallbacks =
        if op.reaps then [] else s.control.reapCallbacks ++
          if s.control.cleanupConfirmed then [] else op.passes.toList := by
  -- the sections that touch none of the three
  have hsame : ∀ {c : Control E P C}, c.process = s.control.process → c.reaped = s.control.reaped →
      c.reapCallbacks = s.control.reapCallbacks →
      c.process = s.control.process.or none ∧ c.reaped = (s.control.reaped || false) ∧
        c.reapCallbacks = if false = true then [] else s.control.reapCallbacks ++
          if s.control.cleanupConfirmed then [] else [] := by
    intro c hprocess hreaped hcallbacks
    rw [Option.or_none, Bool.or_false, if_neg Bool.false_ne_true, ite_self, List.append_nil]
    exact ⟨hprocess, hreaped, hcallbacks⟩
  cases op with
  | begin =>
    refine hsame ?_ ?_ ?_ <;>
    · unfold step Control.begin
      dsimp only
      split <;> rfl
  | abort error =>
    refine hsame ?_ ?_ ?_ <;>
    · unfold step Control.abort
      dsimp only
      split <;> rfl
  | isStarted => exact hsame rfl rfl rfl
  | check =>
    refine hsame ?_ ?_ ?_ <;>
    · unfold step
      dsimp only
      split <;> rfl
  | complete =>
    refine hsame ?_ ?_ ?_ <;>
    · unfold step Control.complete
      dsimp only
      cases s.control.cause <;> rfl
  | register process =>
    obtain ⟨-, hreaped, hcallbacks⟩ := hsame (c := s.control) rfl rfl rfl
    unfold step Control.register
    dsimp only
    cases hprocess : s.control.process with
    | some p => exact ⟨hprocess, hreaped, hcallbacks⟩
    | none => exact ⟨rfl, hreaped, hcallbacks⟩
  | whenReaped callback =>
    obtain ⟨hprocess, hreaped, -⟩ := hsame (c := s.control) rfl rfl rfl
    unfold step Control.whenReaped
    dsimp only
    by_cases hwait : s.control.process.isSome ∧ s.control.reaped = false
    · have hconfirmed : s.control.cleanupConfirmed = false := by
        rw [Control.cleanupConfirmed, hwait.2, Bool.or_false, Option.isNone_eq_false_iff]
        exact hwait.1
      rw [if_pos hwait, hconfirmed]
      exact ⟨hprocess, hreaped, rfl⟩
    · have hconfirmed : s.control.cleanupConfirmed = true := by
        rw [Control.cleanupConfirmed]
        cases hp : s.control.process with
        | none => rfl
        | some p =>
          rw [hp] at hwait
          exact eq_true_of_ne_false fun hfalse => hwait ⟨rfl, hfalse⟩
      rw [if_neg hwait, hconfirmed]
      exact ⟨hprocess, hreaped, (List.append_nil _).symm⟩
  | markReaped => exact ⟨(Option.or_none).symm, (Bool.or_true _).symm, rfl⟩
  | call batch raises =>
    refine hsame ?_ ?_ ?_ <;>
    · unfold step
      dsimp only
      split <;> rfl

theorem step_cleanupConfirmed (op : Op E P C) (h : op.registers = none) :
    s.control.cleanupConfirmed = true → (s.step op).2.control.cleanupConfirmed = true := by
  obtain ⟨hprocess, hreaped, -⟩ := s.step_control op
  unfold Control.cleanupConfirmed
  rw [hprocess, hreaped, h, Option.or_none]
  cases s.control.process.isNone <;> cases s.control.reaped <;> simp

variable {s}

theorem reaped_run (h : s.control.reaped = true) (ops : List (Op E P C)) :
    (s.run ops).control.reaped = true := by
  induction ops generalizing s with
  | nil => exact h
  | cons op ops ih =>
    refine ih ?_
    rw [(s.step_control op).2.1, h, Bool.true_or]

/-- The callbacks that threads have taken out of the control. -/
def out (s : System E P C) : List C := s.ran ++ (s.dropped ++ s.due.flatten)

theorem places_eq (s : System E P C) : s.places = s.out ++ s.control.reapCallbacks := by
  rw [places, out, List.append_assoc, List.append_assoc]

/-- What a step takes out of the control: what is passed when nothing has to be waited for, and at
the reaping what was stored. -/
theorem step_out (s : System E P C) (op : Op E P C) :
    ((s.step op).2.out).Perm (s.out ++ if op.reaps then s.control.reapCallbacks
      else if s.control.cleanupConfirmed then op.passes.toList else []) := by
  have hplaces := s.step_places op
  obtain ⟨-, -, hcallbacks⟩ := s.step_control op
  rw [places_eq, places_eq, hcallbacks] at hplaces
  cases hreaps : op.reaps with
  | true =>
    have hpasses : op.passes = none := by
      cases op <;> first | rfl | cases hreaps
    rw [hreaps, hpasses] at hplaces
    simpa using hplaces
  | false =>
    rw [hreaps] at hplaces
    cases hconfirmed : s.control.cleanupConfirmed with
    | true =>
      rw [hconfirmed, if_neg Bool.false_ne_true, if_pos rfl, List.append_nil] at hplaces
      rw [if_neg Bool.false_ne_true, if_pos rfl]
      refine (List.perm_append_right_iff s.control.reapCallbacks).mp (hplaces.trans ?_)
      rw [List.append_assoc, List.append_assoc]
      exact List.perm_append_comm.append_left _
    | false =>
      rw [hconfirmed, if_neg Bool.false_ne_true, if_neg Bool.false_ne_true, ← List.append_assoc]
        at hplaces
      rw [if_neg Bool.false_ne_true, if_neg Bool.false_ne_true, List.append_nil]
      exact (List.perm_append_right_iff _).mp ((List.perm_append_right_iff _).mp hplaces)

/-- Callbacks are stored only while a process is owned that was not reaped. -/
def Waiting (s : System E P C) : Prop :=
  s.control.reapCallbacks ≠ [] → s.control.process.isSome = true ∧ s.control.reaped = false

theorem Waiting.step (h : s.Waiting) (op : Op E P C) : ((s.step op).2).Waiting := by
  obtain ⟨hprocess, hreaped, hcallbacks⟩ := s.step_control op
  intro hstored
  rw [hcallbacks] at hstored
  rw [hprocess, hreaped]
  cases hreaps : op.reaps with
  | true =>
    rw [hreaps] at hstored
    exact absurd rfl hstored
  | false =>
    have hwait : s.control.process.isSome = true ∧ s.control.reaped = false := by
      by_cases hempty : s.control.reapCallbacks = []
      · cases hconfirmed : s.control.cleanupConfirmed with
        | true =>
          rw [hreaps, hempty, hconfirmed] at hstored
          exact absurd rfl hstored
        | false =>
          rw [Control.cleanupConfirmed, Bool.or_eq_false_iff, Option.isNone_eq_false_iff] at hconfirmed
          exact hconfirmed
      · exact h hempty
    obtain ⟨p, hp⟩ := Option.isSome_iff_exists.mp hwait.1
    rw [hp, hwait.2]
    exact ⟨rfl, rfl⟩

theorem waiting_run (h : s.Waiting) (ops : List (Op E P C)) : (s.run ops).Waiting := by
  induction ops generalizing s with
  | nil => exact h
  | cons op ops ih => exact ih (h.step op)

/-- A callback that was stored stays in the control until the process is reaped. -/
theorem stored_run {callback : C} (h : s.control.reaped = true ∨ callback ∈ s.control.reapCallbacks)
    (ops : List (Op E P C)) :
    (s.run ops).control.reaped = true ∨ callback ∈ (s.run ops).control.reapCallbacks := by
  induction ops generalizing s with
  | nil => exact h
  | cons op ops ih =>
    refine ih ?_
    obtain ⟨-, hreaped, hcallbacks⟩ := s.step_control op
    rw [hreaped, hcallbacks]
    cases op.reaps with
    | true => exact .inl (Bool.or_true _)
    | false => exact h.imp (fun hr => by rw [hr]; rfl) fun hmem => List.mem_append_left _ hmem

theorem dropped_run (ops : List (Op E P C)) (hquiet : ∀ op ∈ ops, op.Quiet)
    (h : s.dropped = []) : (s.run ops).dropped = [] := by
  induction ops generalizing s with
  | nil => exact h
  | cons op ops ih =>
    rw [List.forall_mem_cons] at hquiet
    refine ih hquiet.2 ?_
    cases op with
    | call batch raises =>
      obtain rfl : raises = false := hquiet.1
      unfold step
      dsimp only
      split
      · exact h
      · exact h
    | check =>
      unfold step
      dsimp only
      split <;> exact h
    | complete =>
      unfold step
      dsimp only
      split <;> exact h
    | register process =>
      unfold step
      dsimp only
      split <;> exact h
    | begin => exact h
    | abort error => exact h
    | isStarted => exact h
    | whenReaped callback => exact h
    | markReaped => exact h

theorem started_step (h : s.control.started = true) (op : Op E P C) :
    (s.step op).2.control.started = true := by
  cases op with
  | begin =>
    unfold step Control.begin
    dsimp only
    split
    · exact h
    · rfl
  | abort error =>
    unfold step Control.abort
    dsimp only
    split <;> exact h
  | check =>
    unfold step
    dsimp only
    split <;> exact h
  | complete =>
    unfold step Control.complete
    dsimp only
    cases s.control.cause <;> exact h
  | register process =>
    unfold step Control.register
    dsimp only
    cases s.control.process <;> exact h
  | whenReaped callback =>
    unfold step Control.whenReaped
    dsimp only
    split <;> exact h
  | call batch raises =>
    unfold step
    dsimp only
    split <;> exact h
  | isStarted => exact h
  | markReaped => exact h

theorem started_run (h : s.control.started = true) (ops : List (Op E P C)) :
    (s.run ops).control.started = true := by
  induction ops generalizing s with
  | nil => exact h
  | cons op ops ih => exact ih (started_step h op)

end System

/-! ## Every interleaving -/

/-- Every completion was called by work that had begun. -/
def Begun (ops : List (Op E P C)) : Prop :=
  ∀ earlier later, ops = earlier ++ .complete :: later →
    (System.initial.run earlier).control.started = true

/-- What the control guarantees after any sequence of critical sections and calls. -/
structure Arbitrates (ops : List (Op E P C)) : Prop where
  /-- Not both are committed. -/
  exclusive : ¬ ((System.initial.run ops).control.completed = true ∧
    (System.initial.run ops).control.cause.isSome = true)
  /-- What is committed is what the first critical section to commit something committed. -/
  outcome : (System.initial.run ops).control.outcome = firstCommit ops
  /-- It never changes. -/
  stable : ∀ more, firstCommit ops ≠ none →
    (System.initial.run (ops ++ more)).control.outcome = (System.initial.run ops).control.outcome
  /-- Completion raises a cause exactly if it was committed first. -/
  complete : ∀ cause, (System.initial.run ops).answer .complete = .raised cause ↔
    firstCommit ops = some (.failed cause)
  /-- Where `begin` refuses, every later `check` raises. -/
  refused : (System.initial.run ops).answer .begin = .bool false →
    ∀ more, ∃ cause, (System.initial.run (ops ++ more)).answer .check = .raised cause
  /-- Where a request to cancel finds that the work has not started, it never begins. -/
  cancelled : ∀ pre error mid, ops = pre ++ .abort error :: mid → Begun pre →
    (System.initial.run ops).answer .isStarted = .bool false →
    ∀ more, (System.initial.run (ops ++ more)).answer .begin = .bool false
  /-- Every callback is in one place. -/
  accounted : (passed ops).Perm (System.initial.run ops).places
  /-- Once no process waits to be reaped and no thread has a callback to call, all were called. -/
  once : (∀ op ∈ ops, op.Quiet) → (System.initial.run ops).control.cleanupConfirmed = true →
    (System.initial.run ops).due.flatten = [] → (passed ops).Perm (System.initial.run ops).ran
  /-- A callback that was passed while a process was registered is not called before it was reaped. -/
  notBefore : ∀ pre callback post, ops = pre ++ .whenReaped callback :: post →
    (System.initial.run pre).control.process.isSome = true → callback ∉ passed pre ++ passed post →
    callback ∈ (System.initial.run ops).ran → (System.initial.run ops).control.reaped = true

namespace System

variable (ops : List (Op E P C))

theorem perm_passed : (passed ops).Perm (initial.run ops).places := by
  have h := (initial : System E P C).run_places ops
  exact h.symm

/-- The state after an abort has a cause, unless completion came first. -/
theorem cause_of_abort {pre mid : List (Op E P C)} {error : E} (hbegun : Begun pre)
    (hstarted : (initial.run (pre ++ .abort error :: mid)).answer .isStarted = .bool false) :
    ∃ cause, (initial.run (pre ++ .abort error :: mid)).control.cause = some cause := by
  obtain ⟨hexclusive, houtcome⟩ := run_outcome (pre ++ .abort error :: mid)
  have hcommit : firstCommit (pre ++ .abort error :: mid) =
      (firstCommit pre).or (some (.failed error)) := by
    rw [firstCommit, List.findSome?_append]
    rfl
  rw [hcommit] at houtcome
  cases hpre : firstCommit pre with
  | none =>
    rw [hpre] at houtcome
    exact ⟨error, (Control.outcome_eq_failed hexclusive).mp houtcome⟩
  | some outcome =>
    rw [hpre] at houtcome
    cases outcome with
    | failed cause => exact ⟨cause, (Control.outcome_eq_failed hexclusive).mp houtcome⟩
    | completed =>
      -- the completion was called by work that had begun
      obtain ⟨earlier, op, later, rfl, hop, -⟩ := List.findSome?_eq_some_iff.mp hpre
      have hcomplete : op = .complete := by
        cases op <;> first | rfl | cases hop
      subst hcomplete
      have hbegan := hbegun earlier later rfl
      have hstill := started_run hbegan (.complete :: later ++ .abort error :: mid)
      rw [← run_append, ← List.append_assoc] at hstill
      have hfalse : (initial.run (earlier ++ .complete :: later ++ .abort error :: mid)).control.started =
          false := Answer.bool.inj hstarted
      exact absurd (hstill.symm.trans hfalse) (Ne.symm Bool.false_ne_true)

/-- A callback that was stored when it was passed is called by the thread that reaped. -/
theorem reaped_of_ran {pre post : List (Op E P C)} {callback : C}
    (hprocess : (initial.run pre).control.process.isSome = true)
    (hfresh : callback ∉ passed pre ++ passed post)
    (hran : callback ∈ (initial.run (pre ++ .whenReaped callback :: post)).ran) :
    (initial.run (pre ++ .whenReaped callback :: post)).control.reaped = true := by
  classical
  have hstored : ((initial.run pre).step (.whenReaped callback)).2.control.reaped = true ∨
      callback ∈ ((initial.run pre).step (.whenReaped callback)).2.control.reapCallbacks := by
    obtain ⟨-, hreaped, hcallbacks⟩ := (initial.run pre).step_control (.whenReaped callback)
    rw [hreaped, hcallbacks, Control.cleanupConfirmed, Option.isNone_eq_false_iff.mpr hprocess,
      Bool.false_or]
    cases (initial.run pre).control.reaped with
    | true => exact .inl rfl
    | false => exact .inr (List.mem_append_right _ List.mem_cons_self)
  have hend := stored_run hstored post
  rw [← run_cons, ← run_append] at hend
  refine hend.resolve_right fun hmem => ?_
  -- it would be in two places, but it was passed once
  have hcount := (perm_passed (pre ++ .whenReaped callback :: post)).count_eq callback
  have hpassed : passed (pre ++ .whenReaped callback :: post) =
      passed pre ++ callback :: passed post := List.filterMap_append
  rw [List.mem_append, not_or] at hfresh
  rw [hpassed, List.count_append, List.count_cons_self, List.count_eq_zero.mpr hfresh.1,
    List.count_eq_zero.mpr hfresh.2, places, List.count_append, List.count_append,
    List.count_append] at hcount
  have hpos := List.count_pos_iff.mpr hran
  have hpos' := List.count_pos_iff.mpr hmem
  omega

/-- Every interleaving is arbitrated. -/
theorem arbitrates : Arbitrates ops := by
  obtain ⟨hexclusive, houtcome⟩ := run_outcome ops
  have hcause : ∀ {cause : E}, (initial.run ops).control.cause = some cause → ∀ more,
      (initial.run (ops ++ more)).control.cause = some cause := by
    intro cause hcommitted more
    rw [run_append]
    exact cause_run hexclusive hcommitted more
  constructor
  · rintro ⟨hcompleted, hsome⟩
    rw [hexclusive hcompleted] at hsome
    cases hsome
  · exact houtcome
  · intro more hcommit
    rw [houtcome, (run_outcome (ops ++ more)).2, firstCommit, List.findSome?_append]
    obtain ⟨outcome, hsome⟩ := Option.ne_none_iff_exists'.mp hcommit
    rw [firstCommit] at hsome
    rw [hsome, firstCommit, hsome]
    rfl
  · intro cause
    rw [answer_complete, ← Control.outcome_eq_failed hexclusive, houtcome]
  · intro hrefused more
    obtain ⟨cause, hcommitted⟩ := Option.isSome_iff_exists.mp ((answer_begin _).mp hrefused)
    exact ⟨cause, (answer_check _).mpr (hcause hcommitted more)⟩
  · rintro pre error mid rfl hbegun hstarted more
    obtain ⟨cause, hcommitted⟩ := cause_of_abort hbegun hstarted
    rw [answer_begin, hcause hcommitted more]
    rfl
  · exact perm_passed ops
  · intro hquiet hconfirmed hdue
    have hstored : (initial.run ops).control.reapCallbacks = [] := by
      by_contra hne
      have hwaiting := waiting_run (s := initial) (fun h => absurd rfl h) ops hne
      rw [Control.cleanupConfirmed, hwaiting.2, Bool.or_false, Option.isNone_iff_eq_none] at hconfirmed
      rw [hconfirmed] at hwaiting
      cases hwaiting.1
    have hdropped := dropped_run (s := initial) ops hquiet rfl
    have hplaces := perm_passed ops
    rwa [places, hdropped, hdue, hstored, List.append_nil, List.append_nil, List.append_nil] at hplaces
  · rintro pre callback post rfl hprocess hfresh hran
    exact reaped_of_ran hprocess hfresh hran

end System

end Iperf3Lib.Cancellation
