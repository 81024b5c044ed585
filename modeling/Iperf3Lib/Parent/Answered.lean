import Iperf3Lib.Parent.Returned

/-!
# The runs of a session

A run is authorized when the one in front of it has completed, and a result is returned when all of
them are over. `Answered` keeps what is known of the runs so far; `runs_authorized` reads off it what
every run rests on, and `returned_completes` what a returned result does.
-/

namespace Iperf3Lib.Parent

open Py Json Ipc Results Exchange

variable {c : Invocation} {x y : Exchange}

/-- A result of a run was read. -/
def Read (x : Exchange) (run : ℕ) (item : PyDict) (result : Result) : Prop :=
  .result item result ∈ x.log ∧ ofRun "result" run item = true

/-- The results of the runs that are over, and the run that is current. -/
structure Answered (c : Invocation) (x : Exchange) : Prop where
  each : ∀ run, 1 ≤ run → run ≤ x.responses.runs → 0 < countOfRun "result" run x.accepted
  failed : x.responses.failed = true → ∃ run, 0 < countOfRun "error" run x.accepted
  settled : x.responses.phase = .ending ∨ x.responses.phase = .terminal →
    x.responses.failed = true ∨ x.responses.run ≤ x.responses.runs
  counted : x.count + (if countOfRun "result" x.responses.run x.results = 0 then 1 else 0) =
    x.responses.run
  latest : 0 < countOfRun "result" x.responses.run x.results →
    ∃ item result, x.lastResult = some result ∧ Read x x.responses.run item result
  decided : ∀ completed, x.serving = .deciding completed →
    ∃ result, x.lastResult = some result ∧ result.ok = completed
  earlier : ∀ run, 1 ≤ run → run < x.responses.run →
    ∃ item result, Read x run item result ∧ result.ok = true
  limited : ∀ n, c.maxRuns = some n → x.responses.run ≤ max 1 n

namespace Answered

/-- What was read stays read. -/
theorem read_append {notes : List Note} (hlog : y.log = x.log ++ notes) {run : ℕ} {item : PyDict}
    {result : Result} (h : Read x run item result) : Read y run item result :=
  ⟨hlog ▸ List.mem_append_left _ h.1, h.2⟩

/-- A frame that is accepted. -/
theorem accepted (h : Answered c x) (hplaced : Placed x) {item : PyDict}
    (hrun : item.int? "run_index" = some (x.responses.run : ℤ))
    (hsame : y.responses.run = x.responses.run) (heffect : Effect x.responses y.responses item)
    (hserving : y.serving = x.serving) (hlog : y.log = x.log ++ [.accepted item])
    (hcount : y.count = x.count) (hlast : y.lastResult = x.lastResult) : Answered c y := by
  have haccepted : y.accepted = x.accepted ++ [item] := by
    rw [Exchange.accepted, hlog, List.filterMap_append]
    rfl
  have hresults : y.results = x.results := select_append hlog rfl
  have hmore : ∀ {kind run}, 0 < countOfRun kind run x.accepted →
      0 < countOfRun kind run y.accepted := fun hpos => by
    rw [haccepted, countOfRun_append]
    omega
  have hclosed := h.settled
  have hnext := hplaced.run_le
  exact {
    each := fun run hone hle => by
      cases heffect with
      | ready _ _ _ runs | native _ _ _ runs | live _ _ _ runs | closing _ _ runs =>
        exact hmore (h.each run hone (runs ▸ hle))
      | result kind before _ runs =>
        by_cases hbefore : run ≤ x.responses.runs
        · exact hmore (h.each run hone hbefore)
        · -- the result of the current run has just come
          have hpending := hplaced.pending (.inr before)
          obtain rfl : run = x.responses.run := by omega
          rw [haccepted, countOfRun_append, countOfRun_singleton, if_pos (ofRun_iff.mpr ⟨kind, hrun⟩)]
          omega
    failed := fun hfailed => by
      have hkeep : y.responses.failed = x.responses.failed → ∃ run, 0 < countOfRun "error" run y.accepted :=
        fun hsamefailed => by
          obtain ⟨run, hpos⟩ := h.failed (hsamefailed ▸ hfailed)
          exact ⟨run, hmore hpos⟩
      cases heffect with
      | ready _ _ _ _ _ failed => exact hkeep failed
      | native _ _ _ _ _ failed => exact hkeep failed
      | live _ _ _ _ _ failed => exact hkeep failed
      | result _ _ _ _ _ _ failed => exact hkeep failed
      | closing _ _ _ _ cause =>
        rcases cause with ⟨kind, -⟩ | ⟨-, failed⟩
        · refine ⟨x.responses.run, ?_⟩
          rw [haccepted, countOfRun_append, countOfRun_singleton, if_pos (ofRun_iff.mpr ⟨kind, hrun⟩)]
          omega
        · exact hkeep failed
    settled := fun hphase => by
      cases heffect with
      | ready _ _ after => rw [after] at hphase; simp at hphase
      | native _ _ after => rw [after] at hphase; simp at hphase
      | live _ _ after => rw [after] at hphase; simp at hphase
      | result _ _ _ runs =>
        right
        rw [runs, hsame]
        exact hnext
      | closing _ _ runs _ cause =>
        rcases cause with ⟨-, failed⟩ | ⟨before, failed⟩
        · exact .inl failed
        · rw [failed, runs, hsame]
          exact hclosed (.inl before)
    counted := by
      rw [hcount, hresults, hsame]
      exact h.counted
    latest := fun hpos => by
      rw [hresults, hsame] at hpos
      obtain ⟨frame, result, hresult, hread⟩ := h.latest hpos
      exact ⟨frame, result, hlast.trans hresult, hsame ▸ read_append hlog hread⟩
    decided := fun completed hdeciding => by
      rw [hlast]
      exact h.decided completed (hserving ▸ hdeciding)
    earlier := fun run hone hlt => by
      obtain ⟨frame, result, hread, hok⟩ := h.earlier run hone (hsame ▸ hlt)
      exact ⟨frame, result, read_append hlog hread, hok⟩
    limited := fun n hn => hsame ▸ h.limited n hn }

/-- Neither the session nor the results change. -/
theorem same (h : Answered c x) {notes : List Note}
    (hresponses : ∃ session, y.responses = { x.responses with session := session })
    (hlog : y.log = x.log ++ notes) (haccepted : notes.filterMap Note.acceptedItem = [])
    (hresults : notes.filterMap Note.resultItem = []) (hcount : y.count = x.count)
    (hlast : y.lastResult = x.lastResult)
    (hserving : y.serving = x.serving ∨ ∀ completed, y.serving ≠ .deciding completed) :
    Answered c y := by
  obtain ⟨session, hresponses⟩ := hresponses
  have haccepted : y.accepted = x.accepted := select_append hlog haccepted
  have hresults : y.results = x.results := select_append hlog hresults
  exact {
    each := by
      rw [hresponses, haccepted]
      exact h.each
    failed := by
      rw [hresponses, haccepted]
      exact h.failed
    settled := by
      rw [hresponses]
      exact h.settled
    counted := by
      rw [hresponses, hresults, hcount]
      exact h.counted
    latest := by
      rw [hresponses, hresults, hlast]
      intro hpos
      obtain ⟨item, result, hresult, hread⟩ := h.latest hpos
      exact ⟨item, result, hresult, read_append hlog hread⟩
    decided := by
      intro completed hdeciding
      rw [hlast]
      rcases hserving with hserving | hserving
      · exact h.decided completed (hserving ▸ hdeciding)
      · exact absurd hdeciding (hserving completed)
    earlier := by
      rw [hresponses]
      intro run hone hlt
      obtain ⟨item, result, hread, hok⟩ := h.earlier run hone hlt
      exact ⟨item, result, read_append hlog hread, hok⟩
    limited := by
      rw [hresponses]
      exact h.limited }

/-- The result of the current run is read. -/
theorem read (h : Answered c x) (hplaced : Placed x) {item : PyDict} {result : Result}
    {events : List LiveEvent} (hqueued : item ∈ x.inbox.queued) (hkind : isKind "result" item = true)
    (hresponses : y.responses = x.responses)
    (hlog : y.log = x.log ++ .result item result :: events.map .gap)
    (hadvances : Advances x y (.result item result :: events.map .gap))
    (hserving : y.serving = servingBehind c result) : Answered c y := by
  have hindex := hplaced.current item (List.mem_append_left _ hqueued) (isPayload_of_result hkind)
  have hof : ofRun "result" x.responses.run item = true := ofRun_iff.mpr ⟨hkind, hindex⟩
  have hread : (Note.result item result :: events.map Note.gap).filterMap Note.resultRead = [result] := by
    refine congrArg (result :: ·) ?_
    rw [List.filterMap_map]
    exact List.filterMap_eq_nil_iff.mpr fun _ _ => rfl
  have hlast : y.lastResult = some result := by
    rw [hadvances.last, hread]
    rfl
  have haccepted : y.accepted = x.accepted :=
    select_append hlog (by simp [Note.acceptedItem])
  have hresults : y.results = x.results ++ [item] := by
    rw [Exchange.results, hlog, List.filterMap_append]
    simp [Note.resultItem, Exchange.results]
  have hresult : Read y x.responses.run item result := ⟨by rw [hlog]; simp, hof⟩
  -- the result of the run was not read before
  have hnone : countOfRun "result" x.responses.run x.results = 0 := by
    by_contra hbefore
    have := (hplaced.once_taken (Placed.taken_of_results (Nat.pos_of_ne_zero hbefore))).1
    rw [countOfRun_eq_zero] at this
    rw [this item hqueued] at hof
    cases hof
  have hcounted := h.counted
  rw [if_pos hnone] at hcounted
  exact {
    each := by
      rw [hresponses, haccepted]
      exact h.each
    failed := by
      rw [hresponses, haccepted]
      exact h.failed
    settled := by
      rw [hresponses]
      exact h.settled
    counted := by
      rw [hresponses, hresults, countOfRun_append, countOfRun_singleton, if_pos hof, if_neg (by omega),
        hadvances.count, hread]
      exact hcounted
    latest := fun _ => ⟨item, result, hlast, hresponses ▸ hresult⟩
    decided := by
      intro completed hdeciding
      refine ⟨result, hlast, ?_⟩
      rw [hserving, servingBehind] at hdeciding
      split at hdeciding
      · cases hdeciding
      · exact Serving.deciding.inj hdeciding
    earlier := by
      rw [hresponses]
      intro run hone hlt
      obtain ⟨frame, earlier, hearlier, hok⟩ := h.earlier run hone hlt
      exact ⟨frame, earlier, read_append hlog hearlier, hok⟩
    limited := by
      rw [hresponses]
      exact h.limited }

/-- The next run is authorized, or none is. -/
theorem continued (h : Answered c x) (hplaced : Placed x) {completed stop : Bool} {run : ℕ}
    (hdeciding : x.serving = .deciding completed)
    (hcontinue : x.responses.continueRun (x.keepRunning c completed stop) = .ok (run, y.responses))
    (hlog : y.log = x.log) (hcount : y.count = x.count) (hlast : y.lastResult = x.lastResult)
    (hpolling : y.serving = .polling) : Answered c y := by
  obtain ⟨hphase, hruns, -, hfailed, heffect⟩ := Responses.continueRun_effect hcontinue
  have haccepted : y.accepted = x.accepted := select_same hlog
  have hresults : y.results = x.results := select_same hlog
  have hread := hplaced.decided completed hdeciding
  have hsettled := hplaced.settled hphase
  have hread_of : ∀ {r item result}, Read x r item result → Read y r item result :=
    fun hread => ⟨hlog ▸ hread.1, hread.2⟩
  have heach : ∀ r, 1 ≤ r → r ≤ y.responses.runs → 0 < countOfRun "result" r y.accepted := by
    rw [hruns, haccepted]
    exact h.each
  have hfailing : y.responses.failed = true → ∃ r, 0 < countOfRun "error" r y.accepted := by
    rw [hfailed, haccepted]
    exact h.failed
  have hcounted := h.counted
  rw [if_neg (Nat.pos_iff_ne_zero.mp hread), Nat.add_zero] at hcounted
  rcases heffect with ⟨hkeep, hrun, hafter, -⟩ | ⟨-, hrun, -, -⟩
  · simp only [keepRunning, Bool.and_eq_true] at hkeep
    obtain ⟨⟨⟨-, hcompleted⟩, hlimit⟩, -⟩ := hkeep
    -- nothing was read of the next run
    have hnone : countOfRun "result" (x.responses.run + 1) x.results = 0 := by
      by_contra hbefore
      have htaken := Placed.taken_of_results (Nat.pos_of_ne_zero hbefore)
      have := (hplaced.once_taken htaken).2.2.2
      have := hplaced.runs_le
      omega
    exact {
      each := heach
      failed := hfailing
      settled := fun hend => by rw [hafter] at hend; simp at hend
      counted := by rw [hrun, hresults, if_pos hnone, hcount, hcounted]
      latest := fun hpos => by rw [hrun, hresults, hnone] at hpos; omega
      decided := fun _ hdecides => by rw [hpolling] at hdecides; cases hdecides
      earlier := fun r hone hlt => by
        rw [hrun] at hlt
        by_cases hcurrent : r = x.responses.run
        · subst hcurrent
          obtain ⟨item, result, hresult, hlatest⟩ := h.latest hread
          obtain ⟨result', hresult', hok⟩ := h.decided completed hdeciding
          obtain rfl := Option.some.inj (hresult.symm.trans hresult')
          exact ⟨item, result, hread_of hlatest, hok.trans hcompleted⟩
        · obtain ⟨item, result, hearlier, hok⟩ := h.earlier r hone (by omega)
          exact ⟨item, result, hread_of hearlier, hok⟩
      limited := fun n hn => by
        rw [hn, Option.all_some, decide_eq_true_eq] at hlimit
        rw [hrun]
        omega }
  · exact {
      each := heach
      failed := hfailing
      settled := fun _ => by
        right
        rw [hrun, hruns]
        exact hsettled
      counted := by
        rw [hrun, hresults, if_neg (Nat.pos_iff_ne_zero.mp hread), hcount]
        exact hcounted
      latest := fun _ => by
        obtain ⟨item, result, hresult, hlatest⟩ := h.latest hread
        exact ⟨item, result, hlast.trans hresult, hrun ▸ hread_of hlatest⟩
      decided := fun _ hdecides => by rw [hpolling] at hdecides; cases hdecides
      earlier := fun r hone hlt => by
        obtain ⟨item, result, hearlier, hok⟩ := h.earlier r hone (hrun ▸ hlt)
        exact ⟨item, result, hread_of hearlier, hok⟩
      limited := fun n hn => hrun ▸ h.limited n hn }

theorem change (h : Answered c x) (hplaced : Placed x) {notes : List Note}
    (hadvances : Advances x y notes) (hchange : Change c x y) : Answered c y := by
  -- the log tells which notes are new
  have hnotes : ∀ {others}, y.log = x.log ++ others → notes = others := fun hlog =>
    List.append_cancel_left (hadvances.log.symm.trans hlog)
  have hmemory : ∀ {others}, y.log = x.log ++ others → others.filterMap Note.resultRead = [] →
      y.count = x.count ∧ y.lastResult = x.lastResult := by
    intro others hlog hread
    rw [hadvances.count, hadvances.last, hnotes hlog, hread]
    exact ⟨rfl, rfl⟩
  have hnil : y.log = x.log → y.log = x.log ++ [] := fun hlog => by rw [hlog, List.append_nil]
  cases hchange with
  | quiet responses _ _ _ serving log =>
    obtain ⟨hcount, hlast⟩ := hmemory (hnil log) rfl
    exact h.same responses (hnil log) rfl rfl hcount hlast serving
  | accepted item _ accept _ _ serving log =>
    obtain ⟨hrun, hsame, -, heffect⟩ := Responses.accept_effect accept
    obtain ⟨hcount, hlast⟩ := hmemory log rfl
    exact h.accepted hplaced hrun hsame heffect serving log hcount hlast
  | lost item _ _ responses _ _ serving log =>
    obtain ⟨hcount, hlast⟩ := hmemory log rfl
    exact h.same ⟨_, responses⟩ log rfl rfl hcount hlast (.inl serving)
  | queued _ _ _ responses _ _ _ serving log | stamped _ _ _ responses _ _ _ serving log =>
    obtain ⟨hcount, hlast⟩ := hmemory (hnil log) rfl
    exact h.same ⟨_, responses⟩ (hnil log) rfl rfl hcount hlast (.inl serving)
  | taken item rest _ queued inbox _ _ handled =>
    have hshared := handled.shared
    have hresponses : ∃ session, y.responses = { x.responses with session := session } :=
      ⟨_, hshared.responses⟩
    cases handled with
    | control _ _ beside states log =>
      obtain ⟨hcount, hlast⟩ := hmemory log (by simp [Note.resultRead])
      exact h.same hresponses log (by simp [Note.acceptedItem])
        (by simp [Note.resultItem]) hcount hlast (.inl beside.serving)
    | native _ beside _ log =>
      obtain ⟨hcount, hlast⟩ := hmemory log rfl
      exact h.same hresponses log rfl rfl hcount hlast (.inl beside.serving)
    | live _ beside _ log =>
      obtain ⟨hcount, hlast⟩ := hmemory log rfl
      exact h.same hresponses log rfl rfl hcount hlast (.inl beside.serving)
    | ignored _ beside log =>
      obtain ⟨hcount, hlast⟩ := hmemory log rfl
      exact h.same hresponses log rfl rfl hcount hlast (.inl beside.serving)
    | unprojected _ _ _ serving log =>
      obtain ⟨hcount, hlast⟩ := hmemory log rfl
      exact h.same hresponses log rfl rfl hcount hlast (.inl serving)
    | unreadable _ _ serving log =>
      obtain ⟨hcount, hlast⟩ := hmemory log rfl
      exact h.same hresponses log rfl rfl hcount hlast (.inr (by rw [serving]; simp))
    | result kind _ result _ serving events log =>
      exact h.read hplaced (queued ▸ List.mem_cons_self) kind hshared.responses log
        (hnotes log ▸ hadvances) serving
  | continued completed _ run deciding keep continueRun _ _ polling log =>
    obtain ⟨stop, rfl⟩ := keep
    obtain ⟨hcount, hlast⟩ := hmemory (hnil log) rfl
    exact h.continued hplaced deciding continueRun log hcount hlast polling

theorem initial (c : Invocation) (session : Session) (pid : ℤ) : Answered c (initial c session pid) := by
  obtain ⟨hresponses, -, -, hserving, -⟩ := initial_spec c session pid
  have hremembered := Remembered.initial c session pid
  have hresults : (Exchange.initial c session pid).results = [] :=
    select_initial c session pid fun _ => rfl
  have hread : (Exchange.initial c session pid).resultsRead = [] :=
    select_initial c session pid fun _ => rfl
  set x := Exchange.initial c session pid
  exact {
    each := fun run hone hle => by
      rw [hresponses] at hle
      exact absurd (hone.trans hle) (Nat.not_succ_le_zero 0)
    failed := fun hfailed => by rw [hresponses] at hfailed; cases hfailed
    settled := fun hphase => by rw [hresponses] at hphase; simp [Responses.initial] at hphase
    counted := by
      rw [hremembered.count, hread, hresults, hresponses]
      rfl
    latest := fun hpos => by rw [hresults] at hpos; cases hpos
    decided := fun completed hdeciding => absurd hdeciding (hserving completed)
    earlier := fun run hone hlt => by
      rw [hresponses] at hlt
      exact absurd (hone.trans_lt hlt) (Nat.lt_irrefl 1)
    limited := fun n _ => by
      rw [hresponses]
      exact le_max_left 1 n }

end Answered

/-! ## Whole sessions -/

/-- The result of every frame of a result that was taken was read, unless the loop was left. -/
def AllRead (x : Exchange) : Prop := x.serving = .left none ∨
  ∀ run, countOfRun "result" run x.taken = countOfRun "result" run x.results

theorem AllRead.change (h : AllRead x) (hchange : Change c x y)
    (hleft : x.serving = .left none → y.serving = .left none) : AllRead y := by
  rcases h with hserving | h
  · exact .inl (hleft hserving)
  have hsame : ∀ notes, y.log = x.log ++ notes → (∀ run,
      countOfRun "result" run (notes.filterMap Note.takenItem) =
        countOfRun "result" run (notes.filterMap Note.resultItem)) → AllRead y := by
    intro notes hlog hnotes
    refine .inr fun run => ?_
    rw [Exchange.taken, Exchange.results, hlog, List.filterMap_append, List.filterMap_append,
      countOfRun_append, countOfRun_append, hnotes]
    exact congrArg (· + _) (h run)
  have hnil : y.log = x.log → AllRead y := fun hlog =>
    hsame [] (by rw [hlog, List.append_nil]) fun _ => rfl
  have hother : ∀ {item : PyDict}, isKind "result" item = false →
      ∀ run, countOfRun "result" run [item] = 0 := by
    intro item hkind run
    rw [countOfRun_singleton, ofRun, hkind]
    rfl
  cases hchange with
  | quiet _ _ _ _ _ log => exact hnil log
  | accepted _ _ _ _ _ _ log => exact hsame _ log fun _ => rfl
  | lost _ _ _ _ _ _ _ log => exact hsame _ log fun _ => rfl
  | queued _ _ _ _ _ _ _ _ log | stamped _ _ _ _ _ _ _ _ log => exact hnil log
  | continued _ _ _ _ _ _ _ _ _ log => exact hnil log
  | taken item _ _ _ _ _ _ handled =>
    cases handled with
    | control _ result _ states log =>
      refine hsame _ log fun run => ?_
      have htaken : (Note.control item :: states.map Note.state).filterMap Note.takenItem = [item] := by
        simp [Note.takenItem, List.filterMap_map, Function.comp_def]
      have hread : (Note.control item :: states.map Note.state).filterMap Note.resultItem = [] := by
        simp [Note.resultItem]
      rw [htaken, hread, hother result]
      rfl
    | native kind _ _ log => exact hsame _ log (hother (isKind_eq_false kind (by decide)))
    | live kind _ _ log => exact hsame _ log (hother (isKind_eq_false kind (by decide)))
    | ignored event _ log => exact hsame _ log (hother (not_result_of_isEvent event))
    | unprojected kind _ _ _ log => exact hsame _ log (hother (isKind_eq_false kind (by decide)))
    | unreadable _ _ serving => exact .inl serving
    | result _ _ _ _ _ events log =>
      refine hsame _ log fun run => ?_
      simp [Note.takenItem, Note.resultItem, List.filterMap_map, Function.comp_def]

/-- What is known of a session at any time. -/
structure Tracked (c : Invocation) (x : Exchange) : Prop where
  accounted : Accounted c x
  closing : Closing x
  arriving : Arriving x
  remembered : Remembered x
  answered : Answered c x
  allRead : AllRead x

namespace Tracked

theorem initial (c : Invocation) (session : Session) (pid : ℤ) : Tracked c (initial c session pid) := by
  obtain ⟨-, hinbox, hheld, -⟩ := initial_spec c session pid
  have htaken : (Exchange.initial c session pid).taken = [] := select_initial c session pid fun _ => rfl
  refine ⟨.initial c session pid, .initial c session pid, .inr fun kind run => ?_,
    .initial c session pid, .initial c session pid, .inr fun run => ?_⟩
  · rw [Exchange.accepted, select_initial c session pid fun _ => rfl, Exchange.lost,
      select_initial c session pid fun _ => rfl, Exchange.pipeline, htaken, hinbox, hheld]
    rfl
  · rw [htaken, Exchange.results, select_initial c session pid fun _ => rfl]

/-- Every step keeps it. -/
theorem step (h : Tracked c x) (action : Action) : Tracked c (Exchange.step c x action) := by
  have hchange := change_step c x action
  obtain ⟨notes, hadvances⟩ := advances_step c x action
  exact {
    accounted := h.accounted.step action
    closing := h.closing.step action
    arriving := h.arriving.change hchange fun hbroken => broken_step h.closing hbroken action
    remembered := h.remembered.advance hadvances
    answered := h.answered.change h.accounted.placed hadvances hchange
    allRead := h.allRead.change hchange fun hleft => left_step hleft action }

/-- Every interleaving keeps it. -/
theorem run (h : Tracked c x) (actions : List Action) : Tracked c (Exchange.run c x actions) := by
  induction actions generalizing x with
  | nil => exact h
  | cons action actions ih => exact ih (h.step action)

end Tracked

/-- Every run rests on the one in front of it: it is within the number of runs that the caller allows,
and a result of every earlier run was read, which says that the run completed. -/
theorem runs_authorized (c : Invocation) (session : Session) (pid : ℤ) (actions : List Action) :
    let x := Exchange.run c (initial c session pid) actions
    (∀ n, c.maxRuns = some n → x.responses.run ≤ max 1 n) ∧
      (∀ run, countOfRun "result" run x.results ≤ 1) ∧
        ∀ run, 1 ≤ run → run < x.responses.run →
          ∃ item result, Read x run item result ∧ result.ok = true := by
  intro x
  have h : Tracked c x := (Tracked.initial c session pid).run actions
  refine ⟨h.answered.limited, fun run => ?_, h.answered.earlier⟩
  by_cases hread : 0 < countOfRun "result" run x.results
  · have htaken := (h.accounted.placed.once_taken (Placed.taken_of_results hread)).2.2.1
    exact (x.results_sublist.countP_le).trans htaken.le
  · omega

/-- What a returned result tells about its session. -/
structure Completed (c : Invocation) (x : Exchange) (result : Result) : Prop where
  terminal : x.responses.phase = .terminal ∧ x.responses.failed = false
  quiet : x.callbackError = false ∧ x.workerError = none
  runs : ∀ run, 1 ≤ run → countOfRun "result" run x.results = if run ≤ x.responses.run then 1 else 0
  last : ∃ item, Read x x.responses.run item result ∧ Conserves c x x.responses.run item result
  arrived : ∀ kind run, countOfRun kind run x.accepted =
    countOfRun kind run x.lost + countOfRun kind run x.taken

/-- However the threads interleave: a result is returned when the session is over. The worker has
completed every run that was authorized, its results were read, no callback raised, and what was
accepted has reached the loop or is counted as lost. -/
theorem returned_completes (c : Invocation) (session : Session) (pid : ℤ) (actions : List Action)
    {result : Result}
    (hreturned : (Exchange.run c (initial c session pid) actions).serving = .left (some result)) :
    Completed c (Exchange.run c (initial c session pid) actions) result := by
  set x := Exchange.run c (initial c session pid) actions with hx
  have h : Tracked c x := (Tracked.initial c session pid).run actions
  have hplaced := h.accounted.placed
  obtain ⟨hreader, hitems, hfailure, hphase, hworker, hquiet, hlast⟩ := h.closing.returned result hreturned
  -- nothing is on its way any more
  have hpipeline : x.pipeline = x.taken := by
    rw [Exchange.pipeline, Inbox.queued, hitems, hreader, Reading.held, List.map_nil, List.append_nil,
      List.append_nil]
  have harrived : ∀ kind run, countOfRun kind run x.accepted =
      countOfRun kind run x.lost + countOfRun kind run x.taken := by
    rcases h.arriving with (⟨e, hfailing⟩ | hbroken) | harriving
    · rw [hreader] at hfailing
      cases hfailing
    · rw [hfailure] at hbroken
      cases hbroken
    · rwa [hpipeline] at harriving
  have hread : ∀ run, countOfRun "result" run x.taken = countOfRun "result" run x.results := by
    rcases h.allRead with hleft | hread
    · rw [hreturned] at hleft
      cases hleft
    · exact hread
  -- what is lost is an event
  have hlost : ∀ kind : String, (kind : PyStr) ≠ ("event" : String) →
      (kind : PyStr) ≠ ("live_event" : String) → ∀ run, countOfRun kind run x.lost = 0 := by
    intro kind hevent hlive run
    refine countOfRun_eq_zero.mpr fun item hitem => ?_
    obtain ⟨note, hnote, hselected⟩ := List.mem_filterMap.mp hitem
    obtain rfl : note = .lost item := by
      cases note <;> cases hselected
      rfl
    have hkind : isEvent item = true := h.accounted.noted.typed _ hnote
    rw [isEvent, Bool.or_eq_true] at hkind
    rw [ofRun]
    rcases hkind with hkind | hkind
    · rw [isKind_eq_false hkind hevent.symm]
      rfl
    · rw [isKind_eq_false hkind hlive.symm]
      rfl
  have hfailed : x.responses.failed = false := by
    by_contra hfailed
    obtain ⟨run, hpos⟩ := h.answered.failed (Bool.not_eq_false _ ▸ hfailed)
    rw [harrived, hlost _ (by decide) (by decide), Nat.zero_add, countOfRun_pos] at hpos
    obtain ⟨item, hitem, hof⟩ := hpos
    have := h.remembered.worker item hitem (ofRun_iff.mp hof).1
    rw [hworker] at this
    cases this
  have hruns : x.responses.run ≤ x.responses.runs :=
    (h.answered.settled (.inr hphase)).resolve_left (by rw [hfailed]; decide)
  have hcount : ∀ run, 1 ≤ run →
      countOfRun "result" run x.results = if run ≤ x.responses.run then 1 else 0 := by
    intro run hone
    have honce := hplaced.once run
    rw [hpipeline, hread] at honce
    have heach := h.answered.each run hone
    rw [harrived, hlost _ (by decide) (by decide), Nat.zero_add, hread] at heach
    have hle := hplaced.runs_le
    split
    · next hrun =>
      rw [if_pos (hrun.trans hruns)] at honce
      exact le_antisymm honce (heach (hrun.trans hruns))
    · next hrun =>
      rw [if_neg (by omega)] at honce
      exact Nat.le_zero.mp honce
  have hone : 1 ≤ x.responses.run := by
    have hcounted := h.answered.counted
    have hsome := h.remembered.last
    rw [hlast] at hsome
    have hpos := List.length_pos_of_mem (List.mem_of_getLast? hsome.symm)
    rw [← h.remembered.count] at hpos
    omega
  refine ⟨⟨hphase, hfailed⟩, ⟨hquiet, hworker⟩, hcount, ?_, harrived⟩
  obtain ⟨item, result', hlast', hresult⟩ := h.answered.latest (by
    rw [hcount _ hone, if_pos (le_refl _)]
    exact Nat.one_pos)
  obtain rfl := Option.some.inj (hlast.symm.trans hlast')
  exact ⟨item, hresult, h.accounted.conserves hquiet hresult.1 hresult.2⟩

/-- Behind its result the worker ends the session. -/
def endedExchange : List Action :=
  busyExchange ++ [.accept (frameOf 5 "terminal" [("runs", .int 1), ("status", .lit "completed")]) 200,
    .put, .finish, .poll 0, .poll 0]

/-- The result that is returned, if one is. -/
def returnedResult : Serving → Option Result
  | .left returned => returned
  | _ => none

theorem serving_of_returnedResult {serving : Serving} {result : Result}
    (h : returnedResult serving = some result) : serving = .left (some result) := by
  cases serving with
  | polling => cases h
  | deciding completed => cases h
  | left returned => exact congrArg Serving.left h

theorem returned_completes_busy : ∃ result,
    Completed listener (Exchange.run listener (initial listener clientSession 1) endedExchange) result := by
  have hleft : (returnedResult (Exchange.run listener (initial listener clientSession 1)
      endedExchange).serving).isSome = true := by decide +kernel
  obtain ⟨result, hresult⟩ := Option.isSome_iff_exists.mp hleft
  exact ⟨result, returned_completes listener clientSession 1 endedExchange
    (serving_of_returnedResult hresult)⟩

end Iperf3Lib.Parent
