import Iperf3Lib.Live.Stream

/-!
# No observation is lost silently

Every put is delivered, queued or counted as dropped, and what was dropped is announced by gap
notices before the terminal. `Lossless` says so of a world; each step keeps it. Once the owner is
settled, `owed` lists what the reads to come deliver, and the last of it is the terminal.
-/

namespace Iperf3Lib

open Py Json Ipc

/-! ## The accounts -/

/-- The event that a read delivered. -/
def Read.delivered? : Read → Option (Origin × LiveEvent)
  | .event origin e => some (origin, e)
  | _ => none

/-- The loss that a gap notice announces. -/
def LiveEvent.lost (e : LiveEvent) : ℕ :=
  match e.payload with
  | .deliveryGap _ (.int n) => n.toNat
  | _ => 0

/-- The delivered events that are no synthetic ones, without their delivery numbers. -/
def observedIn (items : List (Origin × LiveEvent)) : List LiveEvent :=
  (items.filter fun item => item.1 = .queue).map fun item => item.2.withSequence 0

/-- The sum of the gap notices. -/
def announcedIn (items : List (Origin × LiveEvent)) : ℕ :=
  ((items.filter fun item => item.1 = .bridge).map fun item => item.2.lost).sum

@[simp] theorem observedIn_concat (items : List (Origin × LiveEvent)) (origin : Origin)
    (event : LiveEvent) : observedIn (items ++ [(origin, event)]) =
      observedIn items ++ if origin = .queue then [event.withSequence 0] else [] := by
  cases origin <;> simp [observedIn, List.filter_append]

@[simp] theorem announcedIn_concat (items : List (Origin × LiveEvent)) (origin : Origin)
    (event : LiveEvent) : announcedIn (items ++ [(origin, event)]) =
      announcedIn items + if origin = .bridge then event.lost else 0 := by
  cases origin <;> simp [announcedIn, List.filter_append]

namespace World

/-- The events that were delivered. -/
def delivered (w : World) : List (Origin × LiveEvent) := w.reads.filterMap Read.delivered?

def observed (w : World) : List LiveEvent := observedIn w.delivered

def announced (w : World) : ℕ := announcedIn w.delivered

/-- The accounts of a stream. -/
structure Lossless (F : Faults Exc) (w : World) : Prop where
  numbered : w.delivered.map (fun item => item.2.deliverySequence) =
    List.range' 1 w.stream.sequence
  ordered : (w.observed ++ w.stream.queue.map fun item => item.1.withSequence 0).Sublist
    (w.puts.map fun event => event.withSequence 0)
  accounted : w.puts.length = w.observed.length + w.stream.queue.length + w.stream.dropped
  announced : w.announced = w.stream.reportedDropped
  reported_le : w.stream.reportedDropped ≤ w.stream.dropped
  notice : ∀ event, (.bridge, event) ∈ w.delivered →
    ∃ n : ℕ, 0 < n ∧ event.payload = .deliveryGap (.lit "consumer_bridge") (.int n)
  length_le : w.stream.queue.length ≤ maxStreamEvents
  sized : ∀ item ∈ w.stream.queue, liveEventSize F item.1 = .ok item.2
  bytes_eq : w.stream.bytes = (w.stream.queue.map Prod.snd).sum
  bytes_le : w.stream.bytes ≤ maxStreamBytes
  terminal : ∀ event, w.stream.terminal = some event →
    ∃ p, event.payload = .terminal p ∧ p.consumerDropped = w.stream.dropped
  unfinished : w.stream.terminalDelivered = false → ∀ event, (.terminal, event) ∉ w.delivered
  finished : w.stream.terminalDelivered = true →
    w.stream.queue = [] ∧ w.stream.reportedDropped = w.stream.dropped ∧
      w.stream.terminal.isSome ∧
      ∃ before event p, w.delivered = before ++ [(.terminal, event)] ∧
        (∀ item ∈ before, item.1 ≠ .terminal) ∧
        event.payload = .terminal p ∧ p.consumerDropped = w.announced
  scheduled : w.scheduled = if w.stream.wakePending then 1 else 0
  awake : w.reader = .waiting → w.stream.Readable →
    w.stream.available ∨ 0 < w.scheduled ∨ w.waking
  settled : w.reader = .waiting → w.stream.terminal.isSome → w.stream.available

end World

/-! ## The lock sections -/

theorem EventStream.poll_cases (s : EventStream) :
    (∃ event size queue, s.queue = (event, size) :: queue ∧
      s.poll = (.event .queue event, { s with queue := queue, bytes := s.bytes - size })) ∨
    (s.queue = [] ∧ s.reportedDropped ≠ s.dropped ∧
      s.poll = (.event .bridge (makeDeliveryGapEvent "consumer_bridge"
        (s.dropped - s.reportedDropped) 0 s.identity), { s with reportedDropped := s.dropped })) ∨
    (s.queue = [] ∧ s.reportedDropped = s.dropped ∧ ∃ terminal, s.terminal = some terminal ∧
      s.terminalDelivered = false ∧
      s.poll = (.event .terminal terminal, { s with terminalDelivered := true })) ∨
    (s.terminal.isSome ∧ s.terminalDelivered = true ∧ s.poll = (.ended, s)) ∨
    (¬ s.Readable ∧ s.poll = (.empty, { s with available := false })) := by
  unfold EventStream.poll
  cases hqueue : s.queue with
  | cons item queue => exact .inl ⟨item.1, item.2, queue, rfl, rfl⟩
  | nil =>
    refine .inr ?_
    by_cases hdropped : s.reportedDropped = s.dropped
    · refine .inr ?_
      dsimp only
      rw [if_neg (not_not.mpr hdropped)]
      cases hterminal : s.terminal with
      | none =>
        refine .inr (.inr ⟨?_, rfl⟩)
        rintro (h | h | h)
        · exact h hqueue
        · exact h hdropped
        · rw [hterminal] at h
          cases h
      | some terminal =>
        dsimp only
        by_cases hdelivered : s.terminalDelivered = true
        · rw [if_pos hdelivered]
          exact .inr (.inl ⟨rfl, hdelivered, rfl⟩)
        · rw [if_neg hdelivered]
          exact .inl ⟨rfl, hdropped, terminal, rfl, by simpa using hdelivered, rfl⟩
    · dsimp only
      rw [if_pos hdropped]
      exact .inl ⟨rfl, hdropped, rfl⟩

/-- An event that is queued has a frame. -/
theorem EventStream.put_cases (F : Faults Exc) (s : EventStream) (event : LiveEvent) :
    s.put F event = { s with
      identity := some (eventIdentity event), wakePending := true, dropped := s.dropped + 1 } ∨
    ∃ size, liveEventSize F event = .ok size ∧ s.queue.length < maxStreamEvents ∧
      s.bytes + size ≤ maxStreamBytes ∧
      s.put F event = { s with
        identity := some (eventIdentity event), wakePending := true
        queue := s.queue ++ [(event, size)], bytes := s.bytes + size } := by
  unfold EventStream.put
  by_cases hfull : s.queue.length ≥ maxStreamEvents ∨ s.bytes + putSize F event > maxStreamBytes
  · exact .inl (if_pos hfull)
  · refine .inr ⟨putSize F event, ?_, by omega, by omega, if_neg hfull⟩
    unfold EventStream.putSize at hfull ⊢
    cases hsize : liveEventSize F event with
    | ok size => rfl
    | error e =>
      -- Such an event counts as larger than the whole queue.
      simp only [hsize] at hfull
      omega

/-! ## One step -/

namespace World

/-- The world behind a read that delivers an event. -/
def deliver (w : World) (s : EventStream) (origin : Origin) (event : LiveEvent) : World :=
  { w with
    stream := { s with sequence := s.sequence + 1 }
    reader := .idle
    reads := w.reads ++ [.event origin (event.withSequence (s.sequence + 1))] }

@[simp] theorem delivered_deliver (w : World) (s : EventStream) (origin : Origin)
    (event : LiveEvent) : (w.deliver s origin event).delivered =
      w.delivered ++ [(origin, event.withSequence (s.sequence + 1))] := by
  unfold delivered deliver
  rw [List.filterMap_append]
  rfl

namespace Lossless

variable {F : Faults Exc} {w : World}

theorem empty : Lossless F {} where
  numbered := rfl
  ordered := List.Sublist.refl _
  accounted := rfl
  announced := rfl
  reported_le := Nat.le_refl _
  notice _ h := by cases h
  length_le := Nat.zero_le _
  sized _ h := by cases h
  bytes_eq := rfl
  bytes_le := Nat.zero_le _
  terminal _ h := by cases h
  unfinished _ _ h := by cases h
  finished h := by cases h
  scheduled := rfl
  awake h := by cases h
  settled h := by cases h

theorem put (h : Lossless F w) (event : LiveEvent) : Lossless F (w.step F (.put event)) := by
  unfold step
  dsimp only
  split
  · exact h
  · next hopen =>
    have hdelivered : ¬ w.stream.terminalDelivered = true := fun hd => hopen (h.finished hd).2.2.1
    have hscheduled : (if w.stream.wakePending then w.scheduled else w.scheduled + 1) = 1 := by
      rw [h.scheduled]
      split <;> rfl
    rcases w.stream.put_cases F event with hput | ⟨size, hsize, hlength, hbytes, hput⟩
    · rw [hput]
      exact {
        numbered := h.numbered
        ordered := by
          rw [List.map_append]
          exact h.ordered.trans (List.sublist_append_left _ _)
        accounted := by
          have := h.accounted
          rw [List.length_append, this]
          exact Nat.add_assoc _ _ _
        announced := h.announced
        reported_le := Nat.le_succ_of_le h.reported_le
        notice := h.notice
        length_le := h.length_le
        sized := h.sized
        bytes_eq := h.bytes_eq
        bytes_le := h.bytes_le
        terminal := fun t ht => absurd (Option.isSome_of_eq_some ht) hopen
        unfinished := h.unfinished
        finished := fun hd => absurd hd hdelivered
        scheduled := hscheduled
        awake := fun _ _ => .inr (.inl (lt_of_lt_of_eq Nat.one_pos hscheduled.symm))
        settled := fun _ ht => absurd ht hopen }
    · rw [hput]
      exact {
        numbered := h.numbered
        ordered := by
          rw [List.map_append, List.map_append, ← List.append_assoc]
          exact h.ordered.append (List.Sublist.refl _)
        accounted := by
          have := h.accounted
          rw [List.length_append, List.length_append, this]
          change _ = w.observed.length + _ + _
          simp only [List.length_singleton]
          omega
        announced := h.announced
        reported_le := h.reported_le
        notice := h.notice
        length_le := by
          rw [List.length_append]
          exact hlength
        sized := fun item hitem => by
          rcases List.mem_append.mp hitem with hitem | hitem
          · exact h.sized item hitem
          · rw [List.mem_singleton.mp hitem]
            exact hsize
        bytes_eq := by
          rw [List.map_append, List.sum_append, h.bytes_eq]
          rfl
        bytes_le := hbytes
        terminal := fun t ht => absurd (Option.isSome_of_eq_some ht) hopen
        unfinished := h.unfinished
        finished := fun hd => absurd hd hdelivered
        scheduled := hscheduled
        awake := fun _ _ => .inr (.inl (lt_of_lt_of_eq Nat.one_pos hscheduled.symm))
        settled := fun _ ht => absurd ht hopen }

/-- A read that returns without an event. -/
theorem returns (h : Lossless F w) (read : Read) (hread : read.delivered? = none) :
    Lossless F { w with reader := .idle, reads := w.reads ++ [read] } := by
  have hdelivered : { w with reader := .idle, reads := w.reads ++ [read] }.delivered =
      w.delivered := by
    unfold delivered
    rw [List.filterMap_append, List.filterMap_cons_none hread, List.filterMap_nil, List.append_nil]
  have hobserved : { w with reader := .idle, reads := w.reads ++ [read] }.observed = w.observed :=
    congrArg observedIn hdelivered
  have hannounced : { w with reader := .idle, reads := w.reads ++ [read] }.announced =
      w.announced := congrArg announcedIn hdelivered
  exact {
    numbered := hdelivered ▸ h.numbered
    ordered := hobserved ▸ h.ordered
    accounted := hobserved ▸ h.accounted
    announced := hannounced ▸ h.announced
    reported_le := h.reported_le
    notice := hdelivered ▸ h.notice
    length_le := h.length_le
    sized := h.sized
    bytes_eq := h.bytes_eq
    bytes_le := h.bytes_le
    terminal := h.terminal
    unfinished := hdelivered ▸ h.unfinished
    finished := by
      rw [hdelivered, hannounced]
      exact h.finished
    scheduled := h.scheduled
    awake := fun hr => by cases hr
    settled := fun hr => by cases hr }

theorem numbered_deliver (h : Lossless F w) {s : EventStream}
    (hsequence : s.sequence = w.stream.sequence) (origin : Origin) (event : LiveEvent) :
    (w.deliver s origin event).delivered.map (fun item => item.2.deliverySequence) =
      List.range' 1 (s.sequence + 1) := by
  rw [delivered_deliver, List.map_append, h.numbered, hsequence, List.range'_concat, Nat.one_mul,
    Nat.add_comm 1]
  rfl

theorem deliver_queue (h : Lossless F w) {event : LiveEvent} {size : ℕ}
    {queue : List (LiveEvent × ℕ)} (hqueue : w.stream.queue = (event, size) :: queue) :
    Lossless F (w.deliver { w.stream with
      queue := queue, bytes := w.stream.bytes - size } .queue event) := by
  have hordered := h.ordered
  have haccounted := h.accounted
  have hlength := h.length_le
  have hbytes := h.bytes_eq
  rw [hqueue] at hordered haccounted hlength hbytes
  rw [List.map_cons, List.sum_cons] at hbytes
  exact {
    numbered := h.numbered_deliver rfl _ _
    ordered := by
      rw [observed, delivered_deliver, observedIn_concat, if_pos rfl, List.append_assoc]
      exact hordered
    accounted := by
      rw [observed, delivered_deliver, observedIn_concat, if_pos rfl, List.length_append]
      change w.puts.length = w.observed.length + 1 + queue.length + w.stream.dropped
      rw [List.length_cons] at haccounted
      omega
    announced := by
      rw [World.announced, delivered_deliver, announcedIn_concat]
      exact h.announced
    reported_le := h.reported_le
    notice := fun e he => by
      rw [delivered_deliver] at he
      exact h.notice e (by simpa using he)
    length_le := Nat.le_of_succ_le hlength
    sized := fun item hitem => h.sized item (hqueue ▸ List.mem_cons_of_mem _ hitem)
    bytes_eq := Nat.sub_eq_of_eq_add (hbytes.trans (Nat.add_comm _ _))
    bytes_le := Nat.le_trans (Nat.sub_le _ _) h.bytes_le
    terminal := h.terminal
    unfinished := fun hopen e he => by
      rw [delivered_deliver] at he
      exact h.unfinished hopen e (by simpa using he)
    finished := fun hclosed => by
      have hempty := (h.finished hclosed).1
      rw [hqueue] at hempty
      cases hempty
    scheduled := h.scheduled
    awake := fun hr => by cases hr
    settled := fun hr => by cases hr }

theorem deliver_bridge (h : Lossless F w)
    (hlost : w.stream.reportedDropped ≠ w.stream.dropped) :
    Lossless F (w.deliver { w.stream with reportedDropped := w.stream.dropped } .bridge
      (makeDeliveryGapEvent "consumer_bridge" (w.stream.dropped - w.stream.reportedDropped) 0
        w.stream.identity)) where
  numbered := h.numbered_deliver rfl _ _
  ordered := by
    rw [observed, delivered_deliver, observedIn_concat, if_neg (by decide), List.append_nil]
    exact h.ordered
  accounted := by
    rw [observed, delivered_deliver, observedIn_concat, if_neg (by decide), List.append_nil]
    exact h.accounted
  announced := by
    have hle := h.reported_le
    have hannounced := h.announced
    rw [World.announced, delivered_deliver, announcedIn_concat, if_pos rfl]
    change w.announced + (w.stream.dropped - w.stream.reportedDropped) = w.stream.dropped
    omega
  reported_le := Nat.le_refl _
  notice := fun e he => by
    rw [delivered_deliver] at he
    rcases List.mem_append.mp he with he | he
    · exact h.notice e he
    · obtain ⟨-, rfl⟩ := Prod.mk.inj (List.mem_singleton.mp he)
      exact ⟨_, Nat.sub_pos_of_lt (lt_of_le_of_ne h.reported_le hlost), rfl⟩
  length_le := h.length_le
  sized := h.sized
  bytes_eq := h.bytes_eq
  bytes_le := h.bytes_le
  terminal := h.terminal
  unfinished := fun hopen e he => by
    rw [delivered_deliver] at he
    exact h.unfinished hopen e (by simpa using he)
  finished := fun hclosed => absurd (h.finished hclosed).2.1 hlost
  scheduled := h.scheduled
  awake := fun hr => by cases hr
  settled := fun hr => by cases hr

theorem deliver_terminal (h : Lossless F w) (hqueue : w.stream.queue = [])
    (hlost : w.stream.reportedDropped = w.stream.dropped) {terminal : LiveEvent}
    (hterminal : w.stream.terminal = some terminal) (hopen : w.stream.terminalDelivered = false) :
    Lossless F (w.deliver { w.stream with terminalDelivered := true } .terminal terminal) where
  numbered := h.numbered_deliver rfl _ _
  ordered := by
    rw [observed, delivered_deliver, observedIn_concat, if_neg (by decide), List.append_nil]
    exact h.ordered
  accounted := by
    rw [observed, delivered_deliver, observedIn_concat, if_neg (by decide), List.append_nil]
    exact h.accounted
  announced := by
    rw [World.announced, delivered_deliver, announcedIn_concat]
    exact h.announced
  reported_le := h.reported_le
  notice := fun e he => by
    rw [delivered_deliver] at he
    exact h.notice e (by simpa using he)
  length_le := h.length_le
  sized := h.sized
  bytes_eq := h.bytes_eq
  bytes_le := h.bytes_le
  terminal := h.terminal
  unfinished := fun hd => by cases hd
  finished := fun _ => by
    obtain ⟨p, hpayload, hdropped⟩ := h.terminal terminal hterminal
    refine ⟨hqueue, hlost, Option.isSome_of_eq_some hterminal, w.delivered, _, p,
      delivered_deliver _ _ _ _, ?_, hpayload, ?_⟩
    · rintro ⟨origin, e⟩ hitem rfl
      exact h.unfinished hopen e hitem
    · rw [World.announced, delivered_deliver, announcedIn_concat]
      exact hdropped.trans (hlost.symm.trans h.announced.symm)
  scheduled := h.scheduled
  awake := fun hr => by cases hr
  settled := fun hr => by cases hr

/-- A pass of the loop delivers the next event, ends the iteration, or finds nothing to read. -/
theorem advance (h : Lossless F w) : Lossless F w.advance := by
  unfold World.advance
  rcases w.stream.poll_cases with ⟨event, size, queue, hqueue, hpoll⟩ | ⟨hqueue, hlost, hpoll⟩ |
    ⟨hqueue, hlost, terminal, hterminal, hopen, hpoll⟩ | ⟨hterminal, hclosed, hpoll⟩ | ⟨hread, hpoll⟩
  · rw [hpoll]
    exact h.deliver_queue hqueue
  · rw [hpoll]
    exact h.deliver_bridge hlost
  · rw [hpoll]
    exact h.deliver_terminal hqueue hlost hterminal hopen
  · rw [hpoll]
    exact h.returns .ended rfl
  · rw [hpoll]
    exact {
      h with
      awake := fun _ hreadable => absurd hreadable hread
      settled := fun _ hsome => absurd (.inr (.inr hsome)) hread }

/-- The settlement records what was dropped, and nothing is put behind it. -/
theorem settle (h : Lossless F w) (settlement : Settlement) :
    Lossless F { w with stream := w.stream.settled settlement } := by
  unfold EventStream.settled
  cases hterminal : w.stream.terminal with
  | some terminal => exact h
  | none =>
    exact {
      h with
      terminal := fun event hevent => by
        rw [← Option.some.inj hevent]
        exact ⟨_, rfl, rfl⟩
      finished := fun hclosed => by
        have hsome := (h.finished hclosed).2.2.1
        rw [hterminal] at hsome
        cases hsome
      awake := fun _ _ => .inl rfl
      settled := fun _ _ => rfl }

theorem beginWake (h : Lossless F w) (hscheduled : w.scheduled ≠ 0) :
    Lossless F { w with
      stream := { w.stream with wakePending := false }
      scheduled := w.scheduled - 1
      waking := true } where
  __ := h
  scheduled := by
    have hpending := h.scheduled
    split at hpending
    · exact congrArg (· - 1) hpending
    · exact absurd hpending hscheduled
  awake _ _ := .inr (.inr rfl)

theorem endWake (h : Lossless F w) :
    Lossless F { w with
      stream := { w.stream with available := true }
      waking := false } where
  __ := h
  awake _ _ := .inl rfl
  settled _ _ := rfl

theorem loopStep (h : Lossless F w) (action : LoopAction) : Lossless F (w.loopStep action) := by
  cases action with
  | beginWake =>
    unfold World.loopStep
    dsimp only
    split
    · exact h
    · next hscheduled => exact h.beginWake hscheduled
  | settle settlement => exact h.settle settlement
  | read task =>
    unfold World.loopStep
    dsimp only
    split
    · exact h
    · exact advance { h with }
  | resume =>
    unfold World.loopStep
    dsimp only
    split
    · exact h.advance
    · exact h
  | cancel =>
    unfold World.loopStep
    dsimp only
    split
    · exact {
        h with
        awake := fun hr => by cases hr
        settled := fun hr => by cases hr }
    · exact h
  | close =>
    unfold World.loopStep
    dsimp only
    split
    · exact h.returns .cancelled rfl
    · exact h

theorem step (h : Lossless F w) (action : StreamAction) : Lossless F (w.step F action) := by
  cases action with
  | put event => exact h.put event
  | endWake =>
    unfold World.step
    dsimp only
    split
    · exact h.endWake
    · exact h
  | loop action =>
    unfold World.step
    dsimp only
    split
    · exact h
    · exact h.loopStep action

theorem run (h : Lossless F w) (actions : List StreamAction) : Lossless F (w.run F actions) := by
  unfold World.run
  induction actions generalizing w with
  | nil => exact h
  | cons action actions ih => exact ih (h.step action)

end Lossless

/-! ## Behind the settlement -/

/-- An event without its delivery number. -/
def unnumbered (item : Origin × LiveEvent) : Origin × LiveEvent := (item.1, item.2.withSequence 0)

/-- What a settled stream still delivers: the queue, the notice of what was dropped meanwhile, and
the terminal. -/
def owed (w : World) : List (Origin × LiveEvent) :=
  (w.stream.queue.map fun item => unnumbered (.queue, item.1)) ++
    (if w.stream.reportedDropped ≠ w.stream.dropped then
      [(.bridge, makeDeliveryGapEvent "consumer_bridge"
        (w.stream.dropped - w.stream.reportedDropped) 0 w.stream.identity)]
    else []) ++
    match w.stream.terminal with
    | some terminal =>
      if w.stream.terminalDelivered then [] else [unnumbered (.terminal, terminal)]
    | none => []

/-- From `w` to `w'` one read took the next event that is owed, or ended. -/
def Serves (w w' : World) : Prop :=
  match w.owed with
  | [] => w'.owed = [] ∧ w'.reads = w.reads ++ [.ended]
  | (origin, event) :: rest =>
    w'.owed = rest ∧
      w'.reads = w.reads ++ [.event origin (event.withSequence (w.stream.sequence + 1))]

theorem serves_advance {F : Faults Exc} {w : World} (h : Lossless F w)
    (hsettled : w.stream.terminal.isSome) : w.Serves w.advance := by
  unfold World.advance
  rcases w.stream.poll_cases with ⟨event, size, queue, hqueue, hpoll⟩ | ⟨hqueue, hlost, hpoll⟩ |
    ⟨hqueue, hlost, terminal, hterminal, hopen, hpoll⟩ | ⟨-, hclosed, hpoll⟩ | ⟨hread, hpoll⟩
  · have howed : w.owed = unnumbered (.queue, event) ::
        (w.deliver { w.stream with queue := queue, bytes := w.stream.bytes - size } .queue
          event).owed := by
      unfold owed
      rw [hqueue]
      rfl
    rw [hpoll, Serves, howed]
    exact ⟨rfl, rfl⟩
  · have howed : w.owed = (.bridge, makeDeliveryGapEvent "consumer_bridge"
          (w.stream.dropped - w.stream.reportedDropped) 0 w.stream.identity) ::
        (w.deliver { w.stream with reportedDropped := w.stream.dropped } .bridge
          (makeDeliveryGapEvent "consumer_bridge"
            (w.stream.dropped - w.stream.reportedDropped) 0 w.stream.identity)).owed := by
      unfold owed deliver
      rw [hqueue, if_pos hlost, if_neg (not_not.mpr rfl)]
      rfl
    rw [hpoll, Serves, howed]
    exact ⟨rfl, rfl⟩
  · have howed : w.owed = [unnumbered (.terminal, terminal)] := by
      unfold owed
      rw [hqueue, if_neg (not_not.mpr hlost), hterminal, hopen]
      rfl
    have hrest : (w.deliver { w.stream with terminalDelivered := true } .terminal
        terminal).owed = [] := by
      unfold owed deliver
      dsimp only
      rw [hqueue, if_neg (not_not.mpr hlost), hterminal]
      rfl
    rw [hpoll, Serves, howed]
    exact ⟨hrest, rfl⟩
  · have howed : w.owed = [] := by
      obtain ⟨hqueue, hlost, -⟩ := h.finished hclosed
      unfold owed
      rw [hqueue, if_neg (not_not.mpr hlost), hclosed]
      cases w.stream.terminal <;> rfl
    rw [hpoll, Serves, howed]
    exact ⟨howed, rfl⟩
  · exact absurd (.inr (.inr hsettled)) hread

theorem owed_eq_nil {F : Faults Exc} {w : World} (h : Lossless F w)
    (hsettled : w.stream.terminal.isSome) : w.owed = [] ↔ w.stream.terminalDelivered = true := by
  constructor
  · intro howed
    by_contra hopen
    obtain ⟨terminal, hterminal⟩ := Option.isSome_iff_exists.mp hsettled
    unfold owed at howed
    rw [hterminal, List.append_eq_nil_iff] at howed
    have hlast := howed.2
    dsimp only at hlast
    rw [if_neg hopen] at hlast
    cases hlast
  · intro hclosed
    obtain ⟨hqueue, hlost, -⟩ := h.finished hclosed
    unfold owed
    rw [hqueue, if_neg (not_not.mpr hlost), hclosed]
    cases w.stream.terminal <;> rfl

/-- What happens on the way from `w` to `w'` is that some of what is owed is delivered. -/
structure Pays (w w' : World) : Prop where
  settled : w'.stream.terminal.isSome
  paid : ∃ taken, w'.delivered.map unnumbered = w.delivered.map unnumbered ++ taken ∧
    w.owed = taken ++ w'.owed

namespace Pays

theorem refl {w : World} (hsettled : w.stream.terminal.isSome) : w.Pays w :=
  ⟨hsettled, [], (List.append_nil _).symm, rfl⟩

theorem trans {w w' w'' : World} (h : w.Pays w') (h' : w'.Pays w'') : w.Pays w'' := by
  obtain ⟨-, taken, hdelivered, howed⟩ := h
  obtain ⟨hsettled, taken', hdelivered', howed'⟩ := h'
  refine ⟨hsettled, taken ++ taken', ?_, ?_⟩
  · rw [hdelivered', hdelivered, List.append_assoc]
  · rw [howed, howed', List.append_assoc]

end Pays

theorem unnumbered_of_mem_owed {w : World} {item : Origin × LiveEvent} (h : item ∈ w.owed) :
    unnumbered item = item := by
  unfold owed at h
  rcases List.mem_append.mp h with h | h
  · rcases List.mem_append.mp h with h | h
    · obtain ⟨_, -, rfl⟩ := List.mem_map.mp h
      rfl
    · split at h
      · rw [List.mem_singleton.mp h]
        rfl
      · cases h
  · split at h
    · split at h
      · cases h
      · rw [List.mem_singleton.mp h]
        rfl
    · cases h

theorem Serves.pays {w w' : World} (h : w.Serves w') (hsettled : w'.stream.terminal.isSome) :
    w.Pays w' := by
  unfold Serves at h
  refine ⟨hsettled, ?_⟩
  split at h
  · next howed =>
    refine ⟨[], ?_, ?_⟩
    · rw [delivered, h.2, List.filterMap_append, List.map_append]
      rfl
    · rw [howed, h.1]
      rfl
  · next origin event rest howed =>
    refine ⟨[(origin, event)], ?_, ?_⟩
    · rw [delivered, h.2, List.filterMap_append, List.map_append]
      have hevent : unnumbered (origin, event) = (origin, event) :=
        unnumbered_of_mem_owed (howed ▸ List.mem_cons_self)
      exact congrArg (_ ++ [·]) hevent
    · rw [howed, h.1]
      rfl

theorem terminal_advance (w : World) : w.advance.stream.terminal = w.stream.terminal := by
  unfold World.advance
  rcases w.stream.poll_cases with ⟨event, size, queue, hqueue, hpoll⟩ | ⟨hqueue, hlost, hpoll⟩ |
    ⟨hqueue, hlost, terminal, hterminal, hopen, hpoll⟩ | ⟨-, hclosed, hpoll⟩ | ⟨hread, hpoll⟩ <;>
    rw [hpoll]

theorem pays_advance {F : Faults Exc} {w : World} (h : Lossless F w)
    (hsettled : w.stream.terminal.isSome) : w.Pays w.advance :=
  (serves_advance h hsettled).pays (by rw [terminal_advance]; exact hsettled)

theorem pays_loopStep {F : Faults Exc} {w : World} (h : Lossless F w)
    (hsettled : w.stream.terminal.isSome) (action : LoopAction) : w.Pays (w.loopStep action) := by
  obtain ⟨terminal, hterminal⟩ := Option.isSome_iff_exists.mp hsettled
  cases action with
  | beginWake =>
    unfold loopStep
    dsimp only
    split
    · exact Pays.refl hsettled
    · exact ⟨hsettled, [], (List.append_nil _).symm, rfl⟩
  | settle settlement =>
    have hsame : w.stream.settled settlement = w.stream := by
      unfold EventStream.settled
      rw [hterminal]
    change w.Pays { w with stream := w.stream.settled settlement }
    rw [hsame]
    exact Pays.refl hsettled
  | read task =>
    unfold loopStep
    dsimp only
    split
    · exact Pays.refl hsettled
    · have hpays := @pays_advance F { w with consumer := some task } { h with } hsettled
      exact ⟨hpays.settled, hpays.paid⟩
  | resume =>
    unfold loopStep
    dsimp only
    split
    · exact pays_advance h hsettled
    · exact Pays.refl hsettled
  | cancel =>
    unfold loopStep
    dsimp only
    split
    · exact ⟨hsettled, [], (List.append_nil _).symm, rfl⟩
    · exact Pays.refl hsettled
  | close =>
    unfold loopStep
    dsimp only
    split
    · refine ⟨hsettled, [], ?_, rfl⟩
      rw [delivered, List.filterMap_append, List.map_append]
      rfl
    · exact Pays.refl hsettled

theorem pays_step {F : Faults Exc} {w : World} (h : Lossless F w)
    (hsettled : w.stream.terminal.isSome) (action : StreamAction) : w.Pays (w.step F action) := by
  cases action with
  | put event =>
    unfold step
    dsimp only
    rw [if_pos hsettled]
    exact Pays.refl hsettled
  | endWake =>
    unfold step
    dsimp only
    split
    · exact ⟨hsettled, [], (List.append_nil _).symm, rfl⟩
    · exact Pays.refl hsettled
  | loop action =>
    unfold step
    dsimp only
    split
    · exact Pays.refl hsettled
    · exact pays_loopStep h hsettled action

theorem pays_run {F : Faults Exc} {w : World} (h : Lossless F w)
    (hsettled : w.stream.terminal.isSome) (actions : List StreamAction) :
    w.Pays (w.run F actions) := by
  unfold run
  induction actions generalizing w with
  | nil => exact Pays.refl hsettled
  | cons action actions ih =>
    have hstep := pays_step h hsettled action
    exact hstep.trans (ih (h.step action) hstep.settled)

/-- How a stream ends once its owner is settled. -/
structure Drains (F : Faults Exc) (w : World) : Prop where
  /-- Whatever happens, what is owed is delivered in its order. -/
  pays : ∀ actions, w.Pays (w.run F actions)
  /-- Nothing is owed exactly behind the terminal. -/
  ends : w.owed = [] ↔ w.stream.terminalDelivered = true
  /-- The consumer's next read returns at once. -/
  reads : w.waking = false → w.reader = .idle → ∀ task, w.consumer.getD task = task →
    w.Serves (w.step F (.loop (.read task)))
  /-- A read that already waits returns as well. -/
  resumes : w.waking = false → w.reader = .waiting → w.Serves (w.step F (.loop .resume))

end World

open World

/-- For every interleaving of puts, wakes, reads and the settlement, every put is delivered once and
in order, still queued or announced as lost, the terminal comes last, and no wakeup is lost. -/
theorem event_stream_lossless (F : Faults Exc) (actions : List StreamAction) :
    let w := World.run F {} actions
    Lossless F w ∧ (w.stream.terminal.isSome → Drains F w) := by
  intro w
  have h : Lossless F w := Lossless.empty.run actions
  refine ⟨h, fun hsettled => ⟨pays_run h hsettled, owed_eq_nil h hsettled, ?_, ?_⟩⟩
  · intro hwaking hreader task htask
    have hstep : w.step F (.loop (.read task)) = { w with consumer := some task }.advance := by
      unfold step loopStep
      dsimp only
      rw [if_neg (by rw [hwaking]; exact Bool.false_ne_true), if_neg]
      exact fun hrefused => hrefused.elim (· htask) (· hreader)
    rw [hstep]
    exact @serves_advance F { w with consumer := some task } { h with } hsettled
  · intro hwaking hreader
    have hstep : w.step F (.loop .resume) = w.advance := by
      unfold step loopStep
      dsimp only
      rw [if_neg (by rw [hwaking]; exact Bool.false_ne_true),
        if_pos ⟨hreader, h.settled hreader hsettled⟩]
    rw [hstep]
    exact serves_advance h hsettled

end Iperf3Lib
