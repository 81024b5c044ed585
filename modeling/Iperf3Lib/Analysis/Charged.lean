import Iperf3Lib.Analysis.Intervals

/-!
# Every interval is charged once

What an interval counts as does not need the loop: a selected interval is omitted, excluded for its
unknown omission, usable or not usable. One pass adds exactly that (`pass_charges`), so that the
counters of the loop are the numbers of intervals of each kind (`tally_charged`).
-/

namespace Iperf3Lib.Analysis

open Py

/-! ## What an interval counts as -/

/-- What a selected interval is charged to. -/
inductive Charge where
  | omitted
  | excluded
  | missing
  | included
deriving DecidableEq, Repr

/-- A finite number, if the field holds one. -/
def reads (value : PyVal) : Option Finite64 := (number [] true value).toOption

/-- The recorded duration, or the width of the interval where the policy takes that. -/
def durationOf (policy : IntervalPolicy) (interval : IntervalStats) (start stop : Finite64) :
    Option Finite64 :=
  if isNone interval.durationSeconds = true ∧ policy.deriveDurationFromBounds = true then
    reads (.float ((PyFloat.finite stop).sub (.finite start)))
  else reads interval.durationSeconds

/-- A positive duration, in agreement with the bounds. -/
def agrees (policy : IntervalPolicy) (start stop duration : Finite64) : Bool :=
  duration.m ≠ 0 &&
    (PyFloat.finite duration).isclose ((PyFloat.finite stop).sub (.finite start))
      (floatOfDecimal false 1 (-9)) (.finite policy.tolerance)

/-- The interval establishes its population and supplies measured time and a rate. -/
def usable (selection : Selection) (policy : IntervalPolicy) (interval : IntervalStats) : Bool :=
  selection.establishes interval &&
    match reads interval.startSeconds, reads interval.endSeconds with
    | some start, some stop =>
      start < stop && (durationOf policy interval start stop).any (agrees policy start stop) &&
        (!isNone interval.bytes || !isNone interval.bitsPerSecond)
    | _, _ => false

/-- What an interval counts as, if it is selected. -/
def charge (selection : Selection) (policy : IntervalPolicy) : Item → Option Charge
  | .other => none
  | .interval interval =>
    if selection.selects interval = false then none
    else
      match interval.omitted, policy.unknownOmission with
      | .bool true, _ => some .omitted
      | .none, .exclude => some .excluded
      | _, _ => some (if usable selection policy interval then .included else .missing)

/-- The interval is selected and does not say whether it is omitted. -/
def isUnknown (selection : Selection) : Item → Bool
  | .other => false
  | .interval interval => selection.selects interval && isNone interval.omitted

/-! ## Reading -/

theorem checkNumber_true {name : PyStr} {x : Finite64} : checkNumber name true x = .ok x := by
  simp [checkNumber]

/-- A number that was read is the number that the field holds. -/
theorem reads_of_number {name : PyStr} {signed : Bool} {value : PyVal} {x : Finite64}
    (h : number name signed value = .ok x) : reads value = some x := by
  unfold number at h
  split at h
  · split at h
    · next n y hy =>
      obtain ⟨rfl, -⟩ := checkNumber_eq_ok h
      simp [reads, number, hy, checkNumber_true, Except.toOption]
    · cases h
  · obtain ⟨rfl, -⟩ := checkNumber_eq_ok h
    simp [reads, number, checkNumber_true, Except.toOption]
  · cases h
  · cases h

theorem reads_none : reads .none = none := rfl

theorem optional_eq_ok {α : Type} {read : PyVal → Except Exc α} {value : PyVal} {x : Option α}
    (h : optional read value = .ok x) :
    (isNone value = true ∧ x = none) ∨ (isNone value = false ∧ ∃ a, x = some a ∧ read value = .ok a) := by
  unfold optional at h
  split at h
  · exact .inl ⟨rfl, (Except.ok.inj h).symm⟩
  · next hvalue =>
    refine .inr ⟨?_, ?_⟩
    · cases value <;> first | rfl | exact absurd rfl hvalue
    · obtain ⟨a, ha, rfl⟩ := map_eq_ok.mp h
      exact ⟨a, rfl, ha⟩

theorem reads_of_optional {name : PyStr} {signed : Bool} {value : PyVal} {x : Option Finite64}
    (h : optional (number name signed) value = .ok x) : reads value = x := by
  rcases optional_eq_ok h with ⟨hnone, rfl⟩ | ⟨-, a, rfl, ha⟩
  · cases value <;> first | rfl | cases hnone
  · exact reads_of_number ha

theorem isNone_of_optional {α : Type} {read : PyVal → Except Exc α} {value : PyVal} {x : Option α}
    (h : optional read value = .ok x) : isNone value = x.isNone := by
  rcases optional_eq_ok h with ⟨hnone, rfl⟩ | ⟨hnone, a, rfl, -⟩
  · exact hnone
  · exact hnone

/-! ## One pass -/

/-- An interval that is not left out was found usable or not. -/
structure Judged (path : PyStr) (usable : Bool) (t : Tally) : Prop where
  selected : t.selected = 0
  omitted : t.omitted = 0
  unknown : t.unknown = 0
  missing : t.missing = if usable then 0 else 1
  paths : t.samples.map Sample.path = if usable then [path] else []
  proper : ∀ sample ∈ t.samples, sample.start < sample.stop
  bounds : ∀ bound ∈ t.bounds, bound.1 < bound.2

theorem Judged.miss {path : PyStr} {coverageUnknown : Bool} {code message : String} :
    Judged path false (miss coverageUnknown code message path) :=
  ⟨rfl, rfl, rfl, rfl, rfl, by simp [Analysis.miss], by simp [Analysis.miss]⟩

/-- Its bounds and a diagnostic do not change the judgement. -/
theorem Judged.note {path : PyStr} {usable : Bool} {t : Tally} (h : Judged path usable t)
    {start stop : Finite64} (hlt : start < stop) (diagnostics : List AnalysisDiagnostic) :
    Judged path usable (Tally.add { bounds := [(start, stop)], diagnostics } t) where
  selected := (Nat.zero_add _).trans h.selected
  omitted := (Nat.zero_add _).trans h.omitted
  unknown := (Nat.zero_add _).trans h.unknown
  missing := (Nat.zero_add _).trans h.missing
  paths := h.paths
  proper := h.proper
  bounds := List.forall_mem_cons.mpr ⟨hlt, h.bounds⟩

section Pass

variable {selection : Selection} {policy : IntervalPolicy} {interval : IntervalStats} {path : PyStr}
  {bytes : Option ℕ} {start stop duration : Finite64} {duration? start? stop? : Option Finite64}
  {t : Tally}

theorem rated_judged (h : rated interval path bytes start stop duration = .ok t)
    (hbytes : isNone interval.bytes = bytes.isNone) (hlt : start < stop) :
    Judged path (!isNone interval.bytes || !isNone interval.bitsPerSecond) t := by
  unfold rated at h
  obtain ⟨reported, hreported, h⟩ := bind_eq_ok.mp h
  rw [hbytes, isNone_of_optional hreported]
  cases bytes with
  | some count =>
    obtain ⟨rate, -, h⟩ := bind_eq_ok.mp h
    obtain rfl := Except.ok.inj h
    exact ⟨rfl, rfl, rfl, rfl, rfl, by simpa using hlt, by simp⟩
  | none =>
    cases reported with
    | some rate =>
      obtain rfl := Except.ok.inj h
      exact ⟨rfl, rfl, rfl, rfl, rfl, by simpa using hlt, by simp⟩
    | none =>
      obtain rfl := Except.ok.inj h
      exact .miss

theorem timed_judged (h : timed policy interval path bytes start stop duration? = .ok t)
    (hbytes : isNone interval.bytes = bytes.isNone) (hlt : start < stop) :
    Judged path (duration?.any (agrees policy start stop) &&
      (!isNone interval.bytes || !isNone interval.bitsPerSecond)) t := by
  cases duration? with
  | none =>
    obtain rfl := Except.ok.inj h
    exact .miss
  | some duration =>
    rw [timed] at h
    rw [Option.any_some, agrees]
    split at h
    · next hzero =>
      obtain rfl := Except.ok.inj h
      simp only [hzero, ne_eq, not_true_eq_false, decide_false, Bool.false_and]
      exact .miss
    next hzero =>
    split at h
    · next hconflict =>
      obtain rfl := Except.ok.inj h
      rw [Bool.not_eq_true'] at hconflict
      rw [hconflict, Bool.and_false, Bool.false_and]
      exact .miss
    · next hclose =>
      rw [Bool.not_eq_true', Bool.not_eq_false] at hclose
      rw [hclose, decide_eq_true hzero, Bool.true_and, Bool.true_and]
      exact rated_judged h hbytes hlt

theorem bounded_judged (h : bounded policy interval path bytes start stop duration? = .ok t)
    (hbytes : isNone interval.bytes = bytes.isNone) (hlt : start < stop)
    (hread : reads interval.durationSeconds = duration?)
    (hnone : isNone interval.durationSeconds = duration?.isNone) :
    Judged path ((durationOf policy interval start stop).any (agrees policy start stop) &&
      (!isNone interval.bytes || !isNone interval.bitsPerSecond)) t := by
  have habsent : isNone interval.durationSeconds = true ↔ duration? = none := by
    rw [hnone, Option.isNone_iff_eq_none]
  rw [bounded] at h
  rw [durationOf]
  by_cases hderive : duration? = none ∧ policy.deriveDurationFromBounds = true
  · rw [if_pos hderive] at h
    rw [if_pos ⟨habsent.mpr hderive.1, hderive.2⟩]
    obtain ⟨derived, hderived, h⟩ := bind_eq_ok.mp h
    obtain ⟨rest, hrest, h⟩ := bind_eq_ok.mp h
    obtain rfl := Except.ok.inj h
    rw [reads_of_number hderived]
    exact (timed_judged hrest hbytes hlt).note hlt _
  · rw [if_neg hderive] at h
    rw [if_neg fun hboth => hderive ⟨habsent.mp hboth.1, hboth.2⟩, hread]
    obtain ⟨rest, hrest, h⟩ := bind_eq_ok.mp h
    obtain rfl := Except.ok.inj h
    exact (timed_judged hrest hbytes hlt).note hlt _

theorem admit_judged (h : admitInterval selection policy interval path bytes duration? start? stop? = .ok t)
    (hbytes : isNone interval.bytes = bytes.isNone)
    (hread : reads interval.durationSeconds = duration?)
    (hnone : isNone interval.durationSeconds = duration?.isNone)
    (hstart : reads interval.startSeconds = start?) (hstop : reads interval.endSeconds = stop?) :
    Judged path (usable selection policy interval) t := by
  unfold admitInterval at h
  unfold usable
  rw [hstart, hstop]
  split at h
  · next hestablish =>
    obtain rfl := Except.ok.inj h
    rw [hestablish, Bool.false_and]
    exact .miss
  next hestablish =>
  rw [Bool.not_eq_false] at hestablish
  rw [hestablish, Bool.true_and]
  split at h
  · cases h
  split at h
  · next start stop =>
    try dsimp only
    split at h
    · cases h
    next hle =>
    split at h
    · next heq =>
      obtain rfl := Except.ok.inj h
      have hwidth : ¬ start < stop := by
        rw [Finite64.lt_iff, heq]
        exact lt_irrefl _
      rw [decide_eq_false hwidth, Bool.false_and, Bool.false_and]
      exact .miss
    · next hne =>
      have hlt : start < stop := by
        rw [Finite64.lt_iff] at hle ⊢
        exact lt_of_le_of_ne (not_lt.mp hle) (Ne.symm hne)
      rw [decide_eq_true hlt, Bool.true_and]
      exact bounded_judged h hbytes hlt hread hnone
  · next hbounds =>
    obtain rfl := Except.ok.inj h
    cases start? with
    | none => exact .miss
    | some start =>
      cases stop? with
      | none => exact .miss
      | some stop => exact absurd rfl (hbounds start stop rfl)

end Pass

/-- What one pass adds, given what the interval counts as. -/
structure Charges (path : PyStr) (unknown : Bool) (charge : Option Charge) (t : Tally) : Prop where
  selected : t.selected = if charge.isSome then 1 else 0
  omitted : t.omitted = if charge = some .omitted then 1 else 0
  unknown : t.unknown = if unknown then 1 else 0
  missing : t.missing = if charge = some .missing then 1 else 0
  paths : t.samples.map Sample.path = if charge = some .included then [path] else []
  proper : ∀ sample ∈ t.samples, sample.start < sample.stop
  bounds : ∀ bound ∈ t.bounds, bound.1 < bound.2

/-- The judgement of an interval that is not left out, behind the count of unknown omissions. -/
theorem Judged.charges {path : PyStr} {usable unknown : Bool} {t d : Tally} (h : Judged path usable d)
    (hselected : t.selected = d.selected + 1) (homitted : t.omitted = d.omitted)
    (hunknown : t.unknown = d.unknown + if unknown then 1 else 0) (hmissing : t.missing = d.missing)
    (hsamples : t.samples = d.samples) (hbounds : t.bounds = d.bounds) :
    Charges path unknown (some (if usable then .included else .missing)) t where
  selected := by rw [hselected, h.selected]; rfl
  omitted := by rw [homitted, h.omitted]; cases usable <;> rfl
  unknown := by rw [hunknown, h.unknown, Nat.zero_add]
  missing := by rw [hmissing, h.missing]; cases usable <;> rfl
  paths := by rw [hsamples, h.paths]; cases usable <;> rfl
  proper := by rw [hsamples]; exact h.proper
  bounds := by rw [hbounds]; exact h.bounds

/-- One pass charges the interval to what it counts as, and to nothing else. -/
theorem pass_charges {selection : Selection} {policy : IntervalPolicy} {path : PyStr} {item : Item}
    {t : Tally} (h : pass selection policy path item = .ok t) :
    Charges path (isUnknown selection item) (charge selection policy item) t := by
  cases item with
  | other => cases h
  | interval interval =>
    rw [pass] at h
    rw [charge, isUnknown]
    split at h
    · cases h
    split at h
    · next hselects =>
      obtain rfl := Except.ok.inj h
      rw [if_pos hselects, hselects]
      exact ⟨rfl, rfl, rfl, rfl, rfl, by simp, by simp⟩
    next hselects =>
    rw [if_neg hselects]
    rw [Bool.not_eq_false] at hselects
    rw [hselects, Bool.true_and]
    obtain ⟨⟨bytes, duration⟩, hmeasured, h⟩ := bind_eq_ok.mp h
    obtain ⟨-, -, h⟩ := bind_eq_ok.mp h
    obtain ⟨start, hstart, h⟩ := bind_eq_ok.mp h
    obtain ⟨stop, hstop, h⟩ := bind_eq_ok.mp h
    obtain ⟨rest, hrest, h⟩ := bind_eq_ok.mp h
    obtain rfl := Except.ok.inj h
    obtain ⟨bytes', hbytes, hmeasured⟩ := bind_eq_ok.mp hmeasured
    obtain ⟨duration', hduration, hmeasured⟩ := bind_eq_ok.mp hmeasured
    obtain ⟨-, -, hmeasured⟩ := bind_eq_ok.mp hmeasured
    obtain ⟨hpair, homitted⟩ : (bytes', duration') = (bytes, duration) ∧
        (interval.omitted = .none ∨ ∃ b, interval.omitted = .bool b) := by
      split at hmeasured
      · next hnone => exact ⟨Except.ok.inj hmeasured, .inl hnone⟩
      · next b hbool => exact ⟨Except.ok.inj hmeasured, .inr ⟨b, hbool⟩⟩
      · cases hmeasured
    obtain ⟨rfl, rfl⟩ := Prod.mk.inj hpair
    have hjudged : ∀ {d : Tally},
        admitInterval selection policy interval path bytes' duration' start stop = .ok d →
          Judged path (usable selection policy interval) d := by
      intro d hd
      exact admit_judged hd (isNone_of_optional hbytes) (reads_of_optional hduration)
        (isNone_of_optional hduration) (reads_of_optional hstart) (reads_of_optional hstop)
    unfold screened at hrest
    rcases homitted with hnone | ⟨b, hbool⟩
    · rw [hnone] at hrest ⊢
      dsimp only at hrest
      rcases hpolicy : policy.unknownOmission with _ | _
      · rw [hpolicy] at hrest
        obtain rfl := Except.ok.inj hrest
        exact ⟨rfl, rfl, rfl, rfl, rfl, by simp [Tally.add], by simp [Tally.add]⟩
      · rw [hpolicy] at hrest
        obtain ⟨d, hd, rfl⟩ := map_eq_ok.mp hrest
        exact (hjudged hd).charges (by simp [Tally.add]; omega) (by simp [Tally.add])
          (by simp [Tally.add, isNone]; omega) (by simp [Tally.add]) (by simp [Tally.add])
          (by simp [Tally.add])
    · rw [hbool] at hrest ⊢
      cases b with
      | true =>
        obtain rfl := Except.ok.inj hrest
        exact ⟨rfl, rfl, rfl, rfl, rfl, by simp [Tally.add], by simp [Tally.add]⟩
      | false =>
        exact (hjudged hrest).charges (by simp [Tally.add]; omega) (by simp [Tally.add])
          (by simp [Tally.add, isNone]) (by simp [Tally.add]) (by simp [Tally.add])
          (by simp [Tally.add])

/-! ## The loop -/

instance : Zero Tally := ⟨{}⟩

instance : Add Tally := ⟨Tally.add⟩

namespace Tally

variable (s t : Tally)

@[simp] theorem samples_add : (s + t).samples = s.samples ++ t.samples := rfl
@[simp] theorem selected_add : (s + t).selected = s.selected + t.selected := rfl
@[simp] theorem omitted_add : (s + t).omitted = s.omitted + t.omitted := rfl
@[simp] theorem unknown_add : (s + t).unknown = s.unknown + t.unknown := rfl
@[simp] theorem missing_add : (s + t).missing = s.missing + t.missing := rfl
@[simp] theorem bounds_add : (s + t).bounds = s.bounds ++ t.bounds := rfl
@[simp] theorem coverageUnknown_add :
    (s + t).coverageUnknown = (s.coverageUnknown || t.coverageUnknown) := rfl

end Tally

/-- Tallies add up. -/
instance : AddMonoid Tally where
  add_assoc a b c := by
    show Tally.add (Tally.add a b) c = Tally.add a (Tally.add b c)
    simp only [Tally.add, List.append_assoc, Nat.add_assoc, Bool.or_assoc]
  zero_add a := by
    show Tally.add {} a = a
    simp only [Tally.add, List.nil_append, Nat.zero_add, Bool.false_or]
  add_zero a := by
    show Tally.add a {} = a
    simp only [Tally.add, List.append_nil, Nat.add_zero, Bool.or_false]
  nsmul := nsmulRec

section Loop

variable {selection : Selection} {policy : IntervalPolicy}

theorem foldlM_pass_eq_ok {pairs : List (Item × ℕ)} {t₀ t : Tally} :
    pairs.foldlM (fun t item => do
        return t.add (← pass selection policy (itemPath item.2) item.1)) t₀ = .ok t ↔
      ∃ ds, List.Forall₂ (fun item d => pass selection policy (itemPath item.2) item.1 = .ok d) pairs ds ∧
        t = t₀ + ds.sum := by
  induction pairs generalizing t₀ with
  | nil =>
    simp only [List.foldlM_nil, pure, Except.pure, Except.ok.injEq, List.forall₂_nil_left_iff]
    constructor
    · rintro rfl
      exact ⟨[], rfl, (add_zero _).symm⟩
    · rintro ⟨_, rfl, rfl⟩
      exact (add_zero _).symm
  | cons item pairs ih =>
    simp only [List.foldlM_cons, bind_eq_ok, ih]
    constructor
    · rintro ⟨t₁, ⟨d, hd, h₁⟩, ds, hds, rfl⟩
      obtain rfl := Except.ok.inj h₁
      exact ⟨d :: ds, .cons hd hds, by rw [List.sum_cons, ← add_assoc]; rfl⟩
    · rintro ⟨_, hds, rfl⟩
      cases hds with
      | cons hd hds => exact ⟨_, ⟨_, hd, rfl⟩, _, hds, by rw [List.sum_cons, ← add_assoc]; rfl⟩

/-- The loop ends with the sum of what its passes add. -/
theorem tally_eq_ok {items : List Item} {t : Tally} :
    tally selection policy items = .ok t ↔
      ∃ ds, List.Forall₂ (fun item d => pass selection policy (itemPath item.2) item.1 = .ok d)
        items.zipIdx ds ∧ t = ds.sum := by
  rw [tally, foldlM_pass_eq_ok]
  refine exists_congr fun ds => and_congr_right fun _ => ?_
  exact (zero_add ds.sum).symm ▸ Iff.rfl

end Loop

/-- What the loop adds up, in terms of what the intervals count as. -/
structure Charged (selection : Selection) (policy : IntervalPolicy) (items : List (Item × ℕ))
    (t : Tally) : Prop where
  selected : t.selected = items.countP fun item => (charge selection policy item.1).isSome
  omitted : t.omitted = items.countP fun item => charge selection policy item.1 = some .omitted
  unknown : t.unknown = items.countP fun item => isUnknown selection item.1
  missing : t.missing = items.countP fun item => charge selection policy item.1 = some .missing
  paths : t.samples.map Sample.path = (items.filter fun item =>
    charge selection policy item.1 = some .included).map fun item => itemPath item.2
  proper : ∀ sample ∈ t.samples, sample.start < sample.stop
  bounds : ∀ bound ∈ t.bounds, bound.1 < bound.2

theorem Charged.of_passes {selection : Selection} {policy : IntervalPolicy} {items : List (Item × ℕ)}
    {ds : List Tally} (h : List.Forall₂
      (fun item d => pass selection policy (itemPath item.2) item.1 = .ok d) items ds) :
    Charged selection policy items ds.sum := by
  induction h with
  | nil => exact ⟨rfl, rfl, rfl, rfl, rfl, (fun _ h => nomatch h), (fun _ h => nomatch h)⟩
  | @cons item d items ds hd _ ih =>
    have hcharges := pass_charges hd
    constructor
    · rw [List.sum_cons, Tally.selected_add, hcharges.selected, ih.selected, List.countP_cons, add_comm]
    · rw [List.sum_cons, Tally.omitted_add, hcharges.omitted, ih.omitted, List.countP_cons, add_comm]
      simp only [decide_eq_true_eq]
    · rw [List.sum_cons, Tally.unknown_add, hcharges.unknown, ih.unknown, List.countP_cons, add_comm]
    · rw [List.sum_cons, Tally.missing_add, hcharges.missing, ih.missing, List.countP_cons, add_comm]
      simp only [decide_eq_true_eq]
    · rw [List.sum_cons, Tally.samples_add, List.map_append, hcharges.paths, ih.paths, List.filter_cons]
      by_cases hincluded : charge selection policy item.1 = some .included
      · simp only [hincluded, decide_true, if_true, List.map_cons, List.singleton_append]
      · simp only [hincluded, decide_false, if_false, List.nil_append, Bool.false_eq_true]
    · intro sample hsample
      rw [List.sum_cons, Tally.samples_add, List.mem_append] at hsample
      exact hsample.elim (hcharges.proper sample) (ih.proper sample)
    · intro bound hbound
      rw [List.sum_cons, Tally.bounds_add, List.mem_append] at hbound
      exact hbound.elim (hcharges.bounds bound) (ih.bounds bound)

/-- The counters of the loop are the numbers of the intervals of each kind. -/
theorem tally_charged {selection : Selection} {policy : IntervalPolicy} {items : List Item} {t : Tally}
    (h : tally selection policy items = .ok t) : Charged selection policy items.zipIdx t := by
  obtain ⟨ds, hds, rfl⟩ := tally_eq_ok.mp h
  exact .of_passes hds

/-! ## The equation of the counters -/

section Equation

variable {selection : Selection} {policy : IntervalPolicy}

/-- An unknown omission is a charge of its own exactly where unknown omissions are excluded. -/
theorem charge_eq_excluded (item : Item) : charge selection policy item = some .excluded ↔
    isUnknown selection item = true ∧ policy.unknownOmission = .exclude := by
  cases item with
  | other => simp [charge, isUnknown]
  | interval interval =>
    rw [charge, isUnknown]
    cases hselects : selection.selects interval with
    | false => simp
    | true =>
      rw [if_neg (Ne.symm Bool.false_ne_true), Bool.true_and]
      cases usable selection policy interval <;> rcases hpolicy : policy.unknownOmission with _ | _ <;>
        cases homitted : interval.omitted with
        | bool b => cases b <;> simp [isNone]
        | _ => simp [isNone]

theorem countP_charges (items : List (Item × ℕ)) :
    items.countP (fun item => (charge selection policy item.1).isSome) =
      items.countP (fun item => charge selection policy item.1 = some .included) +
        items.countP (fun item => charge selection policy item.1 = some .omitted) +
        items.countP (fun item => charge selection policy item.1 = some .missing) +
        items.countP (fun item => charge selection policy item.1 = some .excluded) := by
  induction items with
  | nil => rfl
  | cons item items ih =>
    simp only [List.countP_cons, ih]
    rcases hcharge : charge selection policy item.1 with _ | c
    · simp
    · cases c <;> simp <;> omega

theorem countP_excluded (items : List (Item × ℕ)) :
    items.countP (fun item => charge selection policy item.1 = some .excluded) =
      if policy.unknownOmission = .exclude then items.countP (fun item => isUnknown selection item.1)
      else 0 := by
  by_cases hpolicy : policy.unknownOmission = .exclude
  · rw [if_pos hpolicy]
    refine List.countP_congr fun item _ => ?_
    rw [decide_eq_true_eq, charge_eq_excluded]
    exact and_iff_left hpolicy
  · rw [if_neg hpolicy, List.countP_eq_zero]
    intro item _ hexcluded
    exact hpolicy ((charge_eq_excluded item.1).mp (of_decide_eq_true hexcluded)).2

end Equation

end Iperf3Lib.Analysis
