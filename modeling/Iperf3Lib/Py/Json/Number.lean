import Iperf3Lib.Py.Value

/-!
# JSON numbers

`int.__repr__`, `float.__repr__` and the number rule of `json.loads`. The writer and the reader meet
in `numberText`: every number the writers print has that form, and `scanNumber_numberText` says what
the reader makes of it.
-/

namespace Iperf3Lib.Py.Json

/-- The longest run of ASCII digits, and what follows it. -/
def takeDigits : PyStr → List Char × PyStr
  | .scalar c :: t =>
    if c.isDigit then (c :: (takeDigits t).1, (takeDigits t).2) else ([], .scalar c :: t)
  | t => ([], t)

/-- `0|[1-9][0-9]*`. -/
def intPart : PyStr → Option (List Char × PyStr)
  | .scalar '0' :: t => some (['0'], t)
  | t => if (takeDigits t).1 = [] then none else some (takeDigits t)

/-- `(\.[0-9]+)?`. -/
def fracPart : PyStr → List Char × PyStr
  | .scalar '.' :: t => if (takeDigits t).1 = [] then ([], .scalar '.' :: t) else takeDigits t
  | t => ([], t)

/-- `[-+]?` of an exponent. -/
def expSign : PyStr → Bool × PyStr
  | .scalar '-' :: t => (true, t)
  | .scalar '+' :: t => (false, t)
  | t => (false, t)

/-- `([eE][-+]?[0-9]+)?`: the sign and the digits. -/
def expPart : PyStr → Option (Bool × List Char) × PyStr
  | .scalar c :: t =>
    if c = 'e' ∨ c = 'E' then
      let s := expSign t
      if (takeDigits s.2).1 = [] then (none, .scalar c :: t)
      else (some (s.1, (takeDigits s.2).1), (takeDigits s.2).2)
    else (none, .scalar c :: t)
  | t => (none, t)

/-- What a number token denotes; an integer keeps its digit count for the interpreter's limit. -/
inductive Number where
  | int (n : ℤ) (digits : ℕ)
  | float (x : PyFloat)
deriving DecidableEq

/-- The value of an exponent. -/
def expVal : Option (Bool × List Char) → ℤ
  | none => 0
  | some (neg, ds) => if neg then -(Nat.ofDigitChars 10 ds 0 : ℤ) else Nat.ofDigitChars 10 ds 0

/-- `int(text)` without a fraction and an exponent, `float(text)` otherwise. -/
def numberOf (neg : Bool) (ds fs : List Char) (e : Option (Bool × List Char)) : Number :=
  if fs = [] ∧ e = none then
    .int (if neg then -(Nat.ofDigitChars 10 ds 0 : ℤ) else Nat.ofDigitChars 10 ds 0) ds.length
  else .float (floatOfDecimal neg (Nat.ofDigitChars 10 (ds ++ fs) 0) (expVal e - fs.length))

/-- `-?` of a number. -/
def minusPart : PyStr → Bool × PyStr
  | .scalar '-' :: t => (true, t)
  | t => (false, t)

/-- The number rule of the scanner. -/
def scanNumber (t : PyStr) : Option (Number × PyStr) :=
  let s := minusPart t
  match intPart s.2 with
  | none => none
  | some (ds, t) =>
    let f := fracPart t
    let e := expPart f.2
    some (numberOf s.1 ds f.1 e.1, e.2)

/-! ## Writing -/

/-- An exponent part, with its sign. -/
def expText : Option (Bool × List Char) → List Char
  | none => []
  | some (neg, es) => 'e' :: (if neg then '-' else '+') :: es

/-- A number with its parts, absent ones omitted. -/
def numberText (neg : Bool) (ds fs : List Char) (e : Option (Bool × List Char)) : List Char :=
  (if neg then ['-'] else []) ++ ds ++ (if fs = [] then [] else '.' :: fs) ++ expText e

/-- `int.__repr__`. -/
def intRepr (n : ℤ) : List Char := numberText (decide (n < 0)) (Nat.toDigits 10 n.natAbs) [] none

/-- `float.__repr__` of a finite number: the shortest digits, positional for exponents from -4 to 15
and scientific with at least two exponent digits otherwise. -/
def floatRepr (x : Finite64) : List Char :=
  let ds := Nat.toDigits 10 (shortest x).1
  let decpt := (shortest x).2 + ds.length
  if x.m = 0 then numberText x.neg ['0'] ['0'] none
  else if -4 < decpt ∧ decpt ≤ 16 then
    if decpt ≤ 0 then
      numberText x.neg ['0'] (List.replicate (-decpt).toNat '0' ++ ds) none
    else if ds.length ≤ decpt then
      numberText x.neg (ds ++ List.replicate (decpt - ds.length).toNat '0') ['0'] none
    else numberText x.neg (ds.take decpt.toNat) (ds.drop decpt.toNat) none
  else
    let es := Nat.toDigits 10 (decpt - 1).natAbs
    numberText x.neg (ds.take 1) (ds.drop 1)
      (some (decide (decpt - 1 < 0), List.replicate (2 - es.length) '0' ++ es))

/-! ## Digits -/

/-- Every character is a digit. -/
def AllDigits (ds : List Char) : Prop := ∀ c ∈ ds, c.isDigit

/-- The digits `0|[1-9][0-9]*` of an integer part. -/
structure IntDigits (ds : List Char) : Prop where
  all : AllDigits ds
  ne_nil : ds ≠ []
  lead : ds.head? = some '0' → ds = ['0']

/-- The text after a number does not continue it. -/
def Stops (t : PyStr) : Prop :=
  ∀ c t', t = .scalar c :: t' → ¬ c.isDigit ∧ c ≠ '.' ∧ c ≠ 'e' ∧ c ≠ 'E'

theorem Stops.nil : Stops [] := by intro c t' h; cases h

theorem allDigits_toDigits (n : ℕ) : AllDigits (Nat.toDigits 10 n) :=
  fun _ hc => Nat.isDigit_of_mem_toDigits (by decide) (by decide) hc

theorem AllDigits.append {a b : List Char} (ha : AllDigits a) (hb : AllDigits b) :
    AllDigits (a ++ b) := fun c hc => (List.mem_append.mp hc).elim (ha c) (hb c)

theorem allDigits_replicate_zero (n : ℕ) : AllDigits (List.replicate n '0') := by
  intro c hc
  rw [(List.mem_replicate.mp hc).2]
  rfl

theorem ofDigitChars_lt {ds : List Char} (h : AllDigits ds) :
    Nat.ofDigitChars 10 ds 0 < 10 ^ ds.length := by
  induction ds with
  | nil => simp
  | cons c ds ih =>
    have hc : c.toNat - '0'.toNat ≤ 9 := by
      have := h c List.mem_cons_self
      simp only [Char.isDigit, Bool.and_eq_true, decide_eq_true_eq] at this
      have h9 : c.toNat ≤ 57 := this.2
      have h0 : '0'.toNat = 48 := rfl
      omega
    have hds := ih fun c hc => h c (List.mem_cons_of_mem _ hc)
    rw [Nat.ofDigitChars_cons, Nat.ofDigitChars_eq_ofDigitChars_zero, List.length_cons, pow_succ]
    nlinarith

/-- The numeral of a positive number does not begin with a zero. -/
theorem head?_toDigits_ne {n : ℕ} (hn : n ≠ 0) : (Nat.toDigits 10 n).head? ≠ some '0' := by
  intro h
  cases hds : Nat.toDigits 10 n with
  | nil => simp [hds] at h
  | cons c ds =>
    rw [hds] at h
    obtain rfl : c = '0' := by simpa using h
    have hval : Nat.ofDigitChars 10 ds 0 = n := by
      have := Nat.ofDigitChars_ten_toDigits (n := n)
      rwa [hds, Nat.ofDigitChars_cons] at this
    have hlen : 0 < ds.length := by
      by_contra hlen
      have hnil : ds = [] := List.length_eq_zero_iff.mp (by omega)
      rw [hnil, Nat.ofDigitChars_nil] at hval
      exact hn hval.symm
    have hlt := ofDigitChars_lt fun c hc =>
      allDigits_toDigits n c (by rw [hds]; exact List.mem_cons_of_mem _ hc)
    rw [hval, ← Nat.length_toDigits_le_iff (by decide) hlen, hds, List.length_cons] at hlt
    omega

theorem intDigits_toDigits (n : ℕ) : IntDigits (Nat.toDigits 10 n) where
  all := allDigits_toDigits n
  ne_nil := Nat.toDigits_ne_nil
  lead h := by
    by_cases hn : n = 0
    · rw [hn]; rfl
    · exact absurd h (head?_toDigits_ne hn)

/-! ## Reading what was written -/

/-- A text that does not begin with a digit. -/
def NoDigit (t : PyStr) : Prop := ∀ c t', t = .scalar c :: t' → ¬ c.isDigit

theorem Stops.noDigit {t : PyStr} (h : Stops t) : NoDigit t := fun c t' ht => (h c t' ht).1

theorem takeDigits_of_noDigit {t : PyStr} (h : NoDigit t) : takeDigits t = ([], t) := by
  match t with
  | [] => rfl
  | .surrogate _ :: _ => rfl
  | .scalar c :: t => simp [takeDigits, h c t rfl]

/-- The reader takes a run of digits whole. -/
theorem takeDigits_append {ds : List Char} (hds : AllDigits ds) {t : PyStr} (ht : NoDigit t) :
    takeDigits (ds.map .scalar ++ t) = (ds, t) := by
  induction ds with
  | nil => exact takeDigits_of_noDigit ht
  | cons c ds ih =>
    have hc := hds c List.mem_cons_self
    have hrec := ih fun d hd => hds d (List.mem_cons_of_mem _ hd)
    simp only [List.map_cons, List.cons_append, takeDigits, hc, if_true, hrec]

theorem intPart_append {ds : List Char} (hds : IntDigits ds) {t : PyStr} (ht : NoDigit t) :
    intPart (ds.map .scalar ++ t) = some (ds, t) := by
  match ds, hds with
  | [], hds => exact absurd rfl hds.ne_nil
  | c :: ds, hds =>
    by_cases hc : c = '0'
    · subst hc
      obtain rfl : ds = [] := by simpa using hds.lead rfl
      rfl
    · have htake := takeDigits_append hds.all ht
      rw [List.map_cons, List.cons_append] at htake ⊢
      unfold intPart
      split
      · next heq => exact absurd (PyChar.scalar.inj (List.cons.inj heq).1) hc
      · rw [htake]
        simp

theorem minusPart_append {neg : Bool} {ds : List Char} (hds : IntDigits ds) (t : PyStr) :
    minusPart (((if neg then ['-'] else []) ++ ds).map .scalar ++ t) = (neg, ds.map .scalar ++ t) := by
  cases neg with
  | true => rfl
  | false =>
    match ds, hds with
    | [], hds => exact absurd rfl hds.ne_nil
    | c :: ds, hds =>
      have hc : c ≠ '-' := by
        rintro rfl
        exact absurd (hds.all '-' List.mem_cons_self) (by decide)
      simp only [Bool.false_eq_true, if_false, List.nil_append, List.map_cons, List.cons_append]
      unfold minusPart
      split
      · next heq => exact absurd (PyChar.scalar.inj (List.cons.inj heq).1) hc
      · rfl

/-- The digits of an exponent, when there is one. -/
def ExpDigits (e : Option (Bool × List Char)) : Prop := ∀ p ∈ e, AllDigits p.2 ∧ p.2 ≠ []

/-- The exponent part, or the absence of one, is read whole. -/
theorem expPart_append {e : Option (Bool × List Char)} (he : ExpDigits e) {t : PyStr}
    (ht : Stops t) : expPart ((expText e).map .scalar ++ t) = (e, t) := by
  match e, he with
  | none, _ =>
    match t, ht with
    | [], _ => rfl
    | .surrogate _ :: _, _ => rfl
    | .scalar c :: t, ht =>
      obtain ⟨-, -, h1, h2⟩ := ht c t rfl
      simp [expPart, expText, h1, h2]
  | some (neg, es), he =>
    obtain ⟨hes, hne⟩ := he (neg, es) rfl
    have hsign : expSign (.scalar (if neg then '-' else '+') :: (es.map .scalar ++ t)) =
        (neg, es.map .scalar ++ t) := by cases neg <;> rfl
    have htake := takeDigits_append hes ht.noDigit
    simp only [expText, List.map_cons, List.cons_append, expPart, true_or, if_true, hsign, htake,
      if_neg hne]

/-- The fraction part is read whole; without one nothing is taken. -/
theorem fracPart_append {fs : List Char} (hfs : AllDigits fs) {t : PyStr} (ht : NoDigit t)
    (hdot : ∀ t', t ≠ .scalar '.' :: t') :
    fracPart ((if fs = [] then [] else '.' :: fs).map .scalar ++ t) = (fs, t) := by
  by_cases h : fs = []
  · subst h
    simp only [if_true, List.map_nil, List.nil_append]
    unfold fracPart
    split
    · next t' => exact absurd rfl (hdot t')
    · rfl
  · simp only [if_neg h, List.map_cons, List.cons_append, fracPart, takeDigits_append hfs ht]

/-- The reader makes of a written number what its parts denote. -/
theorem scanNumber_numberText {neg : Bool} {ds fs : List Char} {e : Option (Bool × List Char)}
    (hds : IntDigits ds) (hfs : AllDigits fs) (he : ExpDigits e) {t : PyStr} (ht : Stops t) :
    scanNumber ((numberText neg ds fs e).map .scalar ++ t) = some (numberOf neg ds fs e, t) := by
  -- what follows the digits starts with `e` or is the end of the number
  have hstart : ∀ c t', (expText e).map PyChar.scalar ++ t = .scalar c :: t' →
      ¬ c.isDigit ∧ c ≠ '.' := by
    intro c t' h
    rcases e with _ | ⟨eneg, es'⟩
    · exact ⟨(ht c t' h).1, (ht c t' h).2.1⟩
    · obtain rfl : 'e' = c := PyChar.scalar.inj (List.cons.inj h).1
      decide
  have hfrac := fracPart_append hfs (fun c t' h => (hstart c t' h).1)
    (fun t' h => (hstart _ t' h).2 rfl)
  have hint : NoDigit ((if fs = [] then [] else '.' :: fs).map .scalar ++
      ((expText e).map .scalar ++ t)) := by
    by_cases h : fs = []
    · subst h
      exact fun c t' h => (hstart c t' h).1
    · rw [if_neg h]
      intro c t' h
      obtain rfl : '.' = c := PyChar.scalar.inj (List.cons.inj h).1
      decide
  have hform : (numberText neg ds fs e).map PyChar.scalar ++ t =
      ((if neg then ['-'] else []) ++ ds).map .scalar ++
        ((if fs = [] then [] else '.' :: fs).map .scalar ++ ((expText e).map .scalar ++ t)) := by
    simp only [numberText, List.map_append, List.append_assoc]
  rw [hform, scanNumber]
  simp only [minusPart_append hds, intPart_append hds hint, hfrac, expPart_append he ht]

/-- The parts of `repr(n)` make `n`. -/
theorem numberOf_toDigits (n : ℤ) :
    numberOf (decide (n < 0)) (Nat.toDigits 10 n.natAbs) [] none =
      .int n (Nat.toDigits 10 n.natAbs).length := by
  simp only [numberOf, and_self, if_true, decide_eq_true_eq, Nat.ofDigitChars_ten_toDigits]
  congr 2
  split <;> omega

/-- `repr(n)` is scanned back, up to what stops it. -/
theorem scanNumber_intRepr (n : ℤ) {t : PyStr} (ht : Stops t) :
    scanNumber ((intRepr n).map .scalar ++ t) =
      some (.int n (Nat.toDigits 10 n.natAbs).length, t) := by
  have hnil : AllDigits [] := fun c hc => absurd hc List.not_mem_nil
  have hnone : ExpDigits none := by simp [ExpDigits]
  rw [intRepr, scanNumber_numberText (intDigits_toDigits _) hnil hnone ht, numberOf_toDigits]

theorem intRepr_injective : Function.Injective intRepr := by
  intro m n h
  have hscan := scanNumber_intRepr m Stops.nil
  rw [h, scanNumber_intRepr n Stops.nil, Option.some.injEq, Prod.mk.injEq, Number.int.injEq] at hscan
  exact hscan.1.1.symm

/-- Parts with the value of the shortest digits make the number. -/
theorem numberOf_shortest {x : Finite64} {ds fs : List Char} {e : Option (Bool × List Char)}
    (hne : fs ≠ [] ∨ e ≠ none)
    (hval : (Nat.ofDigitChars 10 (ds ++ fs) 0 : ℚ) * (10 : ℚ) ^ (expVal e - fs.length) =
      (shortest x).1 * (10 : ℚ) ^ (shortest x).2) :
    numberOf x.neg ds fs e = .float (.finite x) := by
  rw [numberOf, if_neg (by tauto), floatOfDecimal, hval, ← floatOfDecimal_shortest x,
    floatOfDecimal]

theorem IntDigits.append {a b : List Char} (ha : AllDigits a) (hne : a ≠ [])
    (hlead : a.head? ≠ some '0') (hb : AllDigits b) : IntDigits (a ++ b) where
  all := ha.append hb
  ne_nil := by simp [hne]
  lead h := by
    rw [List.head?_append_of_ne_nil _ hne] at h
    exact absurd h hlead

/-- `repr(x)` is a number text whose parts make `x`. -/
theorem exists_floatRepr (x : Finite64) : ∃ ds fs e, IntDigits ds ∧ AllDigits fs ∧ ExpDigits e ∧
    floatRepr x = numberText x.neg ds fs e ∧ numberOf x.neg ds fs e = .float (.finite x) := by
  have hno : ExpDigits none := by simp [ExpDigits]
  have hzero : IntDigits ['0'] := ⟨by simp [AllDigits], by simp, by simp⟩
  unfold floatRepr
  by_cases hm : x.m = 0
  · have hx : roundMag x.neg 0 = .finite x := by
      rw [← roundMag_mag x, Finite64.mag_eq_zero.mpr hm]
    refine ⟨_, _, _, hzero, hzero.all, hno, if_pos hm, ?_⟩
    simp [numberOf, floatOfDecimal, Nat.ofDigitChars_cons, hx]
  rw [if_neg hm]
  set n := (shortest x).1 with hn
  set k := (shortest x).2 with hk
  set ds := Nat.toDigits 10 n with hds
  have hlead : ds.head? ≠ some '0' := head?_toDigits_ne (shortest_ne_zero hm)
  have hint := intDigits_toDigits n
  have hval : Nat.ofDigitChars 10 ds 0 = n := Nat.ofDigitChars_ten_toDigits
  rw [← hds] at hint
  have hlen : 0 < ds.length := List.length_pos_iff.mpr hint.ne_nil
  split_ifs with h1 h2 h3
  · -- `0.000ddd`
    refine ⟨_, _, _, hzero, (allDigits_replicate_zero _).append hint.all, hno, rfl,
      numberOf_shortest (.inl (by simp [hint.ne_nil])) ?_⟩
    rw [← hn, ← hk, List.singleton_append, Nat.ofDigitChars_cons, Nat.ofDigitChars_append,
      Nat.ofDigitChars_replicate_zero]
    simp only [Char.reduceToNat, Nat.sub_self, Nat.add_zero, Nat.mul_zero, hval, expVal,
      List.length_append, List.length_replicate]
    congr 2
    omega
  · -- `ddd000.0`
    have h10 : (10 : ℚ) ≠ 0 := by norm_num
    obtain ⟨j, hj⟩ := Int.eq_ofNat_of_zero_le (show 0 ≤ k by omega)
    refine ⟨_, _, _, .append hint.all hint.ne_nil hlead (allDigits_replicate_zero _), hzero.all,
      hno, rfl, numberOf_shortest (.inl (by simp)) ?_⟩
    rw [← hn, ← hk, Nat.ofDigitChars_append, Nat.ofDigitChars_append,
      Nat.ofDigitChars_replicate_zero, hval, Nat.ofDigitChars_cons, Nat.ofDigitChars_nil, hj]
    simp only [expVal, add_sub_cancel_right, Int.toNat_natCast, Nat.sub_self,
      Nat.add_zero, Nat.cast_mul, Nat.cast_pow, Nat.cast_ofNat, List.length_singleton,
      Nat.cast_one, zero_sub, zpow_natCast, zpow_neg_one]
    field_simp
  · -- `dd.ddd`
    obtain ⟨j, hj⟩ := Int.eq_ofNat_of_zero_le (show 0 ≤ k + ds.length by omega)
    have hsplit : ds.take j ++ ds.drop j = ds := List.take_append_drop j ds
    rw [hj, Int.toNat_natCast]
    rw [hj] at h2 h3
    have htake : ds.take j ≠ [] := by
      intro h
      have := congrArg List.length h
      rw [List.length_take, List.length_nil] at this
      omega
    have hhead : (ds.take j).head? ≠ some '0' := by
      rw [← hsplit, List.head?_append_of_ne_nil _ htake] at hlead
      exact hlead
    refine ⟨_, _, _, ⟨fun c hc => hint.all c (List.mem_of_mem_take hc), htake,
      fun h => absurd h hhead⟩, fun c hc => hint.all c (List.mem_of_mem_drop hc), hno, rfl,
      numberOf_shortest (.inl ?_) ?_⟩
    · intro h
      have := congrArg List.length h
      rw [List.length_drop, List.length_nil] at this
      omega
    · rw [← hn, ← hk, hsplit, hval, List.length_drop, expVal]
      congr 2
      omega
  · -- `d.ddde+XX`
    have hsplit : ds.take 1 ++ ds.drop 1 = ds := List.take_append_drop 1 ds
    have htake : ds.take 1 ≠ [] := by
      intro h
      have := congrArg List.length h
      rw [List.length_take, List.length_nil] at this
      omega
    have hhead : (ds.take 1).head? ≠ some '0' := by
      rw [← hsplit, List.head?_append_of_ne_nil _ htake] at hlead
      exact hlead
    have hexp := allDigits_toDigits (k + ds.length - 1).natAbs
    refine ⟨_, _, _, ⟨fun c hc => hint.all c (List.mem_of_mem_take hc), htake,
      fun h => absurd h hhead⟩, fun c hc => hint.all c (List.mem_of_mem_drop hc),
      by simpa [ExpDigits] using (allDigits_replicate_zero _).append hexp, rfl,
      numberOf_shortest (.inr (by simp)) ?_⟩
    rw [← hn, ← hk, hsplit, hval, List.length_drop, expVal, Nat.ofDigitChars_append,
      Nat.ofDigitChars_replicate_zero, Nat.mul_zero, Nat.ofDigitChars_ten_toDigits]
    congr 2
    rcases lt_or_ge (k + ds.length - 1) 0 with h | h
    · simp only [h, decide_true, if_true]
      omega
    · simp only [not_lt.mpr h, decide_false, Bool.false_eq_true, if_false]
      omega

end Iperf3Lib.Py.Json
