import Iperf3Lib.Artifacts.Tokens

/-!
# What a pointer resolves to

A path leads from `raw`, or from a namespaced key of `extensions`, by keys of objects and indices of
lists. Its pointer is the text of its tokens, so that a key of digits and an index are written alike;
`has_observed_evidence` reads a token by what it meets. On one pointer it answers whether a path with
these tokens ends in a value that is not null, on several ones it is the disjunction of the answers.
-/

namespace Iperf3Lib.Artifacts

open Py

/-! ## Indices -/

/-- Digits that begin with a zero only as the number zero are those of their value. -/
theorem toDigits_ofDigitChars {ds : List Char} (hdigits : Json.AllDigits ds) (hne : ds ≠ [])
    (hlead : ds.head? = some '0' → ds = ['0']) :
    Nat.toDigits 10 (Nat.ofDigitChars 10 ds 0) = ds := by
  induction ds using List.reverseRecOn with
  | nil => exact (hne rfl).elim
  | append_singleton ds d ih =>
    have hd : d.isDigit = true := hdigits d (by simp)
    simp only [Char.isDigit, Bool.and_eq_true, decide_eq_true_eq] at hd
    have hlow : 48 ≤ d.toNat := hd.1
    have hhigh : d.toNat ≤ 57 := hd.2
    have hzero : '0'.toNat = 48 := rfl
    have hlast : Nat.toDigits 10 (d.toNat - '0'.toNat) = [d] := by
      rw [Nat.toDigits_of_lt_base (by omega)]
      have hchar : ∀ n < 10, n.digitChar.toNat = 48 + n := by decide
      have hsame : (d.toNat - '0'.toNat).digitChar = d :=
        Char.toNat_inj.mp ((hchar _ (by omega)).trans (by omega))
      rw [hsame]
    rw [Nat.ofDigitChars_append, Nat.ofDigitChars_cons, Nat.ofDigitChars_nil]
    by_cases hds : ds = []
    · subst hds
      simpa using hlast
    · have hnozero : ds.head? ≠ some '0' := by
        intro h
        have hwhole := hlead (by rw [List.head?_append_of_ne_nil _ hds, h])
        have hlength := congrArg List.length hwhole
        rw [List.length_append, List.length_singleton, List.length_singleton] at hlength
        exact hds (List.length_eq_zero_iff.mp (by omega))
      have hrest := ih (fun c hc => hdigits c (List.mem_append_left _ hc)) hds
        fun h => (hnozero h).elim
      have hpos : 0 < Nat.ofDigitChars 10 ds 0 := by
        rcases Nat.eq_zero_or_pos (Nat.ofDigitChars 10 ds 0) with h | h
        · rw [h, Nat.toDigits_zero] at hrest
          exact (hnozero (by rw [← hrest]; rfl)).elim
        · exact h
      rw [← Nat.toDigits_append_toDigits (by norm_num) hpos (by omega), hrest, hlast]

/-- The tokens that index a list are the decimal numerals. -/
theorem isIndex_iff {token : PyStr} : isIndex token = true ↔ ∃ i, token = natText i := by
  constructor
  · intro h
    rw [isIndex, Bool.or_eq_true] at h
    rcases h with h | h
    · exact ⟨0, of_decide_eq_true h⟩
    · simp only [Bool.and_eq_true, decide_eq_true_eq] at h
      obtain ⟨⟨hne, hlead⟩, hall⟩ := h
      obtain ⟨ds, rfl, hds⟩ : ∃ ds : List Char, token = ds.map .scalar ∧ Json.AllDigits ds := by
        clear hne hlead
        induction token with
        | nil => exact ⟨[], rfl, fun c hc => absurd hc List.not_mem_nil⟩
        | cons c token ih =>
          rw [List.all_cons, Bool.and_eq_true] at hall
          obtain ⟨ds, rfl, hds⟩ := ih hall.2
          cases c with
          | surrogate n => exact absurd hall.1 Bool.false_ne_true
          | scalar c =>
            refine ⟨c :: ds, rfl, fun d hd => ?_⟩
            rcases List.mem_cons.mp hd with rfl | hd
            · exact hall.1
            · exact hds d hd
      refine ⟨Nat.ofDigitChars 10 ds 0, ?_⟩
      rw [natText, toDigits_ofDigitChars hds (by simpa using hne)]
      intro hzero
      exact (hlead (by rw [List.head?_map, hzero]; rfl)).elim
  · rintro ⟨i, rfl⟩
    have hdigits := Json.intDigits_toDigits i
    rw [isIndex, Bool.or_eq_true]
    by_cases hlead : (Nat.toDigits 10 i).head? = some '0'
    · left
      rw [natText, hdigits.lead hlead]
      rfl
    · right
      have hhead : (natText i).head? ≠ some (.scalar '0') := by
        rw [natText, List.head?_map]
        intro h
        obtain ⟨c, hc, heq⟩ := Option.map_eq_some_iff.mp h
        exact hlead (hc.trans (congrArg some (PyChar.scalar.inj heq)))
      have hall : (natText i).all isDigit = true := by
        rw [natText, List.all_map, List.all_eq_true]
        exact fun c hc => hdigits.all c hc
      have hne : natText i ≠ [] := by simp [natText]
      simp [hne, hhead, hall]

theorem natText_injective : Function.Injective natText := by
  intro i j h
  have hdigits : Nat.toDigits 10 i = Nat.toDigits 10 j :=
    List.map_injective_iff.mpr (fun _ _ => PyChar.scalar.inj) h
  have hvalue := congrArg (fun ds => Nat.ofDigitChars 10 ds 0) hdigits
  simpa only [Nat.ofDigitChars_ten_toDigits] using hvalue

/-- `int` of more digits than the interpreter converts. -/
def digitsError : Exc := ⟨.valueError, "Exceeds the limit for integer string conversion"⟩

theorem intOfDigits_natText (maxStrDigits i : ℕ) :
    intOfDigits maxStrDigits (natText i) =
      if (natText i).length ≤ maxStrDigits then .ok i else .error digitsError := by
  have hvalue : (natText i).foldl (fun n c => 10 * n + (c.ord - '0'.toNat)) 0 = i := by
    rw [natText, List.foldl_map]
    exact Nat.ofDigitChars_eq_foldl.symm.trans Nat.ofDigitChars_ten_toDigits
  rw [intOfDigits, hvalue]
  rfl

theorem lt_length_natText {digits : ℕ} (h : 0 < digits) :
    digits < (natText (10 ^ digits)).length := by
  rw [natText, List.length_map]
  by_contra hle
  rw [not_lt, Nat.length_toDigits_le_iff (by decide) h] at hle
  exact lt_irrefl _ hle

/-! ## Paths -/

/-- A step to a member of an object or to an item of a list. -/
inductive Step where
  | key (name : PyStr)
  | index (i : ℕ)
deriving DecidableEq, Repr

namespace Step

/-- `str(key)`. -/
def token : Step → PyStr
  | .key name => name
  | .index i => natText i

/-- `_child` for a key or an index. -/
def child (path : PyStr) : Step → PyStr
  | .key name => Artifacts.child path name
  | .index i => childAt path i

theorem child_eq (path : PyStr) (step : Step) : step.child path = Artifacts.child path step.token := by
  cases step <;> rfl

end Step

/-- The value at the end of a path. -/
def resolve : PyVal → List Step → Option PyVal
  | value, [] => some value
  | .dict d, .key name :: steps => (PyDict.get? d name).bind fun next => resolve next steps
  | .list xs, .index i :: steps => xs[i]?.bind fun next => resolve next steps
  | _, _ :: _ => none

theorem resolve_cons (value : PyVal) (step : Step) (steps : List Step) :
    resolve value (step :: steps) = (resolve value [step]).bind fun next => resolve next steps := by
  cases value <;> cases step <;> simp [resolve]

/-- Where evidence is found. -/
inductive Base where
  | raw
  | extension (key : PyStr) (namespaced : isNamespaced key = true)

namespace Base

/-- The field of the result. -/
def root : Base → PyStr
  | raw => PyStr.ofString "raw"
  | extension _ _ => PyStr.ofString "extensions"

/-- The value of that field. -/
def source (raw extensions : PyVal) : Base → PyVal
  | .raw => raw
  | .extension _ _ => extensions

/-- The steps from that field to where paths begin. -/
def steps : Base → List Step
  | raw => []
  | extension key _ => [.key key]

end Base

/-- A path of evidence with at least one step below its base. -/
structure EvidencePath where
  base : Base
  steps : List Step
  nonempty : steps ≠ []

namespace EvidencePath

variable {p q : EvidencePath}

/-- The tokens from the result on. -/
def tokens (p : EvidencePath) : List PyStr :=
  p.base.root :: (p.base.steps ++ p.steps).map Step.token

/-- `_child`, step by step. -/
def text (p : EvidencePath) : PyStr :=
  (p.base.steps ++ p.steps).foldl Step.child (child [] p.base.root)

/-- The value at the end of the path. -/
def find (raw extensions : PyVal) (p : EvidencePath) : Option PyVal :=
  resolve (p.base.source raw extensions) (p.base.steps ++ p.steps)

theorem text_eq (p : EvidencePath) : p.text = pointerText p.tokens := by
  have hchild : ∀ (steps : List Step) (path : PyStr),
      steps.foldl Step.child path = (steps.map Step.token).foldl child path := by
    intro steps path
    rw [List.foldl_map]
    congr 1
    funext path step
    exact step.child_eq path
  rw [text, hchild, foldl_child, tokens, pointerText_cons, child]
  rfl

/-- `_pointer` splits the pointer of a path into its tokens. -/
theorem pointer_text (p : EvidencePath) (path : PyStr) : pointer p.text path = .ok p.tokens :=
  pointer_eq_ok.mpr p.text_eq

/-- Paths have one pointer exactly when they have the same tokens. -/
theorem text_eq_iff : p.text = q.text ↔ p.tokens = q.tokens := by
  constructor
  · intro h
    have hsplit := p.pointer_text []
    rw [h, q.pointer_text []] at hsplit
    exact (Except.ok.inj hsplit).symm
  · intro h
    rw [text_eq, text_eq, h]

end EvidencePath

/-! ## The walk -/

section Walk

variable {maxStrDigits : ℕ} {value : PyVal}

/-- A token leads where a step with that token leads. -/
theorem follow_spec {token : PyStr} {next : Option PyVal}
    (h : follow maxStrDigits value token = .ok next) (u : PyVal) :
    next = some u ↔ ∃ step : Step, step.token = token ∧ resolve value [step] = some u := by
  cases value with
  | dict d =>
    obtain rfl : PyDict.get? d token = next := Except.ok.inj h
    constructor
    · intro hu
      exact ⟨.key token, rfl, by simp [resolve, hu]⟩
    · rintro ⟨step, rfl, hu⟩
      cases step with
      | key name => simpa [resolve, Step.token] using hu
      | index i => simp [resolve] at hu
  | list xs =>
    rw [follow] at h
    split at h
    · next hindex =>
      obtain ⟨i, rfl⟩ := isIndex_iff.mp hindex
      rw [intOfDigits_natText] at h
      split at h
      · obtain rfl : xs[i]? = next := Except.ok.inj h
        constructor
        · intro hu
          exact ⟨.index i, rfl, by simp [resolve, hu]⟩
        · rintro ⟨step, htoken, hu⟩
          cases step with
          | key name => simp [resolve] at hu
          | index j =>
            obtain rfl := natText_injective htoken
            simpa [resolve] using hu
      · cases h
    · next hindex =>
      obtain rfl : none = next := Except.ok.inj h
      refine iff_of_false (by simp) ?_
      rintro ⟨step, rfl, hu⟩
      cases step with
      | key name => simp [resolve] at hu
      | index i => exact hindex (isIndex_iff.mpr ⟨i, rfl⟩)
  | none | bool | int | float | str | tuple | obj =>
    obtain rfl : Option.none = next := Except.ok.inj h
    refine iff_of_false (by simp) ?_
    rintro ⟨step, -, hu⟩
    cases step <;> simp [resolve] at hu

/-- A step fails at a list, with a numeral longer than what the interpreter converts. -/
theorem follow_eq_error {token : PyStr} {e : Exc} :
    follow maxStrDigits value token = .error e ↔
      e = digitsError ∧ ∃ xs i, value = .list xs ∧ token = natText i ∧
        maxStrDigits < (natText i).length := by
  cases value with
  | list xs =>
    rw [follow]
    split
    · next hindex =>
      obtain ⟨i, rfl⟩ := isIndex_iff.mp hindex
      rw [intOfDigits_natText]
      split
      · next hshort =>
        refine iff_of_false (by intro h; cases h) ?_
        rintro ⟨-, _, j, -, htoken, hlong⟩
        obtain rfl := natText_injective htoken
        exact absurd hshort (not_le.mpr hlong)
      · next hlong =>
        constructor
        · intro h
          exact ⟨(Except.error.inj h).symm, xs, i, rfl, rfl, not_le.mp hlong⟩
        · rintro ⟨rfl, -⟩
          rfl
    · next hindex =>
      refine iff_of_false (by intro h; cases h) ?_
      rintro ⟨-, _, i, -, rfl, -⟩
      exact hindex (isIndex_iff.mpr ⟨i, rfl⟩)
  | none | bool | int | float | str | tuple | dict | obj =>
    refine iff_of_false (by intro h; cases h) ?_
    rintro ⟨-, xs, i, hlist, -⟩
    cases hlist

/-- The tokens lead where a path with these tokens leads. -/
theorem walk_spec {tokens : List PyStr} {last : Option PyVal}
    (h : walk maxStrDigits value tokens = .ok last) (u : PyVal) :
    last = some u ↔ ∃ steps : List Step, steps.map Step.token = tokens ∧ resolve value steps = some u := by
  induction tokens generalizing value with
  | nil =>
    obtain rfl : some value = last := Except.ok.inj h
    constructor
    · intro hu
      exact ⟨[], rfl, by rw [resolve, hu]⟩
    · rintro ⟨steps, hnil, hu⟩
      rw [List.map_eq_nil_iff.mp hnil, resolve] at hu
      exact hu
  | cons token tokens ih =>
    rw [walk, bind_eq_ok] at h
    obtain ⟨next, hnext, h⟩ := h
    have hfollow := follow_spec hnext
    constructor
    · intro hu
      cases next with
      | none => cases (Except.ok.inj h).trans hu
      | some n =>
        obtain ⟨step, htoken, hstep⟩ := (hfollow n).mp rfl
        obtain ⟨steps, hsteps, hrest⟩ := (ih h).mp hu
        refine ⟨step :: steps, by rw [List.map_cons, htoken, hsteps], ?_⟩
        rw [resolve_cons, hstep]
        exact hrest
    · rintro ⟨steps, hsteps, hu⟩
      cases steps with
      | nil => cases hsteps
      | cons step steps =>
        obtain ⟨htoken, hrest⟩ := List.cons.inj hsteps
        rw [resolve_cons, Option.bind_eq_some_iff] at hu
        obtain ⟨n, hstep, hu⟩ := hu
        obtain rfl := (hfollow n).mpr ⟨step, htoken, hstep⟩
        exact (ih h).mpr ⟨steps, hrest, hu⟩

/-- A list meets a numeral longer than what the interpreter converts. -/
def Overlong (maxStrDigits : ℕ) (value : PyVal) (tokens : List PyStr) : Prop :=
  ∃ (steps : List Step) (xs : List PyVal) (i : ℕ) (rest : List PyStr),
    tokens = steps.map Step.token ++ natText i :: rest ∧ resolve value steps = some (.list xs) ∧
      maxStrDigits < (natText i).length

/-- The walk fails only there. -/
theorem walk_eq_error {tokens : List PyStr} {e : Exc} :
    walk maxStrDigits value tokens = .error e ↔
      e = digitsError ∧ Overlong maxStrDigits value tokens := by
  induction tokens generalizing value with
  | nil =>
    refine iff_of_false (by intro h; cases h) ?_
    rintro ⟨-, steps, xs, i, rest, htokens, -⟩
    simp at htokens
  | cons token tokens ih =>
    rw [walk, bind_eq_error]
    constructor
    · rintro (h | ⟨next, hnext, h⟩)
      · obtain ⟨rfl, xs, i, rfl, rfl, hlong⟩ := follow_eq_error.mp h
        exact ⟨rfl, [], xs, i, tokens, rfl, rfl, hlong⟩
      · cases next with
        | none => cases h
        | some n =>
          obtain ⟨rfl, steps, xs, i, rest, htokens, hresolve, hlong⟩ := ih.mp h
          obtain ⟨step, htoken, hstep⟩ := (follow_spec hnext n).mp rfl
          refine ⟨rfl, step :: steps, xs, i, rest, ?_, ?_, hlong⟩
          · rw [List.map_cons, List.cons_append, htoken, htokens]
          · rw [resolve_cons, hstep]
            exact hresolve
    · rintro ⟨rfl, steps, xs, i, rest, htokens, hresolve, hlong⟩
      cases steps with
      | nil =>
        obtain ⟨rfl, rfl⟩ := List.cons.inj htokens
        obtain rfl : value = .list xs := Option.some.inj hresolve
        exact .inl (follow_eq_error.mpr ⟨rfl, xs, i, rfl, rfl, hlong⟩)
      | cons step steps =>
        obtain ⟨rfl, rfl⟩ := List.cons.inj htokens
        rw [resolve_cons, Option.bind_eq_some_iff] at hresolve
        obtain ⟨n, hstep, hresolve⟩ := hresolve
        cases hfollow : follow maxStrDigits value step.token with
        | error e => exact .inl (congrArg Except.error (follow_eq_error.mp hfollow).1)
        | ok next =>
          obtain rfl := (follow_spec hfollow n).mpr ⟨step, rfl, hstep⟩
          exact .inr ⟨some n, rfl, ih.mpr ⟨rfl, steps, xs, i, rest, rfl, hresolve, hlong⟩⟩

end Walk

/-- A list on the way of the path meets a numeral longer than what the interpreter converts. -/
def EvidencePath.Overlong (maxStrDigits : ℕ) (raw extensions : PyVal) (p : EvidencePath) : Prop :=
  Artifacts.Overlong maxStrDigits (p.base.source raw extensions)
    ((p.base.steps ++ p.steps).map Step.token)

/-! ## Evidence -/

/-- A pointer that begins with a slash and whose tildes all begin escapes. -/
def ValidPointer (p : PyStr) : Prop := p.head? = some (.scalar '/') ∧ hasInvalidEscape p = false

theorem validPointer_iff {p : PyStr} :
    ValidPointer p ↔ ∃ token tokens, p = pointerText (token :: tokens) := by
  constructor
  · rintro ⟨hhead, hescape⟩
    have hpointer : ∃ tokens, pointer p [] = .ok tokens := by
      simp [pointer, failIf, hhead, hescape, bind_eq_ok, pure, Except.pure]
    obtain ⟨tokens, htokens⟩ := hpointer
    rw [pointer_eq_ok] at htokens
    subst htokens
    cases tokens with
    | nil => cases hhead
    | cons token tokens => exact ⟨token, tokens, rfl⟩
  · rintro ⟨token, tokens, rfl⟩
    have hpointer : pointer (pointerText (token :: tokens)) [] = .ok (token :: tokens) :=
      pointer_eq_ok.mpr rfl
    simp only [pointer, bind_eq_ok, exists_unit, failIf_eq_ok] at hpointer
    exact ⟨rfl, Bool.not_eq_true _ ▸ hpointer.2.1⟩

section Evidence

variable {maxStrDigits : ℕ} {result raw extensions : PyVal}

/-- The body of the loop reads the tokens of a pointer. -/
theorem observed_pointerText (token : PyStr) (tokens : List PyStr) :
    observed maxStrDigits result (.str (pointerText (token :: tokens))) =
      match tokens with
      | name :: tokens =>
        if (token = PyStr.ofString "raw" ∨ token = PyStr.ofString "extensions") ∧
            (token = PyStr.ofString "extensions" → isNamespaced name = true) then do
          let value ← result.getattr token
          return (← walk maxStrDigits value (name :: tokens)).any fun v => !v.isNone
        else .ok false
      | [] => .ok false := by
  obtain ⟨hhead, hescape⟩ := validPointer_iff.mpr ⟨token, tokens, rfl⟩
  have hsplit : ((pointerText (token :: tokens)).tail.splitOn (.scalar '/')).map unescape =
      token :: tokens := by
    have hpointer : pointer (pointerText (token :: tokens)) [] = .ok (token :: tokens) :=
      pointer_eq_ok.mpr rfl
    simp only [pointer, bind_eq_ok, exists_unit, failIf_eq_ok, pure, Except.pure,
      Except.ok.injEq] at hpointer
    obtain ⟨-, -, hsplit⟩ := hpointer
    rw [pointerText_cons, if_neg (List.cons_ne_nil _ _), List.splitOn_cons_eq_if_modifyHead,
      if_pos (by simp), List.tail_cons] at hsplit
    rw [pointerText_cons, List.tail_cons]
    exact hsplit
  rw [observed, if_neg (by simp [hhead, hescape]), hsplit]
  cases tokens <;> rfl

/-- A namespaced key has a dot in it. -/
theorem natText_ne_of_isNamespaced {key : PyStr} (h : isNamespaced key = true) (i : ℕ) :
    natText i ≠ key := by
  rintro rfl
  have hdot : PyChar.scalar '.' ∉ natText i := by
    rw [natText, List.mem_map]
    rintro ⟨c, hc, heq⟩
    have hdigit := Json.allDigits_toDigits i c hc
    rw [PyChar.scalar.inj heq] at hdigit
    cases hdigit
  have hsplit : (natText i).splitOn (PyChar.scalar '.') = [natText i] := by
    have hlabels : ∀ label ∈ [natText i], PyChar.scalar '.' ∉ label := by
      intro label hlabel
      rwa [List.mem_singleton.mp hlabel]
    simpa using List.splitOn_intercalate (PyChar.scalar '.') hlabels (List.cons_ne_nil _ _)
  rw [isNamespaced, hsplit] at h
  cases h

/-- Steps with the tokens of a base are those of the base. -/
theorem exists_of_tokens {p : EvidencePath} {steps : List Step}
    (h : steps.map Step.token = (p.base.steps ++ p.steps).map Step.token) :
    ∃ below, steps = p.base.steps ++ below ∧ below.map Step.token = p.steps.map Step.token := by
  obtain ⟨base, psteps, hne⟩ := p
  cases base with
  | raw => exact ⟨steps, rfl, h⟩
  | extension key hnamespaced =>
    cases steps with
    | nil => cases h
    | cons step steps =>
      obtain ⟨htoken, hsteps⟩ := List.cons.inj h
      cases step with
      | key name =>
        obtain rfl : name = key := htoken
        exact ⟨steps, rfl, hsteps⟩
      | index i => exact (natText_ne_of_isNamespaced hnamespaced i htoken).elim

/-- Paths with the same tokens begin at the same place. -/
theorem base_eq {p q : EvidencePath} (h : q.tokens = p.tokens) : q.base = p.base := by
  have hroot : PyStr.ofString "raw" ≠ PyStr.ofString "extensions" := by
    rw [Ne, PyStr.ofString_inj]
    decide
  obtain ⟨base, steps, hne⟩ := p
  obtain ⟨base', steps', hne'⟩ := q
  obtain ⟨hfirst, hrest⟩ := List.cons.inj h
  cases base with
  | raw =>
    cases base' with
    | raw => rfl
    | extension key' _ => exact (hroot hfirst.symm).elim
  | extension key _ =>
    cases base' with
    | raw => exact (hroot hfirst).elim
    | extension key' _ =>
      obtain rfl : key' = key := (List.cons.inj hrest).1
      rfl

/-- On the pointer of a path the walk starts at the field of its base. -/
theorem observed_text (hraw : result.getattr (PyStr.ofString "raw") = .ok raw)
    (hextensions : result.getattr (PyStr.ofString "extensions") = .ok extensions)
    (p : EvidencePath) :
    observed maxStrDigits result (.str p.text) =
      (walk maxStrDigits (p.base.source raw extensions)
        ((p.base.steps ++ p.steps).map Step.token)).map fun last => last.any fun v => !v.isNone := by
  have hroot : PyStr.ofString "raw" ≠ PyStr.ofString "extensions" := by
    rw [Ne, PyStr.ofString_inj]
    decide
  obtain ⟨base, steps, hne⟩ := p
  rw [EvidencePath.text_eq, EvidencePath.tokens, observed_pointerText]
  cases base with
  | raw =>
    obtain ⟨step, steps, rfl⟩ := List.exists_cons_of_ne_nil hne
    have hadmitted : (PyStr.ofString "raw" = PyStr.ofString "raw" ∨
        PyStr.ofString "raw" = PyStr.ofString "extensions") ∧
        (PyStr.ofString "raw" = PyStr.ofString "extensions" → isNamespaced step.token = true) :=
      ⟨.inl rfl, fun h => (hroot h).elim⟩
    refine (if_pos hadmitted).trans ?_
    rw [Base.root, hraw, ok_bind]
    rfl
  | extension key hnamespaced =>
    have hadmitted : (PyStr.ofString "extensions" = PyStr.ofString "raw" ∨
        PyStr.ofString "extensions" = PyStr.ofString "extensions") ∧
        (PyStr.ofString "extensions" = PyStr.ofString "extensions" → isNamespaced key = true) :=
      ⟨.inr rfl, fun _ => hnamespaced⟩
    refine (if_pos hadmitted).trans ?_
    rw [Base.root, hextensions, ok_bind]
    rfl

/-- One valid pointer is answered, or a numeral on it is too long. -/
theorem observed_error (hraw : result.getattr (PyStr.ofString "raw") = .ok raw)
    (hextensions : result.getattr (PyStr.ofString "extensions") = .ok extensions)
    {pointer : PyStr} (hvalid : ValidPointer pointer) {e : Exc}
    (h : observed maxStrDigits result (.str pointer) = .error e) : e = digitsError := by
  obtain ⟨token, tokens, rfl⟩ := validPointer_iff.mp hvalid
  rw [observed_pointerText] at h
  cases tokens with
  | nil => cases h
  | cons name tokens =>
    dsimp only at h
    split at h
    · next hadmitted =>
      obtain ⟨value, hvalue⟩ : ∃ value, result.getattr token = .ok value := by
        rcases hadmitted.1 with rfl | rfl
        · exact ⟨raw, hraw⟩
        · exact ⟨extensions, hextensions⟩
      rw [hvalue, ok_bind, bind_eq_error] at h
      rcases h with h | ⟨last, -, h⟩
      · exact (walk_eq_error.mp h).1
      · cases h
    · cases h

/-- The loop is the disjunction of its answers. -/
theorem observedAny_eq (found : Bool) (pointers : List PyVal) :
    observedAny maxStrDigits result found pointers =
      (pointers.mapM (observed maxStrDigits result)).map fun answers => found || answers.any id := by
  induction pointers generalizing found with
  | nil =>
    rw [observedAny, List.mapM_nil]
    exact congrArg Except.ok (Bool.or_false found).symm
  | cons pointer pointers ih =>
    rw [observedAny, List.mapM_cons]
    cases observed maxStrDigits result pointer with
    | error e => rfl
    | ok here =>
      rw [ok_bind, ok_bind, ih]
      cases pointers.mapM (observed maxStrDigits result) with
      | error e => rfl
      | ok answers => exact congrArg Except.ok (Bool.or_assoc _ _ _)

theorem hasObservedEvidence_singleton (pointer : PyVal) :
    hasObservedEvidence maxStrDigits result (.list [pointer]) = observed maxStrDigits result pointer := by
  rw [hasObservedEvidence, observedAny_eq, List.mapM_cons, List.mapM_nil]
  cases observed maxStrDigits result pointer with
  | error e => rfl
  | ok here => exact congrArg Except.ok (by simp)

/-- The answer on the pointer of a path: whether some path with its tokens ends in a value. -/
theorem observed_spec (hraw : result.getattr (PyStr.ofString "raw") = .ok raw)
    (hextensions : result.getattr (PyStr.ofString "extensions") = .ok extensions)
    {p : EvidencePath} {found : Bool} (h : observed maxStrDigits result (.str p.text) = .ok found) :
    found = true ↔ ∃ q : EvidencePath, q.tokens = p.tokens ∧
      ∃ value, q.find raw extensions = some value ∧ value.isNone = false := by
  rw [observed_text hraw hextensions, map_eq_ok] at h
  obtain ⟨last, hwalk, rfl⟩ := h
  have hspec := walk_spec hwalk
  constructor
  · intro hany
    cases last with
    | none => cases hany
    | some value =>
      obtain ⟨steps, htokens, hresolve⟩ := (hspec value).mp rfl
      obtain ⟨below, rfl, hbelow⟩ := exists_of_tokens htokens
      have hne : below ≠ [] := by
        rintro rfl
        exact p.nonempty (List.map_eq_nil_iff.mp hbelow.symm)
      refine ⟨⟨p.base, below, hne⟩, congrArg (p.base.root :: ·) htokens, value, hresolve, ?_⟩
      simpa using hany
  · rintro ⟨q, htokens, value, hfind, hvalue⟩
    have hbase := base_eq htokens
    have hsteps := (List.cons.inj htokens).2
    rw [EvidencePath.find, hbase] at hfind
    rw [hbase] at hsteps
    rw [(hspec value).mpr ⟨_, hsteps, hfind⟩]
    simp [hvalue]

/-- The pointer of a path is answered, except for a list that meets a numeral that is too long. -/
theorem observed_eq_error (hraw : result.getattr (PyStr.ofString "raw") = .ok raw)
    (hextensions : result.getattr (PyStr.ofString "extensions") = .ok extensions)
    {p : EvidencePath} {e : Exc} :
    observed maxStrDigits result (.str p.text) = .error e ↔
      e = digitsError ∧ p.Overlong maxStrDigits raw extensions := by
  rw [observed_text hraw hextensions, EvidencePath.Overlong, ← walk_eq_error]
  cases walk maxStrDigits (p.base.source raw extensions)
    ((p.base.steps ++ p.steps).map Step.token) with
  | error e' =>
    constructor
    · intro h
      exact congrArg Except.error (Except.error.inj h)
    · intro h
      exact congrArg Except.error (Except.error.inj h)
  | ok last => exact iff_of_false (by intro h; cases h) (by intro h; cases h)

/-- The order of valid pointers does not matter. -/
theorem hasObservedEvidence_perm (hraw : result.getattr (PyStr.ofString "raw") = .ok raw)
    (hextensions : result.getattr (PyStr.ofString "extensions") = .ok extensions)
    {ps qs : List PyStr} (hvalid : ∀ p ∈ ps, ValidPointer p) (hperm : ps.Perm qs) :
    hasObservedEvidence maxStrDigits result (.list (ps.map .str)) =
      hasObservedEvidence maxStrDigits result (.list (qs.map .str)) := by
  have herror : ∀ rs : List PyStr, (∀ p ∈ rs, ValidPointer p) → ∀ e,
      (rs.map PyVal.str).mapM (observed maxStrDigits result) = .error e → e = digitsError := by
    intro rs hrs
    induction rs with
    | nil => exact fun e h => by cases h
    | cons r rs ih =>
      intro e h
      rw [List.map_cons, List.mapM_cons, bind_eq_error] at h
      rcases h with h | ⟨here, -, h⟩
      · exact observed_error hraw hextensions (hrs r List.mem_cons_self) h
      · rw [bind_eq_error] at h
        rcases h with h | ⟨answers, -, h⟩
        · exact ih (fun p hp => hrs p (List.mem_cons_of_mem _ hp)) e h
        · cases h
  have hmapped := hperm.map PyVal.str
  simp only [hasObservedEvidence, observedAny_eq]
  cases hps : (ps.map PyVal.str).mapM (observed maxStrDigits result) with
  | ok answers =>
    obtain ⟨answers', hqs, hanswers⟩ := mapM_perm hmapped hps
    have hany : answers.any id = answers'.any id := by
      rw [Bool.eq_iff_iff, List.any_eq_true, List.any_eq_true]
      simp only [hanswers.mem_iff]
    rw [hqs]
    exact congrArg (fun found => Except.ok (false || found)) hany
  | error e =>
    cases hqs : (qs.map PyVal.str).mapM (observed maxStrDigits result) with
    | ok answers =>
      obtain ⟨answers', hps', -⟩ := mapM_perm hmapped.symm hqs
      rw [hps] at hps'
      cases hps'
    | error e' =>
      rw [herror ps hvalid e hps, herror qs (fun q hq => hvalid q (hperm.mem_iff.mpr hq)) e' hqs]

/-- On several pointers the answer is the disjunction of the answers on each. -/
theorem hasObservedEvidence_eq_ok {pointers : List PyVal} {found : Bool} :
    hasObservedEvidence maxStrDigits result (.list pointers) = .ok found ↔
      ∃ answers, List.Forall₂ (fun pointer answer =>
        hasObservedEvidence maxStrDigits result (.list [pointer]) = .ok answer) pointers answers ∧
        found = answers.any id := by
  simp only [hasObservedEvidence_singleton]
  rw [hasObservedEvidence, observedAny_eq, map_eq_ok]
  constructor
  · rintro ⟨answers, hanswers, rfl⟩
    exact ⟨answers, mapM_eq_ok.mp hanswers, by simp⟩
  · rintro ⟨answers, hanswers, rfl⟩
    exact ⟨answers, mapM_eq_ok.mpr hanswers, by simp⟩

end Evidence

/-- Pointers are split into the tokens they were built from and lead where these tokens lead; several
ones are answered one by one. -/
theorem pointers_exact (maxStrDigits : ℕ) (result raw extensions : PyVal)
    (hraw : result.getattr (PyStr.ofString "raw") = .ok raw)
    (hextensions : result.getattr (PyStr.ofString "extensions") = .ok extensions) :
    (∀ (p : EvidencePath) (path : PyStr), pointer p.text path = .ok p.tokens) ∧
    (∀ p q : EvidencePath, p.text = q.text ↔ p.tokens = q.tokens) ∧
    (∀ p : EvidencePath, ¬ p.Overlong maxStrDigits raw extensions → ∃ found,
      hasObservedEvidence maxStrDigits result (.list [.str p.text]) = .ok found ∧
      (found = true ↔ ∃ q : EvidencePath, q.tokens = p.tokens ∧
        ∃ value, q.find raw extensions = some value ∧ value.isNone = false)) ∧
    (∀ p : EvidencePath, p.Overlong maxStrDigits raw extensions →
      hasObservedEvidence maxStrDigits result (.list [.str p.text]) = .error digitsError) ∧
    (∀ (pointers : List PyStr) (found : Bool), (∀ p ∈ pointers, ValidPointer p) →
      (hasObservedEvidence maxStrDigits result (.list (pointers.map .str)) = .ok found ↔
        ∃ answers, List.Forall₂ (fun pointer answer =>
          hasObservedEvidence maxStrDigits result (.list [.str pointer]) = .ok answer)
          pointers answers ∧ found = answers.any id)) ∧
    (∀ ps qs : List PyStr, (∀ p ∈ ps, ValidPointer p) → ps.Perm qs →
      hasObservedEvidence maxStrDigits result (.list (ps.map .str)) =
        hasObservedEvidence maxStrDigits result (.list (qs.map .str))) := by
  refine ⟨EvidencePath.pointer_text, fun p q => EvidencePath.text_eq_iff, ?_, ?_, ?_, ?_⟩
  · intro p hfine
    rw [hasObservedEvidence_singleton]
    cases hfound : observed maxStrDigits result (.str p.text) with
    | ok found => exact ⟨found, rfl, observed_spec hraw hextensions hfound⟩
    | error e => exact (hfine ((observed_eq_error hraw hextensions).mp hfound).2).elim
  · intro p hoverlong
    rw [hasObservedEvidence_singleton]
    exact (observed_eq_error hraw hextensions).mpr ⟨rfl, hoverlong⟩
  · intro pointers found _
    rw [hasObservedEvidence_eq_ok]
    simp only [List.forall₂_map_left_iff]
  · intro ps qs hvalid hperm
    exact hasObservedEvidence_perm hraw hextensions hvalid hperm

/-- A result with a list under the key `a`. -/
def listResult (items : List PyVal) : PyVal :=
  .obj "Result" [(PyStr.ofString "raw", .dict [(PyStr.ofString "a", .list items)]),
    (PyStr.ofString "extensions", .dict [])]

/-- A step to the list and one below it. -/
def belowList (step : Step) : EvidencePath :=
  ⟨.raw, [.key (PyStr.ofString "a"), step], List.cons_ne_nil _ _⟩

theorem pointers_exact_list :
    (∀ (p : EvidencePath) (path : PyStr), pointer p.text path = .ok p.tokens) ∧
    (∀ p q : EvidencePath, p.text = q.text ↔ p.tokens = q.tokens) ∧
    (∀ p : EvidencePath,
      ¬ p.Overlong 4300 (.dict [(PyStr.ofString "a", .list [.int 1])]) (.dict []) → ∃ found,
      hasObservedEvidence 4300 (listResult [.int 1]) (.list [.str p.text]) = .ok found ∧
      (found = true ↔ ∃ q : EvidencePath, q.tokens = p.tokens ∧
        ∃ value, q.find (.dict [(PyStr.ofString "a", .list [.int 1])]) (.dict []) = some value ∧
          value.isNone = false)) ∧
    (∀ p : EvidencePath,
      p.Overlong 4300 (.dict [(PyStr.ofString "a", .list [.int 1])]) (.dict []) →
      hasObservedEvidence 4300 (listResult [.int 1]) (.list [.str p.text]) = .error digitsError) ∧
    (∀ (pointers : List PyStr) (found : Bool), (∀ p ∈ pointers, ValidPointer p) →
      (hasObservedEvidence 4300 (listResult [.int 1]) (.list (pointers.map .str)) = .ok found ↔
        ∃ answers, List.Forall₂ (fun pointer answer =>
          hasObservedEvidence 4300 (listResult [.int 1]) (.list [.str pointer]) = .ok answer)
          pointers answers ∧ found = answers.any id)) ∧
    (∀ ps qs : List PyStr, (∀ p ∈ ps, ValidPointer p) → ps.Perm qs →
      hasObservedEvidence 4300 (listResult [.int 1]) (.list (ps.map .str)) =
        hasObservedEvidence 4300 (listResult [.int 1]) (.list (qs.map .str))) :=
  pointers_exact 4300 (listResult [.int 1]) _ _ rfl rfl

/-- A key `0` and the index 0 have one pointer, which is observed although there is no such key; an
index with more digits than the interpreter converts is not answered at all. -/
theorem pointers_collide :
    (belowList (.key (PyStr.ofString "0")) ≠ belowList (.index 0) ∧
      (belowList (.key (PyStr.ofString "0"))).text = (belowList (.index 0)).text) ∧
    ((belowList (.key (PyStr.ofString "0"))).find
        (.dict [(PyStr.ofString "a", .list [.int 1])]) (.dict []) = none ∧
      hasObservedEvidence 4300 (listResult [.int 1])
        (.list [.str (belowList (.key (PyStr.ofString "0"))).text]) = .ok true) ∧
    hasObservedEvidence 4300 (listResult []) (.list [.str (belowList (.index (10 ^ 4300))).text]) =
      .error digitsError := by
  refine ⟨⟨?_, rfl⟩, ⟨rfl, by decide +kernel⟩, ?_⟩
  · intro h
    cases congrArg EvidencePath.steps h
  · have hraw : (listResult []).getattr (PyStr.ofString "raw") =
        .ok (.dict [(PyStr.ofString "a", .list [])]) := rfl
    have hextensions : (listResult []).getattr (PyStr.ofString "extensions") = .ok (.dict []) := rfl
    rw [hasObservedEvidence_singleton]
    apply (observed_eq_error hraw hextensions).mpr
    exact ⟨rfl, [.key (PyStr.ofString "a")], [], 10 ^ 4300, [], rfl, rfl,
      lt_length_natText (by decide)⟩

end Iperf3Lib.Artifacts
