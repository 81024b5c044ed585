import Iperf3Lib.Py.Json.Text

/-!
# The JSON scanner

`json.loads` with its hooks. The scanner is structurally recursive on a fuel that `loads` sets to
twice the length of the text, enough because every two steps consume a character.

`Reads h v t` says that the scanner with hooks `h` turns the text `t` into the value `v` whatever
follows it. The rules `Reads.none`, …, `Reads.dict` compose it along the grammar, so that a writer
is shown correct by an induction over the values it writes.
-/

namespace Iperf3Lib.Py.Json

/-- The callbacks and the exceptions of a `json.loads` call. -/
structure Hooks (ε : Type) where
  /-- `JSONDecodeError`. -/
  malformed : ε
  /-- `parse_constant`, for `NaN`, `Infinity` and `-Infinity`. -/
  constant : String → Except ε PyVal
  /-- `parse_float`, given the number its text denotes. -/
  float : PyFloat → Except ε PyVal
  /-- `int(text)`, given the number and its digit count. -/
  int : ℤ → ℕ → Except ε PyVal
  /-- `object_pairs_hook`. -/
  pairs : List (PyStr × PyVal) → Except ε PyVal

/-- `int(text)` or `parse_float`, by the kind of the number. -/
def Hooks.number {ε : Type} (h : Hooks ε) : Number → Except ε PyVal
  | .int n digits => h.int n digits
  | .float x => h.float x

/-- JSON white space. -/
def isWs : PyChar → Bool
  | .scalar c => c = ' ' || c = '\t' || c = '\n' || c = '\r'
  | .surrogate _ => false

/-- Skip white space. -/
def skipWs (t : PyStr) : PyStr := t.dropWhile isWs

/-- The text after a literal. -/
def dropPrefix? : List Char → PyStr → Option PyStr
  | [], t => some t
  | c :: cs, d :: t => if d = .scalar c then dropPrefix? cs t else none
  | _ :: _, [] => none

variable {ε : Type}

/-- The literals, the constants and the numbers. -/
def scanAtom (h : Hooks ε) (t : PyStr) : Except ε (PyVal × PyStr) :=
  match dropPrefix? "null".toList t with
  | some t => .ok (.none, t)
  | none =>
  match dropPrefix? "true".toList t with
  | some t => .ok (.bool true, t)
  | none =>
  match dropPrefix? "false".toList t with
  | some t => .ok (.bool false, t)
  | none =>
  match dropPrefix? "NaN".toList t with
  | some t => (h.constant "NaN").map (·, t)
  | none =>
  match dropPrefix? "Infinity".toList t with
  | some t => (h.constant "Infinity").map (·, t)
  | none =>
  match dropPrefix? "-Infinity".toList t with
  | some t => (h.constant "-Infinity").map (·, t)
  | none =>
  match scanNumber t with
  | some (n, t) => (h.number n).map (·, t)
  | none => .error h.malformed

mutual

/-- `scan_once`: one value, and the text after it. -/
def scanOnce (h : Hooks ε) : ℕ → PyStr → Except ε (PyVal × PyStr)
  | 0, _ => .error h.malformed
  | fuel + 1, t =>
    match t with
    | .scalar '"' :: t =>
      match scanString t with
      | some (s, t) => .ok (.str s, t)
      | none => .error h.malformed
    | .scalar '{' :: t =>
      match skipWs t with
      | .scalar '}' :: t => (h.pairs []).map (·, t)
      | t =>
        match scanPairs h fuel t with
        | .ok (kvs, t) => (h.pairs kvs).map (·, t)
        | .error e => .error e
    | .scalar '[' :: t =>
      match skipWs t with
      | .scalar ']' :: t => .ok (.list [], t)
      | t =>
        match scanItems h fuel t with
        | .ok (xs, t) => .ok (.list xs, t)
        | .error e => .error e
    | t => scanAtom h t

/-- The items of an array up to its closing bracket. -/
def scanItems (h : Hooks ε) : ℕ → PyStr → Except ε (List PyVal × PyStr)
  | 0, _ => .error h.malformed
  | fuel + 1, t =>
    match scanOnce h fuel t with
    | .error e => .error e
    | .ok (v, t) =>
      match skipWs t with
      | .scalar ']' :: t => .ok ([v], t)
      | .scalar ',' :: t =>
        match scanItems h fuel (skipWs t) with
        | .ok (vs, t) => .ok (v :: vs, t)
        | .error e => .error e
      | _ => .error h.malformed

/-- The members of an object up to its closing brace. -/
def scanPairs (h : Hooks ε) : ℕ → PyStr → Except ε (List (PyStr × PyVal) × PyStr)
  | 0, _ => .error h.malformed
  | fuel + 1, t =>
    match t with
    | .scalar '"' :: t =>
      match scanString t with
      | none => .error h.malformed
      | some (k, t) =>
        match skipWs t with
        | .scalar ':' :: t =>
          match scanOnce h fuel (skipWs t) with
          | .error e => .error e
          | .ok (v, t) =>
            match skipWs t with
            | .scalar '}' :: t => .ok ([(k, v)], t)
            | .scalar ',' :: t =>
              match scanPairs h fuel (skipWs t) with
              | .ok (kvs, t) => .ok ((k, v) :: kvs, t)
              | .error e => .error e
            | _ => .error h.malformed
        | _ => .error h.malformed
    | _ => .error h.malformed

end

/-- `json.loads` of a string: no byte order mark, one value, and white space around it. -/
def loads (h : Hooks ε) (t : PyStr) : Except ε PyVal :=
  if t.head? = some (.scalar '\uFEFF') then .error h.malformed
  else
    match scanOnce h (2 * t.length) (skipWs t) with
    | .error e => .error e
    | .ok (v, r) => if (skipWs r).isEmpty then .ok v else .error h.malformed

/-! ## Composing readable texts -/

/-- White space only. -/
def Ws (w : PyStr) : Prop := ∀ c ∈ w, isWs c = true

/-- A text that begins with neither white space, a closing bracket nor a byte order mark. -/
def Begins (t : PyStr) : Prop :=
  ∃ c t', t = c :: t' ∧ isWs c = false ∧ c ≠ .scalar ']' ∧ c ≠ .scalar '}' ∧ c ≠ .scalar '\uFEFF'

theorem Ws.nil : Ws [] := by simp [Ws]

theorem Begins.append {t : PyStr} (ht : Begins t) (r : PyStr) : Begins (t ++ r) := by
  obtain ⟨c, t', rfl, h⟩ := ht
  exact ⟨c, t' ++ r, rfl, h⟩

theorem Begins.length_pos {t : PyStr} (ht : Begins t) : 0 < t.length := by
  obtain ⟨c, t', rfl, -⟩ := ht
  simp

/-- White space in front of a text is skipped. -/
theorem skipWs_append {w : PyStr} (hw : Ws w) {c : PyChar} (hc : isWs c = false) (t : PyStr) :
    skipWs (w ++ c :: t) = c :: t := by
  rw [skipWs, List.dropWhile_append_of_pos hw, List.dropWhile_cons, if_neg (by simp [hc])]

theorem Begins.skipWs_append {t : PyStr} (ht : Begins t) {w : PyStr} (hw : Ws w) :
    skipWs (w ++ t) = t := by
  obtain ⟨c, t', rfl, hc, -⟩ := ht
  exact Json.skipWs_append hw hc t'

/-- Separators do not continue a number. -/
theorem Stops.ws_append {w : PyStr} (hw : Ws w) {t : PyStr} (ht : Stops t) : Stops (w ++ t) := by
  intro c t' h
  match w, hw with
  | [], _ => exact ht c t' h
  | d :: w, hw =>
    obtain rfl : d = .scalar c := (List.cons.inj h).1
    have hc := hw _ List.mem_cons_self
    simp only [isWs, Bool.or_eq_true, decide_eq_true_eq] at hc
    rcases hc with ((rfl | rfl) | rfl) | rfl <;> decide

theorem Stops.cons {c : Char} (hc : ¬ c.isDigit ∧ c ≠ '.' ∧ c ≠ 'e' ∧ c ≠ 'E') (t : PyStr) :
    Stops (.scalar c :: t) := by
  intro d t' h
  obtain rfl : c = d := PyChar.scalar.inj (List.cons.inj h).1
  exact hc

/-- The scanner turns the text into the value, whatever follows. -/
structure Reads (h : Hooks ε) (v : PyVal) (t : PyStr) : Prop where
  begins : Begins t
  scan : ∀ fuel r, 2 * t.length ≤ fuel → Stops r → scanOnce h fuel (t ++ r) = .ok (v, r)

/-- The scanner turns the text, closing bracket included, into the items of an array. -/
structure ReadsItems (h : Hooks ε) (xs : List PyVal) (t : PyStr) : Prop where
  begins : Begins t
  scan : ∀ fuel r, 2 * t.length < fuel → scanItems h fuel (t ++ r) = .ok (xs, r)

/-- The scanner turns the text, closing brace included, into the members of an object. -/
structure ReadsPairs (h : Hooks ε) (kvs : List (PyStr × PyVal)) (t : PyStr) : Prop where
  begins : Begins t
  scan : ∀ fuel r, 2 * t.length < fuel → scanPairs h fuel (t ++ r) = .ok (kvs, r)

/-- The text between the quotes reads as the string. -/
def ReadsStr (s t : PyStr) : Prop := ∀ r, scanString (t ++ .scalar '"' :: r) = some (s, r)

theorem readsStr_escapeStr (s : PyStr) : ReadsStr s (escapeStr false s) :=
  fun r => scanString_escapeStr s r

variable {h : Hooks ε}

/-- The first character of a number. -/
private theorem numberText_start (neg : Bool) {ds : List Char} (hds : IntDigits ds)
    (fs : List Char) (e : Option (Bool × List Char)) :
    ∃ c t', numberText neg ds fs e = c :: t' ∧ (c = '-' ∨ c.isDigit) := by
  obtain ⟨d, ds', rfl⟩ := List.exists_cons_of_ne_nil hds.ne_nil
  cases neg with
  | true => exact ⟨'-', _, rfl, .inl rfl⟩
  | false => exact ⟨d, _, rfl, .inr (hds.all d List.mem_cons_self)⟩

/-- The character after a minus sign is a digit. -/
private theorem digit_of_minus {neg : Bool} {ds fs : List Char} {e : Option (Bool × List Char)}
    (hds : IntDigits ds) {t' : List Char} (h : numberText neg ds fs e = '-' :: t') :
    ∃ d u, t' = d :: u ∧ d.isDigit := by
  obtain ⟨d, ds', rfl⟩ := List.exists_cons_of_ne_nil hds.ne_nil
  have hd := hds.all d List.mem_cons_self
  cases neg with
  | true => exact ⟨d, _, (List.cons.inj h).2.symm, hd⟩
  | false =>
    obtain rfl : d = '-' := (List.cons.inj h).1
    exact absurd hd (by decide)

private theorem ne_of_isDigit {c : Char} (hc : c.isDigit) {d : Char} (hd : ¬ d.isDigit) :
    c ≠ d := by
  rintro rfl
  exact hd hc

/-- A number is read by the number rule. -/
theorem scanAtom_number {neg : Bool} {ds fs : List Char} {e : Option (Bool × List Char)}
    (hds : IntDigits ds) (t : PyStr) :
    scanAtom h ((numberText neg ds fs e).map .scalar ++ t) =
      match scanNumber ((numberText neg ds fs e).map .scalar ++ t) with
      | some (n, t) => (h.number n).map (·, t)
      | none => .error h.malformed := by
  obtain ⟨c, t', heq, hc⟩ := numberText_start neg hds fs e
  have hminus : ∀ u : PyStr, dropPrefix? "-Infinity".toList
      ((numberText neg ds fs e).map .scalar ++ u) = Option.none := by
    intro u
    by_cases h1 : c = '-'
    · obtain ⟨d, v, rfl, hd⟩ := digit_of_minus hds (h1 ▸ heq)
      have : d ≠ 'I' := ne_of_isDigit hd (by decide)
      simp [heq, h1, dropPrefix?, this]
    · simp [heq, dropPrefix?, h1]
  have hne : ∀ d : Char, d ≠ '-' → ¬ d.isDigit → c ≠ d := by
    rintro d h1 h2
    rcases hc with rfl | hc
    · exact h1.symm
    · exact ne_of_isDigit hc h2
  have h1 := hne 'n' (by decide) (by decide)
  have h2 := hne 't' (by decide) (by decide)
  have h3 := hne 'f' (by decide) (by decide)
  have h4 := hne 'N' (by decide) (by decide)
  have h5 := hne 'I' (by decide) (by decide)
  have hdrop : ∀ s ∈ ["null", "true", "false", "NaN", "Infinity"],
      dropPrefix? s.toList ((numberText neg ds fs e).map .scalar ++ t) = none := by
    intro s hs
    simp only [List.mem_cons, List.not_mem_nil, or_false] at hs
    rcases hs with rfl | rfl | rfl | rfl | rfl <;> simp [heq, dropPrefix?, h1, h2, h3, h4, h5]
  unfold scanAtom
  rw [hdrop "null" (by simp), hdrop "true" (by simp), hdrop "false" (by simp),
    hdrop "NaN" (by simp), hdrop "Infinity" (by simp), hminus]

namespace Reads

/-- Neither a string nor a container begins with `c`. -/
def AtomStart (c : PyChar) : Prop := c ≠ .scalar '"' ∧ c ≠ .scalar '{' ∧ c ≠ .scalar '['

/-- A text that is an atom by its first character. -/
theorem of_scanAtom {v : PyVal} {t : PyStr} (hb : Begins t)
    (ha : ∀ c t', t = c :: t' → AtomStart c)
    (hs : ∀ r, Stops r → scanAtom h (t ++ r) = .ok (v, r)) : Reads h v t where
  begins := hb
  scan fuel r hf hr := by
    have hpos := hb.length_pos
    obtain ⟨fuel, rfl⟩ : ∃ f, fuel = f + 1 := ⟨fuel - 1, by omega⟩
    obtain ⟨c, t', rfl, -⟩ := hb
    obtain ⟨h1, h2, h3⟩ := ha c t' rfl
    rw [← hs r hr, List.cons_append]
    unfold scanOnce
    split
    · next heq => exact absurd (List.cons.inj heq).1 h1
    · next heq => exact absurd (List.cons.inj heq).1 h2
    · next heq => exact absurd (List.cons.inj heq).1 h3
    · rfl

theorem none : Reads h .none ("null" : String) :=
  of_scanAtom ⟨_, _, rfl, by decide, by decide, by decide, by decide⟩
    (by rintro c t' ⟨⟩; exact ⟨by decide, by decide, by decide⟩) fun _ _ => rfl

theorem bool (b : Bool) : Reads h (.bool b) ((if b then "true" else "false" : String) : PyStr) := by
  cases b <;>
    exact of_scanAtom ⟨_, _, rfl, by decide, by decide, by decide, by decide⟩
      (by rintro c t' ⟨⟩; exact ⟨by decide, by decide, by decide⟩) fun _ _ => rfl

/-- A number whose hook returns the value. -/
theorem number {neg : Bool} {ds fs : List Char} {e : Option (Bool × List Char)}
    (hds : IntDigits ds) (hfs : AllDigits fs) (he : ExpDigits e) {v : PyVal}
    (hv : h.number (numberOf neg ds fs e) = .ok v) :
    Reads h v ((numberText neg ds fs e).map .scalar) := by
  obtain ⟨c, t', heq, hc⟩ := numberText_start neg hds fs e
  have hne : ∀ d : Char, d ≠ '-' → ¬ d.isDigit → PyChar.scalar c ≠ .scalar d := by
    rintro d h1 h2 ⟨⟩
    exact hc.elim h1 h2
  refine of_scanAtom ⟨.scalar c, t'.map .scalar, by rw [heq]; rfl, ?_, hne _ (by decide) (by decide),
    hne _ (by decide) (by decide), hne _ (by decide) (by decide)⟩ ?_ ?_
  · have hws : ∀ d : Char, d ≠ '-' → ¬ d.isDigit → c ≠ d :=
      fun d h1 h2 h => hne d h1 h2 (congrArg _ h)
    simp only [isWs, Bool.or_eq_false_iff, decide_eq_false_iff_not]
    exact ⟨⟨⟨hws _ (by decide) (by decide), hws _ (by decide) (by decide)⟩,
      hws _ (by decide) (by decide)⟩, hws _ (by decide) (by decide)⟩
  · intro d u hd
    rw [heq] at hd
    obtain rfl := (List.cons.inj hd).1
    exact ⟨hne _ (by decide) (by decide), hne _ (by decide) (by decide),
      hne _ (by decide) (by decide)⟩
  · intro r hr
    rw [scanAtom_number hds, scanNumber_numberText hds hfs he hr]
    simp only [hv]
    rfl

/-- An integer that the integer hook accepts. -/
theorem int {n : ℤ} {v : PyVal} (hn : h.int n (Nat.toDigits 10 n.natAbs).length = .ok v) :
    Reads h v ((intRepr n).map .scalar) :=
  number (intDigits_toDigits _) (by simp [AllDigits]) (by simp [ExpDigits])
    (by rw [numberOf_toDigits]; exact hn)

/-- A finite float that the float hook accepts. -/
theorem float {x : Finite64} {v : PyVal} (hx : h.float (.finite x) = .ok v) :
    Reads h v ((floatRepr x).map .scalar) := by
  obtain ⟨ds, fs, e, hds, hfs, he, hrepr, hval⟩ := exists_floatRepr x
  rw [hrepr]
  exact number hds hfs he (by rw [hval]; exact hx)

/-- A quoted string. -/
theorem str {s t : PyStr} (hs : ReadsStr s t) :
    Reads h (.str s) (.scalar '"' :: (t ++ [.scalar '"'])) where
  begins := ⟨_, _, rfl, by decide, by decide, by decide, by decide⟩
  scan fuel r hf _ := by
    obtain ⟨fuel, rfl⟩ : ∃ f, fuel = f + 1 := ⟨fuel - 1, by simp at hf; omega⟩
    rw [List.cons_append, List.append_assoc, List.singleton_append]
    simp only [scanOnce, hs r]

theorem emptyList : Reads h (.list []) ("[]" : String) where
  begins := ⟨_, _, rfl, by decide, by decide, by decide, by decide⟩
  scan fuel r hf _ := by
    obtain ⟨fuel, rfl⟩ : ∃ f, fuel = f + 1 := ⟨fuel - 1, by simp [PyStr.ofString] at hf; omega⟩
    rfl

/-- A nonempty array. -/
theorem list {xs : List PyVal} {w t : PyStr} (hw : Ws w) (hi : ReadsItems h xs t) :
    Reads h (.list xs) (.scalar '[' :: (w ++ t)) where
  begins := ⟨_, _, rfl, by decide, by decide, by decide, by decide⟩
  scan fuel r hf _ := by
    simp only [List.length_cons, List.length_append] at hf
    obtain ⟨fuel, rfl⟩ : ∃ f, fuel = f + 1 := ⟨fuel - 1, by omega⟩
    obtain ⟨c, t', ht, hc, hclose, -⟩ := hi.begins.append r
    have hskip : skipWs (w ++ (t ++ r)) = c :: t' := by rw [ht, skipWs_append hw hc]
    have hscan := hi.scan fuel r (by omega)
    rw [ht] at hscan
    rw [List.cons_append, List.append_assoc]
    simp only [scanOnce, hskip]
    split
    · next heq => exact absurd (List.cons.inj heq).1 hclose
    · rw [hscan]

theorem emptyDict {v : PyVal} (hv : h.pairs [] = .ok v) : Reads h v ("{}" : String) where
  begins := ⟨_, _, rfl, by decide, by decide, by decide, by decide⟩
  scan fuel r hf _ := by
    obtain ⟨fuel, rfl⟩ : ∃ f, fuel = f + 1 := ⟨fuel - 1, by simp [PyStr.ofString] at hf; omega⟩
    have hskip : skipWs (.scalar '}' :: r) = .scalar '}' :: r := rfl
    change scanOnce h (fuel + 1) (.scalar '{' :: .scalar '}' :: r) = _
    simp only [scanOnce, hskip, hv]
    rfl

/-- A nonempty object whose members the pairs hook accepts. -/
theorem dict {kvs : List (PyStr × PyVal)} {v : PyVal} {w t : PyStr} (hw : Ws w)
    (hi : ReadsPairs h kvs t) (hv : h.pairs kvs = .ok v) :
    Reads h v (.scalar '{' :: (w ++ t)) where
  begins := ⟨_, _, rfl, by decide, by decide, by decide, by decide⟩
  scan fuel r hf _ := by
    simp only [List.length_cons, List.length_append] at hf
    obtain ⟨fuel, rfl⟩ : ∃ f, fuel = f + 1 := ⟨fuel - 1, by omega⟩
    obtain ⟨c, t', ht, hc, -, hclose, -⟩ := hi.begins.append r
    have hskip : skipWs (w ++ (t ++ r)) = c :: t' := by rw [ht, skipWs_append hw hc]
    have hscan := hi.scan fuel r (by omega)
    rw [ht] at hscan
    rw [List.cons_append, List.append_assoc]
    simp only [scanOnce, hskip]
    split
    · next heq => exact absurd (List.cons.inj heq).1 hclose
    · simp only [hscan, hv]
      rfl

end Reads

namespace ReadsItems

/-- The last item and the closing bracket. -/
theorem last {v : PyVal} {t w : PyStr} (hv : Reads h v t) (hw : Ws w) :
    ReadsItems h [v] (t ++ (w ++ [.scalar ']'])) where
  begins := hv.begins.append _
  scan fuel r hf := by
    simp only [List.length_append] at hf
    obtain ⟨fuel, rfl⟩ : ∃ f, fuel = f + 1 := ⟨fuel - 1, by omega⟩
    have hstop : Stops (w ++ (.scalar ']' :: r)) := .ws_append hw (.cons (by decide) r)
    have hscan := hv.scan fuel _ (by omega) hstop
    rw [List.append_assoc, List.append_assoc, List.singleton_append]
    simp only [scanItems, hscan, skipWs_append hw (c := .scalar ']') rfl]

/-- An item, a comma and the items after it. -/
theorem cons {v : PyVal} {vs : List PyVal} {t w u : PyStr} (hv : Reads h v t) (hw : Ws w)
    (hi : ReadsItems h vs u) : ReadsItems h (v :: vs) (t ++ (.scalar ',' :: (w ++ u))) where
  begins := hv.begins.append _
  scan fuel r hf := by
    simp only [List.length_append, List.length_cons] at hf
    obtain ⟨fuel, rfl⟩ : ∃ f, fuel = f + 1 := ⟨fuel - 1, by omega⟩
    have hscan := hv.scan fuel (.scalar ',' :: (w ++ (u ++ r))) (by omega) (.cons (by decide) _)
    have hcomma : ∀ t, skipWs (.scalar ',' :: t) = .scalar ',' :: t := fun _ => rfl
    rw [List.append_assoc, List.cons_append, List.append_assoc]
    simp only [scanItems, hscan, hcomma, (hi.begins.append r).skipWs_append hw,
      hi.scan fuel r (by omega)]

end ReadsItems

namespace ReadsPairs

/-- A key, a colon and a value leave the scanner behind the member. -/
private theorem scanPairs_member {k tk : PyStr} {v : PyVal} {t w : PyStr} (hk : ReadsStr k tk)
    (hw : Ws w) (hv : Reads h v t) (fuel : ℕ) (hf : 2 * t.length ≤ fuel) {r : PyStr}
    (hr : Stops r) :
    scanPairs h (fuel + 1) (.scalar '"' :: (tk ++ .scalar '"' :: .scalar ':' :: (w ++ (t ++ r)))) =
      match skipWs r with
      | .scalar '}' :: t => .ok ([(k, v)], t)
      | .scalar ',' :: t =>
        match scanPairs h fuel (skipWs t) with
        | .ok (kvs, t) => .ok ((k, v) :: kvs, t)
        | .error e => .error e
      | _ => .error h.malformed := by
  have hcolon : ∀ t, skipWs (.scalar ':' :: t) = .scalar ':' :: t := fun _ => rfl
  have hscan := hv.scan fuel r hf hr
  rw [scanPairs]
  simp only [hk _, hcolon, (hv.begins.append r).skipWs_append hw, hscan]

/-- The last member and the closing brace. -/
theorem last {k tk : PyStr} {v : PyVal} {t w w' : PyStr} (hk : ReadsStr k tk) (hw : Ws w)
    (hv : Reads h v t) (hw' : Ws w') :
    ReadsPairs h [(k, v)]
      (.scalar '"' :: (tk ++ .scalar '"' :: .scalar ':' :: (w ++ (t ++ (w' ++ [.scalar '}']))))) where
  begins := ⟨_, _, rfl, by decide, by decide, by decide, by decide⟩
  scan fuel r hf := by
    simp only [List.length_append, List.length_cons] at hf
    obtain ⟨fuel, rfl⟩ : ∃ f, fuel = f + 1 := ⟨fuel - 1, by omega⟩
    have hstop : Stops (w' ++ (.scalar '}' :: r)) := .ws_append hw' (.cons (by decide) r)
    have hmember := scanPairs_member hk hw hv fuel (by omega) hstop
    rw [skipWs_append hw' (c := .scalar '}') rfl] at hmember
    simpa using hmember

/-- A member, a comma and the members after it. -/
theorem cons {k tk : PyStr} {v : PyVal} {kvs : List (PyStr × PyVal)} {t w w' u : PyStr}
    (hk : ReadsStr k tk) (hw : Ws w) (hv : Reads h v t) (hw' : Ws w') (hi : ReadsPairs h kvs u) :
    ReadsPairs h ((k, v) :: kvs)
      (.scalar '"' :: (tk ++ .scalar '"' :: .scalar ':' ::
        (w ++ (t ++ (.scalar ',' :: (w' ++ u)))))) where
  begins := ⟨_, _, rfl, by decide, by decide, by decide, by decide⟩
  scan fuel r hf := by
    simp only [List.length_append, List.length_cons] at hf
    obtain ⟨fuel, rfl⟩ : ∃ f, fuel = f + 1 := ⟨fuel - 1, by omega⟩
    have hcomma : ∀ t, skipWs (.scalar ',' :: t) = .scalar ',' :: t := fun _ => rfl
    have hmember := scanPairs_member hk hw hv fuel (by omega)
      (.cons (c := ',') (by decide) (w' ++ (u ++ r)))
    rw [hcomma] at hmember
    simp only [(hi.begins.append r).skipWs_append hw', hi.scan fuel r (by omega)] at hmember
    simpa using hmember

end ReadsPairs

/-- A readable text and white space load as the value. -/
theorem loads_of_reads {v : PyVal} {t w : PyStr} (hv : Reads h v t) (hw : Ws w) :
    loads h (t ++ w) = .ok v := by
  have hstop : Stops w := by simpa using Stops.ws_append hw Stops.nil
  have hscan := hv.scan (2 * (t ++ w).length) w (by simp only [List.length_append]; omega) hstop
  have hws : skipWs w = [] := by
    have : skipWs (w ++ []) = skipWs [] := List.dropWhile_append_of_pos hw
    rwa [List.append_nil] at this
  obtain ⟨c, t', rfl, hc, -, -, hbom⟩ := hv.begins
  have hskip : skipWs (c :: t' ++ w) = c :: t' ++ w := skipWs_append .nil hc _
  rw [loads, if_neg (by simpa using hbom), hskip, hscan]
  simp [hws]

end Iperf3Lib.Py.Json
