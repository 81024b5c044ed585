import Iperf3Lib.Py.Json.Number
import Mathlib.Tactic.IntervalCases

/-!
# JSON strings

The escapes that `json.dumps` writes, with and without `ensure_ascii`, and the string rule of
`json.loads`. The reader first lexes the text into code points, marking those written as `\uXXXX`,
and then joins a marked high surrogate with a marked low one that follows it. Without `ensure_ascii`
no surrogate is ever written as an escape, so the string comes back as it was; with it, a string
comes back unless it holds a high surrogate right before a low one.
-/

namespace Iperf3Lib.Py.Json

/-! ## Writing -/

/-- The two-character escapes. -/
def shortEscape : Char → Option Char
  | '"' => some '"'
  | '\\' => some '\\'
  | '\n' => some 'n'
  | '\r' => some 'r'
  | '\t' => some 't'
  | '\x0c' => some 'f'
  | '\x08' => some 'b'
  | _ => none

/-- `\uXXXX` in lower case. -/
def escapeU (n : ℕ) : List Char :=
  ['\\', 'u', Nat.digitChar (n / 4096 % 16), Nat.digitChar (n / 256 % 16),
    Nat.digitChar (n / 16 % 16), Nat.digitChar (n % 16)]

/-- A supplementary code point as its two UTF-16 escapes, any other as one. -/
def escapeAscii (n : ℕ) : List Char :=
  if n < 0x10000 then escapeU n
  else escapeU (0xD800 + (n - 0x10000) / 1024) ++ escapeU (0xDC00 + (n - 0x10000) % 1024)

/-- One code point inside a JSON string. -/
def escapeChar (ensureAscii : Bool) : PyChar → PyStr
  | .surrogate n =>
    if ensureAscii then (escapeU (0xD800 + n)).map .scalar else [.surrogate n]
  | .scalar c =>
    match shortEscape c with
    | some e => [.scalar '\\', .scalar e]
    | none =>
      if c.toNat < 32 then (escapeU c.toNat).map .scalar
      else if ensureAscii ∧ 126 < c.toNat then (escapeAscii c.toNat).map .scalar
      else [.scalar c]

/-- The characters between the quotes of `json.dumps(s)`. -/
def escapeStr (ensureAscii : Bool) (s : PyStr) : PyStr := s.flatMap (escapeChar ensureAscii)

/-- `json.dumps(s)` of a string. -/
def dumpStr (ensureAscii : Bool) (s : PyStr) : PyStr :=
  .scalar '"' :: escapeStr ensureAscii s ++ [.scalar '"']

/-! ## Reading -/

/-- A hexadecimal digit. -/
def hexVal : PyChar → Option ℕ
  | .surrogate _ => none
  | .scalar c =>
    if '0' ≤ c ∧ c ≤ '9' then some (c.toNat - 48)
    else if 'a' ≤ c ∧ c ≤ 'f' then some (c.toNat - 87)
    else if 'A' ≤ c ∧ c ≤ 'F' then some (c.toNat - 55)
    else none

/-- The four digits after `\u`. -/
def hex4 (a b c d : PyChar) : Option ℕ := do
  return (((← hexVal a) * 16 + (← hexVal b)) * 16 + (← hexVal c)) * 16 + (← hexVal d)

/-- What a two-character escape stands for. -/
def unescape : PyChar → Option PyChar
  | .scalar '"' => some (.scalar '"')
  | .scalar '\\' => some (.scalar '\\')
  | .scalar '/' => some (.scalar '/')
  | .scalar 'b' => some (.scalar '\x08')
  | .scalar 'f' => some (.scalar '\x0c')
  | .scalar 'n' => some (.scalar '\n')
  | .scalar 'r' => some (.scalar '\r')
  | .scalar 't' => some (.scalar '\t')
  | _ => none

/-- Lex a string up to its closing quote, marking the code points written as `\uXXXX`. -/
def lexString : PyStr → Option (List (PyChar × Bool) × PyStr)
  | [] => none
  | .scalar '"' :: t => some ([], t)
  | .scalar '\\' :: .scalar 'u' :: a :: b :: c :: d :: t =>
    match hex4 a b c d, lexString t with
    | some n, some (us, r) => some ((.chr n, true) :: us, r)
    | _, _ => none
  | .scalar '\\' :: e :: t =>
    match unescape e, lexString t with
    | some c, some (us, r) => some ((c, false) :: us, r)
    | _, _ => none
  | c :: t =>
    -- a raw control character is refused, as is the end of the text after a backslash
    if c.ord < 32 ∨ c = .scalar '\\' then none
    else match lexString t with
      | some (us, r) => some ((c, false) :: us, r)
      | none => none

/-- The supplementary code point of a surrogate pair. -/
def joinPair (hi lo : Fin 2048) : PyChar :=
  .scalar (Char.ofNat (0x10000 + hi.val * 1024 + (lo.val - 1024)))

/-- Join every escaped high surrogate with an escaped low one right after it. -/
def joinSurrogates : List (PyChar × Bool) → PyStr
  | (.surrogate hi, true) :: (.surrogate lo, true) :: us =>
    if hi.val < 1024 ∧ 1024 ≤ lo.val then joinPair hi lo :: joinSurrogates us
    else .surrogate hi :: joinSurrogates ((.surrogate lo, true) :: us)
  | (c, _) :: us => c :: joinSurrogates us
  | [] => []

/-- The string rule of the scanner, after the opening quote. -/
def scanString (t : PyStr) : Option (PyStr × PyStr) :=
  (lexString t).map fun r => (joinSurrogates r.1, r.2)

/-! ## Strings without `ensure_ascii` come back -/

theorem hexVal_digitChar {n : ℕ} (h : n < 16) : hexVal (.scalar (Nat.digitChar n)) = some n := by
  interval_cases n <;> rfl

/-- Four written digits read back. -/
theorem hex4_digits {n : ℕ} (h : n < 65536) :
    hex4 (.scalar (Nat.digitChar (n / 4096 % 16))) (.scalar (Nat.digitChar (n / 256 % 16)))
      (.scalar (Nat.digitChar (n / 16 % 16))) (.scalar (Nat.digitChar (n % 16))) = some n := by
  have h16 (k : ℕ) : k % 16 < 16 := Nat.mod_lt _ (by decide)
  simp only [hex4, hexVal_digitChar (h16 _), Option.bind_eq_bind, Option.bind_some, Option.pure_def]
  congr 1
  omega

/-- Lexing a written `\uXXXX`. -/
theorem lexString_escapeU {n : ℕ} (h : n < 65536) (t : PyStr) :
    lexString ((escapeU n).map .scalar ++ t) =
      (lexString t).map fun r => ((.chr n, true) :: r.1, r.2) := by
  simp only [escapeU, List.map_cons, List.map_nil, List.cons_append, List.nil_append, lexString,
    hex4_digits h]
  rcases lexString t with _ | ⟨us, r⟩ <;> rfl

/-- A written two-character escape stands for its character. -/
theorem unescape_shortEscape {c e : Char} (h : shortEscape c = some e) :
    unescape (.scalar e) = some (.scalar c) ∧ e ≠ 'u' := by
  unfold shortEscape at h
  split at h <;> first | (obtain rfl := Option.some.inj h; exact ⟨rfl, by decide⟩) | cases h

theorem lexString_short {c e : Char} (h : shortEscape c = some e) (t : PyStr) :
    lexString (.scalar '\\' :: .scalar e :: t) =
      (lexString t).map fun r => ((.scalar c, false) :: r.1, r.2) := by
  obtain ⟨he, hu⟩ := unescape_shortEscape h
  rw [lexString.eq_4 _ _ (by simp [hu]), he]
  rcases lexString t with _ | ⟨us, r⟩ <;> rfl

/-- A character that needs no escape stands for itself. -/
theorem lexString_plain {c : PyChar} (hq : c ≠ .scalar '"') (hb : c ≠ .scalar '\\')
    (hc : ¬ c.ord < 32) (t : PyStr) :
    lexString (c :: t) = (lexString t).map fun r => ((c, false) :: r.1, r.2) := by
  rw [lexString.eq_5 _ _ (by simp [hq]) (by simp [hb]) (by simp [hb]), if_neg (by tauto)]
  rcases lexString t with _ | ⟨us, r⟩ <;> rfl

/-- The code points, with their marks, that lexing makes of one written code point. -/
def units (ensureAscii : Bool) : PyChar → List (PyChar × Bool)
  | .surrogate n => [(.surrogate n, ensureAscii)]
  | .scalar c =>
    if (shortEscape c).isSome then [(.scalar c, false)]
    else if c.toNat < 32 then [(.scalar c, true)]
    else if ensureAscii ∧ 126 < c.toNat then
      if c.toNat < 0x10000 then [(.scalar c, true)]
      else [(.chr (0xD800 + (c.toNat - 0x10000) / 1024), true),
        (.chr (0xDC00 + (c.toNat - 0x10000) % 1024), true)]
    else [(.scalar c, false)]

theorem chr_toNat (c : Char) : PyChar.chr c.toNat = .scalar c := by
  have hvalid : c.toNat < 0xD800 ∨ 0xDFFF < c.toNat := by
    rcases c.valid with h | h
    · exact .inl h
    · exact .inr h.1
  rw [PyChar.chr, dif_neg (by omega), Char.ofNat_toNat]

theorem chr_surrogate (n : Fin 2048) : PyChar.chr (0xD800 + n) = .surrogate n := by
  rw [PyChar.chr, dif_pos ⟨by omega, by omega⟩]
  exact congrArg _ (Fin.ext (Nat.add_sub_cancel_left _ _))

/-- Lexing one written code point. -/
theorem lexString_escapeChar (ea : Bool) (c : PyChar) (t : PyStr) :
    lexString (escapeChar ea c ++ t) =
      (lexString t).map fun r => (units ea c ++ r.1, r.2) := by
  cases c with
  | surrogate n =>
    cases ea with
    | true =>
      rw [escapeChar, if_pos rfl, lexString_escapeU (by omega), chr_surrogate]
      rfl
    | false => exact lexString_plain (by simp) (by simp) (by simp [PyChar.ord]; omega) t
  | scalar c =>
    rcases hs : shortEscape c with _ | e
    · simp only [escapeChar, units, hs, Option.isSome_none, Bool.false_eq_true, if_false]
      by_cases h32 : c.toNat < 32
      · rw [if_pos h32, if_pos h32, lexString_escapeU (by omega), chr_toNat]
        rfl
      · rw [if_neg h32, if_neg h32]
        by_cases ha : ea = true ∧ 126 < c.toNat
        · rw [if_pos ha, if_pos ha, escapeAscii]
          split
          · rw [lexString_escapeU ‹_›, chr_toNat]
            rfl
          · have hmax : c.toNat < 0x110000 := by
              rcases c.valid with h | h
              · exact lt_trans h (by decide)
              · exact h.2
            rw [List.map_append, List.append_assoc, lexString_escapeU (by omega),
              lexString_escapeU (by omega), Option.map_map]
            rfl
        · rw [if_neg ha, if_neg ha]
          refine lexString_plain (c := .scalar c) ?_ ?_ h32 t
          · rintro ⟨⟩; cases hs
          · rintro ⟨⟩; cases hs
    · simp only [escapeChar, units, hs, Option.isSome_some, if_true]
      exact lexString_short hs t

/-- Lexing a written string. -/
theorem lexString_escapeStr (ea : Bool) (s t : PyStr) :
    lexString (escapeStr ea s ++ .scalar '"' :: t) = some (s.flatMap (units ea), t) := by
  induction s with
  | nil => rfl
  | cons c s ih =>
    rw [escapeStr, List.flatMap_cons, List.append_assoc, lexString_escapeChar, ← escapeStr, ih]
    rfl

/-- Nothing is joined where no surrogate is marked. -/
theorem joinSurrogates_of_unmarked {us : List (PyChar × Bool)}
    (h : ∀ u ∈ us, u.2 = true → u.1.isSurrogate = false) :
    joinSurrogates us = us.map Prod.fst := by
  induction us with
  | nil => rfl
  | cons u us ih =>
    have hus := ih fun v hv => h v (List.mem_cons_of_mem _ hv)
    have hu := h u List.mem_cons_self
    match u, us, hu with
    | (.surrogate _, true), _, hu => exact absurd (hu rfl) (by simp [PyChar.isSurrogate])
    | (.surrogate _, false), us, _ => simp [joinSurrogates, hus]
    | (.scalar _, _), us, _ => simp [joinSurrogates, hus]

/-- A string written without `ensure_ascii` is read back. -/
theorem scanString_escapeStr (s t : PyStr) :
    scanString (escapeStr false s ++ .scalar '"' :: t) = some (s, t) := by
  have hunits : ∀ c, (units false c).map Prod.fst = [c] ∧
      ∀ u ∈ units false c, u.2 = true → u.1.isSurrogate = false := by
    intro c
    cases c with
    | surrogate n => simp [units]
    | scalar c => simp only [units]; split_ifs <;> simp_all [PyChar.isSurrogate]
  rw [scanString, lexString_escapeStr, Option.map_some, joinSurrogates_of_unmarked]
  · congr 2
    induction s with
    | nil => rfl
    | cons c s ih => rw [List.flatMap_cons, List.map_append, ih, (hunits c).1]; rfl
  · intro u hu
    obtain ⟨c, -, hc⟩ := List.mem_flatMap.mp hu
    exact (hunits c).2 u hc

/-! ## The escaped text -/

theorem escapeStr_append (ea : Bool) (s t : PyStr) :
    escapeStr ea (s ++ t) = escapeStr ea s ++ escapeStr ea t := List.flatMap_append

/-- Escaping introduces no surrogate. -/
theorem isScalar_escapeStr {s : PyStr} (h : s.isScalar = true) (ea : Bool) :
    (escapeStr ea s).isScalar = true := by
  obtain ⟨cs, rfl⟩ := PyStr.isScalar_iff.mp h
  induction cs with
  | nil => rfl
  | cons c cs ih =>
    have hc : (escapeChar ea (.scalar c)).isScalar = true := by
      unfold escapeChar
      split
      · next heq => cases heq
      · split
        · rfl
        · split_ifs <;> first | rfl | exact PyStr.isScalar_map_scalar _
    have := ih (PyStr.isScalar_map_scalar cs)
    simp only [escapeStr, List.map_cons, List.flatMap_cons, PyStr.isScalar_append] at this ⊢
    rw [hc, this]
    rfl

/-- Escaping never shortens a string. -/
theorem length_le_length_escapeStr (ea : Bool) (s : PyStr) :
    s.length ≤ (escapeStr ea s).length := by
  induction s with
  | nil => simp
  | cons c s ih =>
    have hc : 1 ≤ (escapeChar ea c).length := by
      unfold escapeChar escapeAscii escapeU
      split
      · split_ifs <;> simp
      · split
        · simp
        · split_ifs <;> simp
    simp only [escapeStr, List.flatMap_cons, List.length_append, List.length_cons] at ih ⊢
    omega

end Iperf3Lib.Py.Json
