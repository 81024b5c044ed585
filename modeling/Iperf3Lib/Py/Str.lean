import Mathlib.Data.List.Basic
import Mathlib.Tactic.Common

/-!
# Python strings

A Python `str` is a sequence of code points, and unlike a Lean `String` it may hold unpaired
surrogates: `json.loads` produces them from `\ud800` escapes and the frame codec has to reject
them. `PyStr` keeps both kinds of code point, `PyStr.ofString` embeds the literals of the source,
and `utf8Encode`/`utf8Decode` are the strict codec of `str.encode("utf-8")` and
`bytes.decode("utf-8")`.
-/

namespace Iperf3Lib.Py

/-- A code point: a Unicode scalar value, or one of the 2048 surrogates from `U+D800`. -/
inductive PyChar where
  | scalar (c : Char)
  | surrogate (n : Fin 2048)
deriving DecidableEq, Repr

/-- A Python `str`. -/
abbrev PyStr := List PyChar

instance : Coe Char PyChar := ⟨.scalar⟩

instance : LawfulBEq PyStr := List.instLawfulBEq

namespace PyChar

/-- `ord(c)`. -/
def ord : PyChar → Nat
  | .scalar c => c.toNat
  | .surrogate n => 0xD800 + n

/-- `chr(n)` below `0x110000`. -/
def chr (n : Nat) : PyChar :=
  if h : 0xD800 ≤ n ∧ n < 0xE000 then .surrogate ⟨n - 0xD800, by omega⟩ else .scalar (Char.ofNat n)

/-- The regular expression `[\ud800-\udfff]`. -/
def isSurrogate : PyChar → Bool
  | .scalar _ => false
  | .surrogate _ => true

/-- `str.isspace` on one code point: what `str.strip()` removes. -/
def isSpace (c : PyChar) : Bool :=
  let n := c.ord
  (9 ≤ n && n ≤ 13) || (28 ≤ n && n ≤ 32) || n == 0x85 || n == 0xA0 || n == 0x1680 ||
    (0x2000 ≤ n && n ≤ 0x200A) || n == 0x2028 || n == 0x2029 || n == 0x202F || n == 0x205F ||
    n == 0x3000

end PyChar

namespace PyStr

/-- A string literal of the source. -/
def ofString (s : String) : PyStr := s.toList.map .scalar

instance : Coe String PyStr := ⟨ofString⟩

theorem ofString_injective : Function.Injective ofString := by
  intro s t h
  have hinj : Function.Injective PyChar.scalar := fun _ _ hc => PyChar.scalar.inj hc
  exact String.toList_injective (List.map_injective_iff.mpr hinj h)

@[simp] theorem ofString_inj {s t : String} : ofString s = ofString t ↔ s = t :=
  ofString_injective.eq_iff

/-- `bool(s.strip())`: some code point is not white space. -/
def hasText (s : PyStr) : Bool := s.any fun c => !c.isSpace

/-- Every code point is a scalar value, so that the string has a UTF-8 form. -/
def isScalar (s : PyStr) : Bool := s.all fun c => !c.isSurrogate

/-- The characters of a string without surrogates. -/
def toChars? : PyStr → Option (List Char)
  | [] => some []
  | .scalar c :: s => (toChars? s).map (c :: ·)
  | .surrogate _ :: _ => none

/-- `s.encode("utf-8")`, which refuses surrogates. -/
def utf8Encode (s : PyStr) : Option (List UInt8) :=
  (toChars? s).map (·.flatMap String.utf8EncodeChar)

/-- `b.decode("utf-8")`, strict. -/
def utf8Decode (b : List UInt8) : Option PyStr :=
  b.toByteArray.utf8Decode?.map fun cs => cs.toList.map .scalar

@[simp] theorem toChars?_map_scalar (cs : List Char) :
    toChars? (cs.map .scalar) = some cs := by
  induction cs with
  | nil => rfl
  | cons c cs ih => simp [toChars?, ih]

/-- A string has a list of characters exactly when it holds no surrogate. -/
theorem toChars?_eq_some {s : PyStr} {cs : List Char} :
    toChars? s = some cs ↔ s = cs.map .scalar := by
  constructor
  · induction s generalizing cs with
    | nil => rintro ⟨⟩; rfl
    | cons c s ih =>
      cases c with
      | surrogate n => simp [toChars?]
      | scalar c =>
        simp only [toChars?, Option.map_eq_some_iff]
        rintro ⟨cs', h, rfl⟩
        simp [ih h]
  · rintro rfl
    exact toChars?_map_scalar cs

theorem isScalar_iff {s : PyStr} : isScalar s = true ↔ ∃ cs : List Char, s = cs.map .scalar := by
  constructor
  · intro h
    induction s with
    | nil => exact ⟨[], rfl⟩
    | cons c s ih =>
      simp only [isScalar, List.all_cons, Bool.and_eq_true] at h
      obtain ⟨cs, rfl⟩ := ih h.2
      cases c with
      | scalar c => exact ⟨c :: cs, rfl⟩
      | surrogate n => simp [PyChar.isSurrogate] at h
  · rintro ⟨cs, rfl⟩
    simp [isScalar, PyChar.isSurrogate]

@[simp] theorem isScalar_append (s t : PyStr) :
    isScalar (s ++ t) = (isScalar s && isScalar t) := by simp [isScalar]

@[simp] theorem isScalar_map_scalar (cs : List Char) : isScalar (cs.map .scalar) = true :=
  isScalar_iff.mpr ⟨cs, rfl⟩

@[simp] theorem isScalar_ofString (s : String) : isScalar (ofString s) = true :=
  isScalar_map_scalar _

/-- The bytes of a string without surrogates. -/
theorem utf8Encode_map_scalar (cs : List Char) :
    utf8Encode (cs.map .scalar) = some (cs.flatMap String.utf8EncodeChar) := by
  simp [utf8Encode]

/-- Encoding distributes over concatenation. -/
theorem utf8Encode_append {s t : PyStr} {a b : List UInt8} (hs : utf8Encode s = some a)
    (ht : utf8Encode t = some b) : utf8Encode (s ++ t) = some (a ++ b) := by
  simp only [utf8Encode, Option.map_eq_some_iff] at hs ht
  obtain ⟨cs, hcs, rfl⟩ := hs
  obtain ⟨ds, hds, rfl⟩ := ht
  rw [toChars?_eq_some] at hcs hds
  rw [hcs, hds, ← List.map_append, utf8Encode_map_scalar, List.flatMap_append]

/-- Exactly the strings without surrogates encode. -/
theorem utf8Encode_isSome {s : PyStr} : (utf8Encode s).isSome = isScalar s := by
  by_cases h : isScalar s = true
  · obtain ⟨cs, rfl⟩ := isScalar_iff.mp h
    simp [utf8Encode_map_scalar]
  · rw [Bool.not_eq_true] at h
    rw [h, Option.isSome_eq_false_iff, Option.isNone_iff_eq_none]
    by_contra hne
    obtain ⟨b, hb⟩ := Option.ne_none_iff_exists'.mp hne
    simp only [utf8Encode, Option.map_eq_some_iff] at hb
    obtain ⟨cs, hcs, -⟩ := hb
    rw [toChars?_eq_some] at hcs
    simp [hcs] at h

/-- Strict decoding inverts encoding. -/
theorem utf8Decode_utf8Encode {s : PyStr} {b : List UInt8} (h : utf8Encode s = some b) :
    utf8Decode b = some s := by
  simp only [utf8Encode, Option.map_eq_some_iff] at h
  obtain ⟨cs, hcs, rfl⟩ := h
  rw [toChars?_eq_some] at hcs
  have hdec := List.utf8Decode?_utf8Encode (l := cs)
  simp only [List.utf8Encode] at hdec
  simp [utf8Decode, hdec, hcs]

/-- A code point takes at least one byte. -/
theorem length_le_length_utf8Encode {s : PyStr} {b : List UInt8} (h : utf8Encode s = some b) :
    s.length ≤ b.length := by
  simp only [utf8Encode, Option.map_eq_some_iff] at h
  obtain ⟨cs, hcs, rfl⟩ := h
  rw [toChars?_eq_some] at hcs
  subst hcs
  induction cs with
  | nil => simp
  | cons c cs ih =>
    have hc : 1 ≤ (String.utf8EncodeChar c).length := by
      rw [String.length_utf8EncodeChar]
      exact Char.utf8Size_pos c
    simp only [List.map_cons, List.length_cons, List.flatMap_cons, List.length_append]
    simp only [List.length_map] at ih ⊢
    omega

end PyStr

end Iperf3Lib.Py
