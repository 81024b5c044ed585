import Iperf3Lib.Artifacts.Pointers
import Iperf3Lib.Py.Json.Number

/-!
# Pointers and their tokens

A pointer is the text of exactly one list of tokens: `pointer_eq_ok`. Unescaping inverts escaping on
every token, and escaping inverts unescaping on every text without a slash in which each tilde begins
an escape. Such texts are what lies between the slashes of an admitted pointer.
-/

namespace Iperf3Lib.Artifacts

open Py

/-- The pointer along a path of tokens. -/
def pointerText (tokens : List PyStr) : PyStr := tokens.flatMap fun token => .scalar '/' :: escape token

theorem pointerText_cons (token : PyStr) (tokens : List PyStr) :
    pointerText (token :: tokens) = .scalar '/' :: (escape token ++ pointerText tokens) := rfl

theorem pointerText_append (xs ys : List PyStr) :
    pointerText (xs ++ ys) = pointerText xs ++ pointerText ys := List.flatMap_append

/-- `_child`, token by token. -/
theorem foldl_child (path : PyStr) (tokens : List PyStr) :
    tokens.foldl child path = path ++ pointerText tokens := by
  induction tokens generalizing path with
  | nil => exact (List.append_nil path).symm
  | cons token tokens ih =>
    rw [List.foldl_cons, ih, child, pointerText_cons, List.append_assoc]
    rfl

/-! ## Escaping -/

theorem escape_tilde (s : PyStr) :
    escape (.scalar '~' :: s) = .scalar '~' :: .scalar '0' :: escape s := by
  simp [escape, replaceChar, PyStr.ofString]

theorem escape_slash (s : PyStr) :
    escape (.scalar '/' :: s) = .scalar '~' :: .scalar '1' :: escape s := by
  simp [escape, replaceChar, PyStr.ofString]

theorem escape_other {c : PyChar} (htilde : c ≠ .scalar '~') (hslash : c ≠ .scalar '/') (s : PyStr) :
    escape (c :: s) = c :: escape s := by
  simp [escape, replaceChar, htilde, hslash]

theorem replacePair_other {a b new : Char} {c : PyChar} (h : c ≠ .scalar a) (s : PyStr) :
    replacePair a b new (c :: s) = c :: replacePair a b new s := by
  cases s with
  | nil => rfl
  | cons d s =>
    rw [replacePair, if_neg]
    exact fun hc => h hc.1

theorem unescape_other {c : PyChar} (h : c ≠ .scalar '~') (s : PyStr) :
    unescape (c :: s) = c :: unescape s := by
  rw [unescape, replacePair_other h, replacePair_other h]
  rfl

theorem unescape_tilde (s : PyStr) :
    unescape (.scalar '~' :: .scalar '0' :: s) = .scalar '~' :: unescape s := by
  have hfirst : replacePair '~' '1' '/' (.scalar '~' :: .scalar '0' :: s) =
      .scalar '~' :: .scalar '0' :: replacePair '~' '1' '/' s := by
    rw [replacePair, if_neg (by simp), replacePair_other (by simp)]
  rw [unescape, hfirst, replacePair, if_pos ⟨rfl, rfl⟩]
  rfl

theorem unescape_slash (s : PyStr) :
    unescape (.scalar '~' :: .scalar '1' :: s) = .scalar '/' :: unescape s := by
  rw [unescape, replacePair, if_pos ⟨rfl, rfl⟩, replacePair_other (by simp)]
  rfl

/-- Unescaping inverts escaping. -/
theorem unescape_escape (token : PyStr) : unescape (escape token) = token := by
  induction token with
  | nil => rfl
  | cons c s ih =>
    by_cases htilde : c = .scalar '~'
    · rw [htilde, escape_tilde, unescape_tilde, ih]
    · by_cases hslash : c = .scalar '/'
      · rw [hslash, escape_slash, unescape_slash, ih]
      · rw [escape_other htilde hslash, unescape_other htilde, ih]

theorem slash_not_mem_escape (token : PyStr) : PyChar.scalar '/' ∉ escape token := by
  induction token with
  | nil => exact List.not_mem_nil
  | cons c s ih =>
    by_cases htilde : c = .scalar '~'
    · rw [htilde, escape_tilde]
      simpa using ih
    · by_cases hslash : c = .scalar '/'
      · rw [hslash, escape_slash]
        simpa using ih
      · rw [escape_other htilde hslash, List.mem_cons, not_or]
        exact ⟨Ne.symm hslash, ih⟩

/-! ## Admitted texts -/

theorem hasInvalidEscape_other {c : PyChar} (h : c ≠ .scalar '~') (s : PyStr) :
    hasInvalidEscape (c :: s) = hasInvalidEscape s := by
  cases s with
  | nil => simp [hasInvalidEscape, h]
  | cons d s => simp [hasInvalidEscape, h]

theorem hasInvalidEscape_escape (token : PyStr) : hasInvalidEscape (escape token) = false := by
  induction token with
  | nil => rfl
  | cons c s ih =>
    by_cases htilde : c = .scalar '~'
    · rw [htilde, escape_tilde, hasInvalidEscape, hasInvalidEscape_other (by simp), ih]
      simp
    · by_cases hslash : c = .scalar '/'
      · rw [hslash, escape_slash, hasInvalidEscape, hasInvalidEscape_other (by simp), ih]
        simp
      · rw [escape_other htilde hslash, hasInvalidEscape_other htilde, ih]

/-- A slash ends every escape. -/
theorem hasInvalidEscape_append (s t : PyStr) :
    hasInvalidEscape (s ++ .scalar '/' :: t) = (hasInvalidEscape s || hasInvalidEscape t) := by
  induction s with
  | nil => exact hasInvalidEscape_other (by simp) t
  | cons c s ih =>
    by_cases htilde : c = .scalar '~'
    · cases s with
      | nil => simp [htilde, hasInvalidEscape]
      | cons d s =>
        rw [List.cons_append, List.cons_append, hasInvalidEscape, hasInvalidEscape,
          ← List.cons_append, ih, Bool.or_assoc]
    · rw [List.cons_append, hasInvalidEscape_other htilde, hasInvalidEscape_other htilde, ih]

/-- What is admitted as a token: without a slash, and with escapes only behind its tildes. -/
inductive Escaped : PyStr → Prop
  | nil : Escaped []
  | tilde {s : PyStr} : Escaped s → Escaped (.scalar '~' :: .scalar '0' :: s)
  | slash {s : PyStr} : Escaped s → Escaped (.scalar '~' :: .scalar '1' :: s)
  | other {c : PyChar} {s : PyStr} : c ≠ .scalar '~' → c ≠ .scalar '/' → Escaped s →
      Escaped (c :: s)

theorem escaped_of_valid : ∀ {s : PyStr}, hasInvalidEscape s = false → PyChar.scalar '/' ∉ s → Escaped s
  | [], _, _ => .nil
  | c :: s, hvalid, hslash => by
    rw [List.mem_cons, not_or] at hslash
    by_cases htilde : c = .scalar '~'
    · subst htilde
      match s, hvalid, hslash with
      | [], hvalid, _ => simp [hasInvalidEscape] at hvalid
      | d :: s, hvalid, hslash =>
        have hs : PyChar.scalar '/' ∉ s := fun h => hslash.2 (List.mem_cons_of_mem _ h)
        rw [hasInvalidEscape, Bool.or_eq_false_iff] at hvalid
        by_cases hd : d = .scalar '0'
        · subst hd
          rw [hasInvalidEscape_other (by simp)] at hvalid
          exact .tilde (escaped_of_valid hvalid.2 hs)
        · have hone : d = .scalar '1' := by simpa [hd] using hvalid.1
          subst hone
          rw [hasInvalidEscape_other (by simp)] at hvalid
          exact .slash (escaped_of_valid hvalid.2 hs)
    · rw [hasInvalidEscape_other htilde] at hvalid
      exact .other htilde (Ne.symm hslash.1) (escaped_of_valid hvalid hslash.2)

/-- Escaping inverts unescaping on an admitted token. -/
theorem Escaped.escape_unescape {s : PyStr} (h : Escaped s) : escape (unescape s) = s := by
  induction h with
  | nil => rfl
  | tilde _ ih => rw [unescape_tilde, escape_tilde, ih]
  | slash _ ih => rw [unescape_slash, escape_slash, ih]
  | other htilde hslash _ ih => rw [unescape_other htilde, escape_other htilde hslash, ih]

/-! ## Splitting -/

theorem flatMap_slash {parts : List PyStr} (h : parts ≠ []) :
    parts.flatMap (fun part => .scalar '/' :: part) =
      .scalar '/' :: [PyChar.scalar '/'].intercalate parts := by
  induction parts with
  | nil => exact (h rfl).elim
  | cons part parts ih =>
    cases parts with
    | nil => simp
    | cons next parts =>
      rw [List.flatMap_cons, ih (by simp), List.intercalate_cons_cons]
      simp

theorem hasInvalidEscape_intercalate {parts : List PyStr} (h : parts ≠ []) :
    hasInvalidEscape ([PyChar.scalar '/'].intercalate parts) = parts.any hasInvalidEscape := by
  induction parts with
  | nil => exact (h rfl).elim
  | cons part parts ih =>
    cases parts with
    | nil => simp
    | cons next parts =>
      rw [List.intercalate_cons_cons, List.append_assoc, List.singleton_append,
        hasInvalidEscape_append, ih (by simp)]
      rfl

theorem not_mem_of_mem_splitOn {s part : PyStr} {c : PyChar} (h : part ∈ s.splitOn c) : c ∉ part := by
  induction s generalizing part with
  | nil =>
    rw [List.splitOn_nil, List.mem_singleton] at h
    simp [h]
  | cons d s ih =>
    rw [List.splitOn_cons_eq_if_modifyHead] at h
    split at h
    · rcases List.mem_cons.mp h with rfl | h
      · exact List.not_mem_nil
      · exact ih h
    · next hd =>
      obtain ⟨first, rest, hsplit⟩ := List.exists_cons_of_ne_nil (List.splitOn_ne_nil c s)
      rw [hsplit, List.modifyHead_cons, List.mem_cons] at h
      rcases h with rfl | h
      · rw [List.mem_cons, not_or]
        exact ⟨fun heq => hd (by simp [heq]), ih (hsplit ▸ List.mem_cons_self)⟩
      · exact ih (hsplit ▸ List.mem_cons_of_mem _ h)

/-- A pointer is the text of its tokens, and of no others. -/
theorem pointer_eq_ok {p path : PyStr} {tokens : List PyStr} :
    pointer p path = .ok tokens ↔ p = pointerText tokens := by
  simp only [pointer, bind_eq_ok, exists_unit, failIf_eq_ok, pure, Except.pure, Except.ok.injEq]
  constructor
  · rintro ⟨hhead, hvalid, rfl⟩
    by_cases hp : p = []
    · rw [if_pos hp, hp]
      rfl
    rw [if_neg hp]
    obtain ⟨c, q, rfl⟩ := List.exists_cons_of_ne_nil hp
    obtain rfl : c = .scalar '/' := by simpa using hhead
    rw [hasInvalidEscape_other (by simp), Bool.not_eq_true] at hvalid
    have hparts : ∀ part ∈ q.splitOn (.scalar '/'), escape (unescape part) = part := by
      intro part hpart
      have hany := hasInvalidEscape_intercalate (List.splitOn_ne_nil (PyChar.scalar '/') q)
      rw [List.intercalate_splitOn, hvalid] at hany
      have hfine := List.any_eq_false.mp hany.symm part hpart
      exact (escaped_of_valid (Bool.not_eq_true _ ▸ hfine) (not_mem_of_mem_splitOn hpart)).escape_unescape
    rw [List.splitOn_cons_eq_if_modifyHead, if_pos (by simp), List.tail_cons, pointerText,
      List.flatMap_map, List.flatMap_congr fun part hpart => by rw [hparts part hpart],
      flatMap_slash (List.splitOn_ne_nil _ _), List.intercalate_splitOn]
  · rintro rfl
    cases tokens with
    | nil => simp [pointerText, hasInvalidEscape]
    | cons token tokens =>
      have hne : (token :: tokens).map escape ≠ [] := by simp
      have htext : pointerText (token :: tokens) =
          .scalar '/' :: [PyChar.scalar '/'].intercalate ((token :: tokens).map escape) := by
        rw [← flatMap_slash hne, List.flatMap_map]
        rfl
      have hslash : ∀ part ∈ (token :: tokens).map escape, PyChar.scalar '/' ∉ part := by
        intro part hpart
        obtain ⟨t, -, rfl⟩ := List.mem_map.mp hpart
        exact slash_not_mem_escape t
      have hfine : ((token :: tokens).map escape).any hasInvalidEscape = false := by
        rw [List.any_map, List.any_eq_false]
        exact fun t _ => by simp [hasInvalidEscape_escape]
      rw [htext]
      refine ⟨by simp, ?_, ?_⟩
      · rw [hasInvalidEscape_other (by simp), hasInvalidEscape_intercalate hne, hfine]
        simp
      · rw [if_neg (by simp), List.splitOn_cons_eq_if_modifyHead, if_pos (by simp), List.tail_cons,
          List.splitOn_intercalate _ hslash hne, List.map_map]
        exact (List.map_congr_left fun t _ => unescape_escape t).trans (List.map_id _)

/-! ## Numbers as tokens -/

theorem escape_natText (n : ℕ) : escape (natText n) = natText n := by
  have hdigits : ∀ ds : List Char, (∀ c ∈ ds, c.isDigit = true) →
      escape (ds.map .scalar) = ds.map .scalar := by
    intro ds hds
    induction ds with
    | nil => rfl
    | cons d ds ih =>
      have hd := hds d List.mem_cons_self
      have hne : ∀ c : Char, c.isDigit = false → PyChar.scalar d ≠ .scalar c := by
        rintro c hc heq
        rw [PyChar.scalar.inj heq, hc] at hd
        cases hd
      rw [List.map_cons, escape_other (hne '~' rfl) (hne '/' rfl),
        ih fun c hc => hds c (List.mem_cons_of_mem _ hc)]
  exact hdigits _ (Json.allDigits_toDigits n)

end Iperf3Lib.Artifacts
