import Iperf3Lib.Ipc.Codec

/-!
# What the encoder emits

`Encodes F v t b` relates a value to its compact JSON text, the bytes of that text, the chunks the
generator yields for it and the estimate that `visit` makes of it. Every strict value has such a
text and bytes, by induction over the value, so `encodeFrame` fails on a strict message only for its
length or for a `type` member that cannot be hashed.
-/

namespace Iperf3Lib.Ipc

open Py Json

/-! ## Strict values -/

/-- What strict JSON asks of one value: no unpaired surrogate, a convertible integer, a finite
number, distinct keys. -/
def StrictNode (F : Faults Exc) : PyVal → Prop
  | .str s => s.isScalar = true
  | .int n => (Nat.toDigits 10 n.natAbs).length ≤ F.maxStrDigits
  | .float x => x.isFinite = true
  | .dict kvs => (PyDict.keys kvs).Nodup
  | .obj _ _ => False
  | _ => True

mutual

/-- The nesting depth of the deepest value inside a value. -/
def height : PyVal → ℕ
  | .list xs => heightItems xs
  | .tuple xs => heightItems xs
  | .dict kvs => heightPairs kvs
  | _ => 0

def heightItems : List PyVal → ℕ
  | [] => 0
  | x :: xs => max (height x + 1) (heightItems xs)

def heightPairs : List (PyStr × PyVal) → ℕ
  | [] => 0
  | (_, v) :: kvs => max (height v + 1) (heightPairs kvs)

end

/-- Strict JSON within the protocol's nesting. -/
structure Strict (F : Faults Exc) (v : PyVal) : Prop where
  nodes : v.All (StrictNode F)
  depth : height v ≤ maxDepth

/-! ## Chunks -/

/-- The chunks are all there and make up the bytes. -/
def Yields (chunks : List (Except Exc (List UInt8))) (b : List UInt8) : Prop :=
  ∃ pieces : List (List UInt8), chunks = pieces.map .ok ∧ pieces.flatten = b

theorem Yields.nil : Yields [] [] := ⟨[], rfl, rfl⟩

theorem Yields.append {cs ds : List (Except Exc (List UInt8))} {a b : List UInt8}
    (hc : Yields cs a) (hd : Yields ds b) : Yields (cs ++ ds) (a ++ b) := by
  obtain ⟨ps, rfl, rfl⟩ := hc
  obtain ⟨qs, rfl, rfl⟩ := hd
  exact ⟨ps ++ qs, by simp, by simp⟩

theorem Yields.cons {c : Except Exc (List UInt8)} {cs : List (Except Exc (List UInt8))}
    {a b : List UInt8} (hc : c = .ok a) (hcs : Yields cs b) : Yields (c :: cs) (a ++ b) := by
  obtain ⟨ps, rfl, rfl⟩ := hcs
  exact ⟨a :: ps, by simp [hc], rfl⟩

theorem Yields.singleton {c : Except Exc (List UInt8)} {a : List UInt8} (hc : c = .ok a) :
    Yields [c] a := ⟨[a], by simp [hc], by simp⟩

theorem encodeUtf8_eq_ok {s : PyStr} {b : List UInt8} : encodeUtf8 s = .ok b ↔ s.utf8Encode = some b := by
  unfold encodeUtf8
  split <;> simp_all

/-- Chunks are joined exactly when all of them fit. -/
theorem joinChunks_yields {chunks : List (Except Exc (List UInt8))} {b : List UInt8}
    (h : Yields chunks b) {maxBytes : ℕ} {body : List UInt8} (hbody : body.length ≤ maxBytes) :
    joinChunks maxBytes body chunks =
      if body.length + b.length ≤ maxBytes then .ok (body ++ b)
      else ipcError "Worker frame exceeds its byte limit" := by
  obtain ⟨ps, rfl, rfl⟩ := h
  induction ps generalizing body with
  | nil => simp [joinChunks, hbody]
  | cons p ps ih =>
    simp only [List.map_cons, joinChunks, List.flatten_cons, List.length_append]
    by_cases hp : body.length + p.length ≤ maxBytes
    · rw [if_neg (by omega), ih (by simpa using hp)]
      simp only [List.length_append, List.append_assoc, Nat.add_assoc]
    · rw [if_pos (by omega), if_neg (by omega)]

/-- The pieces of a string make it up. -/
theorem flatten_pieces (s : PyStr) : (pieces s).flatten = s := by
  have htake : ∀ k, ((List.range k).map fun i => (s.drop (i * stringChunk)).take stringChunk).flatten
      = s.take (k * stringChunk) := by
    intro k
    induction k with
    | zero => simp
    | succ k ih =>
      rw [List.range_succ, List.map_append, List.flatten_append, ih, Nat.succ_mul, List.take_add]
      simp
  rw [pieces, htake, List.take_of_length_le]
  unfold stringChunk
  omega

/-- Escaping piece by piece yields the bytes of the whole string. -/
theorem yields_pieces {ps : List PyStr} {b : List UInt8}
    (h : (escapeStr false ps.flatten).utf8Encode = some b) :
    Yields (ps.map fun piece => encodeUtf8 (escapeStr false piece)) b := by
  induction ps generalizing b with
  | nil =>
    obtain rfl : b = [] := by simpa [escapeStr, PyStr.utf8Encode, PyStr.toChars?, eq_comm] using h
    exact .nil
  | cons p ps ih =>
    rw [List.flatten_cons, escapeStr_append] at h
    have hscalar := PyStr.utf8Encode_isSome (s := escapeStr false p ++ escapeStr false ps.flatten)
    rw [h, Option.isSome_some, PyStr.isScalar_append, eq_comm, Bool.and_eq_true,
      ← PyStr.utf8Encode_isSome, ← PyStr.utf8Encode_isSome] at hscalar
    obtain ⟨a, ha⟩ := Option.isSome_iff_exists.mp hscalar.1
    obtain ⟨c, hc⟩ := Option.isSome_iff_exists.mp hscalar.2
    obtain rfl : a ++ c = b := Option.some.inj ((PyStr.utf8Encode_append ha hc).symm.trans h)
    exact .cons (encodeUtf8_eq_ok.mpr ha) (ih hc)

/-! ## Strings -/

theorem bounded_eq_ok {maximum minimum : ℕ} (h : minimum ≤ maximum) :
    bounded maximum minimum = .ok minimum := if_neg (by omega)

/-- A string without surrogates has bytes, its chunks yield them, and they outweigh the estimate. -/
theorem encodesStr {s : PyStr} (hs : s.isScalar = true) :
    ∃ b, (dumpStr false s).utf8Encode = some b ∧ Yields (stringChunks s) b ∧
      ∀ maximum minimum, minimum + b.length ≤ maximum →
        ∃ m ≤ minimum + b.length, visitStr maximum s minimum = .ok m := by
  have hesc : (escapeStr false s).isScalar = true := isScalar_escapeStr hs false
  rw [← PyStr.utf8Encode_isSome] at hesc
  obtain ⟨a, ha⟩ := Option.isSome_iff_exists.mp hesc
  have hquote : PyStr.utf8Encode [.scalar '"'] = some [34] := by decide
  have hlen := PyStr.length_le_length_utf8Encode ha
  have hlen' := length_le_length_escapeStr false s
  refine ⟨[34] ++ (a ++ [34]), ?_, ?_, ?_⟩
  · exact PyStr.utf8Encode_append (s := [.scalar '"']) hquote (PyStr.utf8Encode_append ha hquote)
  · refine .cons (encodeUtf8_eq_ok.mpr hquote) (.append (yields_pieces ?_)
      (.singleton (encodeUtf8_eq_ok.mpr hquote)))
    rw [flatten_pieces]
    exact ha
  · intro maximum minimum h
    simp only [List.length_append, List.length_singleton] at h ⊢
    refine ⟨minimum + (s.length + 2), by omega, ?_⟩
    rw [visitStr, bounded_eq_ok (by omega)]
    simp [bind, Except.bind, hs, pure, Except.pure]

/-! ## Values -/

/-- The text and the bytes of a value, and what the generator and the estimate make of it. -/
structure Encodes (F : Faults Exc) (v : PyVal) (t : PyStr) (b : List UInt8) : Prop where
  dump : ∀ d, dump .compact F d v = .ok t
  utf8 : t.utf8Encode = some b
  chunks : Yields (jsonChunks F v) b
  visit : ∀ maximum depth minimum, depth + height v ≤ maxDepth →
    minimum + b.length ≤ maximum →
    ∃ m ≤ minimum + b.length, visit maximum v depth minimum = .ok m

variable {F : Faults Exc}

/-- A number has no more than four bits to a decimal digit. -/
theorem bitLength_div_le (n : ℤ) : bitLength n / 4 ≤ (Nat.toDigits 10 n.natAbs).length := by
  unfold bitLength
  split
  · simp
  · next hn =>
    set k := (Nat.toDigits 10 n.natAbs).length
    have hlt : n.natAbs < 10 ^ k := by
      have := ofDigitChars_lt (allDigits_toDigits n.natAbs)
      rwa [Nat.ofDigitChars_ten_toDigits] at this
    have hpow : n.natAbs < 2 ^ (4 * k) :=
      calc n.natAbs < 10 ^ k := hlt
        _ ≤ 16 ^ k := Nat.pow_le_pow_left (by omega) k
        _ = 2 ^ (4 * k) := by rw [Nat.pow_mul]
    have := Nat.log_lt_of_lt_pow (by omega) hpow
    omega

private theorem length_utf8_map_scalar {cs : List Char} {b : List UInt8}
    (h : PyStr.utf8Encode (cs.map .scalar) = some b) : cs.length ≤ b.length := by
  simpa using PyStr.length_le_length_utf8Encode h

/-- A scalar that is written in ASCII. -/
private theorem encodes_atom {v : PyVal} (cs : List Char) (k : ℕ)
    (hatom : dumpAtom F v = .ok (cs.map .scalar))
    (hdump : ∀ d, Json.dump .compact F d v = dumpAtom F v)
    (hchunks : jsonChunks F v = [dumpAtom F v >>= encodeUtf8])
    (hk : k ≤ cs.length)
    (hvisit : ∀ maximum depth minimum, depth ≤ maxDepth →
      visit maximum v depth minimum = bounded maximum (minimum + k)) :
    ∃ t b, Encodes F v t b := by
  have hutf := PyStr.utf8Encode_map_scalar cs
  have hlen := length_utf8_map_scalar hutf
  refine ⟨_, _, fun d => (hdump d).trans hatom, hutf, ?_, ?_⟩
  · rw [hchunks, hatom]
    exact .singleton (encodeUtf8_eq_ok.mpr hutf)
  · intro maximum depth minimum hd hm
    exact ⟨minimum + k, by omega, by rw [hvisit _ _ _ (by omega), bounded_eq_ok (by omega)]⟩

/-- What follows the first item of an array: text, bytes, chunks and estimate. -/
structure EncodesItems (F : Faults Exc) (xs : List PyVal) (t : PyStr) (b : List UInt8) : Prop where
  dump : ∀ d, ∃ rest, dumpItems .compact F d xs = .ok rest ∧
    t = if xs.isEmpty then rest else .scalar ',' :: rest
  utf8 : t.utf8Encode = some b
  chunks : Yields (itemChunks F false xs ++ [encodeUtf8 "]"]) b
  visit : ∃ n, b.length = n + xs.length + 1 ∧
    ∀ maximum depth minimum, depth + heightItems xs ≤ maxDepth → minimum + n ≤ maximum →
      ∃ m ≤ minimum + n, visitItems maximum xs (depth + 1) minimum = .ok m

/-- What follows the first member of an object. -/
structure EncodesPairs (F : Faults Exc) (kvs : List (PyStr × PyVal)) (t : PyStr)
    (b : List UInt8) : Prop where
  dump : ∀ d, ∃ rest, dumpPairs .compact F d kvs = .ok rest ∧
    t = if kvs.isEmpty then rest else .scalar ',' :: rest
  utf8 : t.utf8Encode = some b
  chunks : Yields (pairChunks F false kvs ++ [encodeUtf8 "\x7d"]) b
  visit : ∃ n, b.length = n + kvs.length + 1 ∧
    ∀ maximum depth minimum, depth + heightPairs kvs ≤ maxDepth → minimum + n ≤ maximum →
      ∃ m ≤ minimum + n, visitPairs maximum kvs (depth + 1) minimum = .ok m

/-- The items behind the first one, from the encodings of each. -/
theorem encodesItems {xs : List PyVal} (h : ∀ x ∈ xs, ∃ t b, Encodes F x t b) :
    ∃ t b, EncodesItems F xs t b := by
  induction xs with
  | nil =>
    refine ⟨[.scalar ']'], [93], fun d => ⟨_, rfl, rfl⟩, by decide,
      .singleton (encodeUtf8_eq_ok.mpr (by decide)), 0, rfl, ?_⟩
    intro maximum depth minimum _ hm
    exact ⟨minimum, by omega, rfl⟩
  | cons x xs ih =>
    obtain ⟨t, b, hx⟩ := h x List.mem_cons_self
    obtain ⟨t', b', hxs⟩ := ih fun y hy => h y (List.mem_cons_of_mem _ hy)
    obtain ⟨n, hn, hvisit⟩ := hxs.visit
    have hcomma : PyStr.utf8Encode [.scalar ','] = some [44] := by decide
    refine ⟨[.scalar ','] ++ (t ++ t'), [44] ++ (b ++ b'), ?_, ?_, ?_, b.length + n, ?_, ?_⟩
    · intro d
      obtain ⟨rest, hrest, rfl⟩ := hxs.dump d
      refine ⟨t ++ _, ?_, rfl⟩
      simp only [dumpItems, hx.dump, hrest, bind, Except.bind, pure, Except.pure]
      rfl
    · exact PyStr.utf8Encode_append hcomma (PyStr.utf8Encode_append hx.utf8 hxs.utf8)
    · simp only [itemChunks, Bool.false_eq_true, if_false, List.append_assoc, List.singleton_append]
      exact .cons (encodeUtf8_eq_ok.mpr hcomma) (hx.chunks.append hxs.chunks)
    · simp only [List.length_append, List.length_cons, List.length_nil, hn]
      omega
    · intro maximum depth minimum hd hm
      simp only [heightItems] at hd
      obtain ⟨m, hm1, hm2⟩ := hx.visit maximum (depth + 1) minimum (by omega) (by omega)
      obtain ⟨m', hm1', hm2'⟩ := hvisit maximum depth m
        (by omega) (by omega)
      refine ⟨m', by omega, ?_⟩
      simp only [visitItems, hm2, bind, Except.bind, hm2']

/-- The members behind the first one, from the encodings of each. -/
theorem encodesPairs {kvs : List (PyStr × PyVal)}
    (h : ∀ kv ∈ kvs, kv.1.isScalar = true ∧ ∃ t b, Encodes F kv.2 t b) :
    ∃ t b, EncodesPairs F kvs t b := by
  induction kvs with
  | nil =>
    refine ⟨[.scalar '}'], [125], fun d => ⟨_, rfl, rfl⟩, by decide,
      .singleton (encodeUtf8_eq_ok.mpr (by decide)), 0, rfl, ?_⟩
    intro maximum depth minimum _ hm
    exact ⟨minimum, by omega, rfl⟩
  | cons kv kvs ih =>
    obtain ⟨k, v⟩ := kv
    obtain ⟨hk, t, b, hv⟩ : k.isScalar = true ∧ ∃ t b, Encodes F v t b := h (k, v) List.mem_cons_self
    obtain ⟨t', b', hkvs⟩ := ih fun kv hkv => h kv (List.mem_cons_of_mem _ hkv)
    obtain ⟨a, ha, hchunks, hkey⟩ := encodesStr hk
    obtain ⟨n, hn, hvisit⟩ := hkvs.visit
    have hcomma : PyStr.utf8Encode [.scalar ','] = some [44] := by decide
    have hcolon : PyStr.utf8Encode [.scalar ':'] = some [58] := by decide
    refine ⟨[.scalar ','] ++ (dumpStr false k ++ ([.scalar ':'] ++ (t ++ t'))),
      [44] ++ (a ++ ([58] ++ (b ++ b'))), ?_, ?_, ?_, a.length + 1 + b.length + n, ?_, ?_⟩
    · intro d
      obtain ⟨rest, hrest, rfl⟩ := hkvs.dump d
      refine ⟨_, ?_, rfl⟩
      simp only [dumpPairs, hv.dump, hrest, bind, Except.bind, pure, Except.pure, dumpStr]
      simp [Layout.compact]
    · exact PyStr.utf8Encode_append hcomma (PyStr.utf8Encode_append ha
        (PyStr.utf8Encode_append hcolon (PyStr.utf8Encode_append hv.utf8 hkvs.utf8)))
    · simp only [pairChunks, Bool.false_eq_true, if_false, List.append_assoc, List.cons_append]
      exact .cons (encodeUtf8_eq_ok.mpr hcomma) (hchunks.append
        (.cons (encodeUtf8_eq_ok.mpr hcolon) (hv.chunks.append hkvs.chunks)))
    · simp only [List.length_append, List.length_cons, List.length_nil, hn]
      omega
    · intro maximum depth minimum hd hm
      simp only [heightPairs] at hd
      obtain ⟨m, hm1, hm2⟩ := hkey maximum (minimum + 1) (by omega)
      obtain ⟨m', hm1', hm2'⟩ := hv.visit maximum (depth + 1) m (by omega) (by omega)
      obtain ⟨m'', hm1'', hm2''⟩ := hvisit maximum depth m'
        (by omega) (by omega)
      refine ⟨m'', by omega, ?_⟩
      simp only [visitPairs, visitKey, if_neg (show ¬ depth + 1 > maxDepth by omega), hm2, bind,
        Except.bind, hm2', hm2'']

/-- An array of either kind, from the encodings of its items. -/
private theorem encodesArray {v : PyVal} {xs : List PyVal}
    (hdump : ∀ d, dump .compact F d v = if xs.isEmpty then .ok ("[]" : String) else do
      let body ← dumpItems .compact F d xs
      return .scalar '[' :: (Layout.compact.brk (d + 1) ++ body))
    (hchunks : jsonChunks F v = encodeUtf8 "[" :: (itemChunks F true xs ++ [encodeUtf8 "]"]))
    (hvisit : ∀ maximum depth minimum, depth ≤ maxDepth → visit maximum v depth minimum = do
      let minimum ← bounded maximum (minimum + (2 + (xs.length - 1)))
      bounded maximum (← visitItems maximum xs (depth + 1) minimum))
    (hheight : height v = heightItems xs) (h : ∀ x ∈ xs, ∃ t b, Encodes F x t b) :
    ∃ t b, Encodes F v t b := by
  have hopen : PyStr.utf8Encode [.scalar '['] = some [91] := by decide
  have hclose : PyStr.utf8Encode [.scalar ']'] = some [93] := by decide
  cases xs with
  | nil =>
    refine ⟨[.scalar '['] ++ [.scalar ']'], [91] ++ [93], fun d => (hdump d).trans (if_pos rfl),
      PyStr.utf8Encode_append hopen hclose, ?_, ?_⟩
    · rw [hchunks]
      exact .cons (encodeUtf8_eq_ok.mpr hopen) (.singleton (encodeUtf8_eq_ok.mpr hclose))
    · intro maximum depth minimum hd hm
      simp only [List.length_append, List.length_singleton] at hm ⊢
      refine ⟨minimum + 2, by omega, ?_⟩
      simp [hvisit _ _ _ (by omega : depth ≤ maxDepth), bounded_eq_ok hm, visitItems, bind,
        Except.bind]
  | cons x xs =>
    obtain ⟨t, b, hx⟩ := h x List.mem_cons_self
    obtain ⟨t', b', hxs⟩ := encodesItems fun y hy => h y (List.mem_cons_of_mem _ hy)
    obtain ⟨n, hn, hitems⟩ := hxs.visit
    refine ⟨[.scalar '['] ++ (t ++ t'), [91] ++ (b ++ b'), ?_, ?_, ?_, ?_⟩
    · intro d
      obtain ⟨rest, hrest, rfl⟩ := hxs.dump d
      rw [hdump, if_neg (by simp)]
      simp only [dumpItems, hx.dump, hrest, bind, Except.bind, pure, Except.pure]
      rfl
    · exact PyStr.utf8Encode_append hopen (PyStr.utf8Encode_append hx.utf8 hxs.utf8)
    · rw [hchunks]
      simp only [itemChunks, if_true, List.nil_append, List.append_assoc]
      exact .cons (encodeUtf8_eq_ok.mpr hopen) (hx.chunks.append hxs.chunks)
    · intro maximum depth minimum hd hm
      simp only [hheight, heightItems] at hd
      simp only [List.length_append, List.length_singleton, hn] at hm ⊢
      obtain ⟨m, hm1, hm2⟩ := hx.visit maximum (depth + 1)
        (minimum + (2 + ((x :: xs).length - 1)))
        (by omega) (by simp only [List.length_cons]; omega)
      obtain ⟨m', hm1', hm2'⟩ := hitems maximum depth m
        (by omega) (by simp only [List.length_cons] at hm1; omega)
      simp only [List.length_cons] at hm1
      refine ⟨m', by omega, ?_⟩
      rw [hvisit _ _ _ (by omega), bounded_eq_ok (by simp only [List.length_cons]; omega)]
      simp only [visitItems, bind, Except.bind, hm2, hm2']
      exact bounded_eq_ok (by omega)

/-- An object, from the encodings of its members. -/
private theorem encodesDict {kvs : List (PyStr × PyVal)}
    (h : ∀ kv ∈ kvs, kv.1.isScalar = true ∧ ∃ t b, Encodes F kv.2 t b) :
    ∃ t b, Encodes F (.dict kvs) t b := by
  have hopen : PyStr.utf8Encode [.scalar '{'] = some [123] := by decide
  have hclose : PyStr.utf8Encode [.scalar '}'] = some [125] := by decide
  have hcolon : PyStr.utf8Encode [.scalar ':'] = some [58] := by decide
  have hvisit : ∀ maximum depth minimum, depth ≤ maxDepth →
      visit maximum (.dict kvs) depth minimum = (do
        let minimum ← bounded maximum (minimum + (2 + (kvs.length - 1)))
        bounded maximum (← visitPairs maximum kvs (depth + 1) minimum)) := by
    intro maximum depth minimum hd
    rw [Ipc.visit, if_neg (by omega)]
  cases kvs with
  | nil =>
    refine ⟨[.scalar '{'] ++ [.scalar '}'], [123] ++ [125], fun d => rfl,
      PyStr.utf8Encode_append hopen hclose, ?_, ?_⟩
    · exact .cons (encodeUtf8_eq_ok.mpr hopen) (.singleton (encodeUtf8_eq_ok.mpr hclose))
    · intro maximum depth minimum hd hm
      simp only [List.length_append, List.length_singleton] at hm ⊢
      refine ⟨minimum + 2, by omega, ?_⟩
      simp [hvisit _ _ _ (by omega : depth ≤ maxDepth), bounded_eq_ok hm, visitPairs, bind,
        Except.bind]
  | cons kv kvs =>
    obtain ⟨k, v⟩ := kv
    obtain ⟨hk, t, b, hv⟩ : k.isScalar = true ∧ ∃ t b, Encodes F v t b := h (k, v) List.mem_cons_self
    obtain ⟨t', b', hkvs⟩ := encodesPairs fun kv hkv => h kv (List.mem_cons_of_mem _ hkv)
    obtain ⟨a, ha, hchunks, hkey⟩ := encodesStr hk
    obtain ⟨n, hn, hpairs⟩ := hkvs.visit
    refine ⟨[.scalar '{'] ++ (dumpStr false k ++ ([.scalar ':'] ++ (t ++ t'))),
      [123] ++ (a ++ ([58] ++ (b ++ b'))), ?_, ?_, ?_, ?_⟩
    · intro d
      obtain ⟨rest, hrest, rfl⟩ := hkvs.dump d
      simp only [dump, dumpPairs, hv.dump, hrest, bind, Except.bind, pure, Except.pure, dumpStr]
      simp [Layout.compact]
    · exact PyStr.utf8Encode_append hopen (PyStr.utf8Encode_append ha
        (PyStr.utf8Encode_append hcolon (PyStr.utf8Encode_append hv.utf8 hkvs.utf8)))
    · simp only [jsonChunks, pairChunks, if_true, List.nil_append, List.append_assoc,
        List.cons_append]
      exact .cons (encodeUtf8_eq_ok.mpr hopen) (hchunks.append
        (.cons (encodeUtf8_eq_ok.mpr hcolon) (hv.chunks.append hkvs.chunks)))
    · intro maximum depth minimum hd hm
      simp only [height, heightPairs] at hd
      simp only [List.length_append, List.length_singleton, hn] at hm ⊢
      obtain ⟨m, hm1, hm2⟩ := hkey maximum
        (minimum + (2 + (((k, v) :: kvs).length - 1)) + 1)
        (by simp only [List.length_cons]; omega)
      simp only [List.length_cons] at hm1
      obtain ⟨m', hm1', hm2'⟩ := hv.visit maximum (depth + 1) m (by omega) (by omega)
      obtain ⟨m'', hm1'', hm2''⟩ := hpairs maximum depth m'
        (by omega) (by omega)
      refine ⟨m'', by omega, ?_⟩
      rw [hvisit _ _ _ (by omega), bounded_eq_ok (by simp only [List.length_cons]; omega)]
      simp only [visitPairs, visitKey, if_neg (show ¬ depth + 1 > maxDepth by omega), bind,
        Except.bind, hm2, hm2', hm2'']
      exact bounded_eq_ok (by omega)

/-- Every strict value has a text, its bytes, its chunks and an estimate below their number. -/
theorem encodes_of_strict {v : PyVal} (hv : v.All (StrictNode F)) : ∃ t b, Encodes F v t b := by
  induction v with
  | none =>
    refine encodes_atom "null".toList 4 rfl (fun _ => rfl) rfl (by decide) ?_
    intro maximum depth minimum hd
    rw [visit, if_neg (by omega)]
  | bool b =>
    refine encodes_atom (if b then "true" else "false").toList (if b then 4 else 5) ?_
      (fun _ => rfl) rfl ?_ ?_
    · cases b <;> rfl
    · cases b <;> decide
    · intro maximum depth minimum hd
      rw [visit, if_neg (by omega)]
  | int n =>
    have hpos : 0 < (Nat.toDigits 10 n.natAbs).length := List.length_pos_iff.mpr Nat.toDigits_ne_nil
    refine encodes_atom (intRepr n) (max 1 (bitLength n / 4)) (if_pos hv) (fun _ => rfl) rfl
      ?_ ?_
    · have := bitLength_div_le n
      simp only [intRepr, numberText, List.length_append]
      omega
    · intro maximum depth minimum hd
      rw [visit, if_neg (by omega)]
  | float x =>
    obtain ⟨x, rfl⟩ : ∃ y, x = .finite y := by
      cases x <;> first | exact ⟨_, rfl⟩ | cases hv
    obtain ⟨ds, fs, e, hds, -, -, hrepr, -⟩ := exists_floatRepr x
    refine encodes_atom (floatRepr x) 1 rfl (fun _ => rfl) rfl ?_ ?_
    · have := List.length_pos_iff.mpr hds.ne_nil
      simp only [hrepr, numberText, List.length_append]
      omega
    · intro maximum depth minimum hd
      rw [visit, if_neg (by omega)]
      rfl
  | str s =>
    obtain ⟨b, hb, hchunks, hvisit⟩ := encodesStr hv
    refine ⟨_, b, fun _ => rfl, hb, hchunks, ?_⟩
    intro maximum depth minimum hd hm
    obtain ⟨m, hm1, hm2⟩ := hvisit maximum minimum hm
    exact ⟨m, hm1, by rw [visit, if_neg (by simp only [height] at hd; omega), hm2]⟩
  | list xs ih =>
    refine encodesArray (fun _ => rfl) rfl ?_ rfl
      fun x hx => ih x hx (PyVal.allItems_iff.mp hv.2 x hx)
    intro maximum depth minimum hd
    rw [visit, if_neg (by omega)]
  | tuple xs ih =>
    refine encodesArray (fun _ => rfl) rfl ?_ rfl
      fun x hx => ih x hx (PyVal.allItems_iff.mp hv.2 x hx)
    intro maximum depth minimum hd
    rw [visit, if_neg (by omega)]
  | dict kvs ih =>
    have hall := PyVal.allPairs_iff.mp hv.2
    exact encodesDict fun kv hkv => ⟨(hall kv hkv).1, ih kv hkv (hall kv hkv).2⟩
  | obj cls fields => exact absurd hv.self id

/-! ## Frames -/

/-- The UTF-8 JSON text of a value. -/
def jsonBody (F : Faults Exc) (v : PyVal) : Option (List UInt8) :=
  match dump .compact F 0 v with
  | .ok t => t.utf8Encode
  | .error _ => none

theorem Encodes.jsonBody {v : PyVal} {t : PyStr} {b : List UInt8} (h : Encodes F v t b) :
    jsonBody F v = some b := by rw [Ipc.jsonBody, h.dump]; exact h.utf8

/-- The message is of one of the event types. -/
def ofEventType (message : PyDict) : Bool :=
  match message.get? "type" with
  | some (.str s) => s = "event" || s = "live_event"
  | _ => false

/-- The `type` member, when there is one, can be hashed. -/
def typeHashable (message : PyDict) : Bool :=
  match message.get? "type" with
  | some v => hashable v
  | none => true

/-- The limit on the body of a message. -/
def bodyLimit (message : PyDict) (maxBytes : ℤ) : ℕ :=
  if ofEventType message then min maxBytes.toNat maxEventBytes else maxBytes.toNat

theorem isEvent_eq (message : PyDict) : isEvent message =
    if typeHashable message then .ok (ofEventType message)
    else .error ⟨.typeError, "unhashable type"⟩ := by
  unfold isEvent typeHashable ofEventType
  split
  · next h => simp [h]
  · next h => simp [h, hashable]
  · next v hs h =>
    rw [h]
    cases v with
    | str s => exact absurd rfl (hs s)
    | _ => rfl

theorem checkJson_of_visit {v : PyVal} {maximum m : ℕ} (h : visit maximum v 0 0 = .ok m) :
    checkJson v maximum = .ok () := by
  simp [checkJson, h, bind, Except.bind, pure, Except.pure]

/-- The estimate of a strict value never exceeds a limit that its text meets. -/
theorem Encodes.checkJson {v : PyVal} {t : PyStr} {b : List UInt8} (h : Encodes F v t b)
    (hd : height v ≤ maxDepth) {maximum : ℕ} (hb : b.length ≤ maximum) :
    checkJson v maximum = .ok () := by
  obtain ⟨m, -, hm⟩ := h.visit maximum 0 0 (by omega) (by omega)
  exact checkJson_of_visit hm

/-- A frame comes of a strict message exactly when its type can be hashed and its text fits. -/
theorem encodeFrame_eq_ok {kvs : PyDict} (hs : Strict F (.dict kvs)) {maxBytes : ℤ}
    (hmax : 0 < maxBytes ∧ maxBytes ≤ maxFrameBytes) {b : List UInt8}
    (hb : jsonBody F (.dict kvs) = some b) {frame : List UInt8} :
    encodeFrame F (.dict kvs) maxBytes = .ok frame ↔
      typeHashable kvs = true ∧ b.length ≤ bodyLimit kvs maxBytes ∧
        frame = packLength b.length ++ b := by
  obtain ⟨t, b', henc⟩ := encodes_of_strict hs.nodes
  obtain rfl : b' = b := Option.some.inj (henc.jsonBody.symm.trans hb)
  have hlimit : (if ofEventType kvs then min maxBytes.toNat maxEventBytes else maxBytes.toNat) =
      bodyLimit kvs maxBytes := rfl
  have hjoin := @joinChunks_yields _ _ henc.chunks (bodyLimit kvs maxBytes) [] (Nat.zero_le _)
  rw [List.length_nil, Nat.zero_add, List.nil_append] at hjoin
  simp only [encodeFrame, hmax, and_self, isEvent_eq]
  by_cases hh : typeHashable kvs = true
  · simp only [hh, if_true, bind, Except.bind, pure, Except.pure, not_true, if_false, hlimit, true_and]
    by_cases hfit : b'.length ≤ bodyLimit kvs maxBytes
    · simp only [henc.checkJson hs.depth hfit, hjoin, hfit, if_true, true_and, Except.ok.injEq]
      exact eq_comm
    · simp only [hfit, false_and, iff_false]
      cases Ipc.checkJson (.dict kvs) (bodyLimit kvs maxBytes) with
      | error e => exact fun h => nomatch h
      | ok u =>
        simp only [hjoin, hfit, if_false]
        exact fun h => nomatch h
  · simp only [hh, Bool.false_eq_true, if_false, false_and, iff_false, bind, Except.bind, not_true]
    exact fun h => nomatch h

/-! ## Reading a body back -/

open PyVal in
/-- The writer does not tell a tuple from a list. -/
theorem dump_asJson (L : Layout) (v : PyVal) (d : ℕ) : dump L F d v.asJson = dump L F d v := by
  have hempty : ∀ xs, (asJsonItems xs).isEmpty = xs.isEmpty := fun xs => by cases xs <;> rfl
  have hempty' : ∀ kvs, (asJsonPairs kvs).isEmpty = kvs.isEmpty := fun xs => by cases xs <;> rfl
  have hitems : ∀ xs : List PyVal, (∀ x ∈ xs, ∀ d, dump L F d x.asJson = dump L F d x) →
      ∀ d, dumpItems L F d (asJsonItems xs) = dumpItems L F d xs := by
    intro xs h d
    induction xs with
    | nil => rfl
    | cons x xs ih =>
      rw [asJsonItems, dumpItems, h x List.mem_cons_self,
        ih fun y hy => h y (List.mem_cons_of_mem _ hy), hempty, dumpItems]
  induction v generalizing d with
  | list xs ih => simp only [asJson, dump, hempty, hitems xs (fun x hx d => ih x hx d)]
  | tuple xs ih => simp only [asJson, dump, hempty, hitems xs (fun x hx d => ih x hx d)]
  | dict kvs ih =>
    simp only [asJson, dump, hempty']
    congr 2
    induction kvs with
    | nil => rfl
    | cons kv kvs ihk =>
      obtain ⟨k, v⟩ := kv
      rw [asJsonPairs, dumpPairs, ih (k, v) List.mem_cons_self,
        ihk fun kv hkv => ih kv (List.mem_cons_of_mem _ hkv), hempty', dumpPairs]
  | _ => rfl

open PyVal in
theorem height_asJson (v : PyVal) : height v.asJson = height v := by
  have hitems : ∀ xs : List PyVal, (∀ x ∈ xs, height x.asJson = height x) →
      heightItems (asJsonItems xs) = heightItems xs := by
    intro xs h
    induction xs with
    | nil => rfl
    | cons x xs ih =>
      rw [asJsonItems, heightItems, h x List.mem_cons_self,
        ih fun y hy => h y (List.mem_cons_of_mem _ hy), heightItems]
  induction v with
  | list xs ih => exact hitems xs ih
  | tuple xs ih => exact hitems xs ih
  | dict kvs ih =>
    rw [asJson, height, height]
    induction kvs with
    | nil => rfl
    | cons kv kvs ihk =>
      obtain ⟨k, v⟩ := kv
      rw [asJsonPairs, heightPairs, ih (k, v) List.mem_cons_self,
        ihk fun kv hkv => ih kv (List.mem_cons_of_mem _ hkv), heightPairs]
  | _ => rfl

open PyVal in
theorem all_asJson {v : PyVal} (hv : v.All (StrictNode F)) : v.asJson.All (StrictNode F) := by
  have hitems : ∀ xs : List PyVal, (∀ x ∈ xs, x.asJson.All (StrictNode F)) →
      AllItems (StrictNode F) (asJsonItems xs) := by
    intro xs h
    rw [PyVal.allItems_iff, asJsonItems_eq]
    simpa using h
  induction v with
  | list xs ih => exact ⟨trivial, hitems xs fun x hx => ih x hx (PyVal.allItems_iff.mp hv.2 x hx)⟩
  | tuple xs ih => exact ⟨trivial, hitems xs fun x hx => ih x hx (PyVal.allItems_iff.mp hv.2 x hx)⟩
  | dict kvs ih =>
    refine ⟨by rw [StrictNode, keys_asJsonPairs]; exact hv.1, ?_⟩
    rw [PyVal.allPairs_iff, asJsonPairs_eq]
    intro kv hkv
    obtain ⟨kv, hmem, rfl⟩ := List.mem_map.mp hkv
    have := PyVal.allPairs_iff.mp hv.2 kv hmem
    exact ⟨this.1, ih kv hmem this.2⟩
  | _ => exact hv

theorem object_eq {result kvs : PyDict} (hd : (result ++ kvs).keys.Nodup) :
    object result kvs = .ok (result ++ kvs) := by
  induction kvs generalizing result with
  | nil => simp [object]
  | cons kv kvs ih =>
    obtain ⟨k, v⟩ := kv
    have hk : ¬ (PyDict.get? result k).isSome = true := by
      rw [PyDict.get?_isSome]
      simp only [PyDict.keys, List.map_append, List.map_cons] at hd ⊢
      exact fun hmem => (List.nodup_append.mp hd).2.2 k hmem k (by simp) rfl
    rw [object, if_neg hk, ih (by simpa using hd)]
    simp

theorem accepts_decodeHooks (maxStrDigits : ℕ) :
    Accepts (decodeHooks maxStrDigits) (faults maxStrDigits) where
  int _ _ h := if_pos h
  float _ := rfl
  pairs kvs hd := by
    have := @object_eq [] kvs hd
    simp only [decodeHooks, this]
    rfl

/-- Strict values survive the escaping of the compact layout. -/
theorem all_faithful {v : PyVal} (hv : v.All (StrictNode F)) : v.All (Faithful .compact) := by
  induction v with
  | str s => exact readsStr_escapeStr s
  | list xs ih => exact ⟨trivial, PyVal.allItems_iff.mpr fun x hx => ih x hx (PyVal.allItems_iff.mp hv.2 x hx)⟩
  | tuple xs ih => exact ⟨trivial, PyVal.allItems_iff.mpr fun x hx => ih x hx (PyVal.allItems_iff.mp hv.2 x hx)⟩
  | dict kvs ih =>
    refine ⟨hv.1, PyVal.allPairs_iff.mpr fun kv hkv => ⟨readsStr_escapeStr kv.1, ?_⟩⟩
    exact ih kv hkv (PyVal.allPairs_iff.mp hv.2 kv hkv).2
  | obj cls fields => exact absurd hv.self id
  | _ => trivial

/-- The message as the peer reads it. -/
abbrev readBack (message : PyDict) : PyDict := PyVal.asJsonPairs message

theorem get?_readBack (message : PyDict) (key : PyStr) :
    PyDict.get? (readBack message) key = (message.get? key).map PyVal.asJson := by
  induction message with
  | nil => rfl
  | cons kv message ih =>
    obtain ⟨k, v⟩ := kv
    rw [readBack, PyVal.asJsonPairs, PyDict.get?_cons, PyDict.get?_cons]
    split
    · rfl
    · exact ih

theorem ofEventType_readBack (message : PyDict) :
    ofEventType (readBack message) = ofEventType message := by
  rw [ofEventType, get?_readBack, ofEventType]
  cases message.get? "type" with
  | none => rfl
  | some v => cases v <;> rfl

/-- A body that `encodeFrame` emits decodes to the message, unless the `type` member it reads back
is a list or an object. -/
theorem decode_jsonBody {maxStrDigits : ℕ} {kvs : PyDict}
    (hs : Strict (faults maxStrDigits) (.dict kvs)) {b : List UInt8}
    (hb : jsonBody (faults maxStrDigits) (.dict kvs) = some b) (hlen : b.length ≤ maxFrameBytes)
    (hevent : ofEventType kvs = true → b.length ≤ maxEventBytes) :
    decode maxStrDigits b =
      if typeHashable (readBack kvs) then .ok (readBack kvs)
      else .error ⟨.typeError, "unhashable type"⟩ := by
  obtain ⟨t, b', henc⟩ := encodes_of_strict hs.nodes
  obtain rfl : b' = b := Option.some.inj (henc.jsonBody.symm.trans hb)
  have hread := reads_dump (accepts_decodeHooks maxStrDigits) (all_faithful hs.nodes) (henc.dump 0)
  have hloads := loads_of_reads hread Ws.nil
  rw [List.append_nil] at hloads
  -- the message that is read back has the same text, so the estimate admits it too
  obtain ⟨t', c, henc'⟩ := encodes_of_strict (all_asJson hs.nodes)
  have ht : t' = t := by
    have := henc'.dump 0
    rw [dump_asJson, henc.dump] at this
    exact (Except.ok.inj this).symm
  obtain rfl : c = b' := by
    have := henc'.utf8
    rw [ht, henc.utf8] at this
    exact (Option.some.inj this).symm
  have hcheck := henc'.checkJson (by rw [height_asJson]; exact hs.depth) hlen
  have hbig : ¬ (ofEventType kvs = true ∧ c.length > maxEventBytes) := fun h =>
    absurd (hevent h.1) (by omega)
  simp only [decode, decodeBody, PyStr.utf8Decode_utf8Encode henc.utf8, bind, Except.bind, hloads,
    PyVal.asJson, isEvent_eq, ofEventType_readBack]
  by_cases hh : typeHashable (readBack kvs) = true
  · simp only [hh, if_true, hbig, if_false, pure, Except.pure]
    rw [PyVal.asJson] at hcheck
    rw [hcheck]
  · simp only [hh]
    rfl

end Iperf3Lib.Ipc
