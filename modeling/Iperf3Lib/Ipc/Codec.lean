import Iperf3Lib.Exceptions
import Iperf3Lib.Py.Json.Dump

/-!
# The frame codec

One frame of the worker transport is the UTF-8 JSON text of a message behind its length in four
bytes. `encodeFrame` bounds the text before it is built, by the lower estimate of `checkJson`, and
again while the chunks of `jsonChunks` are joined; `decode` reads one body back.
-/

namespace Iperf3Lib

open Py Json

namespace Ipc

def maxFrameBytes : ℕ := 16 * 1024 * 1024
def maxEventBytes : ℕ := 1024 * 1024
def maxDepth : ℕ := 64
def stringChunk : ℕ := 4096

/-- `n.bit_length()`. -/
def bitLength (n : ℤ) : ℕ := if n = 0 then 0 else Nat.log 2 n.natAbs + 1

/-! ## The estimate -/

/-- The running minimum, unless it exceeds the limit. -/
def bounded (maximum minimum : ℕ) : Except Exc ℕ :=
  if minimum > maximum then ipcError "Worker frame exceeds its byte limit" else .ok minimum

/-- `visit` of a string at an admissible depth. -/
def visitStr (maximum : ℕ) (s : PyStr) (minimum : ℕ) : Except Exc ℕ := do
  let minimum ← bounded maximum (minimum + (s.length + 2))
  if s.isScalar then return minimum
  else ipcError "Worker JSON strings cannot contain unpaired surrogates"

/-- `visit` of a dictionary key. -/
def visitKey (maximum : ℕ) (k : PyStr) (depth minimum : ℕ) : Except Exc ℕ :=
  if depth > maxDepth then ipcError "Worker JSON nesting exceeds the protocol limit"
  else visitStr maximum k minimum

mutual

/-- `visit`: the minimum behind the item, and the bound on it checked on the way. -/
def visit (maximum : ℕ) : PyVal → ℕ → ℕ → Except Exc ℕ
  | item, depth, minimum =>
    if depth > maxDepth then ipcError "Worker JSON nesting exceeds the protocol limit" else
    match item with
    | .none => bounded maximum (minimum + 4)
    | .bool b => bounded maximum (minimum + if b then 4 else 5)
    | .str s => visitStr maximum s minimum
    | .int n => bounded maximum (minimum + max 1 (bitLength n / 4))
    | .float x =>
      if x.isFinite then bounded maximum (minimum + 1)
      else ipcError "Worker JSON cannot contain nonfinite numbers"
    | .dict kvs => do
      let minimum ← bounded maximum (minimum + (2 + (kvs.length - 1)))
      bounded maximum (← visitPairs maximum kvs (depth + 1) minimum)
    | .list xs => do
      let minimum ← bounded maximum (minimum + (2 + (xs.length - 1)))
      bounded maximum (← visitItems maximum xs (depth + 1) minimum)
    | .tuple xs => do
      let minimum ← bounded maximum (minimum + (2 + (xs.length - 1)))
      bounded maximum (← visitItems maximum xs (depth + 1) minimum)
    | .obj cls _ => ipcError (("Unsupported worker JSON value: " : String) ++ PyStr.ofString cls)

def visitItems (maximum : ℕ) : List PyVal → ℕ → ℕ → Except Exc ℕ
  | [], _, minimum => .ok minimum
  | x :: xs, depth, minimum => do
    visitItems maximum xs depth (← visit maximum x depth minimum)

def visitPairs (maximum : ℕ) : List (PyStr × PyVal) → ℕ → ℕ → Except Exc ℕ
  | [], _, minimum => .ok minimum
  | (k, v) :: kvs, depth, minimum => do
    let minimum ← visitKey maximum k depth (minimum + 1)
    visitPairs maximum kvs depth (← visit maximum v depth minimum)

end

/-- `_check_json`. A finite value holds no circular reference. -/
def checkJson (value : PyVal) (maximum : ℕ) : Except Exc Unit := do
  let _ ← visit maximum value 0 0
  return ()

/-! ## The writer -/

/-- What `json.dumps` raises on one value, with the interpreter's limit on decimal digits. -/
def faults (maxStrDigits : ℕ) : Faults Exc where
  nonfinite := ⟨.valueError, "Out of range float values are not JSON compliant"⟩
  unsupported cls := ⟨.typeError, ("Object is not JSON serializable: " : String) ++ PyStr.ofString cls⟩
  digits := ⟨.valueError, "Exceeds the limit for integer string conversion"⟩
  maxStrDigits := maxStrDigits

/-- `s.encode("utf-8")`. -/
def encodeUtf8 (s : PyStr) : Except Exc (List UInt8) :=
  match s.utf8Encode with
  | some b => .ok b
  | none => .error ⟨.valueError, "surrogates not allowed"⟩

/-- `value[start : start + stringChunk]` for every `start` in steps of `stringChunk`. -/
def pieces (s : PyStr) : List PyStr :=
  (List.range ((s.length + (stringChunk - 1)) / stringChunk)).map fun i =>
    (s.drop (i * stringChunk)).take stringChunk

/-- The chunks of a string. -/
def stringChunks (s : PyStr) : List (Except Exc (List UInt8)) :=
  encodeUtf8 "\"" ::
    ((pieces s).map (fun piece => encodeUtf8 (escapeStr false piece)) ++ [encodeUtf8 "\""])

mutual

/-- `_json_chunks`: what the generator yields, the exception of a chunk that has no encoding in its
place. -/
def jsonChunks (F : Faults Exc) : PyVal → List (Except Exc (List UInt8))
  | .str s => stringChunks s
  | .dict kvs => encodeUtf8 "\x7b" :: (pairChunks F true kvs ++ [encodeUtf8 "\x7d"])
  | .list xs => encodeUtf8 "[" :: (itemChunks F true xs ++ [encodeUtf8 "]"])
  | .tuple xs => encodeUtf8 "[" :: (itemChunks F true xs ++ [encodeUtf8 "]"])
  | v => [dumpAtom F v >>= encodeUtf8]

def itemChunks (F : Faults Exc) (first : Bool) : List PyVal → List (Except Exc (List UInt8))
  | [] => []
  | x :: xs => (if first then [] else [encodeUtf8 ","]) ++ jsonChunks F x ++ itemChunks F false xs

def pairChunks (F : Faults Exc) (first : Bool) :
    List (PyStr × PyVal) → List (Except Exc (List UInt8))
  | [] => []
  | (k, v) :: kvs =>
    (if first then [] else [encodeUtf8 ","]) ++ stringChunks k ++
      encodeUtf8 ":" :: (jsonChunks F v ++ pairChunks F false kvs)

end

/-- Join the chunks while they fit. -/
def joinChunks (maxBytes : ℕ) :
    List UInt8 → List (Except Exc (List UInt8)) → Except Exc (List UInt8)
  | body, [] => .ok body
  | _, .error _ :: _ => ipcError "Worker message cannot be encoded as strict UTF-8 JSON"
  | body, .ok encoded :: chunks =>
    if body.length + encoded.length > maxBytes then ipcError "Worker frame exceeds its byte limit"
    else joinChunks maxBytes (body ++ encoded) chunks

/-- `struct.pack("!I", n)`. -/
def packLength (n : ℕ) : List UInt8 :=
  [UInt8.ofNat (n / 2 ^ 24), UInt8.ofNat (n / 2 ^ 16), UInt8.ofNat (n / 2 ^ 8), UInt8.ofNat n]

/-- `struct.unpack("!I", header)`. -/
def unpackLength (header : List UInt8) : ℕ := header.foldl (fun n b => n * 256 + b.toNat) 0

/-! ## One frame -/

mutual

/-- `hash(v)` succeeds. -/
def hashable : PyVal → Bool
  | .list _ => false
  | .dict _ => false
  | .tuple xs => hashableItems xs
  | .obj _ fields => hashablePairs fields
  | _ => true

def hashableItems : List PyVal → Bool
  | [] => true
  | x :: xs => hashable x && hashableItems xs

def hashablePairs : List (PyStr × PyVal) → Bool
  | [] => true
  | (_, v) :: kvs => hashable v && hashablePairs kvs

end

/-- `message.get("type") in {"event", "live_event"}`: membership in a set hashes the value first. -/
def isEvent (message : PyDict) : Except Exc Bool :=
  match message.get? "type" with
  | none => .ok false
  | some (.str s) => .ok (s = "event" || s = "live_event")
  | some v => if hashable v then .ok false else .error ⟨.typeError, "unhashable type"⟩

/-- `encode_frame`. -/
def encodeFrame (F : Faults Exc) (message : PyVal) (maxBytes : ℤ) : Except Exc (List UInt8) :=
  match message with
  | .dict kvs => do
    if ¬ (0 < maxBytes ∧ maxBytes ≤ maxFrameBytes) then
      .error ⟨.valueError, "max_bytes must be within the positive protocol frame limit"⟩
    let maxBytes := if ← isEvent kvs then min maxBytes.toNat maxEventBytes else maxBytes.toNat
    checkJson message maxBytes
    let body ← joinChunks maxBytes [] (jsonChunks F message)
    return packLength body.length ++ body
  | _ => ipcError "Worker messages must be JSON objects"

/-- `_object`: the dictionary of the pairs, built one by one. -/
def object : PyDict → PyDict → Except Exc PyDict
  | result, [] => .ok result
  | result, (k, v) :: kvs =>
    if (result.get? k).isSome then ipcError "Worker JSON contains duplicate object keys"
    else object (result ++ [(k, v)]) kvs

/-- The hooks of `_decode`. -/
def decodeHooks (maxStrDigits : ℕ) : Hooks Exc where
  malformed := ⟨.valueError, "JSONDecodeError"⟩
  constant c := ipcError (("Worker JSON contains a nonfinite number: " : String) ++ PyStr.ofString c)
  float x :=
    if x.isFinite then .ok (.float x)
    else ipcError "Worker JSON number is outside the finite range"
  int n digits :=
    if digits ≤ maxStrDigits then .ok (.int n)
    else .error ⟨.valueError, "Exceeds the limit for integer string conversion"⟩
  pairs kvs := (object [] kvs).map .dict

/-- The body of the `try` statement of `_decode`. -/
def decodeBody (maxStrDigits : ℕ) (body : List UInt8) : Except Exc PyDict := do
  let text ← match PyStr.utf8Decode body with
    | some text => .ok text
    | none => .error ⟨.valueError, "invalid utf-8"⟩
  match ← loads (decodeHooks maxStrDigits) text with
  | .dict message => do
    if (← isEvent message) ∧ body.length > maxEventBytes then
      ipcError "Worker event exceeds its byte limit"
    checkJson (.dict message) maxFrameBytes
    return message
  | _ => ipcError "Worker messages must be JSON objects"

/-- `_decode`. -/
def decode (maxStrDigits : ℕ) (body : List UInt8) : Except Exc PyDict :=
  match decodeBody maxStrDigits body with
  | .ok message => .ok message
  | .error e =>
    if e.cls = .valueError then ipcError "Worker frame contains invalid UTF-8 JSON" else .error e

end Ipc

end Iperf3Lib
