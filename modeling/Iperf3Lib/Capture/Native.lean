import Iperf3Lib.Ipc.Accept
import Iperf3Lib.Result.Observations

/-!
# Native JSON

`nativeObject` parses the bytes of one native callback. libiperf repeats `target_bitrate` once in the
start object of a server, and `_native_object` admits that one repetition: it notes each object with
a repeated rate and compares it with the start object by identity. The parser below marks such an
object, and `settleStart` admits a mark at the start object alone.
-/

namespace Iperf3Lib.Capture

open Py Json Ipc

def maxCaptureBytes : ℕ := 8 * 1024 * 1024
def maxPendingCaptureBytes : ℕ := 16 * 1024 * 1024
def maxPendingCaptures : ℕ := 256
def maxRetainedBytes : ℕ := 12 * 1024 * 1024
def maxDiagnostics : ℕ := 8

/-- What `_native_object` raises. -/
inductive NativeFault where
  | unicodeDecodeError
  | jsonDecodeError
  | valueError (message : PyStr)
  | ipcError (message : PyStr)
deriving DecidableEq

/-- `type(exc).__name__`. -/
def NativeFault.typeName : NativeFault → String
  | .unicodeDecodeError => "UnicodeDecodeError"
  | .jsonDecodeError => "JSONDecodeError"
  | .valueError _ => "ValueError"
  | .ipcError _ => "IPCError"

/-! ## Objects with a repeated rate -/

/-- The second `target_bitrate` of an object, as libiperf writes it. -/
def isRepeatedRate (key : PyStr) (repeated : Bool) (earlier value : PyVal) : Bool :=
  match earlier, value with
  | .int m, .int n => key = "target_bitrate" && !repeated && decide (0 ≤ n) && n = m
  | _, _ => false

/-- The loop of `object_pairs`. -/
def objectPairs : PyDict → Bool → List (PyStr × PyVal) → Except NativeFault (PyDict × Bool)
  | result, repeated, [] => .ok (result, repeated)
  | result, repeated, (key, value) :: pairs =>
    match result.get? key with
    | some earlier =>
      if isRepeatedRate key repeated earlier value then
        objectPairs (PyDict.set result key value) true pairs
      else .error (.valueError "duplicate native JSON field")
    | none => objectPairs (PyDict.set result key value) repeated pairs

/-- The hooks of `json.loads` in `_native_object`. -/
def nativeHooks (maxStrDigits : ℕ) : Hooks NativeFault where
  malformed := .jsonDecodeError
  constant c := .error (.valueError (("nonfinite native JSON: " : String) ++ PyStr.ofString c))
  float x := .ok (.float x)
  int n digits :=
    if digits ≤ maxStrDigits then .ok (.int n)
    else .error (.valueError "Exceeds the limit for integer string conversion")
  pairs kvs := (objectPairs [] false kvs).map fun (result, repeated) =>
    if repeated then .tuple [.dict result] else .dict result

mutual

/-- No object inside the value is marked. -/
def unmarked : PyVal → Bool
  | .list xs => unmarkedItems xs
  | .dict kvs => unmarkedPairs kvs
  | .tuple _ => false
  | _ => true

def unmarkedItems : List PyVal → Bool
  | [] => true
  | x :: xs => unmarked x && unmarkedItems xs

def unmarkedPairs : List (PyStr × PyVal) → Bool
  | [] => true
  | (_, v) :: kvs => unmarked v && unmarkedPairs kvs

end

/-- `"event" in data and "data" in data`. -/
def isWrapped (data : PyDict) : Bool := (data.get? "event").isSome && (data.get? "data").isSome

/-- The member that may be a start object with a repeated rate. -/
def startMember (data : PyDict) : Option PyStr :=
  if isWrapped data then if data.str? "event" = some "start" then some "data" else none
  else some "start"

/-- The object itself in place of its mark. -/
def unmark : PyVal → PyVal
  | .tuple [v] => v
  | v => v

/-- Every object with a repeated rate is the start object. -/
def settleStart (data : PyDict) : Except NativeFault PyDict :=
  let settled := data.map fun (key, value) =>
    if startMember data = some key then (key, unmark value) else (key, value)
  if unmarkedPairs settled then .ok settled
  else .error (.valueError "duplicate native JSON field outside native start")

/-- The root is an object, and no start object itself. -/
def rootObject : PyVal → Except NativeFault PyDict
  | .dict data => settleStart data
  | .tuple _ => .error (.valueError "duplicate native JSON field outside native start")
  | _ => .error (.valueError "native JSON must be an object")

/-- `_native_object`. -/
def nativeObject (maxStrDigits : ℕ) (copied : List UInt8) (maximum : ℕ) :
    Except NativeFault PyDict :=
  match PyStr.utf8Decode copied with
  | none => .error .unicodeDecodeError
  | some text => do
    let data ← rootObject (← loads (nativeHooks maxStrDigits) text)
    match checkJson (.dict data) maximum with
    | .ok () => return data
    | .error e => .error (.ipcError e.message)

/-- `_size`, absent where `json.dumps` or the encoding raises. -/
def nativeSize (F : Faults Exc) (value : PyVal) : Option ℕ := (jsonBody F value).map List.length

/-- The layout of `json.dumps(value, ensure_ascii=False)`. -/
def plainLayout : Layout where
  ensureAscii := false
  brk _ := []
  comma _ := [.scalar ' ']
  colon := [.scalar ' ']
  ws_brk _ := .nil
  ws_comma _ := by simp [Ws, isWs]
  ws_colon := by simp [Ws, isWs]

/-- `value if isinstance(value, str) else json.dumps(value, ensure_ascii=False)`. -/
def errorText (F : Faults Exc) : PyVal → Option PyStr
  | .str s => some s
  | value => (dump plainLayout F 0 value).toOption

/-- A leading byte: the number of bytes behind it, the bounds on the next one, and its own bits. -/
def leadByte (b : ℕ) : Option (ℕ × ℕ × ℕ × ℕ) :=
  if 0xC2 ≤ b ∧ b ≤ 0xDF then some (1, 0x80, 0xBF, b % 32)
  else if b = 0xE0 then some (2, 0xA0, 0xBF, b % 16)
  else if b = 0xED then some (2, 0x80, 0x9F, b % 16)
  else if 0xE1 ≤ b ∧ b ≤ 0xEF then some (2, 0x80, 0xBF, b % 16)
  else if b = 0xF0 then some (3, 0x90, 0xBF, b % 8)
  else if 0xF1 ≤ b ∧ b ≤ 0xF3 then some (3, 0x80, 0xBF, b % 8)
  else if b = 0xF4 then some (3, 0x80, 0x8F, b % 8)
  else none

/-- Up to `n` bytes that continue a sequence, the first of them within the bounds. -/
def takeContinuation : ℕ → ℕ → ℕ → List UInt8 → List UInt8 × List UInt8
  | n + 1, low, high, b :: bytes =>
    if low ≤ b.toNat ∧ b.toNat ≤ high then
      let (taken, rest) := takeContinuation n 0x80 0xBF bytes
      (b :: taken, rest)
    else ([], b :: bytes)
  | _, _, _, bytes => ([], bytes)

/-- `bytes.decode("utf-8", errors="replace")`: each maximal ill-formed part becomes one U+FFFD. -/
def decodeReplace : ℕ → List UInt8 → PyStr
  | fuel + 1, b :: bytes =>
    if b.toNat < 0x80 then PyChar.chr b.toNat :: decodeReplace fuel bytes
    else
      match leadByte b.toNat with
      | none => PyChar.chr 0xFFFD :: decodeReplace fuel bytes
      | some (n, low, high, bits) =>
        let (taken, rest) := takeContinuation n low high bytes
        let char := taken.foldl (fun acc b => acc * 64 + b.toNat % 64) bits
        PyChar.chr (if taken.length = n then char else 0xFFFD) :: decodeReplace fuel rest
  | _, _ => []

/-- `copied[:256].decode("utf-8", errors="replace")`. -/
def sampleText (copied : List UInt8) : PyStr := decodeReplace 256 (copied.take 256)

example : sampleText [0x61, 0xE2, 0x82, 0xC3, 0xA9, 0xFF] = ("a\uFFFDé\uFFFD" : String) := by decide

/-- `bool(value)`. -/
def truthy : PyVal → Bool
  | .none => false
  | .bool b => b
  | .int n => n ≠ 0
  | .float (.finite x) => x.m ≠ 0
  | .float _ => true
  | .str s => !s.isEmpty
  | .list xs => !xs.isEmpty
  | .tuple xs => !xs.isEmpty
  | .dict kvs => !kvs.isEmpty
  | .obj .. => true

/-! ## Payloads -/

/-- The kind of a native payload; a document is of the kind `complete`. -/
inductive NativeKind where
  | start
  | interval
  | finish
  | error
  | complete
  | serverOutputJson
  | serverOutputText
  | other (name : PyStr)
deriving DecidableEq, Repr

namespace NativeKind

def text : NativeKind → PyStr
  | start => "start"
  | interval => "interval"
  | finish => "end"
  | error => "error"
  | complete => "complete"
  | serverOutputJson => "server_output_json"
  | serverOutputText => "server_output_text"
  | other name => name

/-- The kind that an envelope names. -/
def ofText (name : PyStr) : NativeKind :=
  if name = "start" then start
  else if name = "interval" then interval
  else if name = "end" then finish
  else if name = "error" then error
  else if name = "complete" then complete
  else if name = "server_output_json" then serverOutputJson
  else if name = "server_output_text" then serverOutputText
  else other name

/-- `kind in {"start", "interval", "end", "error"}`. -/
def isMeasured : NativeKind → Bool
  | start | interval | finish | error => true
  | _ => false

theorem text_ofText (name : PyStr) : (ofText name).text = name := by
  unfold ofText
  split_ifs with h₁ h₂ h₃ h₄ h₅ h₆ h₇
  · exact h₁.symm
  · exact h₂.symm
  · exact h₃.symm
  · exact h₄.symm
  · exact h₅.symm
  · exact h₆.symm
  · exact h₇.symm
  · rfl

end NativeKind

/-- A parsed payload. Only an envelope is wrapped; an envelope that names the kind `complete` carries
its document in `data`. -/
structure NativePayload where
  data : PyDict
  wrapped : Bool
  kind : NativeKind
  part : PyVal

/-- The `try` statement of `_consume`. -/
def readPayload (maxStrDigits : ℕ) (copied : List UInt8) (maximum : ℕ) :
    Except NativeFault NativePayload := do
  let data ← nativeObject maxStrDigits copied maximum
  match data.get? "event", data.get? "data" with
  | some (.str name), some part => return ⟨data, true, .ofText name, part⟩
  | some _, some _ => .error (.valueError "native event kind must be a string")
  | _, _ => return ⟨data, false, .complete, .dict data⟩

namespace NativePayload

/-- The part has the type that its kind requires. -/
def shaped (p : NativePayload) : Bool :=
  match p.kind, p.part with
  | .start, .dict _ | .interval, .dict _ | .finish, .dict _ | .complete, .dict _ => true
  | .start, _ | .interval, _ | .finish, _ | .complete, _ => false
  | .error, .str _ | .error, .dict _ => true
  | .error, _ => false
  | _, _ => true

/-- The document of a payload of the kind `complete`. -/
def document? (p : NativePayload) : Option PyDict :=
  match p.kind, p.part with
  | .complete, .dict document => some document
  | _, _ => none

/-- `observed_error`. -/
def observedError (p : NativePayload) : PyVal :=
  match p.kind, p.part with
  | .error, part => part
  | .complete, .dict document => (PyDict.get? document "error").getD .none
  | _, _ => .none

/-- The native error that a payload reports, when its text counts. -/
def reportedError (F : Faults Exc) (p : NativePayload) : Option (Option PyStr) :=
  if truthy p.observedError then
    (errorText F p.observedError).map fun text : PyStr =>
      if text = PyStr.ofString "no error" then none else some (List.take 4096 text)
  else some none

end NativePayload

end Iperf3Lib.Capture
