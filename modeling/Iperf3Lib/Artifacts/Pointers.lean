import Iperf3Lib.General.Except
import Iperf3Lib.Py.Dynamic

/-!
# JSON pointers

`_child` escapes a token and appends it to a pointer; `_pointer` splits a pointer and unescapes its
tokens. Evidence is cited by pointers below `raw` and below a namespaced key of `extensions`:
`has_observed_evidence` follows them.
-/

namespace Iperf3Lib.Artifacts

open Py

/-- `_fail`: an `ArtifactValidationError` with its path in front of the message. -/
def fail {α : Type} (path message : PyStr) : Except Exc α :=
  .error ⟨.artifactValidationError,
    (if path = [] then PyStr.ofString "/" else path) ++ PyStr.ofString ": " ++ message⟩

/-- `if condition: _fail(path, message)`. -/
def failIf (condition : Prop) [Decidable condition] (path message : PyStr) : Except Exc Unit :=
  if condition then fail path message else .ok ()

theorem failIf_eq_ok {condition : Prop} [Decidable condition] {path message : PyStr} :
    failIf condition path message = .ok () ↔ ¬ condition := by
  unfold failIf fail
  split <;> simp_all

/-! ## Tokens -/

/-- `s.replace(old, new)` for a single character. -/
def replaceChar (old : Char) (new : String) (s : PyStr) : PyStr :=
  s.flatMap fun c => if c = .scalar old then PyStr.ofString new else [c]

/-- `s.replace(old, new)` for a pair of characters. -/
def replacePair (a b new : Char) : PyStr → PyStr
  | [] => []
  | [c] => [c]
  | c :: d :: s =>
    if c = .scalar a ∧ d = .scalar b then .scalar new :: replacePair a b new s
    else c :: replacePair a b new (d :: s)

/-- `token.replace("~", "~0").replace("/", "~1")`. -/
def escape (token : PyStr) : PyStr := replaceChar '/' "~1" (replaceChar '~' "~0" token)

/-- `token.replace("~1", "/").replace("~0", "~")`. -/
def unescape (token : PyStr) : PyStr := replacePair '~' '0' '~' (replacePair '~' '1' '/' token)

/-- `_child` for a key. -/
def child (path key : PyStr) : PyStr := path ++ .scalar '/' :: escape key

/-- `_child` for an index. -/
def childAt (path : PyStr) (index : ℕ) : PyStr := child path (natText index)

/-- `re.search(r"~(?![01])", pointer)`: a tilde that begins no escape. -/
def hasInvalidEscape : PyStr → Bool
  | [] => false
  | [c] => c = .scalar '~'
  | c :: d :: s =>
    (c = .scalar '~' && d ≠ .scalar '0' && d ≠ .scalar '1') || hasInvalidEscape (d :: s)

/-- `_pointer`. -/
def pointer (value path : PyStr) : Except Exc (List PyStr) := do
  failIf (value ≠ [] ∧ value.head? ≠ some (.scalar '/')) path
    "expected a JSON Pointer starting with '/'"
  failIf (hasInvalidEscape value = true) path
    "invalid JSON Pointer escape; use ~0 for '~' and ~1 for '/'"
  return if value = [] then [] else (value.splitOn (.scalar '/')).tail.map unescape

/-- `[A-Za-z0-9]`. -/
def isAlnum : PyChar → Bool
  | .scalar c => c.isAlphanum
  | .surrogate _ => false

/-- `[A-Za-z0-9][A-Za-z0-9_-]*`. -/
def isLabel : PyStr → Bool
  | [] => false
  | c :: s => isAlnum c && s.all fun d => isAlnum d || d = .scalar '_' || d = .scalar '-'

/-- `_NAMESPACE.fullmatch(key)`: labels with dots between them, at least two. -/
def isNamespaced (key : PyStr) : Bool :=
  let labels := key.splitOn (.scalar '.')
  2 ≤ labels.length && labels.all isLabel

/-- `[0-9]`. -/
def isDigit : PyChar → Bool
  | .scalar c => c.isDigit
  | .surrogate _ => false

/-- `re.fullmatch(r"0|[1-9][0-9]*", token)`. -/
def isIndex (token : PyStr) : Bool :=
  token = [.scalar '0'] ||
    (token ≠ [] && token.head? ≠ some (.scalar '0') && token.all isDigit)

/-- `int(token)` of digits; the interpreter limits their number. -/
def intOfDigits (maxStrDigits : ℕ) (token : PyStr) : Except Exc ℕ :=
  if token.length ≤ maxStrDigits then
    .ok (token.foldl (fun n c => 10 * n + (c.ord - '0'.toNat)) 0)
  else valueError "Exceeds the limit for integer string conversion"

/-! ## Observed evidence -/

/-- One step of the walk, `none` where it breaks off. -/
def follow (maxStrDigits : ℕ) (value : PyVal) (token : PyStr) : Except Exc (Option PyVal) :=
  match value with
  | .dict d => .ok (PyDict.get? d token)
  | .list xs =>
    if isIndex token = true then (intOfDigits maxStrDigits token).map fun i => xs[i]? else .ok none
  | _ => .ok none

/-- The loop over the tokens. -/
def walk (maxStrDigits : ℕ) (value : PyVal) : List PyStr → Except Exc (Option PyVal)
  | [] => .ok (some value)
  | token :: tokens => do
    match ← follow maxStrDigits value token with
    | some next => walk maxStrDigits next tokens
    | none => return none

/-- The body of the loop over the pointers. -/
def observed (maxStrDigits : ℕ) (result : PyVal) : PyVal → Except Exc Bool
  | .str s =>
    if s.head? ≠ some (.scalar '/') ∨ hasInvalidEscape s = true then
      valueError "evidence_paths must contain valid nonempty JSON pointers"
    else
      match (s.tail.splitOn (.scalar '/')).map unescape with
      | root :: name :: tokens =>
        if (root = PyStr.ofString "raw" ∨ root = PyStr.ofString "extensions") ∧
            (root = PyStr.ofString "extensions" → isNamespaced name = true) then do
          let value ← result.getattr root
          return (← walk maxStrDigits value (name :: tokens)).any fun v => !v.isNone
        else .ok false
      | _ => .ok false
  | _ => valueError "evidence_paths must contain valid nonempty JSON pointers"

/-- The loop over the pointers; a receipt that was found stays found. -/
def observedAny (maxStrDigits : ℕ) (result : PyVal) : Bool → List PyVal → Except Exc Bool
  | found, [] => .ok found
  | found, pointer :: pointers => do
    let here ← observed maxStrDigits result pointer
    observedAny maxStrDigits result (found || here) pointers

/-- `has_observed_evidence`. -/
def hasObservedEvidence (maxStrDigits : ℕ) (result : PyVal) : PyVal → Except Exc Bool
  | .list pointers => observedAny maxStrDigits result false pointers
  | _ => valueError "evidence_paths must be a list of JSON pointers"

end Iperf3Lib.Artifacts
