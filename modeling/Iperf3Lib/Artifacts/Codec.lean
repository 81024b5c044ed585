import Iperf3Lib.Artifacts.Pointers

/-!
# The artifact codec

`_convert` follows a specification, a tree over scalars, containers and dataclasses. Reading builds
instances from mappings and writing builds mappings from instances; both go through the same checks,
and neither changes a scalar. Values are finite trees, so that the search for cycles is left out.
-/

namespace Iperf3Lib.Artifacts

open Py

/-! ## Strict JSON -/

/-- `_object`. A mapping with a key that is no string has no items here. -/
def object (path : PyStr) : PyVal → Except Exc PyDict
  | .dict kvs => .ok kvs
  | .obj "dict" _ => fail path "object keys must be strings"
  | _ => fail path "expected an object"

mutual

/-- `_json_value`. -/
def jsonValue (path : PyStr) : PyVal → Except Exc PyVal
  | .none => .ok .none
  | .bool b => .ok (.bool b)
  | .int n => .ok (.int n)
  | .str s => .ok (.str s)
  | .float x => if x.isFinite then .ok (.float x) else fail path "JSON numbers must be finite"
  | .dict kvs => (jsonPairs path kvs).map .dict
  | .list xs => (jsonItems path 0 xs).map .list
  | .obj "dict" _ => fail path "object keys must be strings"
  | _ => fail path "expected a strict JSON value"

def jsonItems (path : PyStr) : ℕ → List PyVal → Except Exc (List PyVal)
  | _, [] => .ok []
  | index, x :: xs => do
    let x ← jsonValue (childAt path index) x
    let xs ← jsonItems path (index + 1) xs
    return x :: xs

def jsonPairs (path : PyStr) : List (PyStr × PyVal) → Except Exc (List (PyStr × PyVal))
  | [] => .ok []
  | (key, x) :: kvs => do
    let x ← jsonValue (child path key) x
    let kvs ← jsonPairs path kvs
    return (key, x) :: kvs

end

/-! ## Specifications -/

/-- The scalar specifications, and the two that take any JSON. -/
inductive Scalar where
  | json
  | jsonObject
  | extensions
  | string
  | nonemptyString
  | pointer
  | boolean
  | count
  | integer
  | number
  | nonnegativeNumber
  | percent
deriving DecidableEq, Repr

/-- A specification; a dataclass stands with its schema. -/
inductive Spec where
  | optional (item : Spec)
  | enum (values : List String)
  | array (item : Spec)
  | mapping (item : Spec)
  | model (cls : String) (schema : List (String × Spec))
  | scalar (scalar : Scalar)

/-- A schema. -/
abbrev Schema := List (String × Spec)

def Schema.names (schema : Schema) : List PyStr := schema.map fun field => PyStr.ofString field.1

/-! ## Scalars -/

/-- The checks on a number. -/
def convertNumber (scalar : Scalar) (value : PyVal) (path : PyStr) : Except Exc PyVal := do
  let x ← match value with
    | .int n => .ok (PyNum.int n)
    | .float x =>
      if scalar = .count ∨ scalar = .integer then fail path "expected an integer"
      else .ok (PyNum.float x)
    | _ =>
      if scalar = .count ∨ scalar = .integer then fail path "expected an integer"
      else fail path "expected a number"
  failIf (x.value? = none) path "number must be finite"
  failIf (scalar ≠ .number ∧ scalar ≠ .integer ∧ x.isNeg = true) path "number must be nonnegative"
  failIf (scalar = .percent ∧ (PyNum.int 100).lt x = true) path "percentage must not exceed 100"
  return value

/-- The checks on a string. -/
def convertString (scalar : Scalar) (value : PyVal) (path : PyStr) : Except Exc PyVal :=
  match value with
  | .str s => do
    failIf (scalar = .nonemptyString ∧ s.hasText = false) path "expected a nonempty string"
    if scalar = .pointer then
      let _ ← pointer s path
    return value
  | _ => fail path "expected a string"

/-- `_convert` for a scalar. -/
def convertScalar (scalar : Scalar) (value : PyVal) (path : PyStr) : Except Exc PyVal :=
  match scalar with
  | .json => jsonValue path value
  | .jsonObject => do
    let _ ← object path value
    jsonValue path value
  | .extensions => do
    let data ← object path value
    for key in data.keys do
      failIf (isNamespaced key = false) (child path key) "extension keys must have a dotted namespace"
    jsonValue path value
  | .boolean =>
    match value with
    | .bool b => .ok (.bool b)
    | _ => fail path "expected a boolean"
  | .string | .nonemptyString | .pointer => convertString scalar value path
  | .count | .integer | .number | .nonnegativeNumber | .percent => convertNumber scalar value path

/-! ## Conversion -/

/-- The data of a model, by the names of its fields: `getattr` of each, or the object itself. -/
def modelData (models : Bool) (cls : String) (names : List PyStr) (value : PyVal) (path : PyStr) :
    Except Exc PyDict :=
  if models then
    match value with
    | .obj cls' _ => do
      failIf (cls' ≠ cls) path (s!"expected a {cls} dataclass" : String)
      names.mapM fun name => (value.getattr name).map fun x => (name, x)
    | _ => fail path (s!"expected a {cls} dataclass" : String)
  else object path value

/-- The keys of a model are exactly its fields. -/
def checkKeys (names : List PyStr) (data : PyDict) (path : PyStr) : Except Exc Unit := do
  match data.keys.filter fun key => key ∉ names with
  | [] => pure ()
  | key :: keys => fail (child path (least key keys)) "unknown canonical field"
  match names.filter fun name => name ∉ data.keys with
  | [] => pure ()
  | name :: names => fail (child path (least name names)) "required canonical field is missing"

/-- `data[name]`. -/
def item (data : PyDict) (name : PyStr) : Except Exc PyVal :=
  match data.get? name with
  | some value => .ok value
  | none => .error ⟨.keyError, name⟩

mutual

/-- `_convert`; `models` reads instances and writes mappings. -/
def convert (models : Bool) : Spec → PyVal → PyStr → Except Exc PyVal
  | .optional spec, value, path =>
    if value.isNone then .ok .none else convert models spec value path
  | .enum values, value, path =>
    match value with
    | .str s =>
      if s ∈ values.map PyStr.ofString then .ok (.str s)
      else fail path ("expected one of " ++ ", ".intercalate values : String)
    | _ => fail path ("expected one of " ++ ", ".intercalate values : String)
  | .array spec, value, path =>
    match value with
    | .list xs =>
      (xs.zipIdx.mapM fun x => convert models spec x.1 (childAt path x.2)).map .list
    | _ => fail path "expected an array"
  | .mapping spec, value, path => do
    let data ← object path value
    let converted ← data.mapM fun kv =>
      (convert models spec kv.2 (child path kv.1)).map fun x => (kv.1, x)
    return .dict converted
  | .model cls schema, value, path => do
    let names := Schema.names schema
    let data ← modelData models cls names value path
    checkKeys names data path
    let converted ← convertFields models schema data path
    return if models then .dict converted else .obj cls converted
  | .scalar scalar, value, path => convertScalar scalar value path

/-- The fields of a model, in the order of its schema. -/
def convertFields (models : Bool) : List (String × Spec) → PyDict → PyStr → Except Exc PyDict
  | [], _, _ => .ok []
  | (name, spec) :: schema, data, path => do
    let value ← item data name
    let x ← convert models spec value (child path name)
    let rest ← convertFields models schema data path
    return (PyStr.ofString name, x) :: rest

end

end Iperf3Lib.Artifacts
