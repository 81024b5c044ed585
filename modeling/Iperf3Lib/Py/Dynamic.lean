import Iperf3Lib.Exceptions
import Iperf3Lib.Py.Num
import Iperf3Lib.Py.Value

/-!
# Dynamic values

What the source does with a value whose type is not known: reading an attribute, going through a
list, comparing. Each raises where the value is of another type. Equality compares numbers by value,
dictionaries without regard to their order and instances of a dataclass by class and fields.
-/

namespace Iperf3Lib.Py

/-- `str(n)`. -/
def natText (n : ℕ) : PyStr := (Nat.toDigits 10 n).map .scalar

/-- The order of strings, by their code points. -/
def PyStr.lt (s t : PyStr) : Bool := decide (s.map PyChar.ord < t.map PyChar.ord)

/-- `sorted(keys)[0]`. -/
def least (key : PyStr) (keys : List PyStr) : PyStr :=
  keys.foldl (fun m k => if k.lt m then k else m) key

namespace PyVal

/-! ## Access -/

/-- `getattr(value, name)`. -/
def getattr (value : PyVal) (name : PyStr) : Except Exc PyVal :=
  match value with
  | .obj cls fields =>
    match PyDict.get? fields name with
    | some x => .ok x
    | Option.none => .error ⟨.attributeError, PyStr.ofString s!"'{cls}' object has no attribute " ++ name⟩
  | v => .error ⟨.attributeError, PyStr.ofString s!"'{v.typeName}' object has no attribute " ++ name⟩

/-- `value.name` for a name of the source. -/
def attr (value : PyVal) (name : String) : Except Exc PyVal := value.getattr name

/-- The items of a list. -/
def items : PyVal → Except Exc (List PyVal)
  | .list xs => .ok xs
  | v => typeError (s!"'{v.typeName}' object is not a list" : String)

/-- The items of a dictionary. -/
def entries : PyVal → Except Exc PyDict
  | .dict kvs => .ok kvs
  | v => typeError (s!"'{v.typeName}' object is not a dictionary" : String)

/-- `value is None`. -/
def isNone : PyVal → Bool
  | .none => true
  | _ => false

/-- `value == text`. -/
def isStr (text : String) : PyVal → Bool
  | .str s => s = text
  | _ => false

/-- `value is True`, of a boolean. -/
def isTrue : PyVal → Bool
  | .bool b => b
  | _ => false

/-- A number; a boolean counts as one. -/
def number? : PyVal → Option PyNum
  | .bool b => some (.int (if b then 1 else 0))
  | .int n => some (.int n)
  | .float x => some (.float x)
  | _ => Option.none

/-- `x < y` of numbers. -/
def lessThan (x y : PyVal) : Except Exc Bool :=
  match x.number?, y.number? with
  | some p, some q => .ok (p.lt q)
  | _, _ => typeError (s!"'<' not supported between instances of '{x.typeName}' and '{y.typeName}'" : String)

/-! ## Equality -/

mutual

/-- `x == y`. -/
def eq : PyVal → PyVal → Bool
  | .none, y => y.isNone
  | .bool b, y => y.number?.any fun q => (PyNum.int (if b then 1 else 0)).eq q
  | .int n, y => y.number?.any fun q => (PyNum.int n).eq q
  | .float x, y => y.number?.any fun q => (PyNum.float x).eq q
  | .str s, y =>
    match y with
    | .str t => s = t
    | _ => false
  | .list xs, y =>
    match y with
    | .list ys => eqItems xs ys
    | _ => false
  | .tuple xs, y =>
    match y with
    | .tuple ys => eqItems xs ys
    | _ => false
  | .dict xs, y =>
    match y with
    | .dict ys => xs.length = ys.length && eqPairs xs ys
    | _ => false
  | .obj cls xs, y =>
    match y with
    | .obj cls' ys => cls = cls' && xs.length = ys.length && eqPairs xs ys
    | _ => false

def eqItems : List PyVal → List PyVal → Bool
  | [], ys => ys.isEmpty
  | x :: xs, ys =>
    match ys with
    | [] => false
    | y :: ys => eq x y && eqItems xs ys

/-- Every item is one of the other dictionary too. -/
def eqPairs : List (PyStr × PyVal) → PyDict → Bool
  | [], _ => true
  | (k, x) :: xs, ys =>
    match PyDict.get? ys k with
    | some y => eq x y && eqPairs xs ys
    | Option.none => false

end

/-! ## Reading the accessors -/

theorem getattr_eq_ok {value x : PyVal} {name : PyStr} :
    value.getattr name = .ok x ↔ ∃ cls fields, value = .obj cls fields ∧ PyDict.get? fields name = some x := by
  unfold getattr
  split
  · next cls fields =>
    split
    · next y hy => simp [hy]
    · next hy => simp [hy]
  · next v hv =>
    refine ⟨nofun, ?_⟩
    rintro ⟨cls, fields, rfl, -⟩
    exact (hv cls fields rfl).elim

theorem items_eq_ok {value : PyVal} {xs : List PyVal} : value.items = .ok xs ↔ value = .list xs := by
  cases value <;> simp [items, typeError]

end PyVal

end Iperf3Lib.Py
