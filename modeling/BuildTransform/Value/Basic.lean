import BuildTransform.Decimal.Double
import BuildTransform.Value.Calendar

/-!
# Configuration values

The values that configuration files hold and that expressions mention.

* `Value` has a constructor for every kind of value; dictionaries are lists of
  entries in the order in which their keys were first written.
* `Value.same` is equality as dictionaries see it: numbers are compared by
  value, whatever their kind, and times with known offsets as instants.
* `Value.get?` and `Value.put` read and write dictionaries.
-/

namespace BuildTransform

/-- A value of a configuration or of a literal. -/
inductive Value
  | null
  | bool (b : Bool)
  | int (i : Int)
  | float (d : Double)
  | str (s : String)
  | bytes (bs : List UInt8)
  | list (items : List Value)
  | tuple (items : List Value)
  | set (items : List Value)
  | dict (entries : List (Value × Value))
  | date (d : Date)
  | datetime (d : Date) (t : Time)
  | time (t : Time)
  | complex (imaginary : String)
  | ellipsis
deriving Repr, Inhabited

namespace Value

/-- The name of a value's kind, as messages give it. -/
def kindName : Value → String
  | .null => "NoneType"
  | .bool _ => "bool"
  | .int _ => "int"
  | .float _ => "float"
  | .str _ => "str"
  | .bytes _ => "bytes"
  | .list _ => "list"
  | .tuple _ => "tuple"
  | .set _ => "set"
  | .dict _ => "dict"
  | .date _ => "date"
  | .datetime _ _ => "datetime"
  | .time _ => "time"
  | .complex _ => "complex"
  | .ellipsis => "ellipsis"

/-- The value counts as true: it is neither nothing nor false nor zero nor empty. -/
def isTruthy : Value → Bool
  | .null => false
  | .bool b => b
  | .int i => i != 0
  | .float d => !d.isZero
  | .str s => !s.isEmpty
  | .bytes bs => !bs.isEmpty
  | .list xs => !xs.isEmpty
  | .tuple xs => !xs.isEmpty
  | .set xs => !xs.isEmpty
  | .dict es => !es.isEmpty
  | _ => true

/-- The integer that a number or truth value equals. -/
def integer? : Value → Option Int
  | .bool b => some (if b then 1 else 0)
  | .int i => some i
  | .float d => d.integer?
  | _ => none

/-- The value is a number or a truth value. -/
def isNumeric : Value → Bool
  | .bool _ => true
  | .int _ => true
  | .float _ => true
  | _ => false

/-- Numeric equality of numbers and truth values; the undefined number is the same
as itself. -/
def sameNumber (a b : Value) : Bool :=
  match a, b with
  | .float .nan, .float .nan => true
  | .float x, .float y => x.equals y
  | _, _ =>
      match a.integer?, b.integer? with
      | some i, some j => i == j
      | _, _ => false

mutual

/-- Equality as dictionaries see it. -/
def same : Value → Value → Bool
  | .null, .null => true
  | .str s, .str t => s == t
  | .bytes s, .bytes t => s == t
  | .list xs, .list ys => sameAll xs ys
  | .tuple xs, .tuple ys => sameAll xs ys
  | .date d, .date e => d == e
  | .datetime d t, .datetime e u => Time.sameInstant d t e u
  | .time t, .time u => t == u
  | .complex s, .complex t => s == t
  | .ellipsis, .ellipsis => true
  | .bool b, v => v.isNumeric && sameNumber (.bool b) v
  | .int i, v => v.isNumeric && sameNumber (.int i) v
  | .float d, v => v.isNumeric && sameNumber (.float d) v
  | _, _ => false

/-- Equality of sequences, item by item. -/
def sameAll : List Value → List Value → Bool
  | [], [] => true
  | x :: xs, y :: ys => same x y && sameAll xs ys
  | _, _ => false

end

mutual

/-- The value can be the key of a dictionary: nothing mutable is inside it. -/
def isKey : Value → Bool
  | .list _ => false
  | .set _ => false
  | .dict _ => false
  | .tuple xs => areKeys xs
  | _ => true

/-- All values of a sequence can be keys. -/
def areKeys : List Value → Bool
  | [] => true
  | x :: xs => isKey x && areKeys xs

end

/-- The value under a key. -/
def lookup (key : Value) : List (Value × Value) → Option Value
  | [] => none
  | (k, v) :: rest => if same k key then some v else lookup key rest

/-- Entries with a value written under a key: in the place of the old value if
there is one, else at the end. -/
def put (key value : Value) : List (Value × Value) → List (Value × Value)
  | [] => [(key, value)]
  | (k, v) :: rest =>
      if same k key then (k, value) :: rest else (k, v) :: put key value rest

/-- A dictionary of entries, where the last of several equal keys wins. -/
def ofEntries (entries : List (Value × Value)) : Value :=
  .dict (entries.foldl (fun es (k, v) => put k v es) [])

/-- The members of a set, each once. -/
def ofMembers (members : List Value) : Value :=
  .set (members.foldl (fun xs x => if xs.any (same · x) then xs else xs ++ [x]) [])

/-- The value under a text in a dictionary. -/
def get? (key : String) : Value → Option Value
  | .dict es => lookup (.str key) es
  | _ => none

/-- The value is a dictionary. -/
def isDict : Value → Bool
  | .dict _ => true
  | _ => false

end Value
end BuildTransform
