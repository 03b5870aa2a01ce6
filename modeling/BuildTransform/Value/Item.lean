import BuildTransform.Value.Basic

/-!
# Items of values

Replacing an item deep inside a value.

* `Value.setItem` replaces or adds one item of a dictionary or a list.
* `Value.assign` follows keys down to the item that the last key names.
-/

namespace BuildTransform

/-- Why an item cannot be reached or replaced. -/
inductive ItemFault
  | missingKey (key : Value)
  | outOfRange
  | unsuitable
deriving Repr

namespace Value

/-- The place of an index in a list; negative indices count from the end. -/
def placeOf (items : List Value) (key : Value) : Except ItemFault Nat :=
  match key with
  | .int i =>
      let n := if i < 0 then i + items.length else i
      if 0 ≤ n ∧ n < items.length then .ok n.toNat else .error .outOfRange
  | _ => .error .unsuitable

/-- The item under a key. -/
def item (v key : Value) : Except ItemFault Value :=
  match v with
  | .dict es =>
      if !key.isKey then .error .unsuitable
      else
        match lookup key es with
        | some v => .ok v
        | none => .error (.missingKey key)
  | .list xs => do
      let n ← placeOf xs key
      .ok (xs[n]?.getD .null)
  | _ => .error .unsuitable

/-- The value with another item under a key. -/
def setItem (v key new : Value) : Except ItemFault Value :=
  match v with
  | .dict es =>
      if !key.isKey then .error .unsuitable else .ok (.dict (put key new es))
  | .list xs => do
      let n ← placeOf xs key
      .ok (.list (xs.set n new))
  | _ => .error .unsuitable

/-- The value with another item at the end of a list of keys. -/
def assign (new : Value) : List Value → Value → Except ItemFault Value
  | [], _ => .error .unsuitable
  | [key], v => setItem v key new
  | key :: more, v => do
      let inner ← item v key
      let inner ← assign new more inner
      setItem v key inner

end Value
end BuildTransform
