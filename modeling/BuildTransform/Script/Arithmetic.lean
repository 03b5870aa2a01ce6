import BuildTransform.Script.Node
import BuildTransform.Script.Object

/-!
# Arithmetic of scripts

The operators of scripts on values, with the exceptions that they raise.

* Truth values count as the integers zero and one.
* A sum joins two texts, two sequences of bytes, two lists or two tuples.
* A quotient of integers is rounded once, from the exact quotient. A power of floating-point
  numbers is known only where nothing has to be rounded.
* Complex numbers are beyond what is computed here.
-/

namespace BuildTransform
namespace Script

/-- An operand that is a number. -/
inductive Numeric
  | int (i : Int)
  | float (d : Double)
deriving DecidableEq, Repr

namespace Numeric

/-- The number that a value is. -/
def ofValue? : Value → Option Numeric
  | .bool b => some (.int (if b then 1 else 0))
  | .int i => some (.int i)
  | .float d => some (.float d)
  | _ => none

/-- The value of a number. -/
def toValue : Numeric → Value
  | .int i => .int i
  | .float d => .float d

/-- The floating-point number nearest to a number. -/
def toDouble : Numeric → Run Double
  | .float d => .ok d
  | .int i =>
      match Double.ofInt? i with
      | some d => .ok d
      | none => raise "OverflowError" "int too large to convert to float"

/-- The sum of two numbers. -/
def add (a b : Numeric) : Run Numeric :=
  match a, b with
  | .int i, .int j => .ok (.int (i + j))
  | _, _ => do
      let x ← a.toDouble
      let y ← b.toDouble
      .ok (.float (x.add y))

/-- The difference of two numbers. -/
def sub (a b : Numeric) : Run Numeric :=
  match a, b with
  | .int i, .int j => .ok (.int (i - j))
  | _, _ => do
      let x ← a.toDouble
      let y ← b.toDouble
      .ok (.float (x.add y.neg))

/-- The product of two numbers. -/
def mul (a b : Numeric) : Run Numeric :=
  match a, b with
  | .int i, .int j => .ok (.int (i * j))
  | _, _ => do
      let x ← a.toDouble
      let y ← b.toDouble
      .ok (.float (x.mul y))

/-- The quotient of two numbers as a floating-point number. -/
def div (a b : Numeric) : Run Numeric :=
  match a, b with
  | .int i, .int j =>
      if j = 0 then raise "ZeroDivisionError" "division by zero"
      else
        match Double.ofRatio (decide (i < 0) != decide (j < 0)) i.natAbs j.natAbs with
        | .infinite _ =>
            raise "OverflowError" "integer division result too large for a float"
        | d => .ok (.float d)
  | _, _ => do
      let x ← a.toDouble
      let y ← b.toDouble
      match x.div? y with
      | some d => .ok (.float d)
      | none => raise "ZeroDivisionError" "float division by zero"

/-- Powers of integers are computed up to about this number of bits. -/
def powerBits : Nat := 1000000

/-- A quotient that a floating-point number holds exactly, or the exception for one beyond all
of them; how any other one is rounded is left to the machine. -/
def exactQuotient (negative : Bool) (num den : Nat) : Run Numeric :=
  if Nat.pow 2 1024 * den ≤ num then
    raise "OverflowError" "(34, 'Numerical result out of range')"
  else
    match Double.ofRatio negative num den with
    | .finite s m q =>
        let (n, d) := Double.scaled num den q
        if m * d = n then .ok (.float (.finite s m q)) else goBeyond
    | _ => goBeyond

/-- A finite floating-point number raised to a natural power, or its inverse. -/
def floatPower (negative : Bool) (m : Nat) (q : Int) (n : Int) : Run Numeric :=
  let k := n.natAbs
  if 4096 < k then goBeyond
  else
    let sign := negative && k % 2 == 1
    let e := q * k
    let up := Nat.pow m k * Nat.pow 2 e.toNat
    let down := Nat.pow 2 (-e).toNat
    if 0 ≤ n then exactQuotient sign up down else exactQuotient sign down up

/-- A floating-point number raised to an integer power. -/
def doublePower (x : Double) (n : Int) : Run Numeric :=
  if n = 0 then .ok (.float (.ofNat 1))
  else
    match x with
    | .nan => .ok (.float .nan)
    | .infinite s =>
        let sign := s && n.natAbs % 2 == 1
        .ok (.float (if 0 < n then .infinite sign else .zero sign))
    | .finite s m q =>
        if m = 0 then
          if n < 0 then
            raise "ZeroDivisionError" "0.0 cannot be raised to a negative power"
          else .ok (.float (.zero (s && n.natAbs % 2 == 1)))
        else floatPower s m q n

/-- A number raised to a power; the exponent has to equal an integer. -/
def pow (a b : Numeric) : Run Numeric :=
  match a, b with
  | .int i, .int j =>
      if 0 ≤ j then
        if powerBits < (i.natAbs.log2 + 1) * j.toNat ∧ 1 < i.natAbs then goBeyond
        else if i = -1 ∨ i = 0 ∨ i = 1 then
          .ok (.int (if j = 0 then 1 else if i = -1 ∧ j.natAbs % 2 = 0 then 1 else i))
        else .ok (.int (Int.pow i j.toNat))
      else do
        let x ← a.toDouble
        let _ ← b.toDouble
        doublePower x j
  | _, _ => do
      let x ← a.toDouble
      let y ← b.toDouble
      match y.integer? with
      | some n => doublePower x n
      | none => goBeyond

end Numeric

/-- The text of a binary operator in messages. -/
def operatorText : Operator → String
  | .add => "+"
  | .sub => "-"
  | .mult => "*"
  | .matMult => "@"
  | .div => "/"
  | .mod => "%"
  | .pow => "** or pow()"
  | .lShift => "<<"
  | .rShift => ">>"
  | .bitOr => "|"
  | .bitXor => "^"
  | .bitAnd => "&"
  | .floorDiv => "//"

/-- Raises the exception for operands that an operator does not take. -/
def unsupportedOperands {α : Type} (o : Operator) (a b : Value) : Run α :=
  raise "TypeError" ("unsupported operand type(s) for " ++ operatorText o ++ ": '" ++
    a.kindName ++ "' and '" ++ b.kindName ++ "'")

/-- The sum of two values of which one is no number. -/
def joined (a b : Value) : Run Value :=
  match a, b with
  | .str s, .str t => .ok (.str (s ++ t))
  | .bytes s, .bytes t => .ok (.bytes (s ++ t))
  | .list s, .list t => .ok (.list (s ++ t))
  | .tuple s, .tuple t => .ok (.tuple (s ++ t))
  | .str _, _ => mismatch "str"
  | .list _, _ => mismatch "list"
  | .tuple _, _ => mismatch "tuple"
  | .bytes _, _ => raise "TypeError" ("can't concat " ++ b.kindName ++ " to bytes")
  | _, _ => unsupportedOperands .add a b
where
  /-- The exception for something else joined to a sequence. -/
  mismatch (kind : String) : Run Value :=
    raise "TypeError" ("can only concatenate " ++ kind ++ " (not \"" ++ b.kindName ++
      "\") to " ++ kind)

/-- The value is a complex number, on which nothing here computes. -/
def isComplex : Value → Bool
  | .complex _ => true
  | _ => false

/-- Whether a value counts as true. -/
def truthOf (v : Value) : Run Bool :=
  if isComplex v then goBeyond else .ok v.isTruthy

/-- The value of a binary operation on values. -/
def binaryOn (o : Operator) (a b : Value) : Run Value :=
  if isComplex a || isComplex b then goBeyond
  else
    match Numeric.ofValue? a, Numeric.ofValue? b with
    | some x, some y =>
        match o with
        | .add => (x.add y).map Numeric.toValue
        | .sub => (x.sub y).map Numeric.toValue
        | .mult => (x.mul y).map Numeric.toValue
        | .div => (x.div y).map Numeric.toValue
        | .pow => (x.pow y).map Numeric.toValue
        | _ => goBeyond
    | _, _ =>
        match o with
        | .add => joined a b
        | .div => unsupportedOperands o a b
        | .pow => unsupportedOperands o a b
        | _ => goBeyond

/-- The text of a sign in messages. -/
def signText : Sign → String
  | .plus => "unary +"
  | .minus => "unary -"
  | .invert => "unary ~"
  | .negation => "not"

/-- The value of a sign in front of a value. -/
def signOn (s : Sign) (v : Value) : Run Value :=
  if isComplex v then goBeyond
  else
    match s, Numeric.ofValue? v with
    | .negation, _ => (truthOf v).map fun b => .bool !b
    | .plus, some x => .ok x.toValue
    | .minus, some (.int i) => .ok (.int (-i))
    | .minus, some (.float d) => .ok (.float d.neg)
    | .invert, some (.int i) => .ok (.int (-i - 1))
    | _, _ =>
        raise "TypeError" ("bad operand type for " ++ signText s ++ ": '" ++ v.kindName ++ "'")

/-! ## Items -/

mutual

/-- The kind of the value that keeps a value from being a key, if there is one. -/
def unhashable? : Value → Option String
  | .list _ => some "list"
  | .set _ => some "set"
  | .dict _ => some "dict"
  | .tuple xs => anyUnhashable? xs
  | _ => none

/-- The kind of the first value that keeps a sequence from being a key. -/
def anyUnhashable? : List Value → Option String
  | [] => none
  | x :: xs =>
      match unhashable? x with
      | some k => some k
      | none => anyUnhashable? xs

end

/-- It is settled which keys equal the value: it holds neither the undefined number nor a
complex one. -/
def isSettledKey : Nat → Value → Bool
  | 0, _ => false
  | _ + 1, .float .nan => false
  | _ + 1, .complex _ => false
  | n + 1, .tuple xs => xs.all (isSettledKey n)
  | _ + 1, _ => true

/-- Checks that a value can be a key. -/
def requireKey (v : Value) : Run Unit :=
  if !isSettledKey nestingLimit v then goBeyond
  else
    match unhashable? v with
    | some k => raise "TypeError" ("unhashable type: '" ++ k ++ "'")
    | none => .ok ()

/-- Indices below this number in size are those of a sequence. -/
def indexBound : Nat := Nat.pow 2 63

/-- The item of a sequence at an index; negative indices count from the end. -/
def itemAt {α : Type} (items : List α) (complaint badIndex : String) (index : Value) : Run α :=
  match Numeric.ofValue? index with
  | some (.int i) =>
      let n := if i < 0 then i + items.length else i
      if indexBound ≤ i.natAbs then goBeyond
      else if n < 0 then raise "IndexError" complaint
      else
        match items[n.toNat]? with
        | some a => .ok a
        | none => raise "IndexError" complaint
  | _ => raise "TypeError" badIndex

/-- The item of a value under an index. -/
def itemOf (object index : Value) : Run Value :=
  match object with
  | .list xs => itemAt xs "list index out of range" (badIndex "list") index
  | .tuple xs => itemAt xs "tuple index out of range" (badIndex "tuple") index
  | .str s =>
      (itemAt s.toList "string index out of range"
        ("string indices must be integers, not '" ++ index.kindName ++ "'") index).map
        fun c => .str (String.singleton c)
  | .bytes bs =>
      (itemAt bs "index out of range" (badIndex "byte") index).map fun b => .int b.toNat
  | .dict es => do
      requireKey index
      match Value.lookup index es with
      | some v => .ok v
      | none => .error (.raised ⟨"KeyError", ← worded index Value.display?⟩)
  | v => raise "TypeError" ("'" ++ v.kindName ++ "' object is not subscriptable")
where
  /-- The complaint about an index that is no integer. -/
  badIndex (kind : String) : String :=
    kind ++ " indices must be integers or slices, not " ++ index.kindName

end Script
end BuildTransform
