import BuildTransform.Decimal.Numeral

/-!
# Binary floating-point numbers

Numbers with a 53-bit significand and exponents from -1074 to 971, held as a
sign, a significand and an exponent so that all arithmetic is exact integer
arithmetic followed by one rounding.

* `Double.ofRatio` rounds a quotient to the nearest number, ties to the even
  significand, and is the only place where rounding happens.
* `Double.add`, `Double.mul`, `Double.div` compute the exact result first.
* `Double.ofInt?` refuses integers beyond the largest finite number.
-/

namespace BuildTransform

/-- A binary64 number: `finite s m q` is plus or minus `m * 2 ^ q`. -/
inductive Double
  | nan
  | infinite (negative : Bool)
  | finite (negative : Bool) (significand : Nat) (exponent : Int)
deriving DecidableEq, Repr, Inhabited

namespace Double

/-- Least exponent of a finite number. -/
def minExponent : Int := -1074

/-- Greatest exponent of a finite number. -/
def maxExponent : Int := 971

/-- Significands are smaller than this number. -/
def significandBound : Nat := Nat.pow 2 53

/-- The zero of a sign. -/
def zero (negative : Bool) : Double :=
  .finite negative 0 minExponent

/-- The quotient of two numbers rounded to the nearest integer, ties to even. -/
def roundQuotient (n d : Nat) : Nat :=
  let q := n / d
  let r := n % d
  if 2 * r < d then q
  else if d < 2 * r then q + 1
  else if q % 2 = 0 then q else q + 1

/-- Numerator and denominator of `num / den / 2 ^ q`. -/
def scaled (num den : Nat) (q : Int) : Nat × Nat :=
  if 0 ≤ q then (num, den * Nat.pow 2 q.toNat) else (num * Nat.pow 2 (-q).toNat, den)

/-- The exponent at which a positive quotient has a 53-bit integer part, or the
least exponent if that is greater. -/
def exponentFor (num den : Nat) : Int :=
  let guess : Int := (num.log2 : Int) - (den.log2 : Int) - 53
  let (n, d) := scaled num den guess
  max minExponent (if n / d < significandBound then guess else guess + 1)

/-- A significand that rounding has carried up to the bound is halved. -/
def renormalized (negative : Bool) (m : Nat) (q : Int) : Double :=
  let (m, q) := if m = significandBound then (m / 2, q + 1) else (m, q)
  if maxExponent < q then .infinite negative else .finite negative m q

/-- The number nearest to a quotient, ties to the even significand. -/
def ofRatio (negative : Bool) (num den : Nat) : Double :=
  if num = 0 then zero negative
  else
    let q := exponentFor num den
    let (n, d) := scaled num den q
    renormalized negative (roundQuotient n d) q

/-- The number nearest to `m * 2 ^ q`. -/
def ofScaled (negative : Bool) (m : Nat) (q : Int) : Double :=
  if 0 ≤ q then ofRatio negative (m * Nat.pow 2 q.toNat) 1
  else ofRatio negative m (Nat.pow 2 (-q).toNat)

/-- The number nearest to a natural number. -/
def ofNat (n : Nat) : Double :=
  ofRatio false n 1

/-- The number nearest to an integer, or nothing if the integer is too large. -/
def ofInt? (i : Int) : Option Double :=
  match ofRatio (decide (i < 0)) i.natAbs 1 with
  | .infinite _ => none
  | d => some d

/-- The number nearest to `n * 10 ^ e`, without forming powers that lie far
outside the range. -/
def ofDecimal (negative : Bool) (n : Nat) (e : Int) : Double :=
  if n = 0 then zero negative
  else
    let size : Int := e + (Numeral.digits n).length
    if 400 < size then .infinite negative
    else if size < -400 then zero negative
    else if 0 ≤ e then ofRatio negative (n * Nat.pow 10 e.toNat) 1
    else ofRatio negative n (Nat.pow 10 (-e).toNat)

/-- The number is negative, or a zero with a minus sign. -/
def isNegative : Double → Bool
  | .nan => false
  | .infinite s => s
  | .finite s _ _ => s

/-- The number is a zero of either sign. -/
def isZero : Double → Bool
  | .finite _ m _ => m == 0
  | _ => false

/-- The number without its sign. -/
def abs : Double → Double
  | .nan => .nan
  | .infinite _ => .infinite false
  | .finite _ m q => .finite false m q

/-- The number with the opposite sign. -/
def neg : Double → Double
  | .nan => .nan
  | .infinite s => .infinite !s
  | .finite s m q => .finite (!s) m q

/-- A signed significand. -/
def signed (negative : Bool) (m : Nat) : Int :=
  if negative then -(m : Int) else m

/-- The exact sum of two finite numbers as an integer multiple of a power of two. -/
def exactSum (s : Bool) (m : Nat) (q : Int) (s' : Bool) (m' : Nat) (q' : Int) : Int × Int :=
  let base := min q q'
  let aligned := signed s (m * Nat.pow 2 (q - base).toNat)
  let aligned' := signed s' (m' * Nat.pow 2 (q' - base).toNat)
  (aligned + aligned', base)

/-- The sum of two numbers; a sum of zero is negative only if both terms are. -/
def add : Double → Double → Double
  | .nan, _ => .nan
  | _, .nan => .nan
  | .infinite s, .infinite s' => if s = s' then .infinite s else .nan
  | .infinite s, .finite _ _ _ => .infinite s
  | .finite _ _ _, .infinite s => .infinite s
  | .finite s m q, .finite s' m' q' =>
      let (total, base) := exactSum s m q s' m' q'
      if total = 0 then zero (s && s')
      else ofScaled (decide (total < 0)) total.natAbs base

/-- The product of two numbers. -/
def mul : Double → Double → Double
  | .nan, _ => .nan
  | _, .nan => .nan
  | .infinite s, .infinite s' => .infinite (s != s')
  | .infinite s, .finite s' m _ => if m = 0 then .nan else .infinite (s != s')
  | .finite s m _, .infinite s' => if m = 0 then .nan else .infinite (s != s')
  | .finite s m q, .finite s' m' q' => ofScaled (s != s') (m * m') (q + q')

/-- The quotient of two numbers, or nothing if the divisor is a zero. -/
def div? : Double → Double → Option Double
  | a, b =>
    if b.isZero then none
    else
      match a, b with
      | .nan, _ => some .nan
      | _, .nan => some .nan
      | .infinite _, .infinite _ => some .nan
      | .infinite s, .finite s' _ _ => some (.infinite (s != s'))
      | .finite s _ _, .infinite s' => some (zero (s != s'))
      | .finite s m q, .finite s' m' q' =>
          let e := q - q'
          some <|
            if 0 ≤ e then ofRatio (s != s') (m * Nat.pow 2 e.toNat) m'
            else ofRatio (s != s') m (m' * Nat.pow 2 (-e).toNat)

/-- The integer part, toward zero; nothing for an infinity or an undefined number. -/
def truncate? : Double → Option Int
  | .finite s m q =>
      some (signed s (if 0 ≤ q then m * Nat.pow 2 q.toNat else m / Nat.pow 2 (-q).toNat))
  | _ => none

/-- The integer that the number equals, if there is one. -/
def integer? : Double → Option Int
  | .finite s m q =>
      if 0 ≤ q then some (signed s (m * Nat.pow 2 q.toNat))
      else if m % Nat.pow 2 (-q).toNat = 0 then some (signed s (m / Nat.pow 2 (-q).toNat))
      else none
  | _ => none

/-- Numeric equality: zeros are equal whatever their signs, an undefined number
equals nothing. -/
def equals : Double → Double → Bool
  | .nan, _ => false
  | _, .nan => false
  | .finite s m q, .finite s' m' q' => (exactSum s m q (!s') m' q').1 == 0
  | a, b => a == b

end Double
end BuildTransform
