import BuildTransform.Decimal.Double

/-!
# Shortest decimal digits

The fewest decimal digits that determine a positive binary number, and of
those the digits nearest to it.

* `Decimal` is a positive decimal number: digits and the position of the point
  relative to the first digit.
* `Interval` holds the decimals that round to a given number.
* `Decimal.shortest` tries 1, 2, … 17 digits; on each grid only the two
  neighbours of the number itself have to be tried.
-/

namespace BuildTransform

/-- A positive decimal number `0.d₁d₂… * 10 ^ point`. -/
structure Decimal where
  digits : List Nat
  point : Int
deriving DecidableEq, Repr

/-- The quarters of a unit in the last place between which every quotient
rounds to the same number; the ends belong to it iff the significand is even. -/
structure Interval where
  low : Nat
  high : Nat
  unit : Int
  closed : Bool
deriving DecidableEq, Repr

namespace Interval

/-- The interval of quotients that round to `m * 2 ^ q`. -/
def around (m : Nat) (q : Int) : Interval where
  low := if m = Nat.pow 2 52 ∧ Double.minExponent < q then 4 * m - 1 else 4 * m - 2
  high := 4 * m + 2
  unit := q - 2
  closed := m % 2 == 0

/-- The quotient `num / den` lies in the interval. -/
def contains (i : Interval) (num den : Nat) : Bool :=
  let (n, d) := Double.scaled num den i.unit
  if i.closed then decide (i.low * d ≤ n) && decide (n ≤ i.high * d)
  else decide (i.low * d < n) && decide (n < i.high * d)

end Interval

namespace Decimal

/-- Numerator and denominator of `n * 10 ^ k`. -/
def ratio (n : Nat) (k : Int) : Nat × Nat :=
  if 0 ≤ k then (n * Nat.pow 10 k.toNat, 1) else (n, Nat.pow 10 (-k).toNat)

/-- The position of the point of `num / den`: the least `p` with
`num / den < 10 ^ p`, searched upwards from a lower bound. -/
def pointFrom (num den : Nat) (p : Int) : Nat → Int
  | 0 => p
  | fuel + 1 =>
      let (n, d) := ratio 1 p
      if num * d < den * n then p else pointFrom num den (p + 1) fuel

/-- The position of the decimal point of a positive quotient. -/
def pointOf (num den : Nat) : Int :=
  let bits : Int := (num.log2 : Int) - (den.log2 : Int)
  let guess := Int.fdiv (bits * 30102) 100000 - 2
  pointFrom num den guess 8

/-- Drops zeros at the end of a list of digits. -/
def trimmed (ds : List Nat) : List Nat :=
  (ds.reverse.dropWhile (· == 0)).reverse

/-- The decimal `n * 10 ^ k` in normal form. -/
def ofScaled (n : Nat) (k : Int) : Decimal where
  digits := trimmed (Numeral.digits n)
  point := k + (Numeral.digits n).length

/-- Of two neighbours on a grid, the one in the interval that is nearer to
`num / den`; an exact tie goes to the even neighbour. -/
def nearestWithin (i : Interval) (num den : Nat) (k : Int) : Option Nat :=
  let (n, d) := ratio 1 k
  let below := num * d / (den * n)
  let inside (c : Nat) : Bool :=
    let (a, b) := ratio c k
    i.contains a b
  let twice := 2 * (num * d)
  let middle := (2 * below + 1) * (den * n)
  match inside below, inside (below + 1) with
  | false, false => none
  | true, false => some below
  | false, true => some (below + 1)
  | true, true =>
      if twice < middle then some below
      else if middle < twice then some (below + 1)
      else some (if below % 2 = 0 then below else below + 1)

/-- Tries grids with more and more digits. -/
def search (i : Interval) (num den : Nat) (point : Int) : Nat → Nat → Decimal
  | 0, count => ofScaled (num * Nat.pow 10 count / den) (-(count : Int))
  | fuel + 1, count =>
      let k := point - count
      match nearestWithin i num den k with
      | some n => ofScaled n k
      | none => search i num den point fuel (count + 1)

/-- The shortest decimal that rounds to `m * 2 ^ q`, nearest to it among those. -/
def shortest (m : Nat) (q : Int) : Decimal :=
  let (num, den) := if 0 ≤ q then (m * Nat.pow 2 q.toNat, 1) else (m, Nat.pow 2 (-q).toNat)
  search (Interval.around m q) num den (pointOf num den) 17 1

end Decimal
end BuildTransform
