import BuildTransform.Decimal.Shortest

/-!
# Layouts of decimal numbers

How a decimal number is written: positionally for moderate exponents, with an
exponent otherwise.

* `Layout` collects every choice a number format makes.
* `Layout.concatenated` is the format of numbers joined to a text.
* `Layout.displayed` is the format of numbers shown as values.
-/

namespace BuildTransform

/-- The choices of a number format. A decimal is written positionally if its
point lies between `leastPoint` and `greatestPoint`. -/
structure Layout where
  leastPoint : Int
  greatestPoint : Int
  keepsFraction : Bool
  exponentWidth : Nat
  zero : Bool → String
  infinite : Bool → String
  undefined : String

namespace Layout

/-- Numbers joined to a text are positional from `1e-6` up to, not including,
`1e21`; integers carry no fraction and zero carries no sign. -/
def concatenated : Layout where
  leastPoint := -5
  greatestPoint := 21
  keepsFraction := false
  exponentWidth := 1
  zero := fun _ => "0"
  infinite := fun s => if s then "-Infinity" else "Infinity"
  undefined := "NaN"

/-- Displayed numbers are positional from `1e-4` up to, not including, `1e16`,
always show a fraction there, and give the exponent at least two digits. -/
def displayed : Layout where
  leastPoint := -3
  greatestPoint := 16
  keepsFraction := true
  exponentWidth := 2
  zero := fun s => if s then "-0.0" else "0.0"
  infinite := fun s => if s then "-inf" else "inf"
  undefined := "nan"

/-- Zero characters. -/
def zeros (n : Nat) : List Char :=
  List.replicate n '0'

/-- Digits with the point after them. -/
def whole (l : Layout) (ds : List Char) (point : Nat) : List Char :=
  ds ++ zeros (point - ds.length) ++ (if l.keepsFraction then ['.', '0'] else [])

/-- A signed exponent. -/
def exponentChars (l : Layout) (e : Int) : List Char :=
  let cs := Numeral.natChars e.natAbs
  (if e < 0 then '-' else '+') :: (zeros (l.exponentWidth - cs.length) ++ cs)

/-- One digit, the remaining digits after a point, and an exponent. -/
def scientific (l : Layout) (ds : List Char) (point : Int) : List Char :=
  let mantissa :=
    match ds with
    | [] => ['0']
    | [d] => [d]
    | d :: rest => d :: '.' :: rest
  mantissa ++ 'e' :: l.exponentChars (point - 1)

/-- A positive decimal in a layout. -/
def positive (l : Layout) (d : Decimal) : List Char :=
  let ds := d.digits.map Numeral.digitChar
  if d.point < l.leastPoint ∨ l.greatestPoint < d.point then l.scientific ds d.point
  else if d.point ≤ 0 then ['0', '.'] ++ zeros (-d.point).toNat ++ ds
  else if (ds.length : Int) ≤ d.point then l.whole ds d.point.toNat
  else ds.take d.point.toNat ++ '.' :: ds.drop d.point.toNat

/-- The text of a binary number in a layout. -/
def text (l : Layout) : Double → String
  | .nan => l.undefined
  | .infinite s => l.infinite s
  | .finite s m q =>
      if m = 0 then l.zero s
      else
        let body := l.positive (Decimal.shortest m q)
        String.ofList (if s then '-' :: body else body)

end Layout
end BuildTransform
