import BuildTransform.Decimal.Double
import BuildTransform.Decimal.Integer

/-!
# Reading decimal numbers

The text of a decimal number, `digits . digits e ± digits`, as a binary number.

* `Reading.unsigned?` reads a numeral without a sign.
* `Reading.signed?` also accepts a sign and the words for infinities and the
  undefined number.
-/

namespace BuildTransform
namespace Reading

/-- Splits a text at the first character that satisfies a test; the flag says
whether there is one. -/
def cutAt (p : Char → Bool) (cs : List Char) : List Char × Option (List Char) :=
  match cs.dropWhile (fun c => !p c) with
  | [] => (cs.takeWhile (fun c => !p c), none)
  | _ :: rest => (cs.takeWhile (fun c => !p c), some rest)

/-- A sign in front of a text, and whether it is a minus. -/
def sign : List Char → Bool × List Char
  | '-' :: rest => (true, rest)
  | '+' :: rest => (false, rest)
  | cs => (false, cs)

/-- Reads the digits of an exponent with an optional sign. -/
def exponent? (cs : List Char) : Option Int :=
  let (negative, ds) := sign cs
  if ds.isEmpty then none
  else (Numeral.digitValues? 10 ds).map fun vs =>
    Double.signed negative (Numeral.ofDigits 10 vs)

/-- Reads `digits . digits e ± digits`, where the point, one of the groups of
digits and the exponent may be missing. -/
def unsigned? (negative : Bool) (cs : List Char) : Option Double := do
  let (mantissa, tail) := cutAt (fun c => c == 'e' || c == 'E') cs
  let e ←
    match tail with
    | none => some 0
    | some ds => exponent? ds
  let (before, fraction) := cutAt (· == '.') mantissa
  let after := fraction.getD []
  let ds ← Numeral.digitValues? 10 (before ++ after)
  if ds.isEmpty then none
  else some (Double.ofDecimal negative (Numeral.ofDigits 10 ds) (e - after.length))

/-- ASCII letters in lower case. -/
def lowered (cs : List Char) : String :=
  String.ofList (cs.map Char.toLower)

/-- Reads a number with an optional sign, or a word for an infinity or for the
undefined number in any letter case. -/
def signed? (cs : List Char) : Option Double :=
  let (negative, rest) := sign cs
  let word := lowered rest
  if word == "inf" || word == "infinity" then some (.infinite negative)
  else if word == "nan" then some .nan
  else unsigned? negative rest

/-- Reads a number as people write it: with white space around it and digits of any
script. -/
def written? (cs : List Char) : Option Double :=
  signed? ((Text.trimmed cs).map fun c =>
    match Integer.decimalValue? c with
    | some d => Numeral.digitChar d
    | none => c)

end Reading
end BuildTransform
