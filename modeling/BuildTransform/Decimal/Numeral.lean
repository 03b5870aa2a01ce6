/-!
# Decimal numerals

Natural numbers and integers as texts of decimal digits, in both directions.

* `Numeral.digits` lists the decimal digits of a number, most significant
  first, and `Numeral.ofDigits` reads such a list back.
* `Numeral.intText?` writes an integer unless it has more than
  `Numeral.digitLimit` digits; `Numeral.ofDecimal` reads under the same limit.
-/

namespace BuildTransform
namespace Numeral

/-- The longest decimal text that is read as an integer or written for one. -/
def digitLimit : Nat := 4300

/-- The character of a digit below ten. -/
def digitChar (d : Nat) : Char :=
  Char.ofNat (48 + d)

/-- The value of a character as a digit in a base of at most thirty-six. -/
def digitValue? (base : Nat) (c : Char) : Option Nat :=
  let v :=
    if '0' ≤ c ∧ c ≤ '9' then c.toNat - 48
    else if 'a' ≤ c ∧ c ≤ 'z' then c.toNat - 87
    else if 'A' ≤ c ∧ c ≤ 'Z' then c.toNat - 55
    else base
  if v < base then some v else none

/-- An ASCII decimal digit. -/
def isDigit (c : Char) : Bool :=
  '0' ≤ c && c ≤ '9'

/-- Decimal digits of a number in front of the digits already written. -/
def digitsOnto (n : Nat) (rest : List Nat) : List Nat :=
  if n < 10 then n :: rest
  else digitsOnto (n / 10) (n % 10 :: rest)
termination_by n

/-- Decimal digits of a number, most significant first; zero has one digit. -/
def digits (n : Nat) : List Nat :=
  digitsOnto n []

/-- The number that a list of digits denotes in a base. -/
def ofDigits (base : Nat) (ds : List Nat) : Nat :=
  ds.foldl (fun n d => n * base + d) 0

/-- The decimal text of a natural number. -/
def natChars (n : Nat) : List Char :=
  (digits n).map digitChar

/-- The decimal text of a natural number. -/
def natText (n : Nat) : String :=
  String.ofList (natChars n)

/-- The decimal text of an integer, with a minus sign if it is negative. -/
def intText (i : Int) : String :=
  if i < 0 then "-" ++ natText i.natAbs else natText i.natAbs

/-- The number `n` has at most `digitLimit` decimal digits. -/
def withinLimit (n : Nat) : Bool :=
  decide (n < Nat.pow 10 digitLimit)

/-- The decimal text of an integer that is not too long to be written. -/
def intText? (i : Int) : Option String :=
  if withinLimit i.natAbs then some (intText i) else none

/-- Two digits, with a leading zero where needed. -/
def twoDigits (n : Nat) : String :=
  if n < 10 then "0" ++ natText n else natText n

/-- Digits filled up with leading zeros to a width. -/
def padded (width n : Nat) : String :=
  let cs := natChars n
  String.ofList (List.replicate (width - cs.length) '0' ++ cs)

/-- The values of characters that are all digits of a base. -/
def digitValues? (base : Nat) (cs : List Char) : Option (List Nat) :=
  cs.mapM (digitValue? base)

/-- Why the text of an integer is refused. -/
inductive Refusal
  | malformed
  | tooLong
deriving DecidableEq, Repr

/-- Reads decimal digits, refusing more than `digitLimit` of them. -/
def ofDecimal (cs : List Char) : Except Refusal Nat :=
  match digitValues? 10 cs with
  | none => .error .malformed
  | some ds =>
      if ds.isEmpty then .error .malformed
      else if ds.length > digitLimit then .error .tooLong
      else .ok (ofDigits 10 ds)

end Numeral
end BuildTransform
