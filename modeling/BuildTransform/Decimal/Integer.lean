import BuildTransform.Decimal.Numeral
import BuildTransform.Text.Class
import BuildTransform.Text.Table.Zero

/-!
# Reading integers

The text of an integer as people write it: white space around it, a sign, and
digits of any script with single low lines between them.

* `Integer.ungrouped?` removes the low lines between digits.
* `Integer.ofText` reads decimal digits under the length limit.
-/

namespace BuildTransform
namespace Integer

/-- The value of a decimal digit of any script. -/
def decimalValue? (c : Char) : Option Nat :=
  if c.toNat < 128 then Numeral.digitValue? 10 c
  else
    match Text.Table.zeros.find? (fun z => z ≤ c.toNat && c.toNat < z + 10) with
    | some z => some (c.toNat - z)
    | none => none

/-- Removes single low lines between characters; a low line at an end or next
to another one is refused. -/
def ungrouped? : List Char → Option (List Char)
  | [] => some []
  | '_' :: _ => none
  | c :: '_' :: rest =>
      match rest with
      | [] => none
      | '_' :: _ => none
      | d :: rest => (ungrouped? (d :: rest)).map (c :: ·)
  | c :: rest => (ungrouped? rest).map (c :: ·)

/-- The characters behind a mark for a base, if there is one: a zero and a letter. -/
def withoutMark (base : Nat) (cs : List Char) : List Char :=
  match cs with
  | '0' :: c :: rest =>
      let letter := c.toLower
      if (base = 2 && letter == 'b') || (base = 8 && letter == 'o') ||
          (base = 16 && letter == 'x') then rest
      else cs
  | _ => cs

/-- The value of a digit of any script in a base. -/
def anyDigit? (base : Nat) (c : Char) : Option Nat :=
  if c.toNat < 128 then Numeral.digitValue? base c
  else (decimalValue? c).bind fun v => if v < base then some v else none

/-- Reads an integer in a base that may be marked, without low lines. -/
def inBase (base : Nat) (cs : List Char) : Except Numeral.Refusal Int :=
  let (negative, body) :=
    match Text.trimmed cs with
    | '-' :: rest => (true, rest)
    | '+' :: rest => (false, rest)
    | rest => (false, rest)
  match (withoutMark base body).mapM (anyDigit? base) with
  | none => .error .malformed
  | some [] => .error .malformed
  | some ds =>
      if base = 10 ∧ Numeral.digitLimit < ds.length then .error .tooLong
      else
        let n := Numeral.ofDigits base ds
        .ok (if negative then -(n : Int) else n)

/-- Reads an integer; more than `Numeral.digitLimit` digits are refused. -/
def ofText (cs : List Char) : Except Numeral.Refusal Int :=
  let (negative, body) :=
    match Text.trimmed cs with
    | '-' :: rest => (true, rest)
    | '+' :: rest => (false, rest)
    | rest => (false, rest)
  match (ungrouped? body).bind (·.mapM decimalValue?) with
  | none => .error .malformed
  | some [] => .error .malformed
  | some ds =>
      if Numeral.digitLimit < ds.length then .error .tooLong
      else
        let n := Numeral.ofDigits 10 ds
        .ok (if negative then -(n : Int) else n)

end Integer
end BuildTransform
