import BuildTransform.Decimal.Integer
import BuildTransform.Decimal.Reading
import BuildTransform.Document
import BuildTransform.Value.Basic
import BuildTransform.Yaml.Schema

/-!
# Values of YAML scalars

The value of the text of a scalar under each of the standard tags.

* A text that does not denote a value of its tag is a fault of the document, except
  for malformed binary data, which breaks the grammar.
* Integers may be written in base two, eight, ten, sixteen and sixty.
-/

namespace BuildTransform
namespace Yaml
namespace Scalar

/-- The outcome of reading a scalar. -/
abbrev Outcome := Except DocumentFailure Value

/-- A fault of the document. -/
def fault {α : Type} (f : DocumentFault) : Except DocumentFailure α :=
  .error (.fault f)

/-- The text in small letters. -/
def lowered (s : String) : String :=
  String.ofList (s.toList.map Char.toLower)

/-- The truth value of a word. -/
def truth (s : String) : Outcome :=
  let word := lowered s
  if ["yes", "true", "on"].contains word then .ok (.bool true)
  else if ["no", "false", "off"].contains word then .ok (.bool false)
  else fault (.unknownTruth word)

/-- The sign in front of a number, which must not be empty; low lines do not count. -/
def signed (s : String) : Except DocumentFailure (Bool × List Char) :=
  match s.toList.filter (· ≠ '_') with
  | [] => fault .emptyNumber
  | '-' :: rest => .ok (true, rest)
  | '+' :: rest => .ok (false, rest)
  | cs => .ok (false, cs)

/-- An integer in a base. -/
def inBase (base : Nat) (cs : List Char) : Except DocumentFailure Int :=
  match Integer.inBase base cs with
  | .ok i => .ok i
  | .error _ => fault .impossibleValue

/-- Pieces between colons with their places from the right: sixty to the power of
the place is the weight of a piece. -/
def weighted (cs : List Char) : List (List Char × Nat) :=
  let pieces := Text.pieces (· == ':') cs
  pieces.zip ((List.range pieces.length).reverse)

/-- An integer without its first sign. -/
def unsignedInt (cs : List Char) : Except DocumentFailure Int :=
  match cs with
  | [] => fault .emptyNumber
  | ['0'] => .ok 0
  | '0' :: 'b' :: rest => inBase 2 rest
  | '0' :: 'x' :: rest => inBase 16 rest
  | '0' :: _ => inBase 8 cs
  | _ =>
      if cs.contains ':' then do
        let terms ← (weighted cs).mapM fun (piece, place) => do
          .ok ((← inBase 10 piece) * (Nat.pow 60 place : Nat))
        .ok (terms.foldl (· + ·) 0)
      else inBase 10 cs

/-- The integer that a text denotes. -/
def int (s : String) : Outcome := do
  let (negative, cs) ← signed s
  let i ← unsignedInt cs
  .ok (.int (if negative then -i else i))

/-- A floating-point number as people write it. -/
def double (cs : List Char) : Except DocumentFailure Double :=
  match Reading.written? cs with
  | some d => .ok d
  | none => fault .impossibleValue

/-- The number nearest to a power of sixty. -/
def sixtyTo (n : Nat) : Except DocumentFailure Double :=
  match Double.ofInt? (Nat.pow 60 n : Nat) with
  | some d => .ok d
  | none => fault .numberOutOfRange

/-- The sum of weighted pieces, from the right, rounded after every step. -/
def sexagesimal (cs : List Char) : Except DocumentFailure Double := do
  let terms ← (weighted cs).mapM fun (piece, place) => do
    .ok ((← double piece), place)
  terms.reverse.foldlM
    (fun total (x, place) => do .ok (total.add (x.mul (← sixtyTo place))))
    (Double.zero false)

/-- A floating-point number without its first sign, in small letters. -/
def unsignedFloat (cs : List Char) : Except DocumentFailure Double :=
  let word := String.ofList cs
  if word = ".inf" then .ok (.infinite false)
  else if word = ".nan" then .ok .nan
  else if cs.contains ':' then sexagesimal cs
  else double cs

/-- The floating-point number that a text denotes. -/
def float (s : String) : Outcome := do
  let (negative, cs) ← signed (lowered s)
  let d ← unsignedFloat cs
  .ok (.float (if negative then d.neg else d))

/-- The timestamp that a text denotes. -/
def timestamp (s : String) : Outcome :=
  match Schema.timestamp? (Schema.withoutLineFeed s.toList) with
  | none => fault .notATimestamp
  | some (d, none) => if d.isProper then .ok (.date d) else fault .impossibleValue
  | some (d, some t) =>
      if d.isProper && t.isProper then .ok (.datetime d t) else fault .impossibleValue

/-! ## Binary data -/

/-- The value of a character among sixty-four. -/
def sixBits? (c : Char) : Option Nat :=
  if 'A' ≤ c && c ≤ 'Z' then some (c.toNat - 65)
  else if 'a' ≤ c && c ≤ 'z' then some (c.toNat - 71)
  else if Numeral.isDigit c then some (c.toNat + 4)
  else if c == '+' then some 62
  else if c == '/' then some 63
  else none

/-- The bytes of groups of four characters. `place` counts the characters of the
group so far, `carry` holds their bits that are still to be written, and `pads` the
equals signs in a row. Data ends with a full group, which equals signs may fill up;
other characters do not count. -/
def groups (place carry pads : Nat) : List Char → Option (List UInt8)
  | [] => if place = 0 then some [] else none
  | c :: rest =>
      if c == '=' then
        if 2 ≤ place then
          if 4 ≤ place + pads + 1 then some [] else groups place carry (pads + 1) rest
        else groups place carry pads rest
      else
        match sixBits? c with
        | none => groups place carry pads rest
        | some v =>
            match place with
            | 0 => groups 1 v 0 rest
            | 1 => (groups 2 (v % 16) 0 rest).map (UInt8.ofNat (carry * 4 + v / 16) :: ·)
            | 2 => (groups 3 (v % 4) 0 rest).map (UInt8.ofNat (carry * 16 + v / 4) :: ·)
            | _ => (groups 0 0 0 rest).map (UInt8.ofNat (carry * 64 + v) :: ·)

/-- The bytes that a text denotes. -/
def binary (s : String) : Outcome :=
  let cs := s.toList
  if cs.any fun c => 128 ≤ c.toNat then .error .malformed
  else
    match groups 0 0 0 cs with
    | some bs => .ok (.bytes bs)
    | none => .error .malformed

/-- The value of a text under a tag, unless the tag is not one for scalars. -/
def read? (tag : Tag) (s : String) : Option Outcome :=
  match tag with
  | .null => some (.ok .null)
  | .bool => some (truth s)
  | .int => some (int s)
  | .float => some (float s)
  | .binary => some (binary s)
  | .timestamp => some (timestamp s)
  | .str => some (.ok (.str s))
  | _ => none

end Scalar
end Yaml
end BuildTransform
