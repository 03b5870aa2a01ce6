import BuildTransform.Decimal.Reading
import BuildTransform.Text.Class
import BuildTransform.Value.Basic

/-!
# Literals of scripts

The values of numbers and quoted texts.

* `Literal.number?` reads a number in any base, with low lines between digits, a
  fraction, an exponent or the mark of an imaginary number.
* `Literal.unescaped?` replaces the escapes of a quoted text.
-/

namespace BuildTransform
namespace Script
namespace Literal

/-- The character can stand in a word: an ASCII letter or digit, the low line, or
any character beyond ASCII. -/
def isWordPart (c : Char) : Bool :=
  c.isAlphanum || c == '_' || 128 ≤ c.toNat

/-- Words that may follow a number without a space. -/
def followers : List String :=
  ["and", "else", "for", "if", "in", "is", "or"]

/-- What follows a number cannot be taken for a part of it. -/
def endsWell (rest : List Char) : Bool :=
  followers.any (fun w => w.toList.isPrefixOf rest) ||
    match rest with
    | [] => true
    | c :: _ => !isWordPart c

/-- Digits at the front with single low lines between them. -/
def digitRun (isDigit : Char → Bool) : Nat → List Char → Option (List Char × List Char)
  | 0, _ => none
  | fuel + 1, cs =>
      let ds := cs.takeWhile isDigit
      let rest := cs.dropWhile isDigit
      if ds.isEmpty then none
      else
        match rest with
        | '_' :: rest => (digitRun isDigit fuel rest).map fun (more, rest) => (ds ++ more, rest)
        | _ => some (ds, rest)

/-- Decimal digits at the front with single low lines between them. -/
def decimalRun (cs : List Char) : Option (List Char × List Char) :=
  digitRun Numeral.isDigit (cs.length + 1) cs

/-- The characters behind a low line, which may be missing. -/
def afterLowLine (cs : List Char) : List Char :=
  match cs with
  | '_' :: rest => rest
  | _ => cs

/-- A number in a base other than ten, from behind its mark. -/
def based? (base : Nat) (cs : List Char) : Option (Value × List Char) := do
  let cs := afterLowLine cs
  let isDigit (c : Char) : Bool := (Numeral.digitValue? base c).isSome
  let (ds, rest) ← digitRun isDigit (cs.length + 1) cs
  let values ← Numeral.digitValues? base ds
  if endsWell rest then some (.int (Numeral.ofDigits base values), rest) else none

/-- The fraction at the front, with its point. -/
def fraction? (cs : List Char) : Option (List Char × List Char) :=
  match cs with
  | '.' :: rest =>
      match rest with
      | d :: _ =>
          if Numeral.isDigit d then
            (decimalRun rest).map fun (ds, rest) => ('.' :: ds, rest)
          else some (['.'], rest)
      | [] => some (['.'], [])
  | _ => some ([], cs)

/-- The exponent at the front, with its letter; nothing is read if no digit
follows the letter directly. -/
def exponent? (cs : List Char) : Option (List Char × List Char) :=
  match cs with
  | c :: rest =>
      if c == 'e' || c == 'E' then
        match rest with
        | s :: r =>
            if s == '+' || s == '-' then
              (decimalRun r).map fun (ds, rest) => (c :: s :: ds, rest)
            else if Numeral.isDigit s then
              (decimalRun rest).map fun (ds, rest) => (c :: ds, rest)
            else some ([], cs)
        | [] => some ([], cs)
      else some ([], cs)
  | [] => some ([], cs)

/-- The digits in front of the point, which may be missing. -/
def whole? (cs : List Char) : Option (List Char × List Char) :=
  match cs with
  | '.' :: _ => some ([], cs)
  | _ => decimalRun cs

/-- A number without the mark of an imaginary number. -/
def plain? (ds part power rest : List Char) : Option (Value × List Char) :=
  if !endsWell rest then none
  else if part.isEmpty && power.isEmpty then
    if ds.head? == some '0' && ds.any (· != '0') then none
    else
      match Numeral.ofDecimal ds with
      | .ok n => some (.int n, rest)
      | .error _ => none
  else (Reading.unsigned? false (ds ++ part ++ power)).map fun d => (.float d, rest)

/-- A number with its parts read, which may have the mark of an imaginary number. -/
def marked? (ds part power rest : List Char) : Option (Value × List Char) :=
  match rest with
  | c :: after =>
      if c == 'j' || c == 'J' then
        if endsWell after then some (.complex (String.ofList (ds ++ part ++ power) ++ "j"), after)
        else none
      else plain? ds part power rest
  | [] => plain? ds part power rest

/-- A decimal number: an integer, a floating-point or an imaginary number. -/
def decimal? (cs : List Char) : Option (Value × List Char) := do
  let (ds, rest) ← whole? cs
  let (part, rest) ← fraction? rest
  let (power, rest) ← exponent? rest
  marked? ds part power rest

/-- The number at the front of a text. -/
def number? (cs : List Char) : Option (Value × List Char) :=
  match cs with
  | '0' :: c :: rest =>
      if c == 'x' || c == 'X' then based? 16 rest
      else if c == 'o' || c == 'O' then based? 8 rest
      else if c == 'b' || c == 'B' then based? 2 rest
      else decimal? cs
  | _ => decimal? cs

/-- The character of an escape with one letter. -/
def simpleEscape? : Char → Option Char
  | '\\' => some '\\'
  | '\'' => some '\''
  | '"' => some '"'
  | 'a' => some '\x07'
  | 'b' => some '\x08'
  | 'f' => some '\x0c'
  | 'n' => some '\n'
  | 'r' => some '\r'
  | 't' => some '\t'
  | 'v' => some '\x0b'
  | _ => none

/-- An octal digit. -/
def isOctal (c : Char) : Bool :=
  '0' ≤ c && c ≤ '7'

/-- The code point of exactly `width` hexadecimal digits at the front. -/
def hexPoint? (width : Nat) (cs : List Char) : Option (Nat × List Char) :=
  let ds := cs.take width
  if ds.length = width then
    (Numeral.digitValues? 16 ds).map fun vs => (Numeral.ofDigits 16 vs, cs.drop width)
  else none

/-- A code point given by its number. -/
def numbered? (width : Nat) (cs : List Char) : Option (List Nat × List Char) :=
  match hexPoint? width cs with
  | some (n, rest) => if n < 0x110000 then some ([n], rest) else none
  | none => none

/-- The code points of the escape whose letter is `c`, from behind the backslash.
In a sequence of bytes only the escapes for bytes are known; an unknown escape
stands for itself. -/
def escape? (bytes : Bool) (c : Char) (rest : List Char) : Option (List Nat × List Char) :=
  if c == '\n' then some ([], rest)
  else if isOctal c then
    let ds := (c :: rest.take 2).takeWhile isOctal
    let n := Numeral.ofDigits 8 (ds.map fun d => d.toNat - 48)
    some ([if bytes then n % 256 else n], rest.drop (ds.length - 1))
  else if c == 'x' then numbered? 2 rest
  else if c == 'u' && !bytes then numbered? 4 rest
  else if c == 'U' && !bytes then numbered? 8 rest
  else if c == 'N' && !bytes then none
  else
    match simpleEscape? c with
    | some d => some ([d.toNat], rest)
    | none => some (['\\'.toNat, c.toNat], rest)

/-- The code points of a text whose escapes are replaced. -/
def points? (bytes : Bool) : Nat → List Char → Option (List Nat)
  | 0, _ => some []
  | fuel + 1, cs =>
      match cs with
      | [] => some []
      | '\\' :: c :: rest =>
          match escape? bytes c rest with
          | some (ps, rest) => (points? bytes fuel rest).map (ps ++ ·)
          | none => none
      | c :: rest => (points? bytes fuel rest).map (c.toNat :: ·)

/-- The text that a quoted text denotes. -/
def unescaped? (raw : Bool) (cs : List Char) : Option String :=
  if raw then some (String.ofList cs)
  else (points? false (cs.length + 1) cs).map fun ps => String.ofList (ps.map Char.ofNat)

/-- The bytes that a quoted sequence of bytes denotes; it is written in ASCII. -/
def unescapedBytes? (raw : Bool) (cs : List Char) : Option (List UInt8) :=
  if cs.any (fun c => 128 ≤ c.toNat) then none
  else if raw then some (cs.map fun c => UInt8.ofNat c.toNat)
  else (points? true (cs.length + 1) cs).map (·.map UInt8.ofNat)

end Literal
end Script
end BuildTransform
