import BuildTransform.Decimal.Reading
import BuildTransform.Json.Error
import BuildTransform.Value.Basic

/-!
# Reading JSON

The value of a JSON text, or the first problem in it.

* Positions are held as the number of characters that remain; `readWithin` turns them
  into positions from the front.
* How many brackets may be open at a time is left to whoever reads; `read` takes a
  certain number.
* Infinities and the undefined number may be written as words. Of several equal
  keys the last wins.
* Numbers without fraction and exponent are integers of any size up to the limit
  on their digits.
-/

namespace BuildTransform
namespace Json

/-- A problem in front of a number of remaining characters, or another failure. -/
inductive Stop
  | problem (p : Problem) (remaining : Nat)
  | integerTooLong
  | tooDeep
  | unpairedUnit
deriving DecidableEq, Repr

/-- What a reader yields: a result and the characters after it. -/
abbrev Step (α : Type) := Except Stop (α × List Char)

/-- Stops with a problem in front of some characters. -/
def stop {α : Type} (p : Problem) (rest : List Char) : Except Stop α :=
  .error (.problem p rest.length)

/-- White space between tokens. -/
def isSpace (c : Char) : Bool :=
  c == ' ' || c == '\t' || c == '\n' || c == '\r'

/-- The characters after white space. -/
def skip (cs : List Char) : List Char :=
  cs.dropWhile isSpace

/-- The value of four hexadecimal digits at the front. -/
def fourDigits? (cs : List Char) : Option Nat :=
  let ds := cs.take 4
  if ds.length = 4 then (Numeral.digitValues? 16 ds).map (Numeral.ofDigits 16) else none

/-- A 16-bit unit that needs a second one after it. -/
def isHigh (n : Nat) : Bool :=
  0xD800 ≤ n && n ≤ 0xDBFF

/-- A 16-bit unit that completes the one before it. -/
def isLow (n : Nat) : Bool :=
  0xDC00 ≤ n && n ≤ 0xDFFF

/-- The character of two units. -/
def joinedUnits (high low : Nat) : Char :=
  Char.ofNat (0x10000 + (high - 0xD800) * 0x400 + (low - 0xDC00))

/-- The low unit that follows in a second escape, with the characters after it.
Malformed digits in that escape are a problem. -/
def lowUnit? (cs : List Char) : Except Stop (Option (Nat × List Char)) :=
  match cs with
  | '\\' :: 'u' :: rest =>
      if rest.length < 5 then .ok none
      else
        match fourDigits? rest with
        | none => .error (.problem .badUnicodeEscape (rest.length + 1))
        | some low => .ok (if isLow low then some (low, rest.drop 4) else none)
  | _ => .ok none

/-- The character of an escape with four digits, from behind its letter; a high unit takes a
second escape with it. -/
def unicodeEscape (cs : List Char) : Step Char :=
  if cs.length < 5 then .error (.problem .badUnicodeEscape (cs.length + 1))
  else
    match fourDigits? cs with
    | none => .error (.problem .badUnicodeEscape (cs.length + 1))
    | some n =>
        let rest := cs.drop 4
        if isHigh n then
          match lowUnit? rest with
          | .error e => .error e
          | .ok (some (low, rest)) => .ok (joinedUnits n low, rest)
          | .ok none => .error .unpairedUnit
        else if isLow n then .error .unpairedUnit
        else .ok (Char.ofNat n, rest)

/-- The character of an escape with one letter. -/
def simpleEscape? : Char → Option Char
  | '"' => some '"'
  | '\\' => some '\\'
  | '/' => some '/'
  | 'b' => some '\x08'
  | 'f' => some '\x0c'
  | 'n' => some '\n'
  | 'r' => some '\r'
  | 't' => some '\t'
  | _ => none

/-- What becomes of a string with half of a pair of units in it: a problem behind that one
comes first. -/
def withHalf (r : Step String) : Step String :=
  match r with
  | .error e => .error e
  | .ok _ => .error .unpairedUnit

/-- Reads the rest of a string behind its opening quote, in front of which `start`
characters remained. -/
def string (start : Nat) : Nat → List Char → List Char → Step String
  | 0, _, _ => .error (.problem .unterminatedString start)
  | fuel + 1, acc, cs =>
      match cs with
      | [] => .error (.problem .unterminatedString start)
      | '"' :: rest => .ok (String.ofList acc.reverse, rest)
      | ['\\'] => .error (.problem .unterminatedString start)
      | '\\' :: 'u' :: rest =>
          match unicodeEscape rest with
          | .error .unpairedUnit => withHalf (string start fuel acc (rest.drop 4))
          | .error e => .error e
          | .ok (c, rest) => string start fuel (c :: acc) rest
      | '\\' :: c :: rest =>
          match simpleEscape? c with
          | none => stop .badEscape cs
          | some c => string start fuel (c :: acc) rest
      | c :: rest =>
          if c.toNat ≤ 0x1F then stop .controlCharacter cs
          else string start fuel (c :: acc) rest

/-- Reads a string from its opening quote on. -/
def quoted (cs : List Char) : Step String :=
  string cs.length (cs.length + 1) [] (cs.drop 1)

/-- The fraction at the front: a point and at least one digit. -/
def fraction (cs : List Char) : List Char × List Char :=
  match cs with
  | '.' :: d :: rest =>
      if Numeral.isDigit d then
        ('.' :: d :: rest.takeWhile Numeral.isDigit, rest.dropWhile Numeral.isDigit)
      else ([], cs)
  | _ => ([], cs)

/-- The exponent at the front: its letter, a sign if there is one, and at least
one digit. -/
def exponent (cs : List Char) : List Char × List Char :=
  match cs with
  | c :: rest =>
      if c == 'e' || c == 'E' then
        let (mark, rest) :=
          match rest with
          | '+' :: r => (['+'], r)
          | '-' :: r => (['-'], r)
          | r => ([], r)
        let ds := rest.takeWhile Numeral.isDigit
        if ds.isEmpty then ([], cs)
        else (c :: (mark ++ ds), rest.dropWhile Numeral.isDigit)
      else ([], cs)
  | [] => ([], cs)

/-- The integer digits at the front; a zero stands alone. -/
def integerDigits (cs : List Char) : List Char × List Char :=
  match cs with
  | '0' :: rest => (['0'], rest)
  | _ => (cs.takeWhile Numeral.isDigit, cs.dropWhile Numeral.isDigit)

/-- Reads a number. -/
def number (cs : List Char) : Step Value :=
  let (negative, body) :=
    match cs with
    | '-' :: rest => (true, rest)
    | _ => (false, cs)
  let (ds, rest) := integerDigits body
  if ds.isEmpty then stop .expectingValue cs
  else
    let (part, rest) := fraction rest
    let (power, rest) := exponent rest
    if part.isEmpty && power.isEmpty then
      match Numeral.ofDecimal ds with
      | .ok n => .ok (.int (Double.signed negative n), rest)
      | .error _ => .error .integerTooLong
    else
      match Reading.unsigned? negative (ds ++ part ++ power) with
      | some d => .ok (.float d, rest)
      | none => stop .expectingValue cs

/-- The words that stand for values. -/
def words : List (List Char × Value) :=
  [("null".toList, .null), ("true".toList, .bool true), ("false".toList, .bool false),
    ("NaN".toList, .float .nan), ("Infinity".toList, .float (.infinite false)),
    ("-Infinity".toList, .float (.infinite true))]

/-- The value of a word at the front. -/
def word? (cs : List Char) : Option (Value × List Char) :=
  (words.find? (fun w => w.1.isPrefixOf cs)).map fun w => (w.2, cs.drop w.1.length)

mutual

/-- Reads a value, with at most `depth` brackets open at a time. -/
def value : Nat → Nat → List Char → Step Value
  | 0, _, _ => .error .tooDeep
  | fuel + 1, depth, cs =>
      match cs with
      | '"' :: _ => (quoted cs).map fun (s, rest) => (.str s, rest)
      | '[' :: rest =>
          match depth with
          | 0 => .error .tooDeep
          | depth + 1 =>
              match skip rest with
              | ']' :: rest => .ok (.list [], rest)
              | rest => items fuel depth [] rest
      | '\x7b' :: rest =>
          match depth with
          | 0 => .error .tooDeep
          | depth + 1 =>
              match skip rest with
              | '\x7d' :: rest => .ok (.dict [], rest)
              | rest => members fuel depth [] rest
      | _ =>
          match word? cs with
          | some r => .ok r
          | none => number cs

/-- Reads the items of an array behind the ones read before. -/
def items : Nat → Nat → List Value → List Char → Step Value
  | 0, _, _, _ => .error .tooDeep
  | fuel + 1, depth, acc, cs =>
      match value fuel depth cs with
      | .error e => .error e
      | .ok (v, rest) =>
          match skip rest with
          | ']' :: rest => .ok (.list (v :: acc).reverse, rest)
          | ',' :: rest => items fuel depth (v :: acc) (skip rest)
          | rest => stop .expectingComma rest

/-- Reads the members of an object behind the ones read before. -/
def members : Nat → Nat → List (Value × Value) → List Char → Step Value
  | 0, _, _, _ => .error .tooDeep
  | fuel + 1, depth, acc, cs =>
      match cs with
      | '"' :: _ =>
          match quoted cs with
          | .error e => .error e
          | .ok (key, rest) =>
              match skip rest with
              | ':' :: rest =>
                  match value fuel depth (skip rest) with
                  | .error e => .error e
                  | .ok (v, rest) =>
                      let acc := Value.put (.str key) v acc
                      match skip rest with
                      | '\x7d' :: rest => .ok (.dict acc, rest)
                      | ',' :: rest => members fuel depth acc (skip rest)
                      | rest => stop .expectingComma rest
              | rest => stop .expectingColon rest
      | _ => stop .expectingName cs

end

/-- The value of a text without anything but white space around it, with at most `levels`
brackets open at a time. -/
def readChars (levels : Nat) (cs : List Char) : Except Stop Value :=
  match value (2 * cs.length + 2) levels (skip cs) with
  | .error e => .error e
  | .ok (v, rest) =>
      match skip rest with
      | [] => .ok v
      | rest => stop .extraData rest

/-- The value of a JSON text, with at most `levels` brackets open at a time. -/
def readWithin (levels : Nat) (text : String) : Except Failure Value :=
  let cs := text.toList
  if cs.head? == some '\ufeff' then .error (.malformed ⟨.byteOrderMark, 0⟩)
  else
    match readChars levels cs with
    | .ok v => .ok v
    | .error (.problem p remaining) => .error (.malformed ⟨p, cs.length - remaining⟩)
    | .error .integerTooLong => .error .integerTooLong
    | .error .tooDeep => .error .tooDeep
    | .error .unpairedUnit => .error .unpairedUnit

/-- How many brackets may be open at a time if nothing else is said. -/
def depthLimit : Nat := 1000

/-- The value of a JSON text. -/
def read (text : String) : Except Failure Value :=
  readWithin depthLimit text

end Json
end BuildTransform
