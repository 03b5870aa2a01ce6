import BuildTransform.Text.Class

/-!
# Quoted text

A text between quotes in which every character can be told from every other:
control characters, the quote and the backslash are written as escapes.

* `Quoted.text` quotes a string, `Quoted.bytes` a sequence of bytes.
* Single quotes are used unless the text has a single and no double quote.
-/

namespace BuildTransform
namespace Quoted

/-- A hexadecimal digit in lower case. -/
def hexDigit (n : Nat) : Char :=
  if n < 10 then Char.ofNat (48 + n) else Char.ofNat (87 + n)

/-- The last hexadecimal digits of a number. -/
def hex : Nat → Nat → List Char
  | 0, _ => []
  | width + 1, n => hex width (n / 16) ++ [hexDigit (n % 16)]

/-- The escape of a code point, as short as its size allows. -/
def codePoint (n : Nat) : List Char :=
  if n < 0x100 then '\\' :: 'x' :: hex 2 n
  else if n < 0x10000 then '\\' :: 'u' :: hex 4 n
  else '\\' :: 'U' :: hex 8 n

/-- A character inside quotes. -/
def char (quote c : Char) : List Char :=
  if c = quote then ['\\', quote]
  else if c = '\\' then ['\\', '\\']
  else if c = '\n' then ['\\', 'n']
  else if c = '\r' then ['\\', 'r']
  else if c = '\t' then ['\\', 't']
  else if Text.isPrintable c then [c]
  else codePoint c.toNat

/-- The quote around a text. -/
def quoteFor (cs : List Char) : Char :=
  if cs.contains '\'' && !cs.contains '"' then '"' else '\''

/-- A quoted list of characters. -/
def chars (cs : List Char) : List Char :=
  let quote := quoteFor cs
  quote :: (cs.flatMap (char quote) ++ [quote])

/-- A quoted string. -/
def text (s : String) : String :=
  String.ofList (chars s.toList)

/-- A byte inside quotes. -/
def byte (quote : Char) (b : UInt8) : List Char :=
  let c := Char.ofNat b.toNat
  if b < 128 && (Text.isPrintable c || c = '\n' || c = '\r' || c = '\t') then char quote c
  else '\\' :: 'x' :: hex 2 b.toNat

/-- A quoted sequence of bytes, marked by a letter. -/
def bytes (bs : List UInt8) : String :=
  let quote := quoteFor (bs.map fun b => Char.ofNat b.toNat)
  String.ofList ('b' :: quote :: (bs.flatMap (byte quote) ++ [quote]))

end Quoted
end BuildTransform
