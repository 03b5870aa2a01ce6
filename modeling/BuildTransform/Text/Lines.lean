/-!
# Lines

Ways of cutting a text into lines.

* `Lines.normalize` writes every line break as a line feed.
* `Lines.pieces` cuts a text behind every line break and keeps the breaks, so
  the pieces put together are the text.
-/

namespace BuildTransform
namespace Lines

/-- Every carriage return, alone or before a line feed, becomes a line feed. -/
def normalized : List Char → List Char
  | [] => []
  | '\r' :: '\n' :: rest => '\n' :: normalized rest
  | '\r' :: rest => '\n' :: normalized rest
  | c :: rest => c :: normalized rest

/-- The string with line feeds as its only line breaks. -/
def normalize (s : String) : String :=
  String.ofList (normalized s.toList)

/-- The characters that end a line of a text: the ASCII line breaks, form feed,
vertical tab and separators, and the line breaks beyond ASCII. -/
def isBreak (c : Char) : Bool :=
  let n := c.toNat
  (10 ≤ n && n ≤ 13) || (28 ≤ n && n ≤ 30) || n == 0x85 || n == 0x2028 || n == 0x2029

/-- Puts a character in front of the first piece. -/
def onFirst (c : Char) : List (List Char) → List (List Char)
  | [] => [[c]]
  | piece :: rest => (c :: piece) :: rest

/-- The lines of a text, each with its break. -/
def pieces : List Char → List (List Char)
  | [] => []
  | '\r' :: '\n' :: rest => ['\r', '\n'] :: pieces rest
  | c :: rest => if isBreak c then [c] :: pieces rest else onFirst c (pieces rest)

end Lines
end BuildTransform
