import BuildTransform.Decimal.Numeral

/-!
# Malformed JSON

What can be wrong with a JSON text, where, and how it is said.

* `Json.Problem` names what was expected or refused.
* `Json.Error` adds the position in characters; its message also gives line and
  column, both counted from one.
-/

namespace BuildTransform
namespace Json

/-- What is wrong with a JSON text. -/
inductive Problem
  | expectingValue
  | expectingName
  | expectingColon
  | expectingComma
  | extraData
  | unterminatedString
  | controlCharacter
  | badEscape
  | badUnicodeEscape
  | byteOrderMark
deriving DecidableEq, Repr

namespace Problem

/-- The wording of a problem. -/
def wording : Problem → String
  | .expectingValue => "Expecting value"
  | .expectingName => "Expecting property name enclosed in double quotes"
  | .expectingColon => "Expecting ':' delimiter"
  | .expectingComma => "Expecting ',' delimiter"
  | .extraData => "Extra data"
  | .unterminatedString => "Unterminated string starting at"
  | .controlCharacter => "Invalid control character at"
  | .badEscape => "Invalid \\escape"
  | .badUnicodeEscape => "Invalid \\uXXXX escape"
  | .byteOrderMark => "Unexpected UTF-8 BOM (decode using utf-8-sig)"

end Problem

/-- A problem at a position. -/
structure Error where
  problem : Problem
  position : Nat
deriving DecidableEq, Repr

/-- The line of a position, counted from one. -/
def lineOf (cs : List Char) (position : Nat) : Nat :=
  (cs.take position).count '\n' + 1

/-- The column of a position, counted from one. -/
def columnOf (cs : List Char) (position : Nat) : Nat :=
  ((cs.take position).reverse.takeWhile (· ≠ '\n')).length + 1

/-- The message of an error in a text. -/
def Error.message (e : Error) (text : String) : String :=
  let cs := text.toList
  e.problem.wording ++ ": line " ++ Numeral.natText (lineOf cs e.position) ++
    " column " ++ Numeral.natText (columnOf cs e.position) ++
    " (char " ++ Numeral.natText e.position ++ ")"

/-- Why a JSON text has no value, or none that is known here: half of a pair of units denotes
no character. -/
inductive Failure
  | malformed (error : Error)
  | integerTooLong
  | tooDeep
  | unpairedUnit
deriving DecidableEq, Repr

end Json
end BuildTransform
