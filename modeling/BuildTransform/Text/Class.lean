import BuildTransform.Text.Table.NameContinue
import BuildTransform.Text.Table.NameStart
import BuildTransform.Text.Table.Printable
import BuildTransform.Text.Table.Word

/-!
# Character classes

Membership of characters in the classes that quoting, names and trimming need.

* `isPrintable`, `isWord`, `isNameStart`, `isNameContinue` look a character up
  in a table of code points at which membership changes.
* `isBlank` is the class of characters removed when a text is trimmed.
-/

namespace BuildTransform
namespace Text

/-- Follows the boundaries up to a code point; every boundary flips membership. -/
def inside : List Nat → Nat → Bool → Bool
  | [], _, state => state
  | b :: bs, n, state => if b ≤ n then inside bs n (!state) else state

/-- The character is shown as itself inside quotes. -/
def isPrintable (c : Char) : Bool :=
  inside Table.printable c.toNat false

/-- The character is a letter, a number or the low line. -/
def isWord (c : Char) : Bool :=
  inside Table.word c.toNat false

/-- The character may start an identifier. -/
def isNameStart (c : Char) : Bool :=
  inside Table.nameStart c.toNat false

/-- The character may stand in an identifier after the first. -/
def isNameContinue (c : Char) : Bool :=
  inside Table.nameContinue c.toNat false

/-- White space of every script, with the four separators of the control block. -/
def isBlank (c : Char) : Bool :=
  let n := c.toNat
  (9 ≤ n && n ≤ 13) || (28 ≤ n && n ≤ 32) || n == 0x85 || n == 0xA0 || n == 0x1680 ||
    (0x2000 ≤ n && n ≤ 0x200A) || n == 0x2028 || n == 0x2029 || n == 0x202F ||
    n == 0x205F || n == 0x3000

/-- The text without white space at both ends. -/
def trimmed (cs : List Char) : List Char :=
  ((cs.dropWhile isBlank).reverse.dropWhile isBlank).reverse

/-- The string without white space at both ends. -/
def trim (s : String) : String :=
  String.ofList (trimmed s.toList)

/-- Texts one after another with a separator between them. -/
def joined (separator : List Char) : List (List Char) → List Char
  | [] => []
  | [t] => t
  | t :: rest => t ++ separator ++ joined separator rest

/-- The pieces of a text between the characters that satisfy a test; there is
always at least one piece. -/
def pieces (p : Char → Bool) : List Char → List (List Char)
  | [] => [[]]
  | c :: cs =>
      if p c then [] :: pieces p cs
      else
        match pieces p cs with
        | [] => [[c]]
        | piece :: rest => (c :: piece) :: rest

end Text
end BuildTransform
