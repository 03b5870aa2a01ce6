import BuildTransform.Text.Units
import BuildTransform.Value.Basic

/-!
# Tokens of scripts

The words, numbers, quoted texts and symbols of a script with their places.

* A `Mark` is a line, counted from one, and a column in bytes.
* A quoted text is either plain, a sequence of bytes, or a template whose
  embedded expressions are still to be read.
-/

namespace BuildTransform
namespace Script

/-- A point in a source text. -/
structure Mark where
  line : Nat
  column : Nat
deriving DecidableEq, Repr, Inhabited

/-- The point behind some characters. -/
def Mark.after (m : Mark) (cs : List Char) : Mark :=
  cs.foldl
    (fun m c => if c = '\n' then ⟨m.line + 1, 0⟩ else ⟨m.line, m.column + Units.width8 c⟩) m

/-- A quoted text. -/
inductive Quotation
  | text (s : String)
  | bytes (bs : List UInt8)
  | template (raw : Bool) (body : List Char)
deriving DecidableEq, Repr

/-- A token without its place. -/
inductive Lexeme
  | word (s : String)
  | number (v : Value)
  | quotation (q : Quotation)
  | symbol (s : String)
  | newline
  | finish
deriving Repr, Inhabited

/-- A token. -/
structure Token where
  lexeme : Lexeme
  start : Mark
  stop : Mark
deriving Repr, Inhabited

/-- Why a text is no script. -/
inductive Refusal
  | malformed
  | nulCharacter
deriving DecidableEq, Repr

/-- Words that are no names. -/
def reserved : List String :=
  ["False", "None", "True", "and", "as", "assert", "async", "await", "break", "class",
    "continue", "def", "del", "elif", "else", "except", "finally", "for", "from", "global",
    "if", "import", "in", "is", "lambda", "nonlocal", "not", "or", "pass", "raise",
    "return", "try", "while", "with", "yield"]

end Script
end BuildTransform
