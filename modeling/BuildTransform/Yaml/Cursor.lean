import BuildTransform.Document

/-!
# Positions in a YAML text

What remains of a text, with the line and the column that were reached.

* `Cursor.next` passes one character; columns are counted in characters, where a
  mark of the byte order does not count.
* `Cursor.lineBreak` passes a line break and says what it stands for.
-/

namespace BuildTransform
namespace Yaml

/-- A position: the characters behind it and where it lies. -/
structure Cursor where
  rest : List Char
  index : Nat
  line : Nat
  column : Nat
deriving Repr, Inhabited

/-- The character ends a line. -/
def isBreak (c : Char) : Bool :=
  c == '\n' || c == '\r' || c == '\x85' || c == '\u2028' || c == '\u2029'

/-- A blank within a line. -/
def isBlank (c : Char) : Bool :=
  c == ' ' || c == '\t'

/-- A blank, a line break or the end of the text. -/
def isGap : Option Char → Bool
  | none => true
  | some c => isBlank c || isBreak c

/-- A line break or the end of the text. -/
def isLineEnd : Option Char → Bool
  | none => true
  | some c => isBreak c

/-- A space, a line break or the end of the text. -/
def isSpaceOrEnd : Option Char → Bool
  | none => true
  | some c => c == ' ' || isBreak c

namespace Cursor

/-- The front of a text. -/
def ofText (s : String) : Cursor :=
  ⟨s.toList, 0, 0, 0⟩

/-- The next character. -/
def head? (c : Cursor) : Option Char :=
  c.rest.head?

/-- The character that many characters further on. -/
def peek? (c : Cursor) (n : Nat) : Option Char :=
  c.rest[n]?

/-- The next character is a certain one. -/
def isAt (c : Cursor) (ch : Char) : Bool :=
  c.head? == some ch

/-- Passes one character. -/
def next (c : Cursor) : Cursor :=
  match c.rest with
  | [] => c
  | ch :: rest =>
      if isBreak ch && !(ch == '\r' && rest.head? == some '\n') then
        ⟨rest, c.index + 1, c.line + 1, 0⟩
      else ⟨rest, c.index + 1, c.line, if ch == '\ufeff' then c.column else c.column + 1⟩

/-- Passes some characters. -/
def skip : Nat → Cursor → Cursor
  | 0, c => c
  | n + 1, c => skip n c.next

/-- The characters at the front that satisfy a test. -/
def span (p : Char → Bool) (c : Cursor) : List Char :=
  c.rest.takeWhile p

/-- Passes the characters at the front that satisfy a test. -/
def skipWhile (p : Char → Bool) (c : Cursor) : Cursor :=
  c.skip (c.span p).length

/-- Passes spaces. -/
def skipSpaces (c : Cursor) : Cursor :=
  c.skipWhile (· == ' ')

/-- Passes the rest of the line. -/
def skipLine (c : Cursor) : Cursor :=
  c.skipWhile (!isBreak ·)

/-- Passes a line break, if one is next, and says what it stands for: a line feed,
except for the separators of lines and paragraphs, which stand for themselves. -/
def lineBreak (c : Cursor) : List Char × Cursor :=
  match c.rest with
  | [] => ([], c)
  | ch :: rest =>
      if ch == '\u2028' || ch == '\u2029' then ([ch], c.next)
      else if isBreak ch then
        (['\n'], if ch == '\r' && rest.head? == some '\n' then c.skip 2 else c.next)
      else ([], c)

/-- Three characters that separate documents are next. -/
def atMarker (c : Cursor) (ch : Char) : Bool :=
  [ch, ch, ch].isPrefixOf c.rest && isGap (c.peek? 3)

/-- A separator of documents is next. -/
def atSeparator (c : Cursor) : Bool :=
  c.atMarker '-' || c.atMarker '.'

end Cursor

/-- The text breaks the grammar. -/
def malformed {α : Type} : Except DocumentFailure α :=
  .error .malformed

/-- The rest of a line that may hold a comment only, with its line break. -/
def commentLine (c : Cursor) : Except DocumentFailure Cursor :=
  let c := c.skipSpaces
  let c := if c.isAt '#' then c.skipLine else c
  if isLineEnd c.head? then .ok c.lineBreak.2 else malformed

end Yaml
end BuildTransform
