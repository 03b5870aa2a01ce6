import BuildTransform.Script.Statement

/-!
# Reading modules

What the text of a configuration module is: statements that can be run, no script at all,
or more than this library follows.

* `Module.scan` cuts a text into tokens up to its first indented line or to where no token
  can be found.
* `Module.read` reads the lines of tokens one after another. A line that holds no statements
  makes the text malformed only if none of its tokens could belong to other forms.
-/

namespace BuildTransform
namespace Script

/-- What is known of the text of a module. -/
inductive Reading
  | statements (ss : List Statement)
  | malformed
  | beyond
deriving Repr

namespace Module

/-- Where the tokens of a text end: at its end, in front of an indented line, or where the
rest of the text cannot be cut further. -/
inductive Cut
  | whole
  | indented
  | broken
deriving DecidableEq, Repr

/-- Cuts a text into tokens, where `acc` are those found so far, the last first. -/
def scan : Nat → Lexer.State → List Token → List Token × Cut
  | 0, _, acc => (acc.reverse, .broken)
  | fuel + 1, s, acc =>
      if s.rest.all Lexer.isBlank then
        if s.open_.isEmpty then (acc.reverse ++ Lexer.ending s, .whole) else (acc.reverse, .broken)
      else
        match Lexer.step s with
        | some (t, next) => scan fuel next (t.toList ++ acc)
        | none => (acc.reverse, if s.isIndented then .indented else .broken)

/-! ## Lines that are no statements -/

/-- Words of statements and expressions that are not read here. -/
def foreignWords : List String :=
  ["assert", "async", "await", "break", "class", "continue", "def", "del", "elif", "else",
    "except", "finally", "for", "global", "if", "lambda", "match", "nonlocal", "return", "try",
    "while", "with", "yield"]

/-- Symbols of statements and expressions that are not read here. -/
def foreignSymbols : List String :=
  ["**=", "//=", ">>=", "<<=", "+=", "-=", "*=", "/=", "%=", "&=", "|=", "^=", "@=", "@", ":=",
    "->", "<>", "*", "**"]

/-- The lexeme can belong to a form that is not read here. -/
def isForeign : Lexeme → Bool
  | .word w => foreignWords.contains w
  | .symbol s => foreignSymbols.contains s
  | .quotation (.template _ _) => true
  | _ => false

/-- The lexeme opens a bracket. -/
def isOpening : Lexeme → Bool
  | .symbol s => ["(", "[", "\x7b"].contains s
  | _ => false

/-- How many tokens a line may have to be called malformed. -/
def lengthLimit : Nat := 1000

/-- How many brackets a line may open to be called malformed. -/
def openingLimit : Nat := 100

/-- The line is small enough for any reader. -/
def isModest (line : List Token) : Bool :=
  line.length ≤ lengthLimit && line.countP (fun t => isOpening t.lexeme) ≤ openingLimit

/-- The lexeme ends a line. -/
def isNewline : Lexeme → Bool
  | .newline => true
  | _ => false

/-- The tokens up to the end of the line. -/
def lineOf (ts : List Token) : List Token :=
  ts.takeWhile fun t => !isNewline t.lexeme

/-- What a text is whose next line holds no statements. Of a line without an end it does not
matter what it holds. -/
def refused (ts : List Token) : Reading :=
  let line := lineOf ts
  if !isModest line then .beyond
  else if line.length < ts.length && line.any (fun t => isForeign t.lexeme) then .beyond
  else .malformed

/-! ## Whole texts -/

/-- Reads lines of statements behind those read before. -/
def lines (b : Grammar.Below) (cut : Cut) : Nat → Grammar.Cursor → List Statement → Reading
  | 0, _, _ => .beyond
  | n + 1, c, acc =>
      match c.next with
      | .finish => if cut = .whole then .statements acc else .malformed
      | _ =>
          match (Grammar.lineOfStatements b (c.rest.length + 1)).run c with
          | some (ss, d) => lines b cut n d (acc ++ ss)
          | none => refused c.rest

/-- The line is a comment that may name an encoding. -/
def namesEncoding (line : List Char) : Bool :=
  (line.dropWhile Lexer.isBlank).head? == some '#' &&
    (List.range line.length).any fun n => "coding".toList.isPrefixOf (line.drop n)

/-- Up to two lines of a text. -/
def firstLines (cs : List Char) : List (List Char) :=
  (Text.pieces (· == '\n') cs).take 2

/-- The characters of a text can be followed: there is no null character among them, and no
comment at the front names their encoding. -/
def isFollowed (cs : List Char) : Bool :=
  !cs.contains '\x00' && !(firstLines cs).any namesEncoding

/-- The text behind a mark of the byte order. -/
def withoutMark (text : String) : String :=
  match text.toList with
  | '\ufeff' :: rest => String.ofList rest
  | _ => text

/-- What the text of a module is. A backslash may join lines or name a character in ways
that are not followed where the text cannot be cut into tokens. -/
def read (text : String) : Reading :=
  let cs := Lines.normalized (withoutMark text).toList
  let (ts, cut) := scan (cs.length + 1) ⟨⟨1, 0⟩, [], true, cs⟩ []
  if !isFollowed cs || (cut = .broken && cs.contains '\\') then .beyond
  else
    match lines (Grammar.readers (depthBound cs.length)) cut (ts.length + 1) ⟨ts, ⟨1, 0⟩⟩ [] with
    | .statements ss => if ss.all Statement.isPlain then .statements ss else .beyond
    | r => r

end Module
end Script
end BuildTransform
