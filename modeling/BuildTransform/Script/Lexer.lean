import BuildTransform.Script.Literal
import BuildTransform.Script.Token
import BuildTransform.Text.Lines

/-!
# Tokens of a script text

Cutting the text of a script into tokens.

* Blanks and comments separate tokens; a backslash at the end of a line continues
  it, and so does an open bracket.
* A line ends with a `newline` token unless nothing stands on it, and no line may
  be indented.
* `Script.tokens` ends every list of tokens with `finish`.
-/

namespace BuildTransform
namespace Script
namespace Lexer

/-- How many brackets may be open at a time. -/
def bracketLimit : Nat := 200

/-- Blanks within a line. -/
def isBlank (c : Char) : Bool :=
  c == ' ' || c == '\t' || c == '\x0c'

/-- Blanks in front of a line indent it, unless a form feed follows them. -/
def indents (blanks : List Char) : Bool :=
  (blanks.reverse.takeWhile (· ≠ '\x0c')) ≠ []

/-- Symbols, longer ones in front of their beginnings. -/
def symbols : List String :=
  ["**=", "//=", ">>=", "<<=", "...",
    "**", "//", ">>", "<<", "<=", ">=", "==", "!=", "->", "+=", "-=", "*=", "/=", "%=",
    "&=", "|=", "^=", "@=", ":=", "<>",
    "+", "-", "*", "/", "%", "&", "|", "^", "~", "<", ">", "(", ")", "[", "]", "\x7b",
    "\x7d", ",", ":", ".", ";", "@", "="]

/-- The symbol at the front of a text. -/
def symbol? (cs : List Char) : Option String :=
  symbols.find? (fun s => s.toList.isPrefixOf cs)

/-- The brackets that a symbol opens or closes; a closing bracket has to match. -/
def bracketed? (open_ : List Char) (s : String) : Option (List Char) :=
  match s.toList with
  | [c] =>
      if c == '(' || c == '[' || c == '\x7b' then
        if open_.length < bracketLimit then some (c :: open_) else none
      else if c == ')' || c == ']' || c == '\x7d' then
        match open_ with
        | o :: rest =>
            if (o == '(' && c == ')') || (o == '[' && c == ']') || (o == '\x7b' && c == '\x7d')
            then some rest
            else none
        | [] => none
      else some open_
  | _ => some open_

/-- The body of a quoted text up to its closing quote, which may not be escaped;
a single quote does not span lines. -/
def body (quote : Char) (triple : Bool) : List Char → Option (List Char × List Char)
  | [] => none
  | '\\' :: c :: rest => (body quote triple rest).map fun (b, rest) => ('\\' :: c :: b, rest)
  | c :: rest =>
      if c = quote then
        if !triple then some ([], rest)
        else
          match rest with
          | d :: e :: rest' =>
              if d = quote ∧ e = quote then some ([], rest')
              else (body quote triple rest).map fun (b, rest) => (c :: b, rest)
          | _ => none
      else if c = '\n' ∧ !triple then none
      else (body quote triple rest).map fun (b, rest) => (c :: b, rest)

/-- The kinds of quoted text: a template, bytes, and whether escapes are kept. -/
structure Style where
  template : Bool
  bytes : Bool
  raw : Bool
deriving DecidableEq, Repr

/-- The style that the letters in front of a quote denote. -/
def styleOf? (letters : List Char) : Option Style :=
  match letters.map Char.toLower with
  | [] => some ⟨false, false, false⟩
  | ['u'] => some ⟨false, false, false⟩
  | ['r'] => some ⟨false, false, true⟩
  | ['b'] => some ⟨false, true, false⟩
  | ['f'] => some ⟨true, false, false⟩
  | ['b', 'r'] => some ⟨false, true, true⟩
  | ['r', 'b'] => some ⟨false, true, true⟩
  | ['f', 'r'] => some ⟨true, false, true⟩
  | ['r', 'f'] => some ⟨true, false, true⟩
  | _ => none

/-- A quotation mark. -/
def isQuote (c : Char) : Bool :=
  c == '"' || c == '\''

/-- The style of the quoted text at the front and the characters from its quote on. -/
def quotationStart? (cs : List Char) : Option (Style × List Char) :=
  match cs.dropWhile Char.isAlpha with
  | c :: rest =>
      if isQuote c then (styleOf? (cs.takeWhile Char.isAlpha)).map fun s => (s, c :: rest)
      else none
  | [] => none

/-- The quoted text of a style and a body. -/
def quotationOf? (s : Style) (b : List Char) : Option Quotation :=
  if s.template then some (.template s.raw b)
  else if s.bytes then (Literal.unescapedBytes? s.raw b).map .bytes
  else (Literal.unescaped? s.raw b).map .text

/-- The body of a quoted text from its quote on. -/
def quotedBody? (cs : List Char) : Option (List Char × List Char) :=
  match cs with
  | a :: b :: c :: rest =>
      if a = b ∧ b = c then body a true rest else body a false (b :: c :: rest)
  | a :: rest => body a false rest
  | [] => none

/-- A quoted text from its quote on. -/
def quotation? (s : Style) (cs : List Char) : Option (Quotation × List Char) := do
  let (b, rest) ← quotedBody? cs
  some (← quotationOf? s b, rest)

/-- A word is a name if it starts and goes on as names do. -/
def isName (w : List Char) : Bool :=
  match w with
  | [] => false
  | c :: rest => Text.isNameStart c && rest.all Text.isNameContinue

/-- The lexeme at the front of a text that starts with neither a blank nor a line
break. -/
def lexeme? (cs : List Char) : Option (Lexeme × List Char) :=
  match quotationStart? cs with
  | some (s, cs) => (quotation? s cs).map fun (q, rest) => (.quotation q, rest)
  | none =>
      match cs with
      | [] => none
      | c :: after =>
          if Numeral.isDigit c ||
              (c == '.' && (after.head?.map Numeral.isDigit).getD false) then
            (Literal.number? cs).map fun (v, rest) => (.number v, rest)
          else if Literal.isWordPart c then
            let w := cs.takeWhile Literal.isWordPart
            if isName w then some (.word (String.ofList w), cs.dropWhile Literal.isWordPart)
            else none
          else (symbol? cs).map fun s => (.symbol s, cs.drop s.toList.length)

/-- The brackets that are open behind a lexeme. -/
def openBehind? (open_ : List Char) (l : Lexeme) : Option (List Char) :=
  match l with
  | .symbol s => bracketed? open_ s
  | _ => some open_

/-- The characters behind a comment. -/
def afterComment (cs : List Char) : List Char :=
  cs.dropWhile (· ≠ '\n')

/-- How far a text has been read: the mark that was reached, the brackets that are open,
and the characters to be read; `lineStart` says that nothing of the line was read. -/
structure State where
  mark : Mark
  open_ : List Char
  lineStart : Bool
  rest : List Char

/-- Reads up to where only `rest` is left. -/
def State.upTo (s : State) (rest : List Char) : State :=
  { s with mark := s.mark.after (s.rest.take (s.rest.length - rest.length)), rest := rest }

/-- The blanks that are next indent a line. -/
def State.isIndented (s : State) : Bool :=
  s.lineStart && indents (s.rest.takeWhile isBlank)

/-- Reads blanks, and then either a token or what separates tokens. -/
def step (s : State) : Option (Option Token × State) :=
  let start := s.upTo (s.rest.dropWhile isBlank)
  match start.rest with
  | '\n' :: rest =>
      let next := start.upTo rest
      if s.lineStart || !s.open_.isEmpty then some (none, next)
      else some (some ⟨.newline, start.mark, next.mark⟩, { next with lineStart := true })
  | '#' :: rest => some (none, start.upTo (afterComment rest))
  | '\\' :: '\n' :: c :: rest =>
      if s.isIndented then none else some (none, start.upTo (c :: rest))
  | rest =>
      if s.isIndented then none
      else
        match lexeme? rest with
        | none => none
        | some (l, after) =>
            let next := start.upTo after
            (openBehind? s.open_ l).map fun open_ =>
              (some ⟨l, start.mark, next.mark⟩, { next with open_ := open_, lineStart := false })

/-- What stands at the end of a text: a line ends there unless nothing stands on it. -/
def ending (s : State) : List Token :=
  let m := s.mark.after s.rest
  if s.lineStart then [⟨.finish, m, m⟩] else [⟨.newline, m, m⟩, ⟨.finish, m, m⟩]

/-- Cuts a text into tokens, where `acc` are those found so far, the last first. -/
def scan : Nat → State → List Token → Option (List Token)
  | 0, _, _ => none
  | fuel + 1, s, acc =>
      if s.rest.all isBlank then
        if s.open_.isEmpty then some (acc.reverse ++ ending s) else none
      else
        match step s with
        | none => none
        | some (t, next) => scan fuel next (t.toList ++ acc)

end Lexer

/-- The tokens of a text. -/
def tokens (text : String) : Except Refusal (List Token) :=
  let cs := Lines.normalized text.toList
  if cs.contains '\x00' then .error .nulCharacter
  else
    match Lexer.scan (cs.length + 1) ⟨⟨1, 0⟩, [], true, cs⟩ [] with
    | some ts => .ok ts
    | none => .error .malformed

end Script
end BuildTransform
