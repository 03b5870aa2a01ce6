import BuildTransform.Yaml.Token

/-!
# Tokens of a YAML text

Cutting a YAML text into tokens.

* Outside of brackets the indentation opens and closes collections; `margin` is one
  more than the column of the innermost of them, and zero if there is none.
* A node in front of a colon is a key although no mark says so. Where one may
  begin, a `Candidate` is noted; the colon puts the missing marks in front of it. A
  key of this kind stays on one line and within `keyLimit` characters.
-/

namespace BuildTransform
namespace Yaml

/-- How long a key without a mark may be. -/
def keyLimit : Nat := 1024

/-- A place where a key without a mark may begin: the number of tokens in front of
it, whether there has to be a key, and the position. -/
structure Candidate where
  number : Nat
  required : Bool
  index : Nat
  line : Nat
  column : Nat
deriving Repr

/-- The state of cutting: tokens are held with the latest in front, candidates by
the number of brackets around them. -/
structure Lexer where
  cursor : Cursor
  tokens : List Token
  count : Nat
  depth : Nat
  margin : Nat
  outer : List Nat
  keyAllowed : Bool
  candidates : List (Nat × Candidate)
deriving Inhabited

/-- A step of cutting. -/
abbrev Lexing := Except DocumentFailure Lexer

namespace Lexer

/-- The state in front of a text. -/
def start (s : String) : Lexer :=
  ⟨Cursor.ofText s, [], 0, 0, 0, [], true, []⟩

/-- Brackets are open. -/
def inFlow (s : Lexer) : Bool :=
  s.depth != 0

/-- Adds a token. -/
def push (t : Token) (s : Lexer) : Lexer :=
  { s with tokens := t :: s.tokens, count := s.count + 1 }

/-- Puts tokens behind the first `number` ones. -/
def insertAt (number : Nat) (ts : List Token) (s : Lexer) : Lexer :=
  let later := s.count - number
  { s with
    tokens := s.tokens.take later ++ ts.reverse ++ s.tokens.drop later
    count := s.count + ts.length }

/-- Passes some characters. -/
def skip (n : Nat) (s : Lexer) : Lexer :=
  { s with cursor := s.cursor.skip n }

/-- Says whether a key without a mark may begin next. -/
def allowKey (b : Bool) (s : Lexer) : Lexer :=
  { s with keyAllowed := b }

/-! ## Candidates -/

/-- The candidate cannot become a key any more: the line has ended or the limit is
passed. -/
def isStale (s : Lexer) (k : Candidate) : Bool :=
  k.line != s.cursor.line || keyLimit < s.cursor.index - k.index

/-- Forgets stale candidates; one that is required must not become stale. -/
def dropStale (s : Lexer) : Lexing :=
  if s.candidates.any fun (_, k) => s.isStale k && k.required then malformed
  else .ok { s with candidates := s.candidates.filter fun (_, k) => !s.isStale k }

/-- Forgets the candidate inside the innermost brackets, which must not be required. -/
def dropCandidate (s : Lexer) : Lexing :=
  match s.candidates.lookup s.depth with
  | none => .ok s
  | some k =>
      if k.required then malformed
      else .ok { s with candidates := s.candidates.filter (·.1 ≠ s.depth) }

/-- Notes that a key may begin here, if one may. -/
def noteCandidate (s : Lexer) : Lexing :=
  if !s.keyAllowed then .ok s
  else do
    let s ← s.dropCandidate
    let c := s.cursor
    let k : Candidate :=
      ⟨s.count, !s.inFlow && s.margin == c.column + 1, c.index, c.line, c.column⟩
    .ok { s with candidates := (s.depth, k) :: s.candidates }

/-! ## Indentation -/

/-- Closes collections until the margin is at most `floor`. -/
def closeTo (floor : Nat) : List Nat → Lexer → Lexer
  | [], s => s
  | m :: outer, s =>
      if floor < s.margin then
        closeTo floor outer { s.push .blockEnd with margin := m, outer := outer }
      else s

/-- Closes the collections that are indented more than the next character. -/
def unwind (floor : Nat) (s : Lexer) : Lexer :=
  if s.inFlow then s else closeTo floor s.outer s

/-- Opens a collection at a column unless one is open there; the flag says whether
one was opened. -/
def indent (column : Nat) (s : Lexer) : Bool × Lexer :=
  if s.margin ≤ column then (true, { s with margin := column + 1, outer := s.margin :: s.outer })
  else (false, s)

/-- Opens a collection at the next character, outside of brackets only and only
where a key may begin. -/
def openBlock (t : Token) (s : Lexer) : Lexing :=
  if s.inFlow then .ok s
  else if !s.keyAllowed then malformed
  else
    let (opened, s) := s.indent s.cursor.column
    .ok (if opened then s.push t else s)

/-! ## Tokens by kind -/

/-- The end of the text. -/
def fetchEnd (s : Lexer) : Lexing := do
  let s ← (s.unwind 0).dropCandidate
  .ok { s.push .streamEnd with keyAllowed := false, candidates := [] }

/-- A directive. -/
def fetchDirective (s : Lexer) : Lexing := do
  let s ← (s.unwind 0).dropCandidate
  let (t, c) ← directive s.cursor
  .ok { (s.allowKey false).push t with cursor := c }

/-- A separator of documents. -/
def fetchSeparator (t : Token) (s : Lexer) : Lexing := do
  let s ← (s.unwind 0).dropCandidate
  .ok (((s.allowKey false).push t).skip 3)

/-- An opening bracket. -/
def fetchOpening (t : Token) (s : Lexer) : Lexing := do
  let s ← s.noteCandidate
  let s := { s with depth := s.depth + 1 }
  .ok (((s.allowKey true).push t).skip 1)

/-- A closing bracket. -/
def fetchClosing (t : Token) (s : Lexer) : Lexing := do
  let s ← s.dropCandidate
  let s := { s with depth := s.depth - 1 }
  .ok (((s.allowKey false).push t).skip 1)

/-- A comma between items. -/
def fetchComma (s : Lexer) : Lexing := do
  let s ← (s.allowKey true).dropCandidate
  .ok ((s.push .flowEntry).skip 1)

/-- The mark of an item. -/
def fetchItem (s : Lexer) : Lexing := do
  let s ← s.openBlock .blockSequenceStart
  let s ← (s.allowKey true).dropCandidate
  .ok ((s.push .blockEntry).skip 1)

/-- The mark of a key. -/
def fetchKey (s : Lexer) : Lexing := do
  let s ← s.openBlock .blockMappingStart
  let s ← (s.allowKey (!s.inFlow)).dropCandidate
  .ok ((s.push .key).skip 1)

/-- The mark of a value. If a candidate is noted, the marks of a key are put in
front of it. -/
def fetchValue (s : Lexer) : Lexing := do
  match s.candidates.lookup s.depth with
  | some k =>
      let s := { s with candidates := s.candidates.filter (·.1 ≠ s.depth) }
      let (opened, s) := if s.inFlow then (false, s) else s.indent k.column
      let s := s.insertAt k.number (if opened then [.blockMappingStart, .key] else [.key])
      .ok (((s.allowKey false).push .value).skip 1)
  | none => do
      let s ← s.openBlock .blockMappingStart
      let s ← (s.allowKey (!s.inFlow)).dropCandidate
      .ok ((s.push .value).skip 1)

/-- A property of a node or an alias, read by `read`. -/
def fetchProperty (read : Cursor → Except DocumentFailure (Token × Cursor)) (s : Lexer) :
    Lexing := do
  let s ← s.noteCandidate
  let (t, c) ← read s.cursor
  .ok { (s.allowKey false).push t with cursor := c }

/-- A scalar in a block. -/
def fetchBlock (fold : Bool) (s : Lexer) : Lexing := do
  let s ← (s.allowKey true).dropCandidate
  let (text, c) ← blockText fold s.margin s.cursor
  .ok { s.push (.scalar text false) with cursor := c }

/-- A scalar in quotes. -/
def fetchQuoted (double : Bool) (s : Lexer) : Lexing := do
  let s ← s.noteCandidate
  let (text, c) ← quotedText double s.cursor
  .ok { (s.allowKey false).push (.scalar text false) with cursor := c }

/-- A scalar without quotes. -/
def fetchPlain (s : Lexer) : Lexing := do
  let s ← s.noteCandidate
  let (text, brokenLine, c) := plainText s.inFlow s.margin s.cursor
  .ok { (s.allowKey brokenLine).push (.scalar text true) with cursor := c }

/-! ## The next token -/

/-- Passes blanks, comments and line breaks; behind a line break outside of brackets
a key may begin. -/
def skipGaps : Nat → Lexer → Lexer
  | 0, s => s
  | fuel + 1, s =>
      let c := s.cursor.skipSpaces
      let c := if c.isAt '#' then c.skipLine else c
      match c.lineBreak with
      | ([], c) => { s with cursor := c }
      | (_, next) =>
          skipGaps fuel { s with cursor := next, keyAllowed := s.keyAllowed || !s.inFlow }

/-- A mark of the byte order in front of the text is passed. -/
def skipMark (s : Lexer) : Lexer :=
  if s.cursor.index = 0 && s.cursor.isAt '\ufeff' then s.skip 1 else s

/-- Characters that start no plain scalar. -/
def indicators : List Char :=
  ['-', '?', ':', ',', '[', ']', '\x7b', '\x7d', '#', '&', '*', '!', '|', '>', '\'', '"',
    '%', '@', '\x60']

/-- A plain scalar starts here. -/
def startsPlain (s : Lexer) (ch : Char) : Bool :=
  !(isBlank ch || isBreak ch || indicators.contains ch) ||
    (!isGap (s.cursor.peek? 1) && (ch == '-' || (!s.inFlow && (ch == '?' || ch == ':'))))

/-- The token that starts with a character. -/
def fetchAt (ch : Char) (s : Lexer) : Lexing :=
  let c := s.cursor
  let spaced := isGap (c.peek? 1)
  if ch == '%' && c.column == 0 then s.fetchDirective
  else if c.column == 0 && c.atMarker '-' then s.fetchSeparator .documentStart
  else if c.column == 0 && c.atMarker '.' then s.fetchSeparator .documentEnd
  else if ch == '[' then s.fetchOpening .flowSequenceStart
  else if ch == '\x7b' then s.fetchOpening .flowMappingStart
  else if ch == ']' then s.fetchClosing .flowSequenceEnd
  else if ch == '\x7d' then s.fetchClosing .flowMappingEnd
  else if ch == ',' then s.fetchComma
  else if ch == '-' && spaced then s.fetchItem
  else if ch == '?' && (s.inFlow || spaced) then s.fetchKey
  else if ch == ':' && (s.inFlow || spaced) then s.fetchValue
  else if ch == '*' then s.fetchProperty fun c => (nodeName c).map fun (n, c) => (.reference n, c)
  else if ch == '&' then s.fetchProperty fun c => (nodeName c).map fun (n, c) => (.anchor n, c)
  else if ch == '!' then s.fetchProperty tagToken
  else if ch == '|' && !s.inFlow then s.fetchBlock false
  else if ch == '>' && !s.inFlow then s.fetchBlock true
  else if ch == '\'' then s.fetchQuoted false
  else if ch == '"' then s.fetchQuoted true
  else if s.startsPlain ch then s.fetchPlain
  else malformed

/-- Passes what stands between tokens and adds the next ones. -/
def fetch (s : Lexer) : Lexing := do
  let s := (skipGaps (s.cursor.rest.length + 1) s.skipMark)
  let s ← s.dropStale
  let s := s.unwind (s.cursor.column + 1)
  match s.cursor.head? with
  | none => s.fetchEnd
  | some ch => s.fetchAt ch

/-- All tokens of the text. A failure becomes a token at the place where it occurs. -/
def run : Nat → Lexer → List Token
  | 0, s => s.tokens.reverse
  | fuel + 1, s =>
      match s.fetch with
      | .error f => (.broken f :: s.tokens).reverse
      | .ok next =>
          match next.tokens with
          | .streamEnd :: _ => next.tokens.reverse
          | _ => run fuel next

end Lexer

/-- The tokens of a text. -/
def tokens (s : String) : List Token :=
  Lexer.run (s.length + 2) (Lexer.start s)

end Yaml
end BuildTransform
