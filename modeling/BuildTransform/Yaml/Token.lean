import BuildTransform.Yaml.Text

/-!
# Tokens of YAML

What a YAML text consists of: marks of structure, properties of nodes, scalars and
directives.

* A collection that is shown by indentation has tokens for its start and its end,
  as a collection in brackets has.
* `broken` stands where reading the text failed; the failure counts only if the
  token is needed.
* This module also reads the properties and directives; `Yaml.Lexer` does the rest.
-/

namespace BuildTransform
namespace Yaml

/-- An instruction to the reader of a document. -/
inductive Directive
  | version (major : Nat)
  | tagHandle (handle meaning : String)
  | unknown
deriving DecidableEq, Repr

/-- A token. -/
inductive Token
  | directive (d : Directive)
  | documentStart
  | documentEnd
  | streamEnd
  | blockSequenceStart
  | blockMappingStart
  | blockEnd
  | flowSequenceStart
  | flowMappingStart
  | flowSequenceEnd
  | flowMappingEnd
  | key
  | value
  | blockEntry
  | flowEntry
  | reference (name : String)
  | anchor (name : String)
  | tag (handle : Option String) (suffix : String)
  | scalar (text : String) (plain : Bool)
  | broken (f : DocumentFailure)
deriving DecidableEq, Repr, Inhabited

/-! ## Properties -/

/-- A character of a name: an ASCII letter or digit, a hyphen or a low line. -/
def isNamePart (c : Char) : Bool :=
  c.isAlphanum || c == '-' || c == '_'

/-- What may follow the name of an anchor or alias. -/
def endsName (o : Option Char) : Bool :=
  isGap o ||
    match o with
    | some c => ['?', ':', ',', ']', '\x7d', '%', '@', '\x60'].contains c
    | none => true

/-- The name of an anchor or alias, from its mark on. -/
def nodeName (c : Cursor) : Except DocumentFailure (String × Cursor) :=
  let c := c.next
  let name := c.span isNamePart
  let c := c.skip name.length
  if !name.isEmpty && endsName c.head? then .ok (String.ofList name, c) else malformed

/-- A character of the part of a tag behind its handle. -/
def isTagPart (c : Char) : Bool :=
  c.isAlphanum ||
    ['-', ';', '/', '?', ':', '@', '&', '=', '+', '$', ',', '_', '.', '!', '~', '*', '\'',
      '(', ')', '[', ']', '%'].contains c

/-- The bytes of escapes with a percent sign at the front. -/
def percentBytes : Nat → List Char → Option (List UInt8 × List Char)
  | 0, cs => some ([], cs)
  | fuel + 1, cs =>
      match cs with
      | '%' :: a :: b :: rest => do
          let vs ← Numeral.digitValues? 16 [a, b]
          let (more, rest) ← percentBytes fuel rest
          some (UInt8.ofNat (Numeral.ofDigits 16 vs) :: more, rest)
      | '%' :: _ => none
      | _ => some ([], cs)

/-- The characters that bytes encode in UTF-8. -/
def decodedBytes? (bs : List UInt8) : Option (List Char) :=
  (String.fromUTF8? ⟨bs.toArray⟩).map String.toList

/-- Replaces escapes with a percent sign by the characters that they encode. -/
def percentDecoded : Nat → List Char → Option (List Char)
  | 0, _ => some []
  | fuel + 1, cs =>
      match cs with
      | [] => some []
      | c :: rest =>
          if c == '%' then do
            let (bs, rest) ← percentBytes cs.length cs
            let decoded ← decodedBytes? bs
            let more ← percentDecoded fuel rest
            some (decoded ++ more)
          else (percentDecoded fuel rest).map (c :: ·)

/-- The part of a tag behind its handle. -/
def tagSuffix (c : Cursor) : Except DocumentFailure (String × Cursor) :=
  let run := c.span isTagPart
  match run, percentDecoded (run.length + 1) run with
  | [], _ => malformed
  | _, none => malformed
  | _, some cs => .ok (String.ofList cs, c.skip run.length)

/-- The handle of a tag: one exclamation mark, or a name between two. -/
def tagHandle (c : Cursor) : Except DocumentFailure (String × Cursor) :=
  if !c.isAt '!' then malformed
  else if c.peek? 1 == some ' ' then .ok ("!", c.next)
  else
    let name := c.next.span isNamePart
    let length := name.length + 1
    if c.peek? length == some '!' then
      .ok (String.ofList ('!' :: (name ++ ['!'])), c.skip (length + 1))
    else malformed

/-- A tag, from its exclamation mark on. -/
def tagToken (c : Cursor) : Except DocumentFailure (Token × Cursor) := do
  let (token, c) ←
    if c.peek? 1 == some '<' then do
      let (suffix, c) ← tagSuffix (c.skip 2)
      if c.isAt '>' then .ok (Token.tag none suffix, c.next) else malformed
    else if isGap (c.peek? 1) then .ok (Token.tag none "!", c.next)
    else
      let word := (c.rest.drop 1).takeWhile fun ch => !(ch == ' ' || isBreak ch)
      if word.contains '!' then do
        let (handle, c) ← tagHandle c
        let (suffix, c) ← tagSuffix c
        .ok (Token.tag (some handle) suffix, c)
      else do
        let (suffix, c) ← tagSuffix c.next
        .ok (Token.tag (some "!") suffix, c)
  if isSpaceOrEnd c.head? then .ok (token, c) else malformed

/-! ## Directives -/

/-- A number in a directive. -/
def versionPart (c : Cursor) : Except DocumentFailure (Nat × Cursor) :=
  let ds := c.span Numeral.isDigit
  match Numeral.ofDecimal ds with
  | .ok n => .ok (n, c.skip ds.length)
  | .error .malformed => malformed
  | .error .tooLong => .error (.fault .integerTooLong)

/-- The version that a directive gives: two numbers with a point between them. -/
def versionDirective (c : Cursor) : Except DocumentFailure (Directive × Cursor) := do
  let (major, c) ← versionPart c.skipSpaces
  if !c.isAt '.' then malformed
  else
    let (_, c) ← versionPart c.next
    if isSpaceOrEnd c.head? then .ok (.version major, c) else malformed

/-- The meaning that a directive gives to a handle of tags. -/
def handleDirective (c : Cursor) : Except DocumentFailure (Directive × Cursor) := do
  let (handle, c) ← tagHandle c.skipSpaces
  if !c.isAt ' ' then malformed
  else
    let (meaning, c) ← tagSuffix c.skipSpaces
    if isSpaceOrEnd c.head? then .ok (.tagHandle handle meaning, c) else malformed

/-- A directive, from its percent sign to the end of its line. -/
def directive (c : Cursor) : Except DocumentFailure (Token × Cursor) := do
  let c := c.next
  let name := c.span isNamePart
  let c := c.skip name.length
  if name.isEmpty || !isSpaceOrEnd c.head? then malformed
  else
    let (d, c) ←
      match String.ofList name with
      | "YAML" => versionDirective c
      | "TAG" => handleDirective c
      | _ => .ok (.unknown, c.skipLine)
    let c ← commentLine c
    .ok (.directive d, c)

end Yaml
end BuildTransform
