import BuildTransform.Decimal.Numeral
import BuildTransform.Yaml.Cursor

/-!
# Scalars in a YAML text

The text of a scalar in each of the styles in which it can be written.

* `plainText` reads a scalar without quotes, `quotedText` one in single or double
  quotes, `blockText` one in a block of its own.
* Line breaks inside a scalar are folded: one of them becomes a space, further
  ones stay.
-/

namespace BuildTransform
namespace Yaml

/-! ## Plain scalars -/

/-- A character that ends a collection in brackets or separates its items. -/
def isFlowMark (c : Char) : Bool :=
  c == ',' || c == '[' || c == ']' || c == '\x7b' || c == '\x7d'

/-- A plain scalar ends in front of these characters. -/
def plainEnds (inFlow : Bool) : List Char → Bool
  | [] => true
  | c :: rest =>
      isBlank c || isBreak c ||
        (c == ':' && (isGap rest.head? || (inFlow && (rest.head?.map isFlowMark).getD false))) ||
        (inFlow && (isFlowMark c || c == '?'))

/-- The characters of a plain scalar up to a blank or its end. -/
def plainRun (inFlow : Bool) : List Char → List Char
  | [] => []
  | c :: rest => if plainEnds inFlow (c :: rest) then [] else c :: plainRun inFlow rest

/-- Line breaks with spaces between them; nothing if a separator of documents
follows one. -/
def plainBreaks : Nat → Cursor → Option (List Char) × Cursor
  | 0, c => (some [], c)
  | fuel + 1, c =>
      match c.head? with
      | none => (some [], c)
      | some ch =>
          if ch == ' ' then plainBreaks fuel c.next
          else if isBreak ch then
            let (b, c) := c.lineBreak
            if c.atSeparator then (none, c)
            else
              let (more, c) := plainBreaks fuel c
              (more.map (b ++ ·), c)
          else (some [], c)

/-- Folded line breaks: the first one, and those behind it. -/
def folded (first : List Char) (more : List Char) : List Char :=
  (if first != ['\n'] then first else if more.isEmpty then [' '] else []) ++ more

/-- What stands between two parts of a plain scalar, and whether a line break is
among it; nothing if the scalar ends here. -/
def plainGap (c : Cursor) : List Char × Bool × Cursor :=
  let spaces := c.span (· == ' ')
  let c := c.skip spaces.length
  if (c.head?.map isBreak).getD false then
    let (first, c) := c.lineBreak
    if c.atSeparator then ([], true, c)
    else
      match plainBreaks (c.rest.length + 1) c with
      | (none, c) => ([], true, c)
      | (some more, c) => (folded first more, true, c)
  else (spaces, false, c)

/-- The parts of a plain scalar from `gap` on, which stands in front of the next
part; `brokenLine` says whether a line break is in it. -/
def plainParts (inFlow : Bool) (margin : Nat) :
    Nat → List Char → Bool → Cursor → List Char × Bool × Cursor
  | 0, _, brokenLine, c => ([], brokenLine, c)
  | fuel + 1, gap, brokenLine, c =>
      let run := if c.isAt '#' then [] else plainRun inFlow c.rest
      if run.isEmpty then ([], brokenLine, c)
      else
        let (nextGap, brokenLine, c) := plainGap (c.skip run.length)
        if nextGap.isEmpty || c.isAt '#' || (!inFlow && c.column < margin) then
          (gap ++ run, brokenLine, c)
        else
          let (more, brokenLine, c) := plainParts inFlow margin fuel nextGap brokenLine c
          (gap ++ run ++ more, brokenLine, c)

/-- A plain scalar, and whether a line break was passed behind its last part.
Outside of brackets its lines have to reach the margin. -/
def plainText (inFlow : Bool) (margin : Nat) (c : Cursor) : String × Bool × Cursor :=
  let (cs, brokenLine, c) := plainParts inFlow margin (c.rest.length + 1) [] false c
  (String.ofList cs, brokenLine, c)

/-! ## Quoted scalars -/

/-- The character that an escape with one letter stands for. -/
def simpleEscape? : Char → Option Char
  | '0' => some '\x00'
  | 'a' => some '\x07'
  | 'b' => some '\x08'
  | 't' => some '\t'
  | '\t' => some '\t'
  | 'n' => some '\n'
  | 'v' => some '\x0b'
  | 'f' => some '\x0c'
  | 'r' => some '\r'
  | 'e' => some '\x1b'
  | ' ' => some ' '
  | '"' => some '"'
  | '\\' => some '\\'
  | '/' => some '/'
  | 'N' => some '\x85'
  | '_' => some '\xa0'
  | 'L' => some '\u2028'
  | 'P' => some '\u2029'
  | _ => none

/-- The number of digits of a numbered escape. -/
def escapeWidth? : Char → Option Nat
  | 'x' => some 2
  | 'u' => some 4
  | 'U' => some 8
  | _ => none

/-- The character with a given number; numbers beyond the last character are faults
of the document. -/
def numbered (n : Nat) : Except DocumentFailure Char :=
  if 0xD800 ≤ n ∧ n < 0xE000 then .error .unpairedUnit
  else if n < 0x110000 then .ok (Char.ofNat n)
  else if n < Nat.pow 2 31 then .error (.fault .impossibleValue)
  else .error (.fault .numberOutOfRange)

/-- Line breaks inside quotes with blanks around them. -/
def quotedBreaks : Nat → Cursor → Except DocumentFailure (List Char × Cursor)
  | 0, _ => malformed
  | fuel + 1, c =>
      if c.atSeparator then malformed
      else
        let c := c.skipWhile isBlank
        if (c.head?.map isBreak).getD false then do
          let (b, c) := c.lineBreak
          let (more, c) ← quotedBreaks fuel c
          .ok (b ++ more, c)
        else .ok ([], c)

/-- Blanks and line breaks inside quotes. -/
def quotedGap (c : Cursor) : Except DocumentFailure (List Char × Cursor) :=
  let blanks := c.span isBlank
  let c := c.skip blanks.length
  match c.head? with
  | none => malformed
  | some ch =>
      if isBreak ch then do
        let (first, c) := c.lineBreak
        let (more, c) ← quotedBreaks (c.rest.length + 1) c
        .ok (folded first more, c)
      else .ok (blanks, c)

/-- An escape in double quotes, from behind the backslash on. -/
def escape (c : Cursor) : Except DocumentFailure (List Char × Cursor) :=
  match c.head? with
  | none => malformed
  | some ch =>
      match simpleEscape? ch with
      | some d => .ok ([d], c.next)
      | none =>
          match escapeWidth? ch with
          | some width =>
              let ds := (c.rest.drop 1).take width
              match Numeral.digitValues? 16 ds with
              | none => malformed
              | some vs =>
                  if ds.length < width then malformed
                  else do
                    let d ← numbered (Numeral.ofDigits 16 vs)
                    .ok ([d], c.skip (width + 1))
          | none =>
              if isBreak ch then
                let c := c.lineBreak.2
                quotedBreaks (c.rest.length + 1) c
              else malformed

/-- A character that stands for itself in quotes of either kind. -/
def isOrdinary (c : Char) : Bool :=
  !(c == '\'' || c == '"' || c == '\\' || isBlank c || isBreak c)

/-- The text in quotes up to a blank, a line break or the closing quote. -/
def quotedRun (double : Bool) : Nat → Cursor → Except DocumentFailure (List Char × Cursor)
  | 0, _ => malformed
  | fuel + 1, c => do
      let run := c.span isOrdinary
      let c := c.skip run.length
      match c.rest with
      | [] => .ok (run, c)
      | ch :: rest =>
          if !double && ch == '\'' && rest.head? == some '\'' then do
            let (more, c) ← quotedRun double fuel (c.skip 2)
            .ok (run ++ '\'' :: more, c)
          else if (double && ch == '\'') || (!double && (ch == '"' || ch == '\\')) then do
            let (more, c) ← quotedRun double fuel c.next
            .ok (run ++ ch :: more, c)
          else if double && ch == '\\' then do
            let (cs, c) ← escape c.next
            let (more, c) ← quotedRun double fuel c
            .ok (run ++ cs ++ more, c)
          else .ok (run, c)

/-- The text in quotes up to and with the closing quote. -/
def quotedParts (double : Bool) : Nat → Cursor → Except DocumentFailure (List Char × Cursor)
  | 0, _ => malformed
  | fuel + 1, c => do
      let (run, c) ← quotedRun double (c.rest.length + 1) c
      if c.isAt (if double then '"' else '\'') then .ok (run, c.next)
      else do
        let (gap, c) ← quotedGap c
        let (more, c) ← quotedParts double fuel c
        .ok (run ++ gap ++ more, c)

/-- A scalar in quotes, from its quote on. -/
def quotedText (double : Bool) (c : Cursor) : Except DocumentFailure (String × Cursor) := do
  let (cs, c) ← quotedParts double (c.rest.length + 1) c.next
  .ok (String.ofList cs, c)

/-! ## Block scalars -/

/-- What happens to the line breaks at the end of a block. -/
inductive Chomping
  | strip
  | clip
  | keep
deriving DecidableEq, Repr

/-- The chomping that an indicator denotes. -/
def chomping? : Option Char → Option Chomping
  | some '+' => some .keep
  | some '-' => some .strip
  | _ => none

/-- The indentation that an indicator denotes; zero is none. -/
def indentation? (c : Cursor) : Except DocumentFailure (Option Nat × Cursor) :=
  match c.head?.bind (Numeral.digitValue? 10) with
  | none => .ok (none, c)
  | some 0 => malformed
  | some n => .ok (some n, c.next)

/-- The indicators behind the mark of a block, in either order. -/
def blockIndicators (c : Cursor) :
    Except DocumentFailure ((Chomping × Option Nat) × Cursor) := do
  let (style, c) ←
    match chomping? c.head? with
    | some k => do
        let (n, c) ← indentation? c.next
        .ok ((k, n), c)
    | none => do
        let (n, c) ← indentation? c
        match n, chomping? c.head? with
        | some _, some k => .ok ((k, n), c.next)
        | _, _ => .ok ((Chomping.clip, n), c)
  if isSpaceOrEnd c.head? then .ok (style, c) else malformed

/-- Line breaks and spaces in front of a block, and the deepest column reached. -/
def blockStart : Nat → Nat → Cursor → List Char × Nat × Cursor
  | 0, deepest, c => ([], deepest, c)
  | fuel + 1, deepest, c =>
      match c.head? with
      | none => ([], deepest, c)
      | some ch =>
          if ch == ' ' then
            let c := c.next
            blockStart fuel (max deepest c.column) c
          else if isBreak ch then
            let (b, c) := c.lineBreak
            let (more, deepest, c) := blockStart fuel deepest c
            (b ++ more, deepest, c)
          else ([], deepest, c)

/-- Passes spaces up to a column. -/
def skipTo (column : Nat) (c : Cursor) : Cursor :=
  c.skip ((c.rest.take (column - c.column)).takeWhile (· == ' ')).length

/-- Line breaks with spaces up to a column behind each. -/
def blockBreaks (column : Nat) : Nat → Cursor → List Char × Cursor
  | 0, c => ([], c)
  | fuel + 1, c =>
      let c := skipTo column c
      if (c.head?.map isBreak).getD false then
        let (b, c) := c.lineBreak
        let (more, c) := blockBreaks column fuel c
        (b ++ more, c)
      else ([], c)

/-- Line breaks with spaces up to a column behind each. -/
def allBreaks (column : Nat) (c : Cursor) : List Char × Cursor :=
  blockBreaks column (c.rest.length + 1) c

/-- What stands between two lines of a block. -/
def betweenLines (fold leadingText nextIsText : Bool) (lineBreak breaks : List Char) :
    List Char :=
  if fold && lineBreak == ['\n'] && leadingText && nextIsText then
    if breaks.isEmpty then [' '] else []
  else lineBreak

/-- The lines of a block at a column, with the line breaks in front of the first of
them. The last line break and the breaks behind it are returned apart. -/
def blockLines (fold : Bool) (column : Nat) :
    Nat → List Char → Cursor → List Char × List Char × List Char × Cursor
  | 0, breaks, c => ([], [], breaks, c)
  | fuel + 1, breaks, c =>
      if c.column = column && c.head?.isSome then
        let leadingText := !(c.head?.map isBlank).getD true
        let line := c.span (!isBreak ·)
        let (b, c) := (c.skip line.length).lineBreak
        let (nextBreaks, c) := allBreaks column c
        if c.column = column && c.head?.isSome then
          let nextIsText := !(c.head?.map isBlank).getD true
          let (more, last, rest, c) := blockLines fold column fuel nextBreaks c
          (breaks ++ line ++ betweenLines fold leadingText nextIsText b nextBreaks ++ more,
            last, rest, c)
        else (breaks ++ line, b, nextBreaks, c)
      else ([], [], breaks, c)

/-- A scalar in a block, from its mark on. -/
def blockText (fold : Bool) (margin : Nat) (c : Cursor) :
    Except DocumentFailure (String × Cursor) := do
  let ((chomping, given), c) ← blockIndicators c.next
  let c ← commentLine c
  let least := max margin 1
  let (breaks, column, c) :=
    match given with
    | none =>
        let (breaks, deepest, c) := blockStart (c.rest.length + 1) 0 c
        (breaks, max least deepest, c)
    | some n =>
        let column := least + n - 1
        let (breaks, c) := allBreaks column c
        (breaks, column, c)
  let (body, last, rest, c) := blockLines fold column (c.rest.length + 1) breaks c
  let tail :=
    match chomping with
    | .strip => []
    | .clip => last
    | .keep => last ++ rest
  .ok (String.ofList (body ++ tail), c)

end Yaml
end BuildTransform
