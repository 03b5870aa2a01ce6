import BuildTransform.Decimal.Integer
import BuildTransform.Decimal.Reading
import BuildTransform.Document
import BuildTransform.Value.Basic

/-!
# Scalars of TOML

Quoted texts, numbers, dates and times at the front of a TOML text.

* Readers take characters from the front and return what remains.
* A number ends where no longer number can be read; what follows it is judged by
  the reader of the line.
-/

namespace BuildTransform
namespace Toml

/-- What a reader yields: a result and the characters behind it. -/
abbrev Read (α : Type) := Except DocumentFailure (α × List Char)

/-- The text breaks the grammar. -/
def malformed {α : Type} : Except DocumentFailure α :=
  .error .malformed

/-- Blanks within a line. -/
def isBlank (c : Char) : Bool :=
  c == ' ' || c == '\t'

/-- Blanks and line breaks. -/
def isSpace (c : Char) : Bool :=
  isBlank c || c == '\n'

/-- The characters behind blanks. -/
def skipBlanks (cs : List Char) : List Char :=
  cs.dropWhile isBlank

/-- A control character, which no text or comment may hold; the tabulator is none. -/
def isControl (c : Char) : Bool :=
  (c.toNat < 32 && c != '\t') || c.toNat == 127

/-! ## Quoted texts -/

/-- The character that stands for an escape with one letter. -/
def simpleEscape? : Char → Option Char
  | 'b' => some '\x08'
  | 't' => some '\t'
  | 'n' => some '\n'
  | 'f' => some '\x0c'
  | 'r' => some '\r'
  | '"' => some '"'
  | '\\' => some '\\'
  | _ => none

/-- The character with exactly `width` hexadecimal digits at the front. -/
def numbered (width : Nat) (cs : List Char) : Read (List Char) :=
  let ds := cs.take width
  match Numeral.digitValues? 16 ds with
  | none => malformed
  | some vs =>
      let n := Numeral.ofDigits 16 vs
      if ds.length < width then malformed
      else if h : n.isValidChar then .ok ([Char.ofNatAux n h], cs.drop width)
      else malformed

/-- The characters of an escape, from behind the backslash. In a text of several
lines a backslash at the end of a line drops the white space that follows. -/
def escape (multiline : Bool) (cs : List Char) : Read (List Char) :=
  match cs with
  | [] => malformed
  | c :: rest =>
      if multiline && isSpace c then
        match skipBlanks cs with
        | [] => .ok ([], [])
        | '\n' :: rest => .ok ([], rest.dropWhile isSpace)
        | _ => malformed
      else if c == 'u' then numbered 4 rest
      else if c == 'U' then numbered 8 rest
      else
        match simpleEscape? c with
        | some d => .ok ([d], rest)
        | none => malformed

/-- The rest of a text between double quotes, from behind the opening ones on. -/
def basicText (multiline : Bool) : Nat → List Char → Read (List Char)
  | 0, _ => malformed
  | fuel + 1, cs =>
      let keep (kept rest : List Char) : Read (List Char) :=
        match basicText multiline fuel rest with
        | .ok (more, rest) => .ok (kept ++ more, rest)
        | .error e => .error e
      match cs with
      | [] => malformed
      | '"' :: rest =>
          if !multiline then .ok ([], rest)
          else if ['"', '"'].isPrefixOf rest then .ok ([], rest.drop 2)
          else keep ['"'] rest
      | '\\' :: rest =>
          match escape multiline rest with
          | .ok (kept, rest) => keep kept rest
          | .error e => .error e
      | c :: rest =>
          if isControl c && !(multiline && c == '\n') then malformed else keep [c] rest

/-- The rest of a text between single quotes on one line. -/
def literalText (cs : List Char) : Read (List Char) :=
  let body := cs.takeWhile (· ≠ '\'')
  if cs.length = body.length || body.any isControl then malformed
  else .ok (body, cs.drop (body.length + 1))

/-- The rest of a text between tripled single quotes. -/
def literalLines : List Char → Read (List Char)
  | [] => malformed
  | c :: rest =>
      if c == '\'' && ['\'', '\''].isPrefixOf rest then .ok ([], rest.drop 2)
      else if isControl c && c != '\n' then malformed
      else
        match literalLines rest with
        | .ok (more, rest) => .ok (c :: more, rest)
        | .error e => .error e

/-- Up to two more quotes in front of the closing ones belong to the text. -/
def withQuotes (quote : Char) (body rest : List Char) : List Char × List Char :=
  let extra := (rest.take 2).takeWhile (· == quote)
  (body ++ extra, rest.drop extra.length)

/-- A line break directly behind the opening quotes is dropped. -/
def afterBreak : List Char → List Char
  | '\n' :: rest => rest
  | cs => cs

/-- A quoted text of one line from its quote on. -/
def quotedLine (cs : List Char) : Read String :=
  let body : Read (List Char) :=
    match cs with
    | '"' :: rest => basicText false (rest.length + 1) rest
    | '\'' :: rest => literalText rest
    | _ => malformed
  body.map fun (t, rest) => (String.ofList t, rest)

/-- A quoted text of one or several lines from its quote on. -/
def quoted (cs : List Char) : Read String :=
  if ['"', '"', '"'].isPrefixOf cs then
    let rest := afterBreak (cs.drop 3)
    (basicText true (rest.length + 1) rest).map fun (t, rest) =>
      let (t, rest) := withQuotes '"' t rest
      (String.ofList t, rest)
  else if ['\'', '\'', '\''].isPrefixOf cs then
    (literalLines (afterBreak (cs.drop 3))).map fun (t, rest) =>
      let (t, rest) := withQuotes '\'' t rest
      (String.ofList t, rest)
  else quotedLine cs

/-! ## Numbers -/

/-- Digits behind the first one, each with at most one low line before it. -/
def moreDigits (isDigit : Char → Bool) : List Char → List Char × List Char
  | [] => ([], [])
  | c :: rest =>
      if isDigit c then
        let (ds, rest) := moreDigits isDigit rest
        (c :: ds, rest)
      else if c == '_' then
        match rest with
        | d :: after =>
            if isDigit d then
              let (ds, rest) := moreDigits isDigit after
              (d :: ds, rest)
            else ([], c :: rest)
        | [] => ([], c :: rest)
      else ([], c :: rest)

/-- A run of digits without its low lines. -/
def digitRun? (isDigit : Char → Bool) : List Char → Option (List Char × List Char)
  | [] => none
  | c :: rest =>
      if isDigit c then
        let (ds, rest) := moreDigits isDigit rest
        some (c :: ds, rest)
      else none

/-- An integer in a base other than ten. -/
def based? (base : Nat) (cs : List Char) : Option (Value × List Char) := do
  let (ds, rest) ← digitRun? (fun c => (Numeral.digitValue? base c).isSome) cs
  let vs ← Numeral.digitValues? base ds
  some (.int (Numeral.ofDigits base vs), rest)

/-- The integer part of a number; only zero starts with a zero. -/
def integerPart? : List Char → Option (List Char × List Char)
  | '0' :: rest => some (['0'], rest)
  | cs => digitRun? Numeral.isDigit cs

/-- The fraction of a number, with its point, or nothing. -/
def fractionPart (cs : List Char) : List Char × List Char :=
  match cs with
  | '.' :: rest =>
      match digitRun? Numeral.isDigit rest with
      | some (ds, rest) => ('.' :: ds, rest)
      | none => ([], cs)
  | _ => ([], cs)

/-- The exponent of a number, with its letter, or nothing. -/
def exponentPart (cs : List Char) : List Char × List Char :=
  match cs with
  | c :: rest =>
      if c == 'e' || c == 'E' then
        let mark := (rest.take 1).takeWhile fun s => s == '+' || s == '-'
        match digitRun? Numeral.isDigit (rest.drop mark.length) with
        | some (ds, rest) => (c :: (mark ++ ds), rest)
        | none => ([], cs)
      else ([], cs)
  | [] => ([], cs)

/-- The decimal number at the front: an integer unless it has a fraction or an
exponent. -/
def decimal (cs : List Char) : Read Value :=
  let (negative, unsigned) := Reading.sign cs
  match integerPart? unsigned with
  | none => malformed
  | some (ds, rest) =>
      let (fraction, rest) := fractionPart rest
      let (power, rest) := exponentPart rest
      if fraction.isEmpty && power.isEmpty then
        match Numeral.ofDecimal ds with
        | .ok n => .ok (.int (Double.signed negative n), rest)
        | .error .tooLong => .error (.fault .integerTooLong)
        | .error .malformed => malformed
      else
        match Reading.unsigned? negative (ds ++ fraction ++ power) with
        | some d => .ok (.float d, rest)
        | none => malformed

/-- An infinity or the undefined number at the front. -/
def special? (cs : List Char) : Option (Value × List Char) :=
  let (negative, rest) := Reading.sign cs
  match rest with
  | 'i' :: 'n' :: 'f' :: rest => some (.float (.infinite negative), rest)
  | 'n' :: 'a' :: 'n' :: rest => some (.float .nan, rest)
  | _ => none

/-- The number at the front. -/
def number (cs : List Char) : Read Value :=
  let inBase : Option (Value × List Char) :=
    match cs with
    | '0' :: 'x' :: rest => based? 16 rest
    | '0' :: 'b' :: rest => based? 2 rest
    | '0' :: 'o' :: rest => based? 8 rest
    | _ => none
  match inBase with
  | some r => .ok r
  | none =>
      match special? cs with
      | some r => .ok r
      | none => decimal cs

/-! ## Dates and times -/

/-- A number of exactly `width` digits at the front. -/
def fixed? (width : Nat) (cs : List Char) : Option (Nat × List Char) :=
  let ds := cs.take width
  if ds.length = width && ds.all Numeral.isDigit then
    (Numeral.digitValues? 10 ds).map fun vs => (Numeral.ofDigits 10 vs, cs.drop width)
  else none

/-- A number of two digits between bounds. -/
def twoDigits? (least most : Nat) (cs : List Char) : Option (Nat × List Char) := do
  let (n, rest) ← fixed? 2 cs
  if least ≤ n && n ≤ most then some (n, rest) else none

/-- The characters behind one that has to be next. -/
def behind? (c : Char) : List Char → Option (List Char)
  | d :: rest => if d = c then some rest else none
  | [] => none

/-- A date at the front; whether its month has that many days is not checked. -/
def date? (cs : List Char) : Option (Date × List Char) := do
  let (year, cs) ← fixed? 4 cs
  let cs ← behind? '-' cs
  let (month, cs) ← twoDigits? 1 12 cs
  let cs ← behind? '-' cs
  let (day, cs) ← twoDigits? 1 31 cs
  some (⟨year, month, day⟩, cs)

/-- The microseconds of a fraction of a second at the front, or none. -/
def micro (cs : List Char) : Nat × List Char :=
  match cs with
  | '.' :: rest =>
      let ds := rest.takeWhile Numeral.isDigit
      match Numeral.digitValues? 10 ds with
      | some (v :: vs) => (Time.microOfDigits (v :: vs), rest.drop ds.length)
      | _ => (0, cs)
  | _ => (0, cs)

/-- A time of day at the front. -/
def time? (cs : List Char) : Option (Time × List Char) := do
  let (hour, cs) ← twoDigits? 0 23 cs
  let cs ← behind? ':' cs
  let (minute, cs) ← twoDigits? 0 59 cs
  let cs ← behind? ':' cs
  let (second, cs) ← twoDigits? 0 59 cs
  let (micros, cs) := micro cs
  some (⟨hour, minute, second, micros, none⟩, cs)

/-- The offset from universal time at the front, in minutes. -/
def offset? (cs : List Char) : Option (Int × List Char) :=
  match cs with
  | c :: rest =>
      if c == 'Z' || c == 'z' then some (0, rest)
      else if c == '+' || c == '-' then do
        let (hours, rest) ← twoDigits? 0 23 rest
        let rest ← behind? ':' rest
        let (minutes, rest) ← twoDigits? 0 59 rest
        some (Double.signed (c == '-') (hours * 60 + minutes), rest)
      else none
  | [] => none

/-- The time behind a date, with its offset, if there is one. -/
def timeOfDate? (cs : List Char) : Option (Time × List Char) :=
  match cs with
  | c :: rest =>
      if c == 'T' || c == 't' || c == ' ' then do
        let (t, rest) ← time? rest
        match offset? rest with
        | some (o, rest) => some ({ t with offset := some o }, rest)
        | none => some (t, rest)
      else none
  | [] => none

/-- A date, a time or both at the front. -/
def moment? (cs : List Char) : Option (Value × List Char) :=
  match date? cs with
  | some (d, rest) =>
      match timeOfDate? rest with
      | some (t, rest) => some (.datetime d t, rest)
      | none => some (.date d, rest)
  | none => (time? cs).map fun (t, rest) => (.time t, rest)

/-- The days and times of a value exist. -/
def isProper : Value → Bool
  | .date d => d.isProper
  | .datetime d t => d.isProper && t.isProper
  | _ => true

/-- A date, a time or a number at the front. -/
def plain (cs : List Char) : Read Value :=
  match moment? cs with
  | some (v, rest) => if isProper v then .ok (v, rest) else malformed
  | none => number cs

end Toml
end BuildTransform
