import BuildTransform.Toml.Scalar
import BuildTransform.Toml.Table

/-!
# Documents of TOML

Reading a TOML document as a dictionary.

* A document is a sequence of statements, each on a line of its own: a header, an
  entry or nothing, with an optional comment behind it.
* `Toml.readWithin` gives the value of a document up to a depth, and `Toml.read` at any depth.
-/

namespace BuildTransform
namespace Toml

/-- A character of a name without quotes. -/
def isBare (c : Char) : Bool :=
  c.isAlphanum || c == '-' || c == '_'

/-- One name of a dotted key. -/
def keyPart (cs : List Char) : Except DocumentFailure (String × List Char) :=
  match cs with
  | [] => malformed
  | c :: _ =>
      if isBare c then
        let name := cs.takeWhile isBare
        .ok (String.ofList name, cs.drop name.length)
      else quotedLine cs

/-- A dotted key and the blanks behind it. -/
def key : Nat → List Char → Except DocumentFailure (Key × List Char)
  | 0, _ => malformed
  | fuel + 1, cs => do
      let (name, rest) ← keyPart cs
      match skipBlanks rest with
      | '.' :: rest => do
          let (more, rest) ← key fuel (skipBlanks rest)
          .ok (name :: more, rest)
      | rest => .ok ([name], rest)

/-- The characters behind a comment, which holds no control character. -/
def skipComment (cs : List Char) : Except DocumentFailure (List Char) :=
  match cs with
  | '#' :: rest =>
      let text := rest.takeWhile (· ≠ '\n')
      if text.any isControl then malformed else .ok (rest.drop text.length)
  | _ => .ok cs

/-- The characters behind blanks, line breaks and comments. -/
def skipLines : Nat → List Char → Except DocumentFailure (List Char)
  | 0, cs => .ok cs
  | fuel + 1, cs =>
      match cs.dropWhile isSpace with
      | '#' :: rest => do
          let rest ← skipComment ('#' :: rest)
          skipLines fuel rest
      | rest => .ok rest

/-- The characters behind blanks, line breaks and comments. -/
def skipAll (cs : List Char) : Except DocumentFailure (List Char) :=
  skipLines (cs.length + 1) cs

/-- The values that are nested, read with a bound on their depth. -/
abbrev ValueReader := List Char → Read Value

/-- The items of an array from an item or the closing bracket on. -/
def items (value : ValueReader) :
    Nat → List Char → Except DocumentFailure (List Value × List Char)
  | 0, _ => malformed
  | fuel + 1, cs =>
      match cs with
      | ']' :: rest => .ok ([], rest)
      | _ => do
          let (v, rest) ← value cs
          match ← skipAll rest with
          | ',' :: rest => do
              let (vs, rest) ← items value fuel (← skipAll rest)
              .ok (v :: vs, rest)
          | ']' :: rest => .ok ([v], rest)
          | _ => malformed

/-- An entry: a dotted key, an equals sign and a value. -/
def entry (value : ValueReader) (cs : List Char) :
    Except DocumentFailure ((Key × Value) × List Char) := do
  let (k, rest) ← key (cs.length + 1) cs
  match rest with
  | '=' :: rest => do
      let (v, rest) ← value (skipBlanks rest)
      .ok ((k, v), rest)
  | _ => malformed

/-- The entries of an inline table, from an entry on. Values that are collections
are closed once another entry follows. -/
def inlineEntries (value : ValueReader) :
    Nat → Table → List Key → List Char → Except DocumentFailure (Table × List Char)
  | 0, _, _, _ => malformed
  | fuel + 1, t, closed, cs => do
      let ((k, v), rest) ← entry value cs
      if closed.any (·.isPrefixOf k) then malformed
      else
        match Table.within false (Table.insertNew (k.getLastD "") v) k.dropLast t with
        | none => malformed
        | some t =>
            match skipBlanks rest with
            | '\x7d' :: rest => .ok (t, rest)
            | ',' :: rest =>
                inlineEntries value fuel t
                  (if Tables.isCollection v then k :: closed else closed) (skipBlanks rest)
            | _ => malformed

/-- An inline table from behind its opening brace on. -/
def inlineTable (value : ValueReader) (cs : List Char) :
    Except DocumentFailure (Table × List Char) :=
  match skipBlanks cs with
  | '\x7d' :: rest => .ok ([], rest)
  | rest => inlineEntries value (rest.length + 1) [] [] rest

/-- A value at the front, with at most `depth` collections around one another. -/
def value (depth : Nat) (cs : List Char) : Except DocumentFailure (Value × List Char) :=
  match cs with
  | [] => malformed
  | c :: rest =>
      if c == '"' || c == '\'' then (quoted cs).map fun (s, rest) => (.str s, rest)
      else if "true".toList.isPrefixOf cs then .ok (.bool true, cs.drop 4)
      else if "false".toList.isPrefixOf cs then .ok (.bool false, cs.drop 5)
      else if c == '[' || c == '\x7b' then
        match depth with
        | 0 => .error (.fault .tooDeep)
        | depth + 1 =>
            if c == '[' then do
              let rest ← skipAll rest
              let (vs, rest) ← items (value depth) (rest.length + 1) rest
              .ok (.list vs, rest)
            else do
              let (t, rest) ← inlineTable (value depth) rest
              .ok (.dict t, rest)
      else plain cs

/-- The name between the brackets of a header and what follows the brackets. -/
def header (close : List Char) (cs : List Char) : Except DocumentFailure (Key × List Char) := do
  let cs := skipBlanks cs
  let (k, rest) ← key (cs.length + 1) cs
  if close.isPrefixOf rest then .ok (k, rest.drop close.length) else malformed

/-- A document that is being read: its tables and the header in force. -/
structure State where
  tables : Tables
  current : Key
deriving Repr

/-- The next state, if there is one. -/
def accepted (s : Option State) (rest : List Char) : Except DocumentFailure (State × List Char) :=
  match s with
  | some s => .ok (s, rest)
  | none => malformed

/-- One statement from its first character on, with at most `levels` collections around one
another. -/
def statement (levels : Nat) (s : State) (cs : List Char) :
    Except DocumentFailure (State × List Char) :=
  match cs with
  | '[' :: '[' :: rest => do
      let (k, rest) ← header [']', ']'] rest
      accepted ((s.tables.settle.openItem k).map fun t => ⟨t, k⟩) rest
  | '[' :: rest => do
      let (k, rest) ← header [']'] rest
      accepted ((s.tables.settle.openTable k).map fun t => ⟨t, k⟩) rest
  | '#' :: _ => .ok (s, cs)
  | _ => do
      let ((k, v), rest) ← entry (value levels) cs
      accepted ((s.tables.write s.current k v).map fun t => { s with tables := t }) rest

/-- The statements of a document, each up to the end of its line. -/
def statements (levels : Nat) : Nat → State → List Char → Except DocumentFailure State
  | 0, s, _ => .ok s
  | fuel + 1, s, cs =>
      match skipBlanks cs with
      | [] => .ok s
      | '\n' :: rest => statements levels fuel s rest
      | cs => do
          let (s, rest) ← statement levels s cs
          match ← skipComment (skipBlanks rest) with
          | [] => .ok s
          | '\n' :: rest => statements levels fuel s rest
          | _ => malformed

/-- The dictionary that a document denotes, with at most `levels` collections around one
another. -/
def readWithin (levels : Nat) (text : String) : Except DocumentFailure Value := do
  let cs := text.toList
  let s ← statements levels (cs.length + 1) ⟨Tables.empty, []⟩ cs
  .ok (.dict s.tables.root)

/-- The dictionary that a document denotes, however deeply its collections are nested. -/
def read (text : String) : Except DocumentFailure Value :=
  readWithin text.toList.length text

/-- How deeply collections may be nested if nothing else is said. -/
def depthLimit : Nat := 1000

/-- The collections of a document are nested more deeply than that. -/
def exceedsDepth (text : String) : Bool :=
  match readWithin depthLimit text with
  | .error (.fault .tooDeep) => true
  | _ => false

end Toml
end BuildTransform
