import BuildTransform.Yaml.Lexer
import BuildTransform.Yaml.Schema

/-!
# Nodes of YAML

The tree of nodes that the tokens of a document describe.

* A node is a scalar, a sequence or a mapping with its tag. Where an alias names a
  node that contains it, the tree has a `cycle`.
* `Node.ofTokens` reads the only document of a stream; a stream may also be empty.
-/

namespace BuildTransform
namespace Yaml

/-- A node. A `cycle` stands for the node so many collections further out, where
zero is the innermost one around it. -/
inductive Node
  | scalar (tag : Tag) (text : String)
  | sequence (tag : Tag) (items : List Node)
  | mapping (tag : Tag) (entries : List (Node × Node))
  | cycle (level : Nat)
deriving Inhabited

namespace Node

/-- The state of reading: tokens to come, nodes with anchors, anchors of the open
collections from the innermost on, and the meanings of tag handles. -/
structure State where
  tokens : List Token
  anchors : List (String × Node)
  openAnchors : List (Option String)
  handles : List (String × String)

/-- A reader of nodes. -/
abbrev Read := StateT State (Except DocumentFailure)

/-- Fails because the tokens break the grammar. -/
def refuse {α : Type} : Read α :=
  throw .malformed

/-- The next token; behind the last one the stream ends. -/
def peek : Read Token := do
  match (← get).tokens with
  | .broken f :: _ => throw f
  | t :: _ => pure t
  | [] => pure .streamEnd

/-- Takes the next token. -/
def advance : Read Unit := do
  modify fun s => { s with tokens := s.tokens.drop 1 }

/-- Takes a token if it is next. -/
def accept (t : Token) : Read Bool := do
  if (← peek) = t then
    advance
    pure true
  else pure false

/-- One of several tokens is next. -/
def nextIn (ts : List Token) : Read Bool := do
  pure (ts.contains (← peek))

/-- The number of tokens left bounds every repetition. -/
def bound : Read Nat := do
  pure ((← get).tokens.length + 1)

/-- An empty scalar without properties. -/
def empty : Node :=
  .scalar .null ""

/-! ## Properties -/

/-- The properties of a node: its anchor and the full name of its tag. -/
structure Properties where
  anchor : Option String
  tag : Option String
deriving DecidableEq, Repr

/-- The full name of a tag. -/
def tagName (handle : Option String) (suffix : String) : Read String := do
  match handle with
  | none => pure suffix
  | some h =>
      match (← get).handles.lookup h with
      | some meaning => pure (meaning ++ suffix)
      | none => refuse

/-- An anchor, if one is next. -/
def anchor? : Read (Option String) := do
  match ← peek with
  | .anchor name =>
      advance
      pure (some name)
  | _ => pure none

/-- The full name of a tag, if one is next. -/
def tag? : Read (Option String) := do
  match ← peek with
  | .tag handle suffix =>
      advance
      pure (some (← tagName handle suffix))
  | _ => pure none

/-- An anchor and a tag in either order; each may be missing. -/
def properties : Read Properties := do
  match ← anchor? with
  | some a => pure ⟨some a, ← tag?⟩
  | none =>
      match ← tag? with
      | some t => pure ⟨← anchor?, some t⟩
      | none => pure ⟨none, none⟩

/-- The tag of a collection; one exclamation mark is no tag. -/
def collectionTag (p : Properties) (default : Tag) : Tag :=
  match p.tag with
  | none => default
  | some t => if t = "!" then default else Tag.ofName t

/-- The tag of a scalar. Without a tag it is found by the form of a plain scalar; one
exclamation mark has it found so for every scalar. -/
def scalarTag (p : Properties) (plain : Bool) (text : String) : Tag :=
  match p.tag with
  | none => if plain then Schema.tagOf text else .str
  | some t => if t = "!" then Schema.tagOf text else Tag.ofName t

/-- Checks that no other node has the anchor of a node. -/
def checkAnchor (p : Properties) : Read Unit := do
  match p.anchor with
  | none => pure ()
  | some a =>
      let s ← get
      if (s.anchors.lookup a).isSome || s.openAnchors.contains (some a) then refuse
      else pure ()

/-- Notes the anchor of a node. -/
def noteAnchor (p : Properties) (n : Node) : Read Unit := do
  match p.anchor with
  | none => pure ()
  | some a => modify fun s => { s with anchors := (a, n) :: s.anchors }

/-- A scalar with its properties. -/
def scalarOf (p : Properties) (plain : Bool) (text : String) : Read Node := do
  checkAnchor p
  let n : Node := .scalar (scalarTag p plain text) text
  noteAnchor p n
  pure n

/-- A collection whose content is read by `content`, which is inside of it. -/
def collectionOf {α : Type} (p : Properties) (content : Read α) (make : α → Node) :
    Read Node := do
  checkAnchor p
  modify fun s => { s with openAnchors := p.anchor :: s.openAnchors }
  let a ← content
  modify fun s => { s with openAnchors := s.openAnchors.drop 1 }
  let n := make a
  noteAnchor p n
  pure n

/-- The node that an alias names. -/
def named (name : String) : Read Node := do
  let s ← get
  match s.anchors.lookup name with
  | some n => pure n
  | none =>
      match s.openAnchors.findIdx? (· == some name) with
      | some level => pure (.cycle level)
      | none => refuse

/-! ## Collections -/

/-- The reader of nested nodes. Outside of brackets, `block` allows collections that
are shown by indentation, `flush` also sequences that are not indented. -/
abbrev Child := (block flush : Bool) → Read Node

/-- A node unless one of certain tokens is next, in which case it is empty. -/
def nodeOr (stops : List Token) (n : Read Node) : Read Node := do
  if ← nextIn stops then pure empty else n

/-- The items of an indented sequence, up to and with its end. -/
def blockItems (child : Child) : Nat → Read (List Node)
  | 0 => refuse
  | fuel + 1 => do
      if ← accept .blockEntry then
        let n ← nodeOr [.blockEntry, .blockEnd] (child true false)
        let rest ← blockItems child fuel
        pure (n :: rest)
      else if ← accept .blockEnd then pure []
      else refuse

/-- The items of a sequence that is not indented. -/
def flushItems (child : Child) : Nat → Read (List Node)
  | 0 => refuse
  | fuel + 1 => do
      if ← accept .blockEntry then
        let n ← nodeOr [.blockEntry, .key, .value, .blockEnd] (child true false)
        let rest ← flushItems child fuel
        pure (n :: rest)
      else pure []

/-- The value behind a key, or an empty node. -/
def valueOr (stops : List Token) (n : Read Node) : Read Node := do
  if ← accept .value then nodeOr stops n else pure empty

/-- The entries of an indented mapping, up to and with its end. -/
def blockEntries (child : Child) : Nat → Read (List (Node × Node))
  | 0 => refuse
  | fuel + 1 => do
      let stops : List Token := [.key, .value, .blockEnd]
      if ← accept .key then
        let k ← nodeOr stops (child true true)
        let v ← valueOr stops (child true true)
        let rest ← blockEntries child fuel
        pure ((k, v) :: rest)
      else if ← accept .blockEnd then pure []
      else refuse

/-- Items in brackets up to and with the closing one, with commas between them. -/
def flowItems {α : Type} (close : Token) (item : Read α) : Nat → Bool → Read (List α)
  | 0, _ => refuse
  | fuel + 1, first => do
      if ← accept close then pure []
      else
        let separated ← if first then pure true else accept .flowEntry
        if !separated then refuse
        else if ← accept close then pure []
        else
          let a ← item
          let rest ← flowItems close item fuel false
          pure (a :: rest)

/-- An item of a sequence in brackets; a key makes it a mapping of one entry. -/
def flowItem (child : Child) : Read Node := do
  let stops : List Token := [.flowEntry, .flowSequenceEnd]
  if ← accept .key then
    collectionOf ⟨none, none⟩
      (do
        let k ← nodeOr (.value :: stops) (child false false)
        let v ← valueOr stops (child false false)
        pure [(k, v)])
      (.mapping .map)
  else child false false

/-- An entry of a mapping in brackets; without a mark it is a key without a value. -/
def flowEntry (child : Child) : Read (Node × Node) := do
  let stops : List Token := [.flowEntry, .flowMappingEnd]
  if ← accept .key then
    let k ← nodeOr (.value :: stops) (child false false)
    let v ← valueOr stops (child false false)
    pure (k, v)
  else
    let k ← child false false
    pure (k, empty)

/-- What follows the properties of a node. -/
def content (child : Child) (p : Properties) (block flush : Bool) : Read Node := do
  let fuel ← bound
  let items := Node.sequence (collectionTag p .seq)
  let entries := Node.mapping (collectionTag p .map)
  match ← peek with
  | .scalar text plain =>
      advance
      scalarOf p plain text
  | .flowSequenceStart =>
      advance
      collectionOf p (flowItems .flowSequenceEnd (flowItem child) fuel true) items
  | .flowMappingStart =>
      advance
      collectionOf p (flowItems .flowMappingEnd (flowEntry child) fuel true) entries
  | .blockEntry =>
      if flush then collectionOf p (flushItems child fuel) items else missing
  | .blockSequenceStart =>
      if block then
        advance
        collectionOf p (blockItems child fuel) items
      else missing
  | .blockMappingStart =>
      if block then
        advance
        collectionOf p (blockEntries child fuel) entries
      else missing
  | _ => missing
where
  /-- Properties may stand for an empty scalar; nothing at all may not. -/
  missing : Read Node :=
    if p = ⟨none, none⟩ then refuse else scalarOf p true ""

/-- A node, with at most `depth` nodes around one another. -/
def node : Nat → Child
  | 0, _, _ => throw (.fault .tooDeep)
  | depth + 1, block, flush => do
      match ← peek with
      | .reference name =>
          advance
          named name
      | _ => do
          let p ← properties
          content (node depth) p block flush

/-! ## Documents -/

/-- The meanings of tag handles that need no directive. -/
def standardHandles : List (String × String) :=
  [("!", "!"), ("!!", Tag.standard)]

/-- Directives in front of a document; the version may be given once, and so may
the meaning of a handle. -/
def directives : Nat → Bool → List (String × String) → Read (List (String × String))
  | 0, _, _ => refuse
  | fuel + 1, versionGiven, handles => do
      match ← peek with
      | .directive (.version major) =>
          if versionGiven || major != 1 then refuse
          else
            advance
            directives fuel true handles
      | .directive (.tagHandle handle meaning) =>
          if (handles.lookup handle).isSome then refuse
          else
            advance
            directives fuel versionGiven ((handle, meaning) :: handles)
      | .directive .unknown =>
          advance
          directives fuel versionGiven handles
      | _ => pure handles

/-- Ends of documents without a document. -/
def skipEnds : Nat → Read Unit
  | 0 => refuse
  | fuel + 1 => do
      if ← accept .documentEnd then skipEnds fuel else pure ()

/-- How deeply nodes may be nested. -/
def depthLimit : Nat := 1000

/-- The node of a document that starts with a mark. -/
def markedDocument : Read Node := do
  let handles ← directives (← bound) false []
  modify fun s => { s with handles := handles ++ standardHandles }
  if ← accept .documentStart then
    match ← peek with
    | .directive _ => pure empty
    | .documentStart => pure empty
    | .documentEnd => pure empty
    | .streamEnd => pure empty
    | _ => node depthLimit true false
  else refuse

/-- The node of a document, or nothing if the stream is empty. -/
def document : Read (Option Node) := do
  match ← peek with
  | .streamEnd => pure none
  | .directive _ => pure (some (← markedDocument))
  | .documentStart => pure (some (← markedDocument))
  | _ => pure (some (← node depthLimit true false))

/-- The end of a stream behind its only document. -/
def finish : Read Unit := do
  skipEnds (← bound)
  if (← peek) = .streamEnd then pure () else refuse

/-- The node of the only document that the tokens describe. -/
def ofTokens (ts : List Token) : Except DocumentFailure (Option Node) :=
  (do
    let n ← document
    finish
    pure n : Read (Option Node)).run' ⟨ts, [], [], standardHandles⟩

end Node
end Yaml
end BuildTransform
