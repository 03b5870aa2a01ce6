import BuildTransform.Yaml.Node
import BuildTransform.Yaml.Scalar

/-!
# Values of YAML nodes

The value that a tree of nodes denotes.

* Entries under the merge key are put in front of the other entries of a mapping.
* Faults are found level by level: those of a node and of its scalars come before
  those of the nodes that are nested deeper.
* A node inside of itself has no finite value.
-/

namespace BuildTransform
namespace Yaml
namespace Node

/-- The outcome of a part of the work. -/
abbrev Outcome (α : Type) := Except DocumentFailure α

/-- The entries of a mapping. -/
abbrev Entries := List (Node × Node)

/-- The node is a key of the given kind. -/
def hasTag (t : Tag) : Node → Bool
  | .scalar u _ => u == t
  | .sequence u _ => u == t
  | .mapping u _ => u == t
  | .cycle _ => false

/-- The text of a scalar node; that of a mapping is the value under the value key. -/
def text? : Nat → Node → Option String
  | 0, _ => none
  | fuel + 1, n =>
      match n with
      | .scalar _ s => some s
      | .mapping _ es =>
          match es.find? fun e => hasTag .value e.1 with
          | some (_, v) => text? fuel v
          | none => none
      | _ => none

/-! ## Merging -/

/-- The entries of a mapping with those of merged mappings in front; of a list of
mappings the first one comes last. Merging a mapping into itself adds nothing. -/
def merged : Nat → Entries → Outcome Entries
  | 0, _ => .error (.fault .tooDeep)
  | fuel + 1, es => do
      let nested (e : Node) (level : Nat) : Outcome Entries :=
        match e with
        | .mapping _ es => merged fuel es
        | .cycle l => if l = level then .ok [] else .error (.fault .tooDeep)
        | _ => .error .malformed
      let parts ← (es.filter fun e => hasTag .merge e.1).mapM fun (_, v) =>
        match v with
        | .sequence _ items => do
            let parts ← items.mapM fun item => nested item 1
            .ok parts.reverse.flatten
        | v => nested v 0
      .ok (parts.flatten ++ es.filter fun e => !hasTag .merge e.1)

/-- The key of an entry as a mapping takes it: the value key counts as a text. -/
def plainKey : Node → Node
  | .scalar .value s => .scalar .str s
  | n => n

/-- The entries of a mapping whose keys are ready to be evaluated. -/
def readyEntries (fuel : Nat) (es : Entries) : Outcome Entries :=
  (merged fuel es).map fun es => es.map fun (k, v) => (plainKey k, v)

/-! ## Faults -/

/-- The tag of a node. -/
def tag : Node → Tag
  | .scalar t _ => t
  | .sequence t _ => t
  | .mapping t _ => t
  | .cycle _ => .map

/-- The only entry of a mapping in an ordered list of entries. -/
def singleEntry : Node → Outcome (Node × Node)
  | .mapping _ [e] => .ok e
  | _ => .error .malformed

/-- The entries of a list of mappings with one entry each. -/
def listedEntries : Node → Outcome Entries
  | .sequence _ items => items.mapM singleEntry
  | _ => .error .malformed

/-- The entries of a mapping node. -/
def mappedEntries (fuel : Nat) : Node → Outcome Entries
  | .mapping _ es => readyEntries fuel es
  | _ => .error .malformed

/-- The value of a scalar, unless the node has a tag for collections. -/
def scalarValue? (fuel : Nat) (n : Node) : Outcome (Option Value) :=
  match n with
  | .cycle _ => .ok none
  | n =>
      match n.tag with
      | .seq => .ok none
      | .map => .ok none
      | .set => .ok none
      | .omap => .ok none
      | .pairs => .ok none
      | t =>
          match Scalar.read? t "" with
          | none => .error .malformed
          | some _ =>
              match text? fuel n with
              | none => .error .malformed
              | some s => ((Scalar.read? t s).getD (.error .malformed)).map some

/-- Checks a key: a collection cannot be one. -/
def checkKey (fuel : Nat) (k : Node) : Outcome Unit := do
  match ← scalarValue? fuel k with
  | some _ => .ok ()
  | none => .error .malformed

/-- Checks a nested node; a collection is checked later. -/
def checkNested (fuel : Nat) (n : Node) : Outcome (List Node) := do
  match ← scalarValue? fuel n with
  | some _ => .ok []
  | none => .ok [n]

/-- Checks the content of a collection and lists the collections in it. -/
def checkContent (fuel : Nat) (n : Node) : Outcome (List Node) := do
  match n, n.tag with
  | .cycle _, _ => .ok []
  | .sequence _ items, .seq => (items.mapM (checkNested fuel)).map List.flatten
  | n, .omap => checkListed n
  | n, .pairs => checkListed n
  | n, .map => checkMapped n
  | n, .set => checkMapped n
  | _, _ => .error .malformed
where
  /-- Checks a list of mappings with one entry each. -/
  checkListed (n : Node) : Outcome (List Node) :=
    match n with
    | .sequence _ items =>
        (items.mapM fun item => do
          let (k, v) ← singleEntry item
          .ok ((← checkNested fuel k) ++ (← checkNested fuel v))).map List.flatten
    | _ => .error .malformed
  /-- Checks the entries of a mapping. -/
  checkMapped (n : Node) : Outcome (List Node) := do
    let es ← mappedEntries fuel n
    let nested ← es.mapM fun (k, v) => do
      checkKey fuel k
      checkNested fuel v
    .ok nested.flatten

/-- Checks collections level by level. -/
def checkLevels (fuel : Nat) : Nat → List Node → Outcome Unit
  | 0, _ => .ok ()
  | n + 1, level => do
      if level.isEmpty then .ok ()
      else
        let next ← level.mapM (checkContent fuel)
        checkLevels fuel n next.flatten

/-! ## Values -/

/-- The value of a node that has no faults. -/
def value : Nat → Node → Outcome Value
  | 0, _ => .error (.fault .tooDeep)
  | fuel + 1, n => do
      let pairs (es : Entries) : Outcome (List (Value × Value)) :=
        es.mapM fun (k, v) => do .ok (← value fuel k, ← value fuel v)
      match n, n.tag with
      | .cycle _, _ => .error (.fault .tooDeep)
      | .sequence _ items, .seq => do
          .ok (.list (← items.mapM (value fuel)))
      | n, .omap => listed n pairs
      | n, .pairs => listed n pairs
      | n, .map => do
          .ok (.ofEntries (← pairs (← mappedEntries fuel n)))
      | n, .set => do
          let ps ← pairs (← mappedEntries fuel n)
          .ok (.ofMembers (ps.map (·.1)))
      | n, _ => do
          match ← scalarValue? fuel n with
          | some v => .ok v
          | none => .error .malformed
where
  /-- The value of a list of mappings with one entry each. -/
  listed (n : Node) (pairs : Entries → Outcome (List (Value × Value))) : Outcome Value := do
    let ps ← pairs (← listedEntries n)
    .ok (.list (ps.map fun (k, v) => .tuple [k, v]))

/-- The value that a node denotes, where `size` is at least the number of nodes. -/
def toValue (size : Nat) (n : Node) : Outcome Value := do
  match ← scalarValue? size n with
  | some v => .ok v
  | none => do
      checkLevels size size [n]
      value size n

end Node
end Yaml
end BuildTransform
