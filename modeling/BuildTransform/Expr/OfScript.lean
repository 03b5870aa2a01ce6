import BuildTransform.Expr.ESTree
import BuildTransform.Script.Node
import BuildTransform.Text.Lines

/-!
# Expressions from scripts

Reading an argument expression from the syntax tree of a script.

* `LineMap.offset` turns a line and a column in bytes into a position of a
  character; a column inside a character falls on that character.
* `Script.convert` keeps the nodes with a rule of evaluation; any other form
  becomes an unsupported node with its place.
-/

namespace BuildTransform
namespace Script

/-- The lines of a source text. -/
structure LineMap where
  lines : List (List Char)
deriving DecidableEq, Repr

namespace LineMap

/-- The lines of a text. -/
def ofText (s : String) : LineMap :=
  ⟨Lines.pieces s.toList⟩

/-- The number of characters in front of a line. -/
def startOf (m : LineMap) (n : Nat) : Nat :=
  (m.lines.take n).flatten.length

/-- The number of characters of the text. -/
def length (m : LineMap) : Nat :=
  m.startOf m.lines.length

/-- The number of characters in front of a byte of a line; negative columns
count from the end of the line. -/
def charsBefore (line : List Char) (column : Int) : Nat :=
  let bytes := Units.total Units.width8 line
  let c := if column < 0 then (column + bytes).toNat else column.toNat
  Units.floorIndex Units.width8 line c

/-- The position of a character from a line, counted from one, and a column in
bytes. Lines past the end fall on the end; lines before the first count from
behind the last. -/
def offset (m : LineMap) (line column : Int) : ESTree.Read Int :=
  let count : Int := m.lines.length
  let n := line - 1
  if count ≤ n then .ok m.length
  else
    let n := if n < 0 then n + count else n
    if n < 0 then .error .outOfRange
    else .ok ((m.startOf n.toNat : Int) + charsBefore (m.lines[n.toNat]?.getD []) column)

end LineMap

/-- A coordinate that has to be there. -/
def coordinate (c : Option Int) : ESTree.Read Int :=
  match c with
  | some i => .ok i
  | none => .error .notAnObject

/-- The place of a node in the source, unless it has no end. -/
def spanOf (m : LineMap) (p : Place) : ESTree.Read (Option Span) :=
  match p.endLine, p.endColumn with
  | some endLine, some endColumn => do
      let start ← m.offset (← coordinate p.line) (← coordinate p.column)
      let stop ← m.offset endLine endColumn
      .ok (some ⟨start, stop⟩)
  | _, _ => .ok none

/-- The literal of a constant; bytes, imaginary numbers and the ellipsis have no
rule of evaluation. -/
def constantOf (v : Value) (span : Option Span) : Expr :=
  match v with
  | .bytes _ => .unsupported (.str v.kindName) span
  | .complex _ => .unsupported (.str v.kindName) span
  | .ellipsis => .unsupported (.str v.kindName) span
  | _ => .literal v span

mutual

/-- The argument expression of a node, looking at most `budget` nodes down. -/
def convert (m : LineMap) : Nat → Node → ESTree.Read Expr
  | 0, _ => .error .tooDeep
  | budget + 1, node => do
      let span ← spanOf m node.place
      match node with
      | .root body _ => convert m budget body
      | .constant v _ => .ok (constantOf v span)
      | .name id _ => .ok (.identifier (.str id) span)
      | .member object field _ => do
          .ok (.member (← convert m budget object) (.str field) span)
      | .binary .add left right _ => do
          let l ← convert m budget left
          let r ← convert m budget right
          .ok (.plus l r span)
      | .binary operator _ _ _ =>
          .ok (.unsupported (.str ("BinOp(" ++ operator.formName ++ ")")) span)
      | .call callee arguments hasKeywords _ =>
          if hasKeywords then .ok (.unsupported (.str "Call(keywords)") span)
          else do
            let f ← convert m budget callee
            .ok (.call f (← convertAll m budget arguments) span)
      | node => .ok (.unsupported (.str node.formName) span)

/-- The argument expressions of several nodes. -/
def convertAll (m : LineMap) : Nat → List Node → ESTree.Read (List Expr)
  | _, [] => .ok []
  | budget, n :: ns => do
      let e ← convert m budget n
      .ok (e :: (← convertAll m budget ns))

end

/-- The argument expression of a node that was parsed from a source text. -/
def toExpr (node : Node) (source : String) : ESTree.Read Expr :=
  convert (LineMap.ofText source) ESTree.depthLimit node

end Script
end BuildTransform
