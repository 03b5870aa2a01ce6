import BuildTransform.Value.Basic

/-!
# Argument expressions

The expressions that stand as arguments of a call, as far as they have a static
value.

* `Expr` has one constructor for each kind of node with a rule of evaluation,
  one for syntax without a rule, and one for data that is no node at all.
* Every node may carry a `Span`, its place in the source text.
-/

namespace BuildTransform

/-- A place in a text: the positions of the first character and past the last.
Negative positions count from the end of the text. -/
structure Span where
  start : Int
  stop : Int
deriving DecidableEq, Repr

/-- An argument expression. Names and kinds are texts in a tree that a parser
made, and may be any value in a tree that arrived as data. -/
inductive Expr
  | literal (value : Value) (span : Option Span)
  | identifier (name : Value) (span : Option Span)
  | member (object : Expr) (property : Value) (span : Option Span)
  | plus (left right : Expr) (span : Option Span)
  | call (callee : Expr) (arguments : List Expr) (span : Option Span)
  | unsupported (kind : Value) (span : Option Span)
  | foreign (value : Value)
deriving Repr, Inhabited

namespace Expr

/-- The place of a node, where it is known. -/
def span : Expr → Option Span
  | .literal _ s => s
  | .identifier _ s => s
  | .member _ _ s => s
  | .plus _ _ s => s
  | .call _ _ s => s
  | .unsupported _ s => s
  | .foreign _ => none

/-- The name of the kind of a node. -/
def kindName : Expr → String
  | .literal _ _ => "Literal"
  | .identifier _ _ => "Identifier"
  | .member _ _ _ => "MemberAccess"
  | .plus _ _ _ => "BinaryPlus"
  | .call _ _ _ => "Call"
  | .unsupported _ _ => "Unsupported"
  | .foreign v => v.kindName

mutual

/-- The number of nodes on the longest way down. -/
def depth : Expr → Nat
  | .member o _ _ => depth o + 1
  | .plus l r _ => max (depth l) (depth r) + 1
  | .call c as _ => max (depth c) (depthAll as) + 1
  | _ => 1

/-- The depth of the deepest of several nodes. -/
def depthAll : List Expr → Nat
  | [] => 0
  | e :: es => max (depth e) (depthAll es)

end

end Expr
end BuildTransform
