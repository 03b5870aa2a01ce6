import BuildTransform.Value.Basic

/-!
# Syntax trees of scripts

Expressions of the scripting language of configuration modules, with the places
that its parser gives to nodes.

* `Place` counts lines from one and columns in bytes of UTF-8. A tree that
  arrives as data may lack any part of it.
* `Node` tells apart what evaluation needs; every other form of expression is
  `other` with the name of its form and the parts that are evaluated first.
-/

namespace BuildTransform
namespace Script

/-- The place of a node: line and column of its first byte and past its last. -/
structure Place where
  line : Option Int
  column : Option Int
  endLine : Option Int
  endColumn : Option Int
deriving DecidableEq, Repr, Inhabited

/-- A binary operator. -/
inductive Operator
  | add
  | sub
  | mult
  | matMult
  | div
  | mod
  | pow
  | lShift
  | rShift
  | bitOr
  | bitXor
  | bitAnd
  | floorDiv
deriving DecidableEq, Repr

namespace Operator

/-- All binary operators. -/
def all : List Operator :=
  [.add, .sub, .mult, .matMult, .div, .mod, .pow, .lShift, .rShift, .bitOr, .bitXor,
    .bitAnd, .floorDiv]

/-- The name of an operator's form. -/
def formName : Operator → String
  | .add => "Add"
  | .sub => "Sub"
  | .mult => "Mult"
  | .matMult => "MatMult"
  | .div => "Div"
  | .mod => "Mod"
  | .pow => "Pow"
  | .lShift => "LShift"
  | .rShift => "RShift"
  | .bitOr => "BitOr"
  | .bitXor => "BitXor"
  | .bitAnd => "BitAnd"
  | .floorDiv => "FloorDiv"

/-- The operator with a given name of its form. -/
def ofFormName? (s : String) : Option Operator :=
  all.find? (fun o => o.formName == s)

end Operator

/-- An operator in front of its operand. -/
inductive Sign
  | plus
  | minus
  | invert
  | negation
deriving DecidableEq, Repr

/-- A display of items between brackets. -/
inductive Display
  | list
  | tuple
  | set
deriving DecidableEq, Repr

/-- An expression of a script. -/
inductive Node
  | root (body : Node) (place : Place)
  | constant (value : Value) (place : Place)
  | name (id : String) (place : Place)
  | member (object : Node) (field : String) (place : Place)
  | binary (operator : Operator) (left right : Node) (place : Place)
  | call (callee : Node) (arguments : List Node) (hasKeywords : Bool) (place : Place)
  | unary (sign : Sign) (operand : Node) (place : Place)
  | choice (test yes no : Node) (place : Place)
  | logical (isOr : Bool) (operands : List Node) (place : Place)
  | display (shape : Display) (items : List Node) (place : Place)
  | dict (keys values : List Node) (place : Place)
  | subscript (object index : Node) (place : Place)
  | starred (value : Node) (place : Place)
  | other (form : String) (parts : List Node) (place : Place)
deriving Repr, Inhabited

namespace Node

/-- The place of a node. -/
def place : Node → Place
  | .root _ p => p
  | .constant _ p => p
  | .name _ p => p
  | .member _ _ p => p
  | .binary _ _ _ p => p
  | .call _ _ _ p => p
  | .unary _ _ p => p
  | .choice _ _ _ p => p
  | .logical _ _ p => p
  | .display _ _ p => p
  | .dict _ _ p => p
  | .subscript _ _ p => p
  | .starred _ p => p
  | .other _ _ p => p

/-- The name of a node's form. -/
def formName : Node → String
  | .root _ _ => "Expression"
  | .constant _ _ => "Constant"
  | .name _ _ => "Name"
  | .member _ _ _ => "Attribute"
  | .binary _ _ _ _ => "BinOp"
  | .call _ _ _ _ => "Call"
  | .unary _ _ _ => "UnaryOp"
  | .choice _ _ _ _ => "IfExp"
  | .logical _ _ _ => "BoolOp"
  | .display .list _ _ => "List"
  | .display .tuple _ _ => "Tuple"
  | .display .set _ _ => "Set"
  | .dict _ _ _ => "Dict"
  | .subscript _ _ _ => "Subscript"
  | .starred _ _ => "Starred"
  | .other form _ _ => form

end Node
end Script
end BuildTransform
