import BuildTransform.ErrorKind
import BuildTransform.Expr.Basic

/-!
# Why an expression has no value

The reasons for which evaluation refuses an expression, with their wording.

* `EvalError` is a reason with the place of the node that it concerns.
* `EvalFailure` adds what is no fault of the expression: numbers beyond their
  range and trees beyond the depth limit.
-/

namespace BuildTransform

/-- Why evaluation refuses an expression. Values are held as they are shown. -/
inductive EvalReason
  | unsupportedNode (kind : String)
  | unsupportedLiteral (shown : String)
  | unbound (name : Value) (shown : String)
  | nonValueOperand
  | unsupportedMember (property : String)
  | unknownCall (callee : Option ErrorKind)
  | joinWithoutArguments (owner : String)
  | joinArgument (owner shown : String)
  | notAValue (shown : String)
  | tooDeep
  | reported (message : String)
deriving Repr

/-- A reason and the place of the node that it concerns. -/
structure EvalError where
  reason : EvalReason
  span : Option Span
deriving Repr

namespace EvalReason

/-- The sort of a reason. -/
def kind : EvalReason → ErrorKind
  | .unbound _ _ => .unboundIdentifier
  | .joinWithoutArguments _ => .joinArgumentType
  | .joinArgument _ _ => .joinArgumentType
  | _ => .unsupportedExpression

/-- The wording of a reason. -/
def message : EvalReason → String
  | .unsupportedNode kind => "unsupported expression: " ++ kind
  | .unsupportedLiteral shown => "unsupported literal: " ++ shown
  | .unbound _ shown => "'" ++ shown ++ "' is not defined"
  | .nonValueOperand => "cannot add a non-value operand"
  | .unsupportedMember property => "unsupported member access: ." ++ property
  | .unknownCall _ => "cannot evaluate unknown function call"
  | .joinWithoutArguments owner => owner ++ ".join requires at least one argument"
  | .joinArgument owner shown => owner ++ ".join arguments must be strings, got " ++ shown
  | .notAValue shown => shown ++ " is not a value"
  | .tooDeep => "expression is nested too deeply"
  | .reported message => message

end EvalReason

/-- Why the evaluation of an expression ends without a value. -/
inductive EvalFailure
  | refused (error : EvalError)
  | integerTooLarge
  | integerTooLong
  | depthExhausted
deriving Repr

end BuildTransform
