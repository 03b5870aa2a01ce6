import BuildTransform.Decimal.Layout
import BuildTransform.Expr.Error
import BuildTransform.Path.Basic
import BuildTransform.Value.Display

/-!
# Evaluation of argument expressions

The static value of an argument expression in an environment that names the
current file, its directory and the path namespace.

* `Meaning` is what a node stands for: a scalar, the path namespace or its
  `join` function. Only scalars are values.
* `visit` follows the tree from left to right and stops at the first refusal.
* `evaluateOrFail` demands a scalar; `evaluate` reports the outcome as data.
-/

namespace BuildTransform

/-- The names that an expression may use and what they stand for. -/
structure Environment where
  filename : String
  dirname : String
  filenameName : String
  dirnameName : String
  joinAlias : String
deriving DecidableEq, Repr

/-- The names that an environment uses unless others are given. -/
def Environment.ofPaths (filename dirname : String) : Environment :=
  ⟨filename, dirname, "__filename", "__dirname", "path"⟩

/-- A value that an expression can have. -/
inductive Scalar
  | text (s : String)
  | int (i : Int)
  | float (d : Double)
deriving DecidableEq, Repr

namespace Scalar

/-- The scalar as a value. -/
def toValue : Scalar → Value
  | .text s => .str s
  | .int i => .int i
  | .float d => .float d

/-- The scalar that a value is; truth values are none. -/
def ofValue? : Value → Option Scalar
  | .str s => some (.text s)
  | .int i => some (.int i)
  | .float d => some (.float d)
  | _ => none

/-- The text of a scalar where it is joined to another text; nothing if an
integer is too long. -/
def joinedText? : Scalar → Option String
  | .text s => some s
  | .int i => Numeral.intText? i
  | .float d => some (Layout.concatenated.text d)

end Scalar

/-- What a node stands for. -/
inductive Meaning
  | scalar (s : Scalar)
  | pathNamespace
  | joinFunction
deriving DecidableEq, Repr

namespace Meaning

/-- The displayed form of a meaning. -/
def display? : Meaning → Option String
  | .scalar s => s.toValue.display?
  | .pathNamespace => some "<path namespace>"
  | .joinFunction => some "<path.join>"

end Meaning

/-- What evaluation yields: something, or the reason why not. -/
abbrev Evaluated (α : Type) := Except EvalFailure α

namespace Evaluation

/-- Refuses a node for a reason. -/
def refuse {α : Type} (reason : EvalReason) (span : Option Span) : Evaluated α :=
  .error (.refused ⟨reason, span⟩)

/-- A displayed form, unless an integer in it is too long. -/
def shown (s : Option String) : Evaluated String :=
  match s with
  | some s => .ok s
  | none => .error .integerTooLong

/-- The number nearest to an integer. -/
def nearest (i : Int) : Evaluated Double :=
  match Double.ofInt? i with
  | some d => .ok d
  | none => .error .integerTooLarge

/-- The text of a scalar next to another text. -/
def joinedText (s : Scalar) : Evaluated String :=
  shown s.joinedText?

/-- The sum of two scalars: numbers are added, and if either is a text both are
joined as texts. -/
def add : Scalar → Scalar → Evaluated Scalar
  | .int i, .int j => .ok (.int (i + j))
  | .int i, .float y => (nearest i).map fun x => .float (x.add y)
  | .float x, .int j => (nearest j).map fun y => .float (x.add y)
  | .float x, .float y => .ok (.float (x.add y))
  | a, b => do
      let s ← joinedText a
      let t ← joinedText b
      .ok (.text (s ++ t))

/-- The meaning of a literal. -/
def literal (v : Value) (span : Option Span) : Evaluated Meaning :=
  match Scalar.ofValue? v with
  | some s => .ok (.scalar s)
  | none => do
      let s ← shown v.display?
      refuse (.unsupportedLiteral s) span

/-- The meaning of a name; the name of the file wins over the name of its
directory, and that over the path namespace. -/
def lookup (env : Environment) (name : Value) (span : Option Span) : Evaluated Meaning :=
  let is (s : String) : Bool :=
    match name with
    | .str t => t == s
    | _ => false
  if is env.filenameName then .ok (.scalar (.text env.filename))
  else if is env.dirnameName then .ok (.scalar (.text env.dirname))
  else if is env.joinAlias then .ok .pathNamespace
  else do
    let s ← shown name.text?
    refuse (.unbound name s) span

/-- The meaning of a sum. -/
def plus (l r : Meaning) (span : Option Span) : Evaluated Meaning :=
  match l, r with
  | .scalar a, .scalar b => (add a b).map .scalar
  | _, _ => refuse .nonValueOperand span

/-- The meaning of a member. -/
def member (object : Meaning) (property : Value) (span : Option Span) : Evaluated Meaning :=
  match object, property with
  | .pathNamespace, .str "join" => .ok .joinFunction
  | _, _ => do
      let s ← shown property.text?
      refuse (.unsupportedMember s) span

/-- Only the join function may be called; an error of the callee is not shown
itself but remembered by its sort. -/
def calleeOf (callee : Evaluated Meaning) (span : Option Span) : Evaluated Unit :=
  match callee with
  | .ok .joinFunction => .ok ()
  | .ok _ => refuse (.unknownCall none) span
  | .error (.refused e) => refuse (.unknownCall (some e.reason.kind)) span
  | .error f => .error f

/-- An argument of the join function has to be a text. -/
def segmentOf (env : Environment) (m : Meaning) (span : Option Span) : Evaluated String :=
  match m with
  | .scalar (.text s) => .ok s
  | m => do
      let s ← shown m.display?
      refuse (.joinArgument env.joinAlias s) span

mutual

/-- The meaning of a node, looking at most `budget` nodes down. -/
def visit (env : Environment) : Nat → Expr → Evaluated Meaning
  | 0, _ => .error .depthExhausted
  | _ + 1, .literal v span => literal v span
  | _ + 1, .identifier name span => lookup env name span
  | budget + 1, .member object property span => do
      let m ← visit env budget object
      member m property span
  | budget + 1, .plus left right span => do
      let l ← visit env budget left
      let r ← visit env budget right
      plus l r span
  | budget + 1, .call callee arguments span => do
      calleeOf (visit env budget callee) span
      if arguments.isEmpty then refuse (.joinWithoutArguments env.joinAlias) span
      else
        let segments ← visitSegments env budget arguments
        .ok (.scalar (.text (Joined.join segments)))
  | _ + 1, .unsupported kind span => do
      let s ← shown kind.text?
      refuse (.unsupportedNode s) span
  | _ + 1, .foreign v => refuse (.unsupportedNode v.kindName) none

/-- The texts of the arguments of the join function, from left to right. -/
def visitSegments (env : Environment) : Nat → List Expr → Evaluated (List String)
  | _, [] => .ok []
  | budget, e :: es => do
      let m ← visit env budget e
      let s ← segmentOf env m e.span
      let rest ← visitSegments env budget es
      .ok (s :: rest)

end

/-- How deeply expressions may be nested. -/
def depthLimit : Nat := 1000

/-- A meaning that is a scalar. -/
def scalarOf (e : Expr) (m : Meaning) : Evaluated Scalar :=
  match m with
  | .scalar s => .ok s
  | m => do
      let s ← shown m.display?
      refuse (.notAValue s) e.span

/-- Exhausted depth is reported as a refusal of the whole expression. -/
def rooted (e : Expr) (r : Evaluated Meaning) : Evaluated Meaning :=
  match r with
  | .error .depthExhausted => refuse .tooDeep e.span
  | r => r

end Evaluation

/-- The value of an expression, or why it has none. -/
def evaluateOrFail (e : Expr) (env : Environment) : Evaluated Scalar := do
  let m ← Evaluation.rooted e (Evaluation.visit env Evaluation.depthLimit e)
  Evaluation.scalarOf e m

/-- The outcome of an evaluation as data: a value or the reason why there is none. -/
structure EvalResult where
  succeeded : Bool
  value : Value
  message : Option String
  kind : Option ErrorKind
  span : Option Span
  error : Option EvalError
deriving Repr

namespace EvalResult

/-- The outcome with a value. -/
def success (s : Scalar) : EvalResult :=
  ⟨true, s.toValue, none, none, none, none⟩

/-- The outcome with an error. -/
def failure (e : EvalError) : EvalResult :=
  ⟨false, .null, some e.reason.message, some e.reason.kind, e.span, some e⟩

/-- The value of an outcome, or its error; an outcome made without an error gets
one from its message. -/
def unwrap (r : EvalResult) : Except EvalError Value :=
  match r.succeeded, r.value with
  | true, .null => .error (unsuccessful r)
  | true, v => .ok v
  | false, _ => .error (unsuccessful r)
where
  /-- The error of an outcome. -/
  unsuccessful (r : EvalResult) : EvalError :=
    match r.error with
    | some e => e
    | none =>
        let text := r.message.getD ""
        ⟨.reported (if text.isEmpty then "evaluation failed" else text), r.span⟩

end EvalResult

/-- The outcome of evaluating an expression. What is no fault of the expression
itself stays a failure. -/
def evaluate (e : Expr) (env : Environment) : Evaluated EvalResult :=
  match evaluateOrFail e env with
  | .ok s => .ok (.success s)
  | .error (.refused err) => .ok (.failure err)
  | .error f => .error f

end BuildTransform
