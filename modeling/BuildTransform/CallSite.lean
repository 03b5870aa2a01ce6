import BuildTransform.Config.Options
import BuildTransform.Expr.ESTree
import BuildTransform.Expr.Evaluate

/-!
# Arguments at a call site

What a transform wants of a call such as `require("./lib")`: the values of its
arguments, or the text between its parentheses.

* `argumentSource` cuts the text out of the source, from the start of the first
  argument to the end of the last.
* `callArguments` evaluates all arguments and `callArgument` the first, unless
  evaluation is switched off; then both give the text.
-/

namespace BuildTransform

/-- A call as an expression or as an ESTree object. -/
inductive CallForm
  | tree (e : Expr)
  | object (v : Value)

/-- Why a call yields no arguments. -/
inductive CallFailure
  | malformedTree (fault : TreeFault)
  | notACall (kind : String)
  | sourceRequired
  | spansMissing
  | notANode
  | noArguments
  | options (errors : List OptionError)
  | path (fault : ResolveFault)
  | evaluation (failure : EvalFailure)

namespace CallFailure

/-- The wording of a failure that concerns the use of a call. -/
def message? : CallFailure → Option String
  | .notACall kind => some ("Expected a call expression, got " ++ kind)
  | .sourceRequired => some "source is required when evaluate_arguments is False"
  | .spansMissing =>
      some "Argument nodes have no source spans; raw source is unavailable"
  | .noArguments => some "Call has no arguments"
  | _ => none

end CallFailure

/-- Arguments of a call: values or source text. -/
inductive Arguments
  | values (vs : List Scalar)
  | source (text : String)
deriving DecidableEq, Repr

namespace CallSite

/-- The expression of a form; data that stands in place of a node is read as an
object. -/
def exprOf (form : CallForm) (source : Option String) : Except CallFailure Expr :=
  let fromObject (v : Value) : Except CallFailure Expr :=
    match ESTree.toExpr v source with
    | .ok e => .ok e
    | .error f => .error (.malformedTree f)
  match form with
  | .object v => fromObject v
  | .tree (.foreign v) => if v.isDict then fromObject v else .ok (.foreign v)
  | .tree e => .ok e

/-- The arguments of a call. -/
def argumentsOf (form : CallForm) (source : Option String) : Except CallFailure (List Expr) := do
  match ← exprOf form source with
  | .call _ arguments _ => .ok arguments
  | e => .error (.notACall e.kindName)

/-- The place of an argument that is a node. -/
def spanOf : Expr → Except CallFailure (Option Span)
  | .foreign _ => .error .notANode
  | e => .ok e.span

/-- The text from the start of the first argument to the end of the last. -/
def textOf (arguments : List Expr) (source : String) : Except CallFailure String :=
  match arguments.head?, arguments.getLast? with
  | some first, some last => do
      match ← spanOf first, ← spanOf last with
      | some a, some b =>
          .ok (String.ofList (Units.slice source.toList a.start b.stop))
      | _, _ => .error .spansMissing
  | _, _ => .ok ""

/-- The text between the parentheses of a call. -/
def argumentSource (form : CallForm) (source : String) : Except CallFailure String := do
  textOf (← argumentsOf form (some source)) source

/-- The environment of a file: its resolved path and the directory above. -/
def environmentFor (w : Workspace) (file : String) : Except ResolveFault Environment := do
  let p ← w.resolve (Path.ofText file)
  .ok (Environment.ofPaths p.text p.parent.text)

/-- A request for the arguments of a call. -/
structure Request where
  form : CallForm
  file : String
  source : Option String
  options : OptionsInput
  evaluates : Option Bool
  environment : Option Environment

namespace Request

/-- An explicit wish decides whether arguments are evaluated, else the options. -/
def shouldEvaluate [Platform] (r : Request) : Except CallFailure Bool :=
  match r.evaluates with
  | some b => .ok b
  | none =>
      match Options.ofInput r.options with
      | .ok o => .ok o.evaluates
      | .error es => .error (.options es)

/-- The environment of a request. -/
def environmentIn (r : Request) (w : Workspace) : Except CallFailure Environment :=
  match r.environment with
  | some env => .ok env
  | none =>
      match environmentFor w r.file with
      | .ok env => .ok env
      | .error f => .error (.path f)

/-- The text of the arguments, for which the source has to be known. -/
def rawText (r : Request) (arguments : List Expr) : Except CallFailure Arguments :=
  match r.source with
  | none => .error .sourceRequired
  | some source => (textOf arguments source).map .source

end Request

/-- The value of an argument. -/
def valueOf (env : Environment) (e : Expr) : Except CallFailure Scalar :=
  match evaluateOrFail e env with
  | .ok s => .ok s
  | .error f => .error (.evaluation f)

/-- The values of a call as the record of its evaluation lists them. -/
def shownValues? (vs : List Scalar) : Option String :=
  (Value.list (vs.map Scalar.toValue)).display?

/-- The values of all arguments of a call, or their text. The evaluation is
recorded, so every value has to have a displayed form. -/
def callArguments [Platform] (w : Workspace) (r : Request) : Except CallFailure Arguments := do
  let arguments ← argumentsOf r.form r.source
  if ← r.shouldEvaluate then
    let env ← r.environmentIn w
    let vs ← arguments.mapM (valueOf env)
    match shownValues? vs with
    | some _ => .ok (.values vs)
    | none => .error (.evaluation .integerTooLong)
  else r.rawText arguments

/-- The value of the first argument of a call, or the text of all. -/
def callArgument [Platform] (w : Workspace) (r : Request) : Except CallFailure Arguments := do
  let arguments ← argumentsOf r.form r.source
  if ← r.shouldEvaluate then
    match arguments with
    | [] => .error .noArguments
    | first :: _ =>
        let env ← r.environmentIn w
        .ok (.values [← valueOf env first])
  else r.rawText arguments

end CallSite
end BuildTransform
