import BuildTransform.Script.Arithmetic
import BuildTransform.Script.Module
import BuildTransform.Text.Class

/-!
# Running scripts

The bindings that the statements of a configuration module leave behind.

* `Execution.eval` gives what an expression stands for; operands are evaluated from
  left to right, and the first exception ends the script.
* `Execution.step` runs one statement, `Execution.runAll` a list of them in order.
* `Execution.bindingsOf` runs the text of a module.
* Whatever is not settled by the text of the module alone is beyond what is run here.
-/

namespace BuildTransform
namespace Script

/-- The names of a script and what they stand for, the latest first. -/
abbrev Bindings := List (String × Object)

/-- What the module of a script is called and where it lies. -/
structure ModuleInfo where
  name : String
  file : String
deriving DecidableEq, Repr

namespace Execution

/-- What a name stands for. -/
def lookup (bs : Bindings) (id : String) : Run Object :=
  match bs.lookup id with
  | some o => .ok o
  | none =>
      if unsettledNames.contains id then goBeyond
      else
        match Builtin.object? id with
        | some o => .ok o
        | none => raise "NameError" ("name '" ++ id ++ "' is not defined")

/-- The value that an object is; other objects are not known well enough. -/
def valueOf (o : Object) : Run Value :=
  match o with
  | .value v => .ok v
  | _ => goBeyond

/-- The results of operands from left to right, or the first exception. -/
def inOrder : List (Run Object) → Run (List Object)
  | [] => .ok []
  | r :: rest => do
      let o ← r
      .ok (o :: (← inOrder rest))

/-- A sequence of objects; it is a value if all of them are. -/
def sequence (items : List Object) (make : List Value → Value) : Object :=
  match valuesOf items with
  | some vs => .value (make vs)
  | none => .other

/-- The values of objects; other objects are not known well enough. -/
def valuesIn (items : List Object) : Run (List Value) :=
  match valuesOf items with
  | some vs => .ok vs
  | none => goBeyond

/-- The value of a display. -/
def display (shape : Display) (items : List Object) : Run Object :=
  match shape with
  | .list => .ok (sequence items .list)
  | .tuple => .ok (sequence items .tuple)
  | .set => do
      let vs ← valuesIn items
      let _ ← vs.mapM requireKey
      .ok (.value (Value.ofMembers vs))

/-- Keys and values in the order in which they are evaluated. -/
def interleaved {α : Type} : List α → List α → List α
  | k :: ks, v :: vs => k :: v :: interleaved ks vs
  | _, _ => []

/-- Pairs of neighbours. -/
def paired {α : Type} : List α → List (α × α)
  | k :: v :: rest => (k, v) :: paired rest
  | _ => []

/-- The value of a dictionary of keys and values in turn. -/
def dictionary (items : List Object) : Run Object := do
  let entries := paired (← valuesIn items)
  let _ ← entries.mapM fun e => requireKey e.1
  .ok (.value (Value.ofEntries entries))

/-- The number of items that are evaluated before any of them is put in its place. -/
def portion : Nat := 15

/-- The result of a display in which things are put in their places one after another; with
more items than a portion it is not settled which exception comes first. -/
def inPortions (items : Nat) (r : Run Object) : Run Object :=
  match r with
  | .error (.raised e) => if portion < items then goBeyond else .error (.raised e)
  | r => r

/-- Whether an object counts as true. -/
def truthOfObject (o : Object) : Run Bool := do
  truthOf (← valueOf o)

/-- The result of operands joined by a logical word: the first one that decides, or
the last one. -/
def decided (isOr : Bool) : List (Run Object) → Run Object
  | [] => goBeyond
  | [r] => r
  | r :: rest => do
      let o ← r
      if (← truthOfObject o) == isOr then .ok o else decided isOr rest

/-- The result of calling something. -/
def called (callee : Object) (arguments : List Object) : Run Object :=
  match callee with
  | .builtin name =>
      match Builtin.exceptionName? name with
      | some n => (makeException n arguments).map .exception
      | none => goBeyond
  | _ => goBeyond

mutual

/-- What an expression stands for. -/
def eval (bs : Bindings) : Node → Run Object
  | .root body _ => eval bs body
  | .constant v _ => .ok (.value v)
  | .name id _ => lookup bs id
  | .member object _ _ => do
      let _ ← eval bs object
      goBeyond
  | .binary o left right _ => do
      let l ← eval bs left
      let r ← eval bs right
      (binaryOn o (← valueOf l) (← valueOf r)).map .value
  | .call callee arguments hasKeywords _ => do
      let f ← eval bs callee
      let items ← inOrder (evalEach bs arguments)
      if hasKeywords then goBeyond else called f items
  | .unary s operand _ => do
      let o ← eval bs operand
      (signOn s (← valueOf o)).map .value
  | .choice test yes no _ => do
      let t ← eval bs test
      if ← truthOfObject t then eval bs yes else eval bs no
  | .logical isOr operands _ => decided isOr (evalEach bs operands)
  | .display shape items _ =>
      inPortions (if shape = .set then items.length else 0) do
        display shape (← inOrder (evalEach bs items))
  | .dict keys values _ =>
      inPortions keys.length do
        dictionary (← inOrder (interleaved (evalEach bs keys) (evalEach bs values)))
  | .subscript object index _ => do
      let o ← eval bs object
      let i ← eval bs index
      (itemOf (← valueOf o) (← valueOf i)).map .value
  | .starred value _ => do
      let _ ← eval bs value
      goBeyond
  | .other form parts _ => do
      let _ ← inOrder (evalEach bs parts)
      if form = "Lambda" then .ok .other else goBeyond

/-- What expressions stand for, each on its own. -/
def evalEach (bs : Bindings) : List Node → List (Run Object)
  | [] => []
  | n :: rest => eval bs n :: evalEach bs rest

end

/-- Binds an object to a target. -/
def bind (bs : Bindings) (target : Node) (o : Object) : Run Bindings :=
  match target with
  | .name id _ => .ok ((id, o) :: bs)
  | .member object _ _ => do
      let _ ← eval bs object
      goBeyond
  | .subscript object index _ => do
      let _ ← eval bs object
      let _ ← eval bs index
      goBeyond
  | _ => goBeyond

/-- Binds an object to targets from left to right. -/
def bindAll (o : Object) : List Node → Bindings → Run Bindings
  | [], bs => .ok bs
  | t :: rest, bs => do
      let bs ← bind bs t o
      bindAll o rest bs

/-- Raises what an expression stands for; a kind of exception is made without
arguments first. -/
def raiseObject (o : Object) : Run Raised :=
  match o with
  | .exception r => .ok r
  | .builtin name =>
      match Builtin.exceptionName? name with
      | some n => makeException n []
      | none => notAnException
  | .value _ => notAnException
  | .other => goBeyond
where
  /-- The exception for raising something that is none. -/
  notAnException : Run Raised :=
    raise "TypeError" "exceptions must derive from BaseException"

/-- Checks the cause of an exception: an exception, or a kind of them, which is made first, or
nothing. -/
def checkCause (o : Object) : Run Unit :=
  match o with
  | .exception _ => .ok ()
  | .builtin name =>
      match Builtin.exceptionName? name with
      | some n => (makeException n []).map fun _ => ()
      | none => notACause
  | .value .null => .ok ()
  | .value _ => notACause
  | .other => goBeyond
where
  /-- The exception for a cause that is none. -/
  notACause : Run Unit :=
    raise "TypeError" "exception causes must derive from BaseException"

/-- Annotates a target: the place of the target and the annotation are evaluated. -/
def annotate (bs : Bindings) (target hint : Node) : Run Unit := do
  match target with
  | .member object _ _ => discard (eval bs object)
  | .subscript object index _ => do
      discard (eval bs object)
      discard (eval bs index)
  | _ => pure ()
  discard (eval bs hint)

/-- Runs one statement. -/
def step (bs : Bindings) : Statement → Run Bindings
  | .pass => .ok bs
  | .importing none => goBeyond
  | .importing (some module) =>
      if isAbsent module then
        raise "ModuleNotFoundError" ("No module named " ++ Quoted.text module)
      else goBeyond
  | .raising none _ => raise "RuntimeError" "No active exception to reraise"
  | .raising (some e) cause => do
      let o ← eval bs e
      let c ← (cause.map (eval bs)).getD (.ok (.value .null))
      let r ← raiseObject o
      checkCause c
      .error (.raised r)
  | .assignment targets value => do
      let o ← eval bs value
      bindAll o targets bs
  | .hinted target hint none => do
      annotate bs target hint
      .ok bs
  | .hinted target hint (some value) => do
      let o ← eval bs value
      let bs ← bind bs target o
      annotate bs target hint
      .ok bs
  | .expression value => do
      let _ ← eval bs value
      .ok bs

/-- Runs statements in order. -/
def runAll : List Statement → Bindings → Run Bindings
  | [], bs => .ok bs
  | s :: rest, bs => do
      let bs ← step bs s
      runAll rest bs

/-- The text at the beginning of a module that describes it. -/
def description (ss : List Statement) : Value :=
  match ss with
  | .expression (.constant (.str s) _) :: _ => .str s
  | _ => .null

/-- The names that a module has from the start. -/
def initial (info : ModuleInfo) (ss : List Statement) : Bindings :=
  [("__name__", .value (.str info.name)), ("__file__", .value (.str info.file)),
    ("__doc__", .value (description ss)), ("__package__", .value (.str ""))]

/-- The bindings that the text of a module leaves behind. -/
def bindingsOf (info : ModuleInfo) (text : String) : Run Bindings :=
  match Module.read text with
  | .statements ss => runAll ss (initial info ss)
  | .malformed => .error (.raised malformedScript)
  | .beyond => goBeyond

/-- The name of the module of a script: any character that is no letter, number or
low line is replaced. -/
def moduleName (stem : String) : String :=
  "_transform_config_" ++
    String.ofList (stem.toList.map fun c => if Text.isWord c then c else '_')

/-- The value of a name after a module has run, or nothing if it was never bound. -/
def valueNamed? (name : String) (bs : Bindings) : Run (Option Value) :=
  match bs.lookup name with
  | none => .ok none
  | some o => (valueOf o).map some

end Execution
end Script
end BuildTransform
