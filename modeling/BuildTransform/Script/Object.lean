import BuildTransform.Script.Raised
import BuildTransform.Value.Display

/-!
# Objects of scripts

What the names and expressions of a script stand for while it runs.

* Apart from values there are the names that every script knows and exceptions
  that were made but not raised.
* `Halt` says why a script ends before its last statement; `beyond` means that it
  uses more than this library knows of the scripting language.
-/

namespace BuildTransform
namespace Script

/-- What an expression stands for. -/
inductive Object
  | value (v : Value)
  | builtin (name : String)
  | exception (raised : Raised)
  | other
deriving Repr

/-- Why a script ends early. -/
inductive Halt
  | raised (r : Raised)
  | beyond
deriving DecidableEq, Repr

/-- The outcome of running a part of a script. -/
abbrev Run (α : Type) := Except Halt α

/-- Raises an exception. -/
def raise {α : Type} (kind text : String) : Run α :=
  .error (.raised ⟨kind, some (.exact text)⟩)

/-- Leaves the known part of the language. -/
def goBeyond {α : Type} : Run α :=
  .error .beyond

/-- The exception of a text that is no script. Its kind stands for those below it too. -/
def malformedScript : Raised :=
  ⟨grammarKind, some .omitted⟩

namespace Builtin

/-- Exceptions that say that a text is no script. -/
def grammarExceptions : List String :=
  [grammarKind, "IndentationError", "TabError"]

/-- Exceptions of the operating system; two arguments and more have a meaning of
their own. -/
def systemExceptions : List String :=
  ["OSError", "BlockingIOError", "BrokenPipeError", "ChildProcessError",
    "ConnectionAbortedError", "ConnectionError", "ConnectionRefusedError",
    "ConnectionResetError", "FileExistsError", "FileNotFoundError", "InterruptedError",
    "IsADirectoryError", "NotADirectoryError", "PermissionError", "ProcessLookupError",
    "TimeoutError"]

/-- Exceptions that ask the program to stop. -/
def fatalExceptions : List String :=
  ["BaseException", "BaseExceptionGroup", "GeneratorExit", "KeyboardInterrupt",
    "SystemExit"]

/-- Exceptions with a fixed number of arguments, with the call that fails
otherwise. -/
def exactArguments : List (String × (String × Nat)) :=
  [("UnicodeDecodeError", ("function", 5)), ("UnicodeEncodeError", ("function", 5)),
    ("UnicodeTranslateError", ("function", 4)),
    ("ExceptionGroup", ("BaseExceptionGroup.__new__()", 2)),
    ("BaseExceptionGroup", ("BaseExceptionGroup.__new__()", 2))]

/-- All other exceptions. -/
def plainExceptions : List String :=
  ["ArithmeticError", "AssertionError", "AttributeError", "BufferError", "BytesWarning",
    "DeprecationWarning", "EOFError", "EncodingWarning", "Exception", "FloatingPointError",
    "FutureWarning", "ImportError", "ImportWarning", "IndexError", "KeyError",
    "LookupError", "MemoryError", "ModuleNotFoundError", "NameError",
    "NotImplementedError", "OverflowError", "PendingDeprecationWarning", "RecursionError",
    "ReferenceError", "ResourceWarning", "RuntimeError", "RuntimeWarning",
    "StopAsyncIteration", "StopIteration", "SyntaxWarning", "SystemError", "TypeError",
    "UnboundLocalError", "UnicodeError", "UnicodeWarning", "UserWarning", "ValueError",
    "Warning", "ZeroDivisionError"]

/-- The proper name of a name for an exception, if it is one. -/
def exceptionName? (name : String) : Option String :=
  if name = "IOError" ∨ name = "EnvironmentError" then some "OSError"
  else if (grammarExceptions ++ systemExceptions ++ fatalExceptions ++ plainExceptions).contains
      name || (exactArguments.lookup name).isSome then some name
  else none

/-- Names of functions and kinds that every script knows. -/
def functions : List String :=
  ["NotImplemented", "__build_class__", "__builtins__", "__import__", "__loader__",
    "__spec__", "abs", "aiter", "all", "anext", "any", "ascii", "bin", "bool",
    "breakpoint", "bytearray", "bytes", "callable", "chr", "classmethod", "compile",
    "complex", "delattr", "dict", "dir", "divmod", "enumerate", "eval", "exec", "filter",
    "float", "format", "frozenset", "getattr", "globals", "hasattr", "hash", "hex", "id",
    "input", "int", "isinstance", "issubclass", "iter", "len", "list", "locals", "map",
    "max", "memoryview", "min", "next", "object", "oct", "open", "ord", "pow", "print",
    "property", "range", "repr", "reversed", "round", "set", "setattr", "slice", "sorted",
    "staticmethod", "str", "sum", "super", "tuple", "type", "vars", "zip"]

/-- What a name stands for that every script knows. -/
def object? (name : String) : Option Object :=
  if name = "Ellipsis" then some (.value .ellipsis)
  else
    match exceptionName? name with
    | some n => some (.builtin n)
    | none => if functions.contains name then some (.builtin name) else none

end Builtin

/-- How deeply a value may be nested to be followed. -/
def nestingLimit : Nat := 100

/-- The display of a value is settled: it does not depend on the order of the members of
a set or on how a complex number was written. -/
def isDisplayed : Nat → Value → Bool
  | 0, _ => false
  | n + 1, v =>
      match v with
      | .list xs => xs.all (isDisplayed n)
      | .tuple xs => xs.all (isDisplayed n)
      | .set xs => xs.length ≤ 1 && xs.all (isDisplayed n)
      | .dict es => es.all fun e => isDisplayed n e.1 && isDisplayed n e.2
      | .complex _ => false
      | _ => true

/-- What is made of the text of a value: nothing if an integer in it is too long. -/
def worded (v : Value) (text? : Value → Option String) : Run (Option Wording) :=
  if isDisplayed nestingLimit v then .ok ((text? v).map .exact) else goBeyond

/-- The values among objects, if all of them are values. -/
def valuesOf : List Object → Option (List Value)
  | [] => some []
  | .value v :: rest => (valuesOf rest).map (v :: ·)
  | _ :: _ => none

/-- The text of an exception that was made with some values. -/
def exceptionText (name : String) (arguments : List Value) : Run (Option Wording) :=
  match arguments with
  | [] => .ok (some (.exact ""))
  | [v] => worded v (if name = "KeyError" then Value.display? else Value.text?)
  | vs =>
      if Builtin.systemExceptions.contains name then goBeyond
      else worded (.tuple vs) Value.display?

/-- The text of an exception that says that a text is no script: it is left out, unless
there is none. -/
def grammarText (arguments : List Value) : Run (Option Wording) :=
  match arguments with
  | [] => .ok (some .omitted)
  | [v] => (worded v Value.text?).map fun text => text.map fun _ => .omitted
  | _ => goBeyond

/-- Makes an exception of a kind. -/
def makeException (name : String) (arguments : List Object) : Run Raised :=
  match Builtin.exactArguments.lookup name with
  | some (call, n) =>
      if arguments.length = n then goBeyond
      else
        raise "TypeError" (call ++ " takes exactly " ++ Numeral.natText n ++
          " arguments (" ++ Numeral.natText arguments.length ++ " given)")
  | none =>
      match valuesOf arguments with
      | none => goBeyond
      | some vs =>
          if Builtin.grammarExceptions.contains name then
            (grammarText vs).map fun text => ⟨name, text⟩
          else (exceptionText name vs).map fun text => ⟨name, text⟩

/-- The exception is no failure of the script but asks the program to stop. -/
def Raised.isFatal (r : Raised) : Bool :=
  Builtin.fatalExceptions.contains r.kind

end Script
end BuildTransform
