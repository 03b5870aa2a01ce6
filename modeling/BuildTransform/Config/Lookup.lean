import BuildTransform.ErrorKind
import BuildTransform.Path.Basic

/-!
# Lookups

The outcome of looking for something in a list of directories. Finding nothing is
an outcome, not an error.

* A `Lookup` is either `found` or `missing`, with the directories that were searched; what is
  missing comes with a message and, for programs, with a sort of error.
* `Lookup.make` refuses a success without a value and a failure without a message.
-/

namespace BuildTransform

/-- The outcome of a lookup. -/
inductive Lookup (α : Type)
  | found (value : α) (searched : List Path)
  | missing (error : String) (kind : Option ErrorKind) (searched : List Path)
deriving Repr

/-- What is wrong with a lookup or with the use of one. -/
inductive LookupFault
  | noValue
  | noMessage
  | notFound (error : String)
deriving DecidableEq, Repr

/-- The message of a fault. -/
def LookupFault.message : LookupFault → String
  | .noValue => "Success result must have a value"
  | .noMessage => "Failed result must have an error message"
  | .notFound error => "Cannot unwrap failed result: " ++ error

namespace Lookup

variable {α : Type}

/-- Makes a lookup of a status, a value and a message, of which the status needs one. -/
def make (succeeded : Bool) (value : Option α) (error : Option String)
    (kind : Option ErrorKind) (searched : List Path) : Except LookupFault (Lookup α) :=
  if succeeded then
    match value with
    | some v => .ok (.found v searched)
    | none => .error .noValue
  else
    match error with
    | none => .error .noMessage
    | some "" => .error .noMessage
    | some e => .ok (.missing e kind searched)

/-- Something was found. -/
def isFound : Lookup α → Bool
  | .found _ _ => true
  | .missing _ _ _ => false

/-- The directories that were searched. -/
def searched : Lookup α → List Path
  | .found _ ds => ds
  | .missing _ _ ds => ds

/-- What was found. -/
def value? : Lookup α → Option α
  | .found v _ => some v
  | .missing _ _ _ => none

/-- The message of a lookup that found nothing. -/
def error? : Lookup α → Option String
  | .found _ _ => none
  | .missing e _ _ => some e

/-- The sort of error of a lookup that found nothing. -/
def kind? : Lookup α → Option ErrorKind
  | .found _ _ => none
  | .missing _ kind _ => kind

/-- What was found, or the fault of asking for it. -/
def unwrap : Lookup α → Except LookupFault α
  | .found v _ => .ok v
  | .missing e _ _ => .error (.notFound e)

end Lookup
end BuildTransform
