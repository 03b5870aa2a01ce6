import BuildTransform.Script.Execution

/-!
# How scripts end

What whoever runs a configuration module gets to see of it.

* `Ending` is the value of a name after the module has run, or the way in which the run failed.
* An exception that asks the program to stop is no failure of the module: it passes through.
  So does the one that is met when the text of an exception is asked for and there is none.
-/

namespace BuildTransform
namespace Script

/-- How the run of a module ends. -/
inductive Ending
  | defined (v : Value)
  | undefined
  | failed (complaint : Complaint)
  | escaped (raised : Raised)
  | unfinished
deriving Repr

namespace Ending

/-- What is met when the text of an exception holds an integer that is too long. -/
def withoutText : Raised :=
  ⟨"ValueError", some .omitted⟩

/-- The end of a module that raised an exception. -/
def ofRaised (r : Raised) : Ending :=
  if r.isFatal then .escaped r
  else
    match r.text with
    | some text => .failed ⟨r.kind, text⟩
    | none => .escaped withoutText

/-- The end of a run that gives a value, or nothing if its name was never bound. -/
def ofRun : Run (Option Value) → Ending
  | .ok (some v) => .defined v
  | .ok none => .undefined
  | .error (.raised r) => ofRaised r
  | .error .beyond => .unfinished

end Ending
end Script
end BuildTransform
