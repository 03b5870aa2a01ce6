/-!
# Exceptions of scripts

What a script raises when it fails: the name of a kind of exception and a text.

* A `Wording` is the text of an exception, or says that the text is left out here.
* A `Raised` exception may have no text at all: then whoever asks for its text meets
  another exception. A `Complaint` is one that has a text, and `Complaint.kind` the kind that
  messages show of it.
-/

namespace BuildTransform
namespace Script

/-- The text of an exception; the texts of some kinds of exception are not worded. -/
inductive Wording
  | exact (s : String)
  | omitted
deriving DecidableEq, Repr

/-- The text as messages show it; a mark stands for one that is left out. -/
def Wording.shown : Wording → String
  | .exact s => s
  | .omitted => "<detail>"

/-- An exception, with its text unless asking for it raises another one. -/
structure Raised where
  kind : String
  text : Option Wording
deriving DecidableEq, Repr

/-- An exception that has a text. -/
structure Complaint where
  name : String
  text : Wording
deriving DecidableEq, Repr

/-- The kind of exception that says that a text is no script. -/
def grammarKind : String :=
  "SyntaxError"

/-- The kind of exception that messages show. A text is left out only if it says why a text is
no script, and then its kind stands for those below it too. -/
def Complaint.kind (c : Complaint) : String :=
  match c.text with
  | .exact _ => c.name
  | .omitted => grammarKind

end Script
end BuildTransform
