import BuildTransform.Text.Class

/-!
# Joined paths

Joining path segments by their text alone: nothing is looked up, and a segment
that starts with a slash does not discard the segments before it.

* `Joined.reduce` removes empty and `.` components and lets `..` cancel the
  component before it.
* `Joined.join` is the normal form of the segments: at most one leading slash,
  reduced components, and a trailing slash exactly if the segments end in one.
-/

namespace BuildTransform
namespace Joined

/-- A component of a path between slashes. -/
abbrev Component := List Char

/-- The separator of components. -/
def isSlash (c : Char) : Bool :=
  c == '/'

/-- The component that names its own directory. -/
def here : Component := ['.']

/-- The component that names the directory above. -/
def up : Component := ['.', '.']

/-- Puts the next component on a stack of reduced components, the last on top. -/
def push (absolute : Bool) (stack : List Component) (c : Component) : List Component :=
  if c = [] ∨ c = here then stack
  else if c = up then
    match stack with
    | [] => if absolute then [] else [up]
    | top :: rest => if top = up then up :: stack else rest
  else c :: stack

/-- Reduced components in order. -/
def reduce (absolute : Bool) (cs : List Component) : List Component :=
  (cs.foldl (push absolute) []).reverse

/-- The text starts with a slash. -/
def startsAtRoot (cs : List Char) : Bool :=
  cs.head? == some '/'

/-- The text ends with a slash. -/
def endsWithSlash (cs : List Char) : Bool :=
  cs.getLast? == some '/'

/-- The normal form of a nonempty path, without a trailing slash. -/
def normal (cs : List Char) : List Char :=
  let absolute := startsAtRoot cs
  let body := Text.joined ['/'] (reduce absolute (Text.pieces isSlash cs))
  if absolute then '/' :: body
  else if body = [] then here
  else body

/-- Gives a path the trailing slash that the joined text had. -/
def closed (cs result : List Char) : List Char :=
  if endsWithSlash cs && !endsWithSlash result then result ++ ['/'] else result

/-- The normal form of a list of segments. -/
def joinChars (segments : List (List Char)) : List Char :=
  match Text.joined ['/'] (segments.filter (· ≠ [])) with
  | [] => here
  | cs => closed cs (normal cs)

/-- The normal form of a list of segments; with no nonempty segment it is `.`. -/
def join (segments : List String) : String :=
  String.ofList (joinChars (segments.map String.toList))

end Joined
end BuildTransform
