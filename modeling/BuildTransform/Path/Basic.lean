import BuildTransform.Path.Joined

/-!
# Paths

Paths as a root and a list of names. Slashes in a row and `.` components do not
matter; `..` components stay, since a link may stand before them.

* `Path.ofText` and `Path.text` convert between paths and their texts.
* `Path.parent`, `Path.name`, `Path.stem` and `Path.suffix` take a path apart.
* `Path.child` continues a path, or replaces it by one that starts at the root.
-/

namespace BuildTransform

/-- Where a path starts; exactly two slashes in front are a root of their own. -/
inductive Path.Root
  | relative
  | single
  | double
deriving DecidableEq, Repr

/-- A path: where it starts and the names that follow. -/
structure Path where
  root : Path.Root
  names : List String
deriving DecidableEq, Repr

namespace Path

/-- The root that the slashes in front of a text denote. -/
def rootOf : List Char → Root
  | '/' :: '/' :: '/' :: _ => .single
  | '/' :: '/' :: _ => .double
  | '/' :: _ => .single
  | _ => .relative

/-- The path that a text denotes. -/
def ofText (s : String) : Path where
  root := rootOf s.toList
  names := ((Text.pieces Joined.isSlash s.toList).filter
    (fun c => c ≠ [] ∧ c ≠ Joined.here)).map String.ofList

/-- The slashes of a root. -/
def rootText : Root → String
  | .relative => ""
  | .single => "/"
  | .double => "//"

/-- The text of a path; the empty relative path is `.`. -/
def text (p : Path) : String :=
  match p.root, p.names with
  | .relative, [] => "."
  | r, names => rootText r ++ "/".intercalate names

/-- The path of the directory that holds the last name. -/
def parent (p : Path) : Path :=
  { p with names := p.names.dropLast }

/-- The last name, empty if there is none. -/
def name (p : Path) : String :=
  p.names.getLastD ""

/-- Continues a path with a text; a text that starts at the root stands alone. -/
def child (p : Path) (s : String) : Path :=
  let q := ofText s
  match q.root with
  | .relative => { p with names := p.names ++ q.names }
  | _ => q

/-- The characters of a name up to and including its last dot. -/
def throughDot (cs : List Char) : List Char :=
  (cs.reverse.dropWhile (· ≠ '.')).reverse

/-- A name cut before its last dot, unless nothing stands before or after it. -/
def splitName (cs : List Char) : List Char × List Char :=
  let front := throughDot cs
  let extension := cs.drop front.length
  if front.length ≤ 1 ∨ extension = [] then (cs, [])
  else (front.dropLast, '.' :: extension)

/-- The last name without its suffix. -/
def stem (p : Path) : String :=
  String.ofList (splitName p.name.toList).1

/-- The last dot of the last name and what follows it. -/
def suffix (p : Path) : String :=
  String.ofList (splitName p.name.toList).2

end Path
end BuildTransform
