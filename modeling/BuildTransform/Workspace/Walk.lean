import BuildTransform.Path.Basic
import BuildTransform.Text.Quoted
import BuildTransform.Text.Units
import BuildTransform.Workspace.Tree

/-!
# Walking a path

Following a path name by name through a file tree, as opening a file does.

* `FileTree.walk` follows links, at most `linkLimit` of them, and says why a
  path leads nowhere.
* `Workspace.isFile?` and `Workspace.exists?` treat a path that leads nowhere as
  absent, but not one with an impossible name or through a closed directory.
* `Workspace.read` gives the content of a file, unless the system refuses to read it.
-/

namespace BuildTransform

/-- Why a path leads nowhere, or to nothing that can be read. -/
inductive Fault
  | notFound
  | notDirectory
  | isDirectory
  | tooManyLinks
  | nameTooLong
  | nulInName
  | denied
  | unreadable (error : SystemError)
deriving DecidableEq, Repr

namespace Fault

/-- The number and the wording of a fault. -/
def description : Fault → String
  | .notFound => "[Errno 2] No such file or directory"
  | .notDirectory => "[Errno 20] Not a directory"
  | .isDirectory => "[Errno 21] Is a directory"
  | .tooManyLinks => "[Errno 40] Too many levels of symbolic links"
  | .nameTooLong => "[Errno 36] File name too long"
  | .nulInName => "embedded null byte"
  | .denied => "[Errno 13] Permission denied"
  | .unreadable error => error.text

/-- The wording of a fault for a path; the system words its own errors in full. -/
def describe (f : Fault) (path : String) : String :=
  match f with
  | .unreadable error => error.text
  | f => f.description ++ ": " ++ Quoted.text path

end Fault

/-- The components of a text between slashes. -/
def Path.components (s : String) : List String :=
  (Text.pieces Joined.isSlash s.toList).map String.ofList

/-- The text starts at the root. -/
def Path.isAbsolute (s : String) : Bool :=
  Joined.startsAtRoot s.toList

/-- The number of links that one walk follows. -/
def linkLimit : Nat := 40

/-- The longest name in bytes. -/
def nameLimit : Nat := 255

/-- Texts of paths are shorter than this number of bytes. -/
def pathLimit : Nat := 4096

/-- The number of bytes of a text. -/
def byteLength (s : String) : Nat :=
  Units.total Units.width8 s.toList

namespace FileTree

/-- Follows names from a location that exists; the flag says whether a link at
the end is followed too. -/
def walk (t : FileTree) (follow : Bool) (links : Nat) (loc : Location) (names : List String) :
    Except Fault Location :=
  match names with
  | [] => .ok loc
  | name :: rest =>
      if !t.isDirectory loc then .error .notDirectory
      else if name = "" then walk t follow links loc rest
      else if t.isClosed loc then .error .denied
      else if name = "." then walk t follow links loc rest
      else if name = ".." then walk t follow links loc.dropLast rest
      else if nameLimit < byteLength name then .error .nameTooLong
      else
        let next := loc ++ [name]
        match t.entry? next with
        | none => .error .notFound
        | some (.link target) =>
            if rest.isEmpty && !follow then .ok next
            else
              match links with
              | 0 => .error .tooManyLinks
              | links + 1 =>
                  walk t follow links (if Path.isAbsolute target then [] else loc)
                    (Path.components target ++ rest)
        | some _ => walk t follow links next rest
termination_by (links, names.length)

end FileTree

/-- A file tree with a working directory and the variable that may name
manifests. -/
structure Workspace where
  tree : FileTree
  home : Location
  manifestVariable : Option String
deriving DecidableEq, Repr

namespace Workspace

/-- The location at which the names of a text start. -/
def start (w : Workspace) (s : String) : Location :=
  if Path.isAbsolute s then [] else w.home

/-- The location that a path leads to, all links followed. -/
def locate (w : Workspace) (p : Path) : Except Fault Location :=
  let s := p.text
  if s.toList.contains '\x00' then .error .nulInName
  else if pathLimit ≤ byteLength s then .error .nameTooLong
  else w.tree.walk true linkLimit (w.start s) (Path.components s)

/-- What a path leads to, all links followed. -/
def stat (w : Workspace) (p : Path) : Except Fault Entry := do
  let loc ← w.locate p
  match w.tree.entry? loc with
  | some e => .ok e
  | none => .error .notFound

/-- A test on what a path leads to; a path that leads nowhere fails the test,
except that a name that is too long and a closed directory are errors. -/
def test (w : Workspace) (p : Path) (accept : Entry → Bool) : Except Fault Bool :=
  match w.stat p with
  | .ok e => .ok (accept e)
  | .error .nameTooLong => .error .nameTooLong
  | .error .denied => .error .denied
  | .error _ => .ok false

/-- The path leads to something. -/
def exists? (w : Workspace) (p : Path) : Except Fault Bool :=
  w.test p fun _ => true

/-- The path leads to a file. -/
def isFile? (w : Workspace) (p : Path) : Except Fault Bool :=
  w.test p fun e =>
    match e with
    | .file _ => true
    | _ => false

/-- The content of the file that a path leads to. -/
def read (w : Workspace) (p : Path) : Except Fault Content := do
  match ← w.stat p with
  | .file (.unreadable error) => .error (.unreadable error)
  | .file c => .ok c
  | _ => .error .isDirectory

end Workspace
end BuildTransform
