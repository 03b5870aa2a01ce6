import BuildTransform.Text.Class

/-!
# File trees

Files, directories and symbolic links, each at a location below the root.

* `Content` tells apart what reading a file gives: a text, other bytes, or an error of the
  system.
* `FileTree.entry?` is the one view of a tree: what stands at a location.
* `FileTree.linkAt?` is what following a path sees of links: nothing below a closed directory.
* `FileTree.insert` puts an entry at a location and makes the directories above.
* `FileTree.erase` removes an entry with everything below it.
-/

namespace BuildTransform

/-- The names that lead from the root to a place. -/
abbrev Location := List String

/-- An error of the operating system: its class and its wording. -/
structure SystemError where
  kind : String
  text : String
deriving DecidableEq, Repr

/-- What the system says if it lists a file but fails to read it. -/
def inputError : SystemError :=
  ⟨"OSError", "[Errno 5] Input/output error"⟩

/-- The content of a file: a text, bytes that encode none, or what the system says if it
refuses to read them. -/
inductive Content
  | text (s : String)
  | undecodable
  | unreadable (error : SystemError)
deriving DecidableEq, Repr

/-- What stands at a location; nothing below a closed directory can be reached. -/
inductive Entry
  | file (content : Content)
  | directory
  | closed
  | link (target : String)
deriving DecidableEq, Repr

/-- Entries at locations below the root. -/
structure FileTree where
  entries : List (Location × Entry)
deriving DecidableEq, Repr

namespace FileTree

/-- A tree in which nothing has been made. The system lists the memory of the process as a
file, which cannot be read from its start. -/
def empty : FileTree :=
  ⟨[(["proc"], .directory), (["proc", "self"], .directory),
    (["proc", "self", "mem"], .file (.unreadable inputError))]⟩

/-- What stands at a location; the root is always a directory. -/
def entry? (t : FileTree) : Location → Option Entry
  | [] => some .directory
  | loc => t.entries.lookup loc

/-- The number of entries. -/
def size (t : FileTree) : Nat :=
  t.entries.length

/-- Replaces what stands at a location. -/
def set (t : FileTree) (loc : Location) (e : Entry) : FileTree :=
  ⟨(loc, e) :: t.entries.filter (fun pair => pair.1 ≠ loc)⟩

/-- Makes a directory at every location above that has no entry yet. -/
def makeAbove (t : FileTree) (loc : Location) : FileTree :=
  (List.range loc.length).foldl
    (fun t n =>
      let above := loc.take n
      if (t.entry? above).isNone then t.set above .directory else t)
    t

/-- Puts an entry at a location and makes the directories above it. -/
def insert (t : FileTree) (loc : Location) (e : Entry) : FileTree :=
  (t.makeAbove loc).set loc e

/-- Removes what stands at a location and below it. -/
def erase (t : FileTree) (loc : Location) : FileTree :=
  ⟨t.entries.filter (fun pair => !loc.isPrefixOf pair.1)⟩

/-- A closed directory stands at the location. -/
def isClosed (t : FileTree) (loc : Location) : Bool :=
  t.entry? loc == some .closed

/-- A directory stands at the location, closed or not. -/
def isDirectory (t : FileTree) (loc : Location) : Bool :=
  t.entry? loc == some .directory || t.isClosed loc

/-- One of the directories on the way to a location is closed. -/
def isHidden (t : FileTree) (loc : Location) : Bool :=
  (List.range loc.length).any fun n => t.isClosed (loc.take n)

/-- The target of the link at a location, if there is one and it can be seen. -/
def linkAt? (t : FileTree) (loc : Location) : Option String :=
  if t.isHidden loc then none
  else
    match t.entry? loc with
    | some (.link target) => some target
    | _ => none

end FileTree
end BuildTransform
