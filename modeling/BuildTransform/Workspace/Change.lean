import BuildTransform.Workspace.Resolve

/-!
# Changing a workspace

Writing and removing files and directories.

* `Workspace.write` follows links to the place where a file really stands and
  makes the directories above it.
* `Workspace.remove` removes what a path names, not what a link there leads to.
-/

namespace BuildTransform
namespace Workspace

/-- The location that a path names, with links above its last name followed. -/
def place (w : Workspace) (p : Path) : Location :=
  (w.settle p.parent.text).names ++ (if p.name = "" then [] else [p.name])

/-- Puts an entry at a path. A link is made where the path says; anything else
stands where the links of the path lead. -/
def write (w : Workspace) (p : Path) (e : Entry) : Workspace :=
  let loc :=
    match e with
    | .link _ => w.place p
    | _ => (w.settle p.text).names
  { w with tree := w.tree.insert loc e }

/-- Removes what a path names with everything below it. -/
def remove (w : Workspace) (p : Path) : Workspace :=
  { w with tree := w.tree.erase (w.place p) }

end Workspace
end BuildTransform
