import BuildTransform.Proofs.Config.Ancestry
import BuildTransform.Workspace.Change

/-!
# Workspaces of files at the root

A `Workspace.flat` one has nothing but files at its root, which is the working directory.

* `IsEntryName` says of a name that it names an entry of a directory.
* `flat_stat` and `flat_resolve` say what such a name leads to, and `flat_write` what writing
  there does.
-/

namespace BuildTransform
namespace Workspace

open Manifest (below)

/-- A workspace whose only entries are files at the root, which is the working directory. -/
def flat (files : List (String × Content)) : Workspace :=
  ⟨⟨files.map fun file => ([file.1], .file file.2)⟩, [], none⟩

/-- The name is one component of a path, and neither it nor the path is too long. -/
def IsEntryName (name : String) : Prop :=
  name ∉ ["", ".", ".."] ∧ byteLength name ≤ nameLimit ∧
  (below []).child name = below [name] ∧ (below [name]).text.toList.contains '\x00' = false ∧
  byteLength (below [name]).text < pathLimit ∧
  (Path.isAbsolute (below [name]).text, Path.components (below [name]).text) = (true, ["", name])

instance (name : String) : Decidable (IsEntryName name) :=
  inferInstanceAs (Decidable (_ ∧ _))

section Flat

variable (files : List (String × Content)) {name : String} {c : Content}

theorem IsEntryName.isPlain (hname : IsEntryName name) : IsPlain [name] := by
  obtain ⟨hplain, hshort, -, hnul, hlength, hcomponents⟩ := hname
  exact ⟨by simpa using ⟨hplain, hshort⟩, hnul, hlength, hcomponents⟩

theorem flat_linkFree : (flat files).tree.LinkFree := by
  refine FileTree.linkFree_of_entries fun entry hentry target => ?_
  obtain ⟨file, -, rfl⟩ := List.mem_map.mp hentry
  exact nofun

theorem flat_entry? (name : String) :
    (flat files).tree.entry? [name] = (files.lookup name).map Entry.file := by
  show (files.map fun file => ([file.1], Entry.file file.2)).lookup [name] = _
  induction files with
  | nil => rfl
  | cons file files ih =>
      have hsame : ([name] == [file.1]) = (name == file.1) := by simp
      rw [List.map_cons, List.lookup_cons, List.lookup_cons, ih, hsame]
      cases name == file.1 <;> rfl

/-- What a name leads to. -/
theorem flat_stat (hname : IsEntryName name) :
    (flat files).stat (below [name]) =
      ((files.lookup name).map fun c => Except.ok (.file c)).getD (.error .notFound) := by
  have hstat : (flat files).stat (below [name]) = (flat files).tree.look [name] :=
    stat_of_open (flat_linkFree files) hname.isPlain ⟨rfl, trivial⟩
  rw [hstat, FileTree.look, flat_entry?]
  cases files.lookup name <;> rfl

theorem flat_stat_file (hname : IsEntryName name) (h : files.lookup name = some c) :
    (flat files).stat (below [name]) = .ok (.file c) := by
  rw [flat_stat files hname, h]
  rfl

theorem IsEntryName.foldl_follow (hname : IsEntryName name) :
    (Path.components (below [name]).text).foldl FileTree.follow [] = [name] := by
  obtain ⟨hplain, -, -, -, -, hcomponents⟩ := hname
  obtain ⟨-, hnames⟩ := Prod.mk.inj hcomponents
  simp only [List.mem_cons, List.not_mem_nil, or_false, not_or] at hplain
  simp [hnames, FileTree.follow, hplain]

/-- A name in a manifest at the root leads to the file of this name. -/
theorem flat_resolve (hname : IsEntryName name) :
    (flat files).resolve ((below []).child name) = .ok (below [name]) := by
  have hfollow := hname.foldl_follow
  obtain ⟨-, -, hchild, hnul, -⟩ := hname
  rw [hchild]
  exact resolve_of_follow (flat_linkFree files) hnul (start_of_home rfl _) hfollow

/-- Writing a file at the root replaces the one of the same name. -/
theorem flat_write (hname : IsEntryName name) :
    (flat files).write (below [name]) (.file c) =
      flat ((name, c) :: files.filter fun file => file.1 ≠ name) := by
  have hlocation : ((flat files).settle (below [name]).text).names = [name] := by
    rw [settle, (flat_linkFree files).settle_eq, start_of_home rfl]
    exact hname.foldl_follow
  have habove : (flat files).tree.makeAbove [name] = (flat files).tree := rfl
  have hwrite : (flat files).write (below [name]) (.file c) =
      { flat files with tree := (flat files).tree.set [name] (.file c) } := by
    simp only [write, hlocation, FileTree.insert, habove]
  rw [hwrite]
  simp [FileTree.set, flat, List.filter_map, Function.comp_def]

end Flat
end Workspace
end BuildTransform
