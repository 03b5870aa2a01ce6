import BuildTransform.Proofs.Config.Delivery
import BuildTransform.Proofs.Path.Names

/-!
# The file that a text in a manifest names

In a tree without links a text in a manifest names the file that the joined path names.

* `FileTree.foldl_follow` compares following names with pushing components on a stack.
* `Workspace.resolve_of_linkFree` says what an absolute path resolves to.
* `ConfigData.resolve_child_eq_join` concludes: the file that a text in a manifest names is the
  joined path of the directory and the text.
-/

namespace BuildTransform

/-! ## Following names -/

namespace FileTree

section Follow

open BuildTransform.Joined (push up here)

variable {loc : Location} {name : String}

theorem toList_eq_up_iff : name.toList = up ↔ name = ".." := by
  have hup : "..".toList = up := by decide
  rw [← hup, String.toList_inj]

theorem toList_eq_here_iff : name.toList = here ↔ name = "." := by
  have hhere : ".".toList = here := by decide
  rw [← hhere, String.toList_inj]

/-- Nothing that was followed leads up. -/
theorem not_mem_follow (hloc : ".." ∉ loc) : ".." ∉ follow loc name := by
  unfold follow
  split_ifs with _ hup
  · exact hloc
  · exact fun h => hloc (List.mem_of_mem_dropLast h)
  · simpa [hloc] using Ne.symm hup

/-- Following a name is pushing a component on the stack of those above. -/
theorem push_eq_follow (hloc : ".." ∉ loc) :
    push true (loc.map String.toList).reverse name.toList =
      ((follow loc name).map String.toList).reverse := by
  unfold follow
  split_ifs with hskip hup
  · rcases hskip with rfl | rfl
    · exact Joined.push_nil true _
    · exact Joined.push_here true _
  · subst hup
    rcases List.eq_nil_or_concat' loc with rfl | ⟨front, last, rfl⟩
    · rfl
    · have hlast : last.toList ≠ up := by
        rw [Ne, toList_eq_up_iff]
        rintro rfl
        simp at hloc
      rw [List.dropLast_concat, List.map_append, List.reverse_append]
      exact Joined.push_up_cons hlast
  · obtain ⟨hempty, hhere⟩ := not_or.mp hskip
    rw [Joined.push_name (by simpa using hempty) (mt toList_eq_here_iff.mp hhere)
      (mt toList_eq_up_iff.mp hup)]
    simp

/-- **Following names** is pushing their components. -/
theorem foldl_follow (hloc : ".." ∉ loc) (names : List String) :
    (names.map String.toList).foldl (push true) (loc.map String.toList).reverse =
      ((names.foldl follow loc).map String.toList).reverse := by
  induction names generalizing loc with
  | nil => rfl
  | cons name rest ih =>
      rw [List.map_cons, List.foldl_cons, push_eq_follow hloc, ih (not_mem_follow hloc),
        List.foldl_cons]

end Follow

end FileTree

/-! ## Resolving without links -/

namespace Workspace

variable {w : Workspace} {p : Path}

theorem map_toList_components (s : String) :
    (Path.components s).map String.toList = Text.pieces Joined.isSlash s.toList := by
  simp [Path.components, Function.comp_def]

/-- **Without links** an absolute path resolves to what is left of its components, unless it
cannot be a path at all. -/
theorem resolve_of_linkFree (h : w.tree.LinkFree) (hroot : Path.isAbsolute p.text = true) :
    w.resolve p = if '\x00' ∈ p.text.toList then .error .nulInName
      else .ok (pathAt ((Joined.walk true [] p.text.toList).reverse.map String.ofList)) := by
  have hfollowed : (Joined.walk true [] p.text.toList).reverse.map String.ofList =
      (Path.components p.text).foldl FileTree.follow [] := by
    have hwalk : Joined.walk true [] p.text.toList =
        (((Path.components p.text).foldl FileTree.follow []).map String.toList).reverse := by
      rw [Joined.walk, ← map_toList_components]
      exact FileTree.foldl_follow List.not_mem_nil _
    rw [hwalk, List.reverse_reverse, List.map_map]
    simp [Function.comp_def]
  split_ifs with hnul
  · rw [resolve, if_pos (List.contains_iff_mem.mpr hnul)]
  · have hclear : p.text.toList.contains '\x00' = false := by simpa using hnul
    exact resolve_of_follow h hclear (if_pos hroot) hfollowed.symm

end Workspace

namespace ConfigData

open BuildTransform.Joined (join trimmed)

variable {w : Workspace} {D s : String}

/-- The joined path of both texts, without a slash at its end, is the text of the path that
they lead to one after the other. -/
theorem ofText_trimmed_join (hD : Path.isAbsolute D = true) :
    let names := (Joined.walk true (Joined.walk true [] D.toList) s.toList).reverse
    Path.ofText (trimmed (join [D, s])) = Workspace.pathAt (names.map String.ofList) ∧
      (Workspace.pathAt (names.map String.ofList)).text = trimmed (join [D, s]) := by
  intro names
  have htext : Joined.textOf ([D, s].map String.toList) = Joined.linked D.toList s.toList := by
    rw [List.map_cons, Joined.textOf_cons, List.map_singleton, Joined.textOf_singleton]
  have hwalk : Joined.reduce true (Text.pieces Joined.isSlash (Joined.linked D.toList s.toList)) =
      names :=
    congrArg List.reverse Joined.walk_linked
  have hjoin : (trimmed (join [D, s])).toList = '/' :: Text.joined ['/'] names := by
    have hne : D.toList ≠ [] := by
      intro h
      rw [Path.isAbsolute, h] at hD
      cases hD
    rw [Joined.toList_trimmed_join (by rwa [htext, Joined.startsAtRoot_linked hne]), htext,
      Joined.walk_linked]
  have hleft : ∀ c, c ∈ names →
      c ∈ Text.pieces Joined.isSlash (Joined.linked D.toList s.toList) ∧
        c ≠ [] ∧ c ≠ Joined.here := by
    rw [← hwalk]
    exact fun c hc => Joined.mem_reduce hc
  constructor
  · exact Path.ofText_of_names (fun h => (hleft _ h).2.2 rfl)
      (fun c hc => ⟨(hleft c hc).2.1, Text.not_of_mem_pieces (hleft c hc).1⟩) hjoin
  · refine String.toList_injective ?_
    rw [Path.toList_text (by simp [Workspace.pathAt]), hjoin]
    simp [Workspace.pathAt, Path.rootText, Function.comp_def]

/-- **The file that a text in a manifest names** is the joined path of the directory and the
text, without a slash at its end. -/
theorem resolve_child_eq_join [Platform] (hlinks : w.tree.LinkFree) (hD : Path.isAbsolute D = true)
    (hs : Path.isAbsolute s = false) :
    let target := trimmed (join [D, s])
    let file := Path.ofText target
    file.text = target ∧
      w.resolve ((Path.ofText D).child s) =
        (if '\x00' ∈ D.toList ∨ '\x00' ∈ s.toList then .error .nulInName else .ok file) ∧
      ('\x00' ∉ D.toList → '\x00' ∉ s.toList →
        resolve w (Path.ofText D) (.str s) = (do
          let v ← ConfigFile.load w file
          Report.notice (.loadedFrom file)
          pure ⟨v, some file.parent, some file⟩)) := by
  intro target file
  obtain ⟨hfile, htext⟩ := ofText_trimmed_join (s := s) hD
  have hresolve : w.resolve ((Path.ofText D).child s) =
      if '\x00' ∈ D.toList ∨ '\x00' ∈ s.toList then .error .nulInName else .ok file := by
    have hroot := Path.isAbsolute_text (Path.root_child_ne hD hs)
    simp only [Workspace.resolve_of_linkFree hlinks hroot, Path.walk_text_child hD hs,
      Path.mem_text_child_iff hD hs (by decide : '\x00' ≠ '/') (by decide : '\x00' ≠ '.'),
      ← hfile, file, target]
  refine ⟨(congrArg Path.text hfile).trans htext, hresolve, fun hnulD hnul => ?_⟩
  rw [if_neg (not_or.mpr ⟨hnulD, hnul⟩)] at hresolve
  simp only [resolve, hresolve]

/-- A text names the file beside the directory of its manifest by way of a directory that is not
there and with a slash at the end. -/
theorem file_beside_directory_resolved :
    let w : Workspace := ⟨⟨[(["r"], .directory), (["r", "app"], .directory),
      (["r", "cfg.json"], .file (.text "\x7b\x7d"))]⟩, ["r"], none⟩
    let file : Path := ⟨.single, ["r", "cfg.json"]⟩
    w.tree.LinkFree ∧ join ["/r/app", "..//x/./../cfg.json/"] = "/r/cfg.json/" ∧
      w.resolve ((Path.ofText "/r/app").child "..//x/./../cfg.json/") = .ok file ∧
      resolve w (Path.ofText "/r/app") (.str "..//x/./../cfg.json/") = (do
        let v ← ConfigFile.load w file
        Report.notice (.loadedFrom file)
        pure ⟨v, some file.parent, some file⟩) := by
  intro w file
  have hlinks : w.tree.LinkFree := by
    refine FileTree.linkFree_of_entries fun entry hentry target => ?_
    simp only [w, List.mem_cons, List.not_mem_nil, or_false] at hentry
    rcases hentry with rfl | rfl | rfl <;> simp
  have hD : Path.isAbsolute "/r/app" = true := by decide
  have hs : Path.isAbsolute "..//x/./../cfg.json/" = false := by decide
  have hfile : Path.ofText (trimmed (join ["/r/app", "..//x/./../cfg.json/"])) = file := by
    decide
  obtain ⟨-, hresolve, hload⟩ := resolve_child_eq_join hlinks hD hs
  rw [hfile] at hresolve hload
  exact ⟨hlinks, by decide, hresolve.trans (if_neg (by decide)),
    hload (by decide) (by decide)⟩

end ConfigData

end BuildTransform
