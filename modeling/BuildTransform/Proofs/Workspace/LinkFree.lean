import BuildTransform.Proofs.Outcome
import BuildTransform.Workspace.Resolve

/-!
# Trees without links

Where there are no links, finding out what a path leads to is a matter of its text.

* `FileTree.LinkFree` says of a tree that no link stands in it. There `settle` follows one name
  after another, as `follow` does, and no walk meets too many links.
* `FileTree.Open` says that open directories stand on the way along some names. With nothing
  but those on its way, a walk along the names is a look at where they lead.
* `Workspace.IsPlain` says of names that they can be looked up as a path, and
  `Workspace.stat_of_open` what that path leads to.
* `Workspace.resolve_of_follow` says what a path resolves to.
-/

namespace BuildTransform

namespace FileTree

/-- No link stands anywhere in the tree. -/
def LinkFree (t : FileTree) : Prop :=
  ∀ loc target, t.entry? loc ≠ some (.link target)

/-- The location that a name leads to if it is no link: `..` leads to the directory above. -/
def follow (loc : Location) (name : String) : Location :=
  if name = "" ∨ name = "." then loc
  else if name = ".." then loc.dropLast
  else loc ++ [name]

/-- The name leads from a directory to an entry of it, and is not too long for that. -/
def IsStep (name : String) : Prop :=
  name ∉ ["", ".", ".."] ∧ byteLength name ≤ nameLimit

instance (name : String) : Decidable (IsStep name) :=
  inferInstanceAs (Decidable (_ ∧ _))

/-- Open directories stand at a location and on the way along some names, up to the last of
them. -/
def Open (t : FileTree) (loc : Location) : List String → Prop
  | [] => True
  | name :: rest => t.entry? loc = some .directory ∧ Open t (loc ++ [name]) rest

/-- What stands at a location, or that nothing does. -/
def look (t : FileTree) (loc : Location) : Except Fault Entry :=
  match t.entry? loc with
  | some e => .ok e
  | none => .error .notFound

section LinkFree

variable {t : FileTree} {loc : Location} {names : List String}

/-- A tree is free of links if no entry of it is one. -/
theorem linkFree_of_entries
    (h : ∀ entry, entry ∈ t.entries → ∀ target, entry.2 ≠ .link target) : t.LinkFree := by
  intro loc target hentry
  unfold entry? at hentry
  split at hentry
  · cases hentry
  · obtain ⟨before, after, hentries, -⟩ := List.lookup_eq_some_iff.mp hentry
    have hmem : (loc, Entry.link target) ∈ t.entries := by
      rw [hentries]
      simp
    exact h _ hmem target rfl

/-- Without links none is seen. -/
theorem LinkFree.linkAt?_eq (h : t.LinkFree) (loc : Location) : t.linkAt? loc = none := by
  unfold linkAt?
  split_ifs
  · rfl
  · split
    · exact absurd ‹_› (h loc _)
    · rfl

/-- **Without links** names are followed one after another, and nothing is looked up. -/
theorem LinkFree.settle_eq (h : t.LinkFree) (visiting : List Location) (budget : Nat)
    (loc : Location) (names : List String) :
    t.settle visiting budget loc names = .complete (names.foldl follow loc) := by
  induction names generalizing loc with
  | nil => rw [settle, List.foldl_nil]
  | cons name rest ih =>
      rw [settle, List.foldl_cons, follow]
      split_ifs
      · exact ih loc
      · exact ih loc.dropLast
      · simp only [h.linkAt?_eq, ih]

/-- Without links there are never too many of them. -/
theorem LinkFree.walk_ne (h : t.LinkFree) (links : Nat) (loc : Location) (names : List String) :
    t.walk true links loc names ≠ .error .tooManyLinks := by
  induction names generalizing loc with
  | nil => simp [walk]
  | cons name rest ih =>
      rw [walk]
      split
      · simp
      split
      · exact ih loc
      split
      · simp
      split
      · exact ih loc
      split
      · exact ih loc.dropLast
      split
      · simp
      rcases hentry : t.entry? (loc ++ [name]) with _ | (content | _ | _ | target)
      · simp [hentry]
      · simpa only [hentry] using ih (loc ++ [name])
      · simpa only [hentry] using ih (loc ++ [name])
      · simpa only [hentry] using ih (loc ++ [name])
      · exact absurd hentry (h _ target)

theorem isDirectory_of_entry (h : t.entry? loc = some .directory) : t.isDirectory loc = true := by
  simp [isDirectory, h]

theorem isClosed_of_entry (h : t.entry? loc = some .directory) : t.isClosed loc = false := by
  simp [isClosed, h]

/-- **Through open directories** names lead to what stands where they end. -/
theorem LinkFree.walk_look (h : t.LinkFree) (links : Nat) (hopen : t.Open loc names)
    (hnames : ∀ name, name ∈ names → IsStep name) :
    (t.walk true links loc names >>= t.look) = t.look (loc ++ names) := by
  induction names generalizing loc with
  | nil =>
      rw [walk, List.append_nil]
      rfl
  | cons name rest ih =>
      obtain ⟨hdirectory, hrest⟩ := hopen
      obtain ⟨hplain, hshort⟩ := hnames name List.mem_cons_self
      simp only [List.mem_cons, List.not_mem_nil, or_false, not_or] at hplain
      obtain ⟨hempty, hhere, hup⟩ := hplain
      have ih := ih hrest fun n hn => hnames n (List.mem_cons_of_mem _ hn)
      rw [List.append_assoc, List.singleton_append] at ih
      rw [walk, isDirectory_of_entry hdirectory, Bool.not_true, if_neg Bool.false_ne_true,
        if_neg hempty, isClosed_of_entry hdirectory, if_neg Bool.false_ne_true, if_neg hhere,
        if_neg hup, if_neg (Nat.not_lt.mpr hshort)]
      rcases hentry : t.entry? (loc ++ [name]) with _ | (content | _ | _ | target)
      · -- nothing stands there, so this is the end of the names
        cases rest with
        | nil =>
            simp only [look, hentry]
            rfl
        | cons next rest =>
            have hnext : t.entry? (loc ++ [name]) = some .directory := hrest.1
            rw [hentry] at hnext
            cases hnext
      · simpa only [hentry] using ih
      · simpa only [hentry] using ih
      · simpa only [hentry] using ih
      · exact absurd hentry (h _ target)

end LinkFree

end FileTree

namespace Workspace

/-- The names are those of a path that can be looked up: they name entries, and the text of
their path has them as its components. -/
def IsPlain (names : List String) : Prop :=
  (∀ name, name ∈ names → FileTree.IsStep name) ∧
  (pathAt names).text.toList.contains '\x00' = false ∧
  byteLength (pathAt names).text < pathLimit ∧
  (Path.isAbsolute (pathAt names).text, Path.components (pathAt names).text) = (true, "" :: names)

instance (names : List String) : Decidable (IsPlain names) :=
  inferInstanceAs (Decidable (_ ∧ _))

section Plain

variable {w : Workspace} {p : Path} {names : List String}

/-- **What a plain path leads to** through directories is what stands there. -/
theorem stat_of_open (h : w.tree.LinkFree) (hplain : IsPlain names) (hopen : w.tree.Open [] names) :
    w.stat (pathAt names) = w.tree.look names := by
  obtain ⟨hnames, hnul, hlength, hcomponents⟩ := hplain
  obtain ⟨hroot, hcomponents⟩ := Prod.mk.inj hcomponents
  have hwalk : w.tree.walk true linkLimit [] ("" :: names) =
      w.tree.walk true linkLimit [] names := by
    have hdirectory : w.tree.isDirectory [] = true := rfl
    rw [FileTree.walk, hdirectory, Bool.not_true, if_neg Bool.false_ne_true, if_pos rfl]
  have hlocate : w.locate (pathAt names) = w.tree.walk true linkLimit [] names := by
    simp only [locate, hnul, hcomponents, start, hroot, if_true, hwalk]
    exact (if_neg Bool.false_ne_true).trans (if_neg (Nat.not_le.mpr hlength))
  calc w.stat (pathAt names)
    _ = (w.tree.walk true linkLimit [] names >>= w.tree.look) :=
        congrArg (· >>= w.tree.look) hlocate
    _ = w.tree.look names := h.walk_look linkLimit hopen hnames

/-- Without links nothing is looked up too often. -/
theorem stat_ne_of_linkFree (h : w.tree.LinkFree) : w.stat p ≠ .error .tooManyLinks := by
  intro hstat
  rcases Outcome.chain_eq_error_iff.mp hstat with hlocate | ⟨loc, -, hentry⟩
  · unfold locate at hlocate
    dsimp only at hlocate
    split_ifs at hlocate
    · cases hlocate
    · cases hlocate
    · exact h.walk_ne _ _ _ hlocate
  · split at hentry <;> cases hentry

/-- At the root as the working directory every text starts there. -/
theorem start_of_home (h : w.home = []) (s : String) : w.start s = [] := by
  rw [start, h, ite_self]

/-- **What a path resolves to** without links is where its components lead. -/
theorem resolve_of_follow {origin loc : Location} (h : w.tree.LinkFree)
    (hnul : p.text.toList.contains '\x00' = false) (horigin : w.start p.text = origin)
    (hloc : (Path.components p.text).foldl FileTree.follow origin = loc) :
    w.resolve p = .ok (pathAt loc) := by
  have hsettled : settledPath (w.settle p.text) = pathAt loc := by
    rw [settle, horigin, h.settle_eq, hloc]
    rfl
  simp only [resolve, hnul, hsettled]
  rw [if_neg Bool.false_ne_true]
  split
  · next hloop => exact absurd hloop (stat_ne_of_linkFree h)
  · rfl

end Plain

end Workspace

end BuildTransform
