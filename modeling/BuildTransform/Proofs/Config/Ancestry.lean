import BuildTransform.Proofs.Config.Escapes

/-!
# The manifest above a file

Which manifest is found for a file, and which directories are searched for it.

* `Path.Ascends` leads from a directory up to the one that holds itself.
* `Manifest.Nearest` says which of some directories is the first one with a manifest, and which
  of its manifests counts.
* `Manifest.search_cases` follows the search through the directories.
* `Manifest.locate_eq_nearest` concludes: the nearest manifest alone decides.
-/

namespace BuildTransform

/-! ## Directories above a file -/

namespace Path

/-- The directories from one up to the root: each of them is followed by the directory that
holds it, and the last one holds itself. -/
inductive Ascends : Path → List Path → Prop
  | top {d : Path}
      (h : d.parent = d) :
      Ascends d [d]
  | up {d : Path} {ds : List Path}
      (h : d.parent ≠ d)
      (hrest : Ascends d.parent ds) :
      Ascends d (d :: ds)

section Ancestry

variable {p d : Path} {ds ds' : List Path}

theorem parent_eq_self_iff : p.parent = p ↔ p.names = [] := by
  obtain ⟨root, names⟩ := p
  simp only [parent, mk.injEq, true_and]
  constructor
  · intro h
    have hlength := congrArg List.length h
    rw [List.length_dropLast] at hlength
    exact List.eq_nil_of_length_eq_zero (by omega)
  · rintro rfl
    rfl

/-- Only one list of directories leads up from a directory. -/
theorem Ascends.unique (h : Ascends d ds) (h' : Ascends d ds') : ds = ds' := by
  induction h generalizing ds' with
  | top htop =>
      cases h' with
      | top => rfl
      | up hup => exact absurd htop hup
  | up hup _ ih =>
      cases h' with
      | top htop => exact absurd htop hup
      | up _ hrest => rw [ih hrest]

theorem ancestry_of_top (h : p.names = []) : p.ancestry = [p] := by
  obtain ⟨root, names⟩ := p
  cases h
  rfl

theorem ancestry_of_up (h : p.names ≠ []) : p.ancestry = p :: p.parent.ancestry := by
  obtain ⟨root, names⟩ := p
  have hlength : names.length = (names.length - 1) + 1 := by
    have : 0 < names.length := List.length_pos_iff.mpr h
    omega
  simp only [ancestry, parent, List.length_dropLast]
  rw [List.range_succ_eq_map, List.map_cons, List.map_map, ← hlength]
  refine congrArg₂ List.cons (by simp) (List.map_congr_left fun n _ => ?_)
  simp only [Function.comp, List.dropLast_eq_take, List.take_take, mk.injEq, true_and]
  congr 1
  omega

/-- **All directories above a path** are those that lead up to the root. -/
theorem ascends_ancestry (p : Path) : Ascends p p.ancestry := by
  obtain ⟨k, hk⟩ : ∃ k, p.names.length = k := ⟨_, rfl⟩
  induction k generalizing p with
  | zero =>
      have hnil : p.names = [] := List.eq_nil_of_length_eq_zero hk
      rw [ancestry_of_top hnil]
      exact .top (parent_eq_self_iff.mpr hnil)
  | succ k ih =>
      have hnames : p.names ≠ [] := List.length_pos_iff.mp (by omega)
      rw [ancestry_of_up hnames]
      refine .up (mt parent_eq_self_iff.mp hnames) (ih p.parent ?_)
      rw [parent, List.length_dropLast, hk]
      rfl

/-- On the way up the names become fewer. -/
theorem Ascends.length_le (h : Ascends d ds) : ∀ e, e ∈ ds → e.names.length ≤ d.names.length := by
  induction h with
  | top => simp
  | @up d ds _ _ ih =>
      intro e he
      rcases List.mem_cons.mp he with rfl | he
      · exact Nat.le_refl _
      · refine (ih e he).trans ?_
        rw [parent, List.length_dropLast]
        exact Nat.sub_le _ _

/-- No directory is met twice on the way up. -/
theorem Ascends.nodup (h : Ascends d ds) : ds.Nodup := by
  induction h with
  | top => simp
  | @up d ds hup hrest ih =>
      refine List.nodup_cons.mpr ⟨fun hmem => ?_, ih⟩
      have hle := hrest.length_le d hmem
      have hpos := List.length_pos_iff.mpr (mt parent_eq_self_iff.mpr hup)
      rw [parent, List.length_dropLast] at hle
      omega

/-- The way up ends at the root. -/
theorem Ascends.getLast?_eq (h : Ascends d ds) : ds.getLast? = some ⟨d.root, []⟩ := by
  induction h with
  | @top d htop =>
      obtain ⟨root, names⟩ := d
      rw [parent_eq_self_iff] at htop
      cases htop
      rfl
  | @up d ds _ hrest ih =>
      rw [List.getLast?_cons, ih]
      rfl

end Ancestry

end Path

/-! ## Files among candidates -/

namespace Workspace

/-- The path leads to a file, not to a directory and not into nothing. -/
def LeadsToFile (w : Workspace) (p : Path) : Prop :=
  ∃ c, w.stat p = .ok (.file c)

section Tests

variable {w : Workspace} {p : Path}

theorem isFile?_of_leadsToFile (h : w.LeadsToFile p) : w.isFile? p = .ok true :=
  isFile?_eq_true_iff.mpr h

/-- A path that leads to no file is skipped, unless it cannot be looked at. -/
theorem isFile?_of_not_leadsToFile (hopen : ¬ w.Bars p)
    (h : ¬ w.LeadsToFile p) : w.isFile? p = .ok false := by
  cases hfile : w.isFile? p with
  | error f =>
      obtain ⟨rfl | rfl, hstat⟩ := test_eq_error_iff.mp hfile
      · exact absurd (Or.inl hstat) hopen
      · exact absurd (Or.inr hstat) hopen
  | ok isFile =>
      cases isFile with
      | true => exact absurd (isFile?_eq_true_iff.mp hfile) h
      | false => rfl

/-- What a path resolves to starts at the root. -/
theorem root_of_resolve {q : Path} (h : w.resolve q = .ok p) : p.root = .single := by
  have hsettled (s : Settled) : (settledPath s).root = .single := by
    cases s <;> rfl
  simp only [resolve] at h
  split_ifs at h
  split at h
  · cases h
  · cases h
    exact hsettled _

end Tests

end Workspace

namespace Manifest

/-- The first of some directories that has a manifest, with the directories searched up to
it, and the first of its manifests in the order of the names. -/
structure Nearest (w : Workspace) (names : List String) (dirs searched : List Path)
    (p : Path) : Prop where
  found : w.LeadsToFile p
  first : ∃ before dir after earlier name later,
    dirs = before ++ dir :: after ∧ searched = before ++ [dir] ∧
    names = earlier ++ name :: later ∧ p = dir.child name ∧
    (∀ d, d ∈ before → ∀ n, n ∈ names → ¬ w.LeadsToFile (d.child n)) ∧
    ∀ n, n ∈ earlier → ¬ w.LeadsToFile (dir.child n)

/-- None of the directories has a manifest. -/
def NoneIn (w : Workspace) (names : List String) (dirs : List Path) : Prop :=
  ∀ dir, dir ∈ dirs → ∀ name, name ∈ names → ¬ w.LeadsToFile (dir.child name)

/-- What the manifest at a path is if the file there has the content. -/
def ofContent [Platform] (p : Path) : Content → Except Failure Manifest
  | .text s => parse p (Lines.normalize s)
  | .undecodable => .error .undecodable
  | .unreadable error => .error (.config ⟨.unreadableManifest (.unreadable error), some p⟩)

section Search

variable {w : Workspace} {names : List String} {dir p q : Path} {dirs searched : List Path}

/-- Reading a manifest depends on its path and on the content there. -/
theorem read_of_stat [Platform] {c : Content} (h : w.stat p = .ok (.file c)) :
    read w p = ofContent p c := by
  rw [read, Workspace.read_of_stat h]
  cases c <;> rfl

/-- In one directory the first name that leads to a file is taken. -/
theorem firstFile_cases
    (hopen : ∀ name, name ∈ names → ¬ w.Bars (dir.child name)) :
    (∃ earlier name later, names = earlier ++ name :: later ∧
      firstFile w dir names = .ok (some (dir.child name)) ∧ w.LeadsToFile (dir.child name) ∧
      ∀ n, n ∈ earlier → ¬ w.LeadsToFile (dir.child n)) ∨
    (firstFile w dir names = .ok none ∧
      ∀ name, name ∈ names → ¬ w.LeadsToFile (dir.child name)) := by
  induction names with
  | nil => exact Or.inr ⟨rfl, by simp⟩
  | cons name names ih =>
      by_cases hfile : w.LeadsToFile (dir.child name)
      · refine Or.inl ⟨[], name, names, rfl, ?_, hfile, by simp⟩
        simp [firstFile, Workspace.isFile?_of_leadsToFile hfile, bind, Except.bind]
      · have hskip : firstFile w dir (name :: names) = firstFile w dir names := by
          have habsent :=
            Workspace.isFile?_of_not_leadsToFile (hopen name List.mem_cons_self) hfile
          simp [firstFile, habsent, bind, Except.bind]
        rw [hskip]
        rcases ih fun n hn => hopen n (List.mem_cons_of_mem _ hn) with
          ⟨earlier, n, later, rfl, hfirst, hn, hearlier⟩ | ⟨hnone, hall⟩
        · exact Or.inl ⟨name :: earlier, n, later, rfl, hfirst, hn,
            List.forall_mem_cons.mpr ⟨hfile, hearlier⟩⟩
        · exact Or.inr ⟨hnone, List.forall_mem_cons.mpr ⟨hfile, hall⟩⟩

/-- Searching one more directory in vain. -/
theorem Nearest.cons (h : Nearest w names dirs searched q)
    (hdir : ∀ n, n ∈ names → ¬ w.LeadsToFile (dir.child n)) :
    Nearest w names (dir :: dirs) (dir :: searched) q := by
  obtain ⟨hfound, before, d, after, earlier, name, later, rfl, rfl, hnames, rfl, hbefore,
    hearlier⟩ := h
  exact ⟨hfound, dir :: before, d, after, earlier, name, later, rfl, rfl, hnames, rfl,
    List.forall_mem_cons.mpr ⟨hdir, hbefore⟩, hearlier⟩

/-- **The search ends at the nearest manifest**, or it has searched all directories. -/
theorem search_cases
    (hopen : ∀ dir, dir ∈ dirs → ∀ name, name ∈ names → ¬ w.Bars (dir.child name)) :
    (∃ searched p, Nearest w names dirs searched p ∧
      search w names dirs = .ok (searched, some p)) ∨
    (NoneIn w names dirs ∧ search w names dirs = .ok (dirs, none)) := by
  induction dirs with
  | nil => exact Or.inr ⟨by simp [NoneIn], rfl⟩
  | cons dir dirs ih =>
      rcases firstFile_cases (hopen dir List.mem_cons_self) with
        ⟨earlier, name, later, hnames, hfirst, hfile, hearlier⟩ | ⟨hfirst, hdir⟩
      · refine Or.inl ⟨[dir], dir.child name, ⟨hfile, [], dir, dirs, earlier, name, later, rfl,
          rfl, hnames, rfl, by simp, hearlier⟩, ?_⟩
        rw [search, hfirst]
        rfl
      · rcases ih fun d hd => hopen d (List.mem_cons_of_mem _ hd) with
          ⟨searched, p, hnearest, hsearch⟩ | ⟨hnone, hsearch⟩
        · refine Or.inl ⟨dir :: searched, p, hnearest.cons hdir, ?_⟩
          rw [search, hfirst, hsearch]
          rfl
        · refine Or.inr ⟨List.forall_mem_cons.mpr ⟨hdir, hnone⟩, ?_⟩
          rw [search, hfirst, hsearch]
          rfl

/-- **The nearest manifest above a file decides the lookup**: it is read, and nothing else is.
If there is none, that is an outcome of its own, with all directories up to the root. -/
theorem locate_eq_nearest [Platform] {start : String}
    (hresolve : w.resolve (Path.ofText start) = .ok p) (hnames : names ≠ [])
    (hopen : ∀ dir, dir ∈ p.parent.ancestry → ∀ name, name ∈ names →
      ¬ w.Bars (dir.child name)) :
    (p.parent.Ascends p.parent.ancestry ∧ p.parent.ancestry.Nodup ∧
      p.parent.ancestry.getLast? = some (Workspace.pathAt [])) ∧
    ((∃ searched q c, Nearest w names p.parent.ancestry searched q ∧
        w.stat q = .ok (.file c) ∧
        (locate w start names).outcome = (ofContent q c).map fun m => .found m searched) ∨
      (NoneIn w names p.parent.ancestry ∧
        (locate w start names).outcome = .ok
          (.missing (missingMessage names start) (some .manifestNotFound)
            p.parent.ancestry))) := by
  have hup := Path.ascends_ancestry p.parent
  have hroot := hup.getLast?_eq
  rw [show p.parent.root = .single from Workspace.root_of_resolve (p := p) hresolve] at hroot
  have hgiven : (Manifest.names w names).outcome = .ok names := by
    have hsome : names.isEmpty = false := by simpa using hnames
    rw [Manifest.names, hsome]
    rfl
  have hlocate := Loader.locate_outcome hgiven hresolve
  refine ⟨⟨hup, hup.nodup, hroot⟩, ?_⟩
  rcases search_cases hopen with ⟨searched, q, hnearest, hsearch⟩ | ⟨hnone, hsearch⟩
  · obtain ⟨c, hc⟩ := hnearest.found
    refine Or.inl ⟨searched, q, c, hnearest, hc, ?_⟩
    rw [hlocate, hsearch, ← read_of_stat hc]
  · refine Or.inr ⟨hnone, ?_⟩
    rw [hlocate, hsearch]

end Search

/-! ### A workspace with two manifests -/

section TwoManifests

/-- A workspace with a manifest at the root and one below, which is no object; a directory
beside the latter has the name of a manifest too. -/
def twoManifests : Workspace :=
  ⟨⟨[(["package.json"], .file (.text "\x7b\x7d")), (["d"], .directory),
    (["d", "pyproject.toml"], .directory), (["d", "package.json"], .file (.text "[]"))]⟩,
    [], none⟩

/-- A path below the root. -/
def below (names : List String) : Path :=
  ⟨.single, names⟩

theorem twoManifests_linkFree : twoManifests.tree.LinkFree :=
  FileTree.linkFree_of_entries (by simp [twoManifests])

theorem twoManifests_stats :
    twoManifests.stat (below ["d", "pyproject.toml"]) = .ok .directory ∧
    twoManifests.stat (below ["d", "package.json"]) = .ok (.file (.text "[]")) ∧
    twoManifests.stat (below ["pyproject.toml"]) = .error .notFound ∧
    twoManifests.stat (below ["package.json"]) = .ok (.file (.text "\x7b\x7d")) := by
  have hstat {names : List String} (hplain : Workspace.IsPlain names)
      (hopen : twoManifests.tree.Open [] names) :
      twoManifests.stat (below names) = twoManifests.tree.look names :=
    Workspace.stat_of_open twoManifests_linkFree hplain hopen
  exact ⟨hstat (by decide) ⟨rfl, rfl, trivial⟩,
    hstat (by decide) ⟨rfl, rfl, trivial⟩,
    hstat (by decide) ⟨rfl, trivial⟩, hstat (by decide) ⟨rfl, trivial⟩⟩

theorem twoManifests_resolve :
    twoManifests.resolve (Path.ofText "d/x.js") = .ok (below ["d", "x.js"]) :=
  Workspace.resolve_of_follow twoManifests_linkFree (by decide)
    (Workspace.start_of_home rfl _) (by decide)

/-- The manifest at the root is not read in place of the malformed one below it. -/
theorem lower_manifest_decides :
    let names := ["pyproject.toml", "package.json"]
    let p := below ["d", "x.js"]
    twoManifests.resolve (Path.ofText "d/x.js") = .ok p ∧ names ≠ [] ∧
    (∀ dir, dir ∈ p.parent.ancestry → ∀ name, name ∈ names →
      ¬ twoManifests.Bars (dir.child name)) ∧
    (locate twoManifests "d/x.js" names).outcome =
      .error (.config ⟨.manifestNotObject "list", some (below ["d", "package.json"])⟩) := by
  intro names p
  obtain ⟨htoml, hjson, htomlAbove, hjsonAbove⟩ := twoManifests_stats
  have hdirs : p.parent.ancestry = [below ["d"], below []] := rfl
  have hchildren : (below ["d"]).child "pyproject.toml" = below ["d", "pyproject.toml"] ∧
      (below ["d"]).child "package.json" = below ["d", "package.json"] ∧
      (below []).child "pyproject.toml" = below ["pyproject.toml"] ∧
      (below []).child "package.json" = below ["package.json"] := by
    decide
  obtain ⟨htomlPath, hjsonPath, htomlAbovePath, hjsonAbovePath⟩ := hchildren
  have hlower : twoManifests.LeadsToFile ((below ["d"]).child "package.json") :=
    ⟨_, hjsonPath ▸ hjson⟩
  have hopen : ∀ dir, dir ∈ p.parent.ancestry → ∀ name, name ∈ names →
      ¬ twoManifests.Bars (dir.child name) := by
    rw [hdirs]
    simp [names, Workspace.Bars, htomlPath, hjsonPath, htomlAbovePath, hjsonAbovePath, htoml,
      hjson, htomlAbove, hjsonAbove]
  refine ⟨twoManifests_resolve, by decide, hopen, ?_⟩
  rcases (locate_eq_nearest twoManifests_resolve (by decide) hopen).2 with
    ⟨searched, q, c, ⟨-, before, dir, after, earlier, name, later, hbefore, -, hnames, rfl,
      hskip, -⟩, hc, hlocate⟩ | ⟨hnone, -⟩
  · rw [hdirs] at hbefore
    cases before with
    | cons d before =>
        obtain ⟨rfl, -⟩ := List.cons.inj hbefore
        exact absurd hlower (hskip _ List.mem_cons_self "package.json" (by simp [names]))
    | nil =>
        obtain ⟨rfl, -⟩ := List.cons.inj hbefore
        rcases earlier with _ | ⟨first, _ | ⟨second, earlier⟩⟩
        · obtain ⟨rfl, -⟩ := List.cons.inj hnames
          rw [htomlPath, htoml] at hc
          cases hc
        · obtain ⟨-, hnames⟩ := List.cons.inj hnames
          obtain ⟨rfl, -⟩ := List.cons.inj hnames
          rw [hjsonPath] at hc hlocate
          rw [hjson] at hc
          cases hc
          exact hlocate
        · simp [names] at hnames
  · have hmem : below ["d"] ∈ p.parent.ancestry := hdirs ▸ List.mem_cons_self
    exact absurd hlower (hnone (below ["d"]) hmem "package.json" (by simp [names]))

end TwoManifests

end Manifest
end BuildTransform
