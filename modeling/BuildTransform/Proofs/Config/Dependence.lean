import BuildTransform.Proofs.Config.Flat
import BuildTransform.Proofs.Config.History
import BuildTransform.Proofs.Script.Running

/-!
# What configuration depends on

Two runs of loading, in workspaces that agree where the first run looks.

* `Workspace.Reaches` says which of some paths are tested before the first file is found, and
  `Workspace.SameFile` that two workspaces have the same at a path.
* The runs may be on two platforms that read documents alike. `ConfigFile.RunsAlike` is what is
  asked of a module: it ends the same in both, unless its text settles how it ends.
* Every operation has a `_congr` lemma: it gives the same in both workspaces if they agree on
  what it looks at.
* `Loader.Agree` collects, for a loader and a file, everything that loading looks at.
* `Session.load_eq_of_agree` concludes: nothing else has a part in what a load reports, and a
  nearest manifest without a value for the loader is the end of the search.
* `Session.sibling_changes_load` shows why modules need more: one that reads the file beside it.
-/

namespace BuildTransform

/-- A report goes on alike if it does with the result that there is. -/
theorem Report.bind_congr {α β : Type} {r : Report α} {next next' : α → Report β}
    (h : ∀ a, r.outcome = .ok a → next a = next' a) : (r >>= next) = (r >>= next') := by
  show r.andThen next = r.andThen next'
  unfold Report.andThen
  cases hr : r.outcome with
  | error f => rfl
  | ok a => simp only [h a hr]

namespace Workspace

/-! ## Tests up to the first file -/

/-- A path among some at which nothing has been found before. -/
def Reaches (w : Workspace) (paths : List Path) (p : Path) : Prop :=
  ∃ before after, paths = before ++ p :: after ∧ ∀ q, q ∈ before → w.isFile? q = .ok false

/-- The tests for a file agree on the paths that the first workspace reaches. -/
def SameTests (w w' : Workspace) (paths : List Path) : Prop :=
  ∀ p, w.Reaches paths p → w.isFile? p = w'.isFile? p

section Tests

variable {w w' : Workspace} {p q : Path} {paths more : List Path} {told : Except Fault Bool}

/-- What settles some paths is reached. -/
theorem Settles.reaches (h : w.Settles paths p told) : w.Reaches paths p := by
  obtain ⟨-, before, after, hpaths, hbefore, -⟩ := h
  exact ⟨before, after, hpaths, hbefore⟩

theorem reaches_head : w.Reaches (q :: paths) q :=
  ⟨[], paths, rfl, by simp⟩

theorem Reaches.append (h : w.Reaches paths p) : w.Reaches (paths ++ more) p := by
  obtain ⟨before, after, rfl, hbefore⟩ := h
  exact ⟨before, after ++ more, by simp, hbefore⟩

/-- Behind paths that are absent the search goes on. -/
theorem Reaches.behind (habsent : ∀ q, q ∈ paths → w.isFile? q = .ok false)
    (h : w.Reaches more p) : w.Reaches (paths ++ more) p := by
  obtain ⟨before, after, rfl, hbefore⟩ := h
  refine ⟨paths ++ before, after, by simp, fun q hq => ?_⟩
  rcases List.mem_append.mp hq with hq | hq
  · exact habsent q hq
  · exact hbefore q hq

theorem SameTests.tail (h : SameTests w w' (q :: paths)) (hq : w.isFile? q = .ok false) :
    SameTests w w' paths := by
  have habsent : ∀ x, x ∈ [q] → w.isFile? x = .ok false := by simpa using hq
  exact fun p hp => h p (Reaches.behind habsent hp)

theorem SameTests.of_append (h : SameTests w w' (paths ++ more)) : SameTests w w' paths :=
  fun p hp => h p hp.append

theorem SameTests.behind (h : SameTests w w' (paths ++ more))
    (habsent : ∀ q, q ∈ paths → w.isFile? q = .ok false) : SameTests w w' more :=
  fun p hp => h p (hp.behind habsent)

/-- The first file is found by the tests up to it. -/
theorem fileAmong_congr (h : SameTests w w' paths) : w.fileAmong paths = w'.fileAmong paths := by
  induction paths with
  | nil => rfl
  | cons q paths ih =>
      have htest : w.isFile? q = w'.isFile? q := h q reaches_head
      cases hq : w.isFile? q with
      | error f => rw [fileAmong_of_error hq, fileAmong_of_error (htest ▸ hq)]
      | ok isFile =>
          cases isFile with
          | true => rw [fileAmong_of_file hq, fileAmong_of_file (htest ▸ hq)]
          | false =>
              rw [fileAmong_of_absent hq, fileAmong_of_absent (htest ▸ hq), ih (h.tail hq)]

end Tests

/-! ## One file -/

/-- The workspaces do not differ in whether anything is at a path, in whether it is a file, and
in its content if it is. -/
structure SameFile (w w' : Workspace) (p : Path) : Prop where
  existence : w.exists? p = w'.exists? p
  sort : w.isFile? p = w'.isFile? p
  content : w.isFile? p = .ok true → w.read p = w'.read p

/-- Everything about a file follows from what stands there. -/
theorem SameFile.of_stat {w w' : Workspace} {p : Path} (h : w.stat p = w'.stat p) :
    w.SameFile w' p :=
  ⟨by simp only [exists?, test, h], by simp only [isFile?, test, h],
    fun _ => by simp only [read, h]⟩

/-- The path resolves to the same, and there the workspaces have the same file. -/
def SameTarget (w w' : Workspace) (p : Path) : Prop :=
  w.resolve p = w'.resolve p ∧ ∀ q, w.resolve p = .ok q → SameFile w w' q

end Workspace

/-! ## Two platforms -/

/-- The platforms read documents alike. They need not run modules alike: a module may look at
whatever there is. -/
structure Platform.ReadsAlike (here there : Platform) : Prop where
  yaml : here.yaml = there.yaml
  jsonLevels : here.jsonLevels = there.jsonLevels
  exhaustsToml : here.exhaustsToml = there.exhaustsToml

namespace ConfigFile

section Looks

variable {w w' : Workspace} {p : Path}

theorem check_congr (h : w.SameFile w' p) : check w p = check w' p := by
  simp only [check, h.existence, h.sort]

/-- What has been checked is a file. -/
theorem isFile?_of_check {u : Unit} (h : check w p = .ok u) : w.isFile? p = .ok true :=
  Workspace.isFile?_eq_true_iff.mpr (check_eq_ok_iff.mp h)

theorem content_congr (h : w.SameFile w' p) : content w p = content w' p := by
  have hcheck := check_congr h
  unfold content
  rw [← hcheck]
  cases hw : check w p with
  | error f => rfl
  | ok u => simp only [bind, Except.bind, h.content (isFile?_of_check hw)]

theorem text_congr (h : w.SameFile w' p) : text w p = text w' p := by
  simp only [text, content_congr h]

/-- An absolute path does not depend on the working directory. -/
theorem absoluteText_congr (habsolute : p.root ≠ .relative) :
    absoluteText w p = absoluteText w' p := by
  unfold absoluteText
  cases hroot : p.root with
  | relative => exact absurd hroot habsolute
  | single => rfl
  | double => rfl

end Looks

/-- The text of the file does not settle how it ends as a module. -/
def IsUnsettled (w : Workspace) (p : Path) : Prop :=
  ∃ c, w.read p = .ok c ∧ ∀ text, c = .text text → followed w p text = .error .beyond

/-- If the file is run as a module and its text does not settle how it ends, it ends the same
on both platforms. -/
def RunsAlike (here there : Platform) (w w' : Workspace) (p : Path) : Prop :=
  @IsModule here w p → IsUnsettled w p → here.run w p = there.run w' p

section Congr

variable {there : Platform} [here : Platform] {w w' : Workspace} {p : Path} {s : String}

theorem parseJson_congr (h : here.ReadsAlike there) : parseJson p s = @parseJson there p s := by
  simp only [parseJson, h.jsonLevels]

theorem parseYaml_congr (h : here.ReadsAlike there) : parseYaml p s = @parseYaml there p s := by
  simp only [parseYaml, h.yaml]

/-- A module ends the same if its text settles how, or else by assumption. -/
theorem run_congr (hmodule : IsModule w p) (htext : absoluteText w p = absoluteText w' p)
    (hread : w.read p = w'.read p) (hfile : w.isFile? p = .ok true)
    (hruns : RunsAlike here there w w' p) : here.run w p = there.run w' p := by
  by_cases hunsettled : IsUnsettled w p
  · exact hruns hmodule hunsettled
  obtain ⟨c, hstat⟩ := Workspace.isFile?_eq_true_iff.mp hfile
  have hcontent := Workspace.read_of_stat hstat
  cases c with
  | unreadable error =>
      rw [here.run_unreadable w p error hcontent,
        there.run_unreadable w' p error (hread ▸ hcontent)]
  | undecodable => exact absurd ⟨_, hcontent, nofun⟩ hunsettled
  | text text =>
      have hfollowed : followed w p text = followed w' p text := by
        simp only [followed, moduleInfo, htext]
      have hknown : followed w p text ≠ .error .beyond := by
        refine fun hbeyond => hunsettled ⟨_, hcontent, fun t ht => ?_⟩
        cases ht
        exact hbeyond
      rw [here.run_followed w p text hcontent hknown,
        there.run_followed w' p text (hread ▸ hcontent) (hfollowed ▸ hknown), hfollowed]

theorem runModule_congr (hmodule : IsModule w p) (htext : absoluteText w p = absoluteText w' p)
    (h : w.SameFile w' p) (hruns : RunsAlike here there w w' p) :
    runModule w p = @runModule there w' p := by
  unfold runModule
  rw [← check_congr h]
  cases hcheck : check w p with
  | error f => rfl
  | ok u =>
      have hfile := isFile?_of_check hcheck
      exact congrArg (moduleValue p)
        (run_congr hmodule htext (h.content hfile) hfile hruns)

/-- **Loading a file looks at that file only**, unless it is a module that looks further. -/
theorem load_congr (hreaders : here.ReadsAlike there)
    (htext : absoluteText w p = absoluteText w' p) (h : w.SameFile w' p)
    (hruns : RunsAlike here there w w' p) : load w p = @load there w' p := by
  unfold load
  cases hformat : Format.ofSuffix p.suffix with
  | json => simp only [← text_congr h, parseJson_congr hreaders]
  | yaml => simp only [← text_congr h, parseYaml_congr hreaders]
  | module => simp only [runModule_congr (Or.inl hformat) htext h hruns]
  | unknown =>
      simp only [← text_congr h, ← hreaders.jsonLevels]
      refine Report.bind_congr fun s hs => ?_
      cases hread : Json.readWithin here.jsonLevels s with
      | ok v => simp only [parseJson_congr hreaders]
      | error failure =>
          cases failure with
          | malformed e =>
              -- only here is a file of unknown format a module
              have hmodule : IsModule w p :=
                Or.inr ⟨hformat, s, e, text_eq_ok_iff.mp hs, hread⟩
              simp only [runModule_congr hmodule htext h hruns]
          | _ => simp only [parseJson_congr hreaders]

end Congr

end ConfigFile

/-- A value in a manifest looks at the file that it names, if it is a text. -/
theorem ConfigData.resolve_congr {there : Platform} [here : Platform]
    (hreaders : here.ReadsAlike there) {w w' : Workspace} {dir : Path} {raw : Value}
    (h : ∀ s, raw = .str s → w.SameTarget w' (dir.child s) ∧
      ∀ p, w.resolve (dir.child s) = .ok p → ConfigFile.RunsAlike here there w w' p) :
    resolve w dir raw = @resolve there w' dir raw := by
  cases raw with
  | str s =>
      obtain ⟨⟨hresolve, hfile⟩, hruns⟩ := h s rfl
      simp only [resolve, ← hresolve]
      cases hp : w.resolve (dir.child s) with
      | error f => rfl
      | ok p =>
          have habsolute : p.root ≠ .relative := by
            rw [Workspace.root_of_resolve hp]
            decide
          have htext : ConfigFile.absoluteText w p = ConfigFile.absoluteText w' p :=
            ConfigFile.absoluteText_congr habsolute
          simp only [ConfigFile.load_congr hreaders htext (hfile p hp) (hruns p hp)]
  | _ => rfl

namespace Manifest

section Congr

variable {there : Platform} [here : Platform] {w w' : Workspace} {p : Path} {m : Manifest}

theorem parse_congr (hreaders : here.ReadsAlike there) {text : String} :
    parse p text = @parse there p text := by
  simp only [parse, parseToml, parseJson, hreaders.jsonLevels, hreaders.exhaustsToml]

theorem read_congr (hreaders : here.ReadsAlike there) (h : w.read p = w'.read p) :
    read w p = @read there w' p := by
  simp only [read, h, parse_congr hreaders]

/-- A manifest has the path that it was read from. -/
theorem path_of_read (h : read w p = .ok m) : m.path = p := by
  have hparse {text : String} (h : parse p text = .ok m) : m.path = p := by
    unfold parse at h
    split_ifs at h
    all_goals
      obtain ⟨v, -, hv⟩ := Outcome.chain_eq_ok_iff.mp h
      cases v <;> cases hv
      rfl
  unfold read at h
  split at h
  · cases h
  · cases h
  · split at h
    · cases h
    · exact hparse h

end Congr

section Search

variable {w w' : Workspace} {given names : List String} {dirs : List Path}

theorem names_congr (h : w.manifestVariable = w'.manifestVariable) :
    Manifest.names w given = Manifest.names w' given := by
  simp only [Manifest.names, h]

/-- The search tests the candidates up to the first manifest. -/
theorem search_congr (h : w.SameTests w' (candidates names dirs)) :
    search w names dirs = search w' names dirs := by
  induction dirs with
  | nil => rfl
  | cons dir dirs ih =>
      have hsplit : w.SameTests w' (names.map dir.child ++ candidates names dirs) := h
      rw [search, search, firstFile_eq, firstFile_eq,
        ← Workspace.fileAmong_congr hsplit.of_append]
      cases hfirst : w.fileAmong (names.map dir.child) with
      | error f => rfl
      | ok found =>
          cases found with
          | some q => rfl
          | none =>
              have habsent := Workspace.fileAmong_eq_none_iff.mp hfirst
              simp only [bind, Except.bind, ih (hsplit.behind habsent)]

end Search

end Manifest

/-! ## The whole way -/

namespace Loader

/-- A path that is tested when a manifest for the file is searched for. -/
def Tests (l : Loader) (w : Workspace) (file : String) (q : Path) : Prop :=
  ∃ p, w.resolve (Path.ofText file) = .ok p ∧ w.Reaches (l.manifestPaths w p) q

/-- The path of the manifest that is found for the file. -/
def Finds (l : Loader) (w : Workspace) (file : String) (q : Path) : Prop :=
  ∃ p, w.resolve (Path.ofText file) = .ok p ∧ w.Settles (l.manifestPaths w p) q (.ok true)

/-- The workspaces agree on everything that loading for the file looks at in the first one: the
variable with the names of manifests, what the file resolves to, which of the tested candidates
are files, the content of the manifest that is found, and the file that it names, if the value
for the loader is a text. -/
structure Agree [Platform] (l : Loader) (w w' : Workspace) (file : String) : Prop where
  environment : w.manifestVariable = w'.manifestVariable
  start : w.resolve (Path.ofText file) = w'.resolve (Path.ofText file)
  candidates : ∀ q, l.Tests w file q → w.isFile? q = w'.isFile? q
  manifest : ∀ q, l.Finds w file q → w.read q = w'.read q
  target : ∀ q m s, l.Finds w file q → Manifest.read w q = .ok m →
    m.get? l.name = some (.str s) → w.SameTarget w' (m.directory.child s)

/-- The file that the value for the loader names ends the same as a module. -/
def RunsAlike (here there : Platform) (l : Loader) (w w' : Workspace) (file : String) : Prop :=
  ∀ q m s p, l.Finds w file q → @Manifest.read here w q = .ok m →
    m.get? l.name = some (.str s) → w.resolve (m.directory.child s) = .ok p →
    ConfigFile.RunsAlike here there w w' p

section Agree

variable {w w' : Workspace} {l : Loader} {file : String} {p q : Path} {m : Manifest}

/-- What is found is tested. -/
theorem Finds.tests (h : l.Finds w file q) : l.Tests w file q := by
  obtain ⟨p, hp, hsettles⟩ := h
  exact ⟨p, hp, hsettles.reaches⟩

theorem manifestPaths_of_names {names : List String}
    (h : (Manifest.names w l.manifestNames).outcome = .ok names) :
    l.manifestPaths w p = Manifest.candidates names p.parent.ancestry := by
  simp only [manifestPaths, h]

variable {there : Platform} [here : Platform]

/-- Workspaces agree that have the same manifest, if no other one is tested, and the same file
that it names. -/
theorem Agree.of_stat (henvironment : w.manifestVariable = w'.manifestVariable)
    (hstart : w.resolve (Path.ofText file) = w'.resolve (Path.ofText file))
    (htests : ∀ r, l.Tests w file r → r = q) (hmanifest : w.stat q = w'.stat q)
    (htarget : ∀ m s, Manifest.read w q = .ok m → m.get? l.name = some (.str s) →
      ∃ t, w.resolve (q.parent.child s) = .ok t ∧ w'.resolve (q.parent.child s) = .ok t ∧
        w.stat t = w'.stat t) : l.Agree w w' file := by
  have hsame : w.SameFile w' q := .of_stat hmanifest
  refine ⟨henvironment, hstart, fun r hr => ?_, fun r hr => ?_, fun r m s hr hread hvalue => ?_⟩
  · rw [htests r hr, hsame.sort]
  · rw [htests r hr.tests]
    simp only [Workspace.read, hmanifest]
  · rw [htests r hr.tests] at hread
    have hdirectory : m.directory = q.parent :=
      congrArg Path.parent (Manifest.path_of_read hread)
    obtain ⟨t, ht, ht', hstat⟩ := htarget m s hread hvalue
    rw [hdirectory, Workspace.SameTarget, ht, ht']
    refine ⟨rfl, fun p hp => ?_⟩
    cases hp
    exact .of_stat hstat

/-- A manifest that is located was read from the path that is found. -/
theorem exists_finds_of_locate {searched : List Path}
    (h : (Manifest.locate w file l.manifestNames).outcome = .ok (.found m searched)) :
    ∃ q, l.Finds w file q ∧ Manifest.read w q = .ok m := by
  obtain ⟨names, hnames⟩ := exists_names w l.manifestNames
  cases hresolve : w.resolve (Path.ofText file) with
  | error f =>
      rw [Manifest.locate] at h
      simp only [outcome_andThen, hnames, hresolve] at h
      cases h
  | ok p =>
      rw [locate_outcome hnames hresolve] at h
      cases hsearch : Manifest.search w names p.parent.ancestry with
      | error f =>
          rw [hsearch] at h
          cases h
      | ok result =>
          obtain ⟨_, _ | q⟩ := result
          · rw [hsearch] at h
            cases h
          · rw [hsearch] at h
            obtain ⟨m', hread, hm⟩ := Outcome.map_eq_ok_iff.mp h
            cases hm
            refine ⟨q, ⟨p, hresolve, ?_⟩, hread⟩
            rw [manifestPaths_of_names hnames]
            exact Manifest.search_eq_found_iff.mp ⟨_, hsearch⟩

/-- **The nearest manifest is located by what was tested** and by its content. -/
theorem locate_congr (hreaders : here.ReadsAlike there) (h : l.Agree w w' file) :
    Manifest.locate w file l.manifestNames =
      @Manifest.locate there w' file l.manifestNames := by
  unfold Manifest.locate
  rw [← Manifest.names_congr h.environment, ← h.start]
  refine Report.bind_congr fun names hnames => ?_
  cases hresolve : w.resolve (Path.ofText file) with
  | error f => rfl
  | ok p =>
      have hpaths := manifestPaths_of_names (p := p) hnames
      have htests : w.SameTests w' (Manifest.candidates names p.parent.ancestry) :=
        fun q hq => h.candidates q ⟨p, hresolve, hpaths ▸ hq⟩
      simp only [← Manifest.search_congr htests]
      cases hsearch : Manifest.search w names p.parent.ancestry with
      | error f => rfl
      | ok result =>
          obtain ⟨searched, _ | q⟩ := result
          · rfl
          · have hfinds : l.Finds w file q :=
              ⟨p, hresolve, hpaths ▸ Manifest.search_eq_found_iff.mp ⟨searched, hsearch⟩⟩
            simp only [Manifest.read_congr hreaders (h.manifest q hfinds)]

/-- **A load looks at nothing but the listed facts.** -/
theorem load_congr (hreaders : here.ReadsAlike there) (hoverride : l.override = none)
    (h : l.Agree w w' file) (hruns : l.RunsAlike here there w w' file) :
    l.load w file = @load there w' file l := by
  simp only [load, hoverride, ← locate_congr hreaders h]
  refine Report.bind_congr fun found hfound => ?_
  cases found with
  | missing error kind searched => rfl
  | found m searched =>
      obtain ⟨q, hq, hread⟩ := exists_finds_of_locate hfound
      refine ConfigData.resolve_congr hreaders fun s hs => ?_
      have hvalue : m.get? l.name = some (.str s) := by
        cases hvalue : m.get? l.name with
        | none => simp [hvalue] at hs
        | some v => simpa [hvalue] using hs
      exact ⟨h.target q m s hq hread hvalue, fun p hp => hruns q m s p hq hread hvalue hp⟩

/-- Without configuration that was supplied both ways of loading are the same. -/
theorem loadBy_eq_load (hoverride : l.override = none) (async : Bool) :
    l.loadBy async w file = l.load w file := by
  cases async <;> simp [loadBy, loadAsync, hoverride]

/-- A nearest manifest without a value for the loader ends the search with no configuration. -/
theorem load_of_lacking (hoverride : l.override = none) (hq : l.Finds w file q)
    (hread : Manifest.read w q = .ok m) (hvalue : m.get? l.name = none) :
    (l.load w file).outcome = .ok ⟨.null, some q.parent, none⟩ := by
  obtain ⟨p, hresolve, hsettles⟩ := hq
  have hdirectory : m.directory = q.parent := congrArg Path.parent (Manifest.path_of_read hread)
  rw [load_of_nearest hoverride hresolve hsettles, hread, ← hdirectory]
  simp only [bind, Except.bind, hvalue]
  rfl

end Agree

end Loader

namespace Session

/-- What a load yields for a loader without configuration that was supplied, whatever options
were merged into it. -/
theorem report_of_bare [Platform] {s : Session} {on : String} {l l' : Loader}
    (hl : s.loader on = .ok l') (hbare : l'.bare = l.bare) (hoverride : l.override = none)
    (file : String) (async : Bool) (keep : Option String) :
    (s.step (.load on file async keep)).2 = answering (l.load s.workspace file) .config := by
  rw [report_load hl, Loader.loadBy_eq_of_bare hbare, Loader.loadBy_eq_load hoverride]

section Loads

variable {there : Platform} [here : Platform]

end Loads

/-! ### A manifest above another one -/

section Nested

open Manifest (below)
open Loader (plain)

/-- A manifest and a list in a file beside it, in a directory beside another manifest. -/
def nested (nearest : String) (outer : Content) : Workspace :=
  ⟨⟨[(["d"], .directory), (["d", "package.json"], .file (.text nearest)),
    (["d", "c.json"], .file (.text "[]")), (["package.json"], .file outer)]⟩, [], none⟩

variable {nearest : String} {outer outer' : Content} {m : Manifest} {q : Path}

theorem nested_linkFree : (nested nearest outer).tree.LinkFree :=
  FileTree.linkFree_of_entries (by simp [nested])

theorem nested_stat_manifest :
    (nested nearest outer).stat (below ["d", "package.json"]) = .ok (.file (.text nearest)) :=
  Workspace.stat_of_open nested_linkFree (by decide) ⟨rfl, rfl, trivial⟩

theorem nested_stat_list :
    (nested nearest outer).stat (below ["d", "c.json"]) = .ok (.file (.text "[]")) :=
  Workspace.stat_of_open nested_linkFree (by decide) ⟨rfl, rfl, trivial⟩

theorem nested_resolve_script :
    (nested nearest outer).resolve (Path.ofText "d/x.js") = .ok (below ["d", "x.js"]) :=
  Workspace.resolve_of_follow nested_linkFree (by decide)
    (Workspace.start_of_home rfl _) (by decide)

theorem nested_resolve_list :
    (nested nearest outer).resolve ((below ["d"]).child "c.json") =
      .ok (below ["d", "c.json"]) :=
  Workspace.resolve_of_follow nested_linkFree (by decide)
    (Workspace.start_of_home rfl _) (by decide)

theorem nested_manifestPaths :
    plain.manifestPaths (nested nearest outer) (below ["d", "x.js"]) =
      [below ["d", "package.json"], below ["package.json"]] :=
  (Loader.manifestPaths_of_default rfl rfl).trans (by decide)

/-- Only the lower manifest is tested. -/
theorem nested_tests (h : plain.Tests (nested nearest outer) "d/x.js" q) :
    q = below ["d", "package.json"] := by
  obtain ⟨p, hp, before, after, hpaths, hbefore⟩ := h
  rw [nested_resolve_script] at hp
  cases hp
  rw [nested_manifestPaths] at hpaths
  cases before with
  | nil => exact (List.cons.inj hpaths).1.symm
  | cons d before =>
      have habsent := hbefore d List.mem_cons_self
      rw [← (List.cons.inj hpaths).1,
        Workspace.isFile?_eq_true_iff.mpr ⟨_, nested_stat_manifest⟩] at habsent
      cases habsent

theorem nested_finds :
    plain.Finds (nested nearest outer) "d/x.js" (below ["d", "package.json"]) := by
  refine ⟨_, nested_resolve_script, ?_⟩
  rw [nested_manifestPaths, Workspace.settles_cons_iff]
  exact Or.inl ⟨rfl, by decide, Workspace.isFile?_eq_true_iff.mpr ⟨_, nested_stat_manifest⟩⟩

/-- Workspaces that differ in the upper manifest agree if the lower one names no file but the
list beside it. -/
theorem nested_agree
    (htarget : ∀ m s, Manifest.read (nested nearest outer) (below ["d", "package.json"]) = .ok m →
      m.get? "t" = some (.str s) → s = "c.json") :
    plain.Agree (nested nearest outer) (nested nearest outer') "d/x.js" := by
  refine .of_stat rfl (by rw [nested_resolve_script, nested_resolve_script])
    (fun q => nested_tests) (by rw [nested_stat_manifest, nested_stat_manifest]) ?_
  intro m s hread hvalue
  rw [htarget m s hread hvalue]
  exact ⟨_, nested_resolve_list, nested_resolve_list,
    by rw [nested_stat_list, nested_stat_list]⟩

/-- No module is run if the lower manifest names no file but the list. -/
theorem nested_runsAlike
    (htarget : ∀ m s, Manifest.read (nested nearest outer) (below ["d", "package.json"]) = .ok m →
      m.get? "t" = some (.str s) → s = "c.json") :
    plain.RunsAlike Standard.platform Standard.platform (nested nearest outer)
      (nested nearest outer') "d/x.js" := by
  intro q m s p hq hread hvalue hp hmodule
  rw [nested_tests hq.tests] at hread
  have hdirectory : m.directory = below ["d"] :=
    congrArg Path.parent (Manifest.path_of_read hread)
  rw [hdirectory, htarget m s hread hvalue, nested_resolve_list] at hp
  cases hp
  have hformat : Format.ofSuffix (below ["d", "c.json"]).suffix = .json := by
    decide
  simp [ConfigFile.IsModule, hformat] at hmodule

end Nested

/-! ### A module that reads the file beside it -/

section Beside

open Manifest (below)
open Loader (plain)

/-- A module whose configuration is the text of the file beside it. -/
def readingText : String :=
  "config = open(__file__ + \".txt\").read()"

/-- The text that a value is. -/
def textOf? : Value → Option String
  | .str s => some s
  | _ => none

/-- The text that an expression stands for. -/
def valueTextOf? (run : Script.Run Script.Object) : Option String :=
  run.toOption.bind fun o => (Script.Execution.valueOf o).toOption.bind textOf?

theorem textOf?_eq_some_iff {v : Value} {s : String} : textOf? v = some s ↔ v = .str s := by
  cases v <;> simp [textOf?]

theorem valueTextOf?_eq_some_iff {run : Script.Run Script.Object} {s : String} :
    valueTextOf? run = some s ↔ run = .ok (.value (.str s)) := by
  have hobject (o : Script.Object) :
      Script.Execution.valueOf o = .ok (.str s) ↔ o = .value (.str s) := by
    cases o <;> simp [Script.Execution.valueOf, Script.goBeyond]
  simp only [valueTextOf?, Option.bind_eq_some_iff, Outcome.toOption_eq_some_iff,
    textOf?_eq_some_iff]
  constructor
  · rintro ⟨o, hrun, v, hv, rfl⟩
    rw [hrun, (hobject o).mp hv]
  · rintro rfl
    exact ⟨_, rfl, _, rfl, rfl⟩

/-- A manifest that names a module, the module, and a file beside it. -/
def beside (text : String) : Workspace :=
  Workspace.flat [("package.json", .text "\x7b\"t\":\"m.py\"\x7d"), ("m.py", .text readingText),
    ("m.py.txt", .text text)]

variable {text text' : String} {q : Path} {m : Manifest}

theorem beside_isEntryName : ∀ name, name ∈ ["package.json", "m.py", "m.py.txt"] →
    Workspace.IsEntryName name := by
  decide

theorem beside_stat_manifest : (beside text).stat (below ["package.json"]) =
    .ok (.file (.text "\x7b\"t\":\"m.py\"\x7d")) :=
  Workspace.flat_stat_file _ (beside_isEntryName _ (by simp)) rfl

theorem beside_stat_module : (beside text).stat (below ["m.py"]) =
    .ok (.file (.text readingText)) :=
  Workspace.flat_stat_file _ (beside_isEntryName _ (by simp)) rfl

theorem beside_stat_text : (beside text).stat (below ["m.py.txt"]) = .ok (.file (.text text)) :=
  Workspace.flat_stat_file _ (beside_isEntryName _ (by simp)) rfl

theorem beside_resolve_script :
    (beside text).resolve (Path.ofText "x.js") = .ok (below ["x.js"]) :=
  Workspace.resolve_of_follow (Workspace.flat_linkFree _) (by decide)
    (Workspace.start_of_home rfl _) (by decide)

theorem beside_resolve_module :
    (beside text).resolve ((below []).child "m.py") = .ok (below ["m.py"]) :=
  Workspace.flat_resolve _ (beside_isEntryName _ (by simp))

theorem beside_manifestPaths :
    plain.manifestPaths (beside text) (below ["x.js"]) = [below ["package.json"]] :=
  (Loader.manifestPaths_of_default rfl rfl).trans (by decide)

/-- Only the manifest is tested. -/
theorem beside_tests (h : plain.Tests (beside text) "x.js" q) : q = below ["package.json"] := by
  obtain ⟨p, hp, before, after, hpaths, -⟩ := h
  rw [beside_resolve_script] at hp
  cases hp
  have hq : q ∈ plain.manifestPaths (beside text) (below ["x.js"]) := by
    rw [hpaths]
    simp
  rw [beside_manifestPaths] at hq
  exact List.mem_singleton.mp hq

theorem beside_nearest : (beside text).Settles
    (plain.manifestPaths (beside text) (below ["x.js"])) (below ["package.json"]) (.ok true) := by
  rw [beside_manifestPaths, Workspace.settles_cons_iff]
  exact Or.inl ⟨rfl, by decide, Workspace.isFile?_eq_true_iff.mpr ⟨_, beside_stat_manifest⟩⟩

/-- The manifest has the name of the module for the loader. -/
theorem beside_read : ∃ m, m.directory = below [] ∧ m.get? "t" = some (.str "m.py") ∧
    ∀ text, Manifest.read (beside text) (below ["package.json"]) = .ok m := by
  have hparsed : (Manifest.parse (below ["package.json"])
      (Lines.normalize "\x7b\"t\":\"m.py\"\x7d")).toOption.map
        (fun m => (m.directory, (m.get? "t").bind textOf?)) = some (below [], some "m.py") := by
    decide +kernel
  obtain ⟨m, hm, hvalue⟩ := Option.map_eq_some_iff.mp hparsed
  obtain ⟨hdirectory, hname⟩ := Prod.mk.inj hvalue
  obtain ⟨v, hv, hname⟩ := Option.bind_eq_some_iff.mp hname
  refine ⟨m, hdirectory, textOf?_eq_some_iff.mp hname ▸ hv, fun text => ?_⟩
  rw [Manifest.read_of_stat beside_stat_manifest]
  exact Outcome.toOption_eq_some_iff.mp hm

/-- The workspaces agree on all that loading itself looks at. -/
theorem beside_agree : plain.Agree (beside text) (beside text') "x.js" := by
  refine .of_stat rfl (by rw [beside_resolve_script, beside_resolve_script])
    (fun q => beside_tests) (by rw [beside_stat_manifest, beside_stat_manifest]) ?_
  intro m s hread hvalue
  obtain ⟨m₀, -, hname, hread₀⟩ := beside_read
  rw [hread₀ text] at hread
  cases hread
  cases hvalue.symm.trans hname
  exact ⟨_, beside_resolve_module, beside_resolve_module,
    by rw [beside_stat_module, beside_stat_module]⟩

/-- The module has one statement, which reads the file beside it. -/
theorem readingText_reads (w : Workspace) : ∃ s argument,
    Script.Module.read readingText = .statements [s] ∧ s.reads? = some ("config", argument) ∧
    Script.Execution.eval
      (Script.Execution.initial (ConfigFile.moduleInfo w (below ["m.py"])) [s]) argument =
        .ok (.value (.str "/m.py.txt")) := by
  let info : Script.ModuleInfo := ⟨Script.Execution.moduleName "m", "/m.py"⟩
  have hinfo : ConfigFile.moduleInfo w (below ["m.py"]) = info := by
    have hstem : (below ["m.py"]).stem = "m" ∧ (below ["m.py"]).text = "/m.py" := by
      decide
    show (⟨Script.Execution.moduleName _, _⟩ : Script.ModuleInfo) = _
    rw [hstem.1]
    exact congrArg _ hstem.2
  have hreads : (Script.Module.read readingText).statements?.map (fun ss => ss.map fun s =>
      s.reads?.map fun read => (read.1, valueTextOf?
        (Script.Execution.eval (Script.Execution.initial info [s]) read.2))) =
        some [some ("config", some "/m.py.txt")] := by
    decide +kernel
  obtain ⟨ss, hparsed, hss⟩ := Option.map_eq_some_iff.mp hreads
  obtain ⟨s, rfl, hs⟩ := List.map_eq_singleton_iff.mp hss
  obtain ⟨⟨target, argument⟩, hread, hvalue⟩ := Option.map_eq_some_iff.mp hs
  obtain ⟨rfl, hpath⟩ := Prod.mk.inj hvalue
  exact ⟨s, argument, Script.Reading.statements?_eq_some_iff.mp hparsed, hread,
    hinfo ▸ valueTextOf?_eq_some_iff.mp hpath⟩

/-- The module ends with the text of the file beside it. -/
theorem beside_run (htext : Standard.fileText? (beside text) "/m.py.txt" = some text) :
    Standard.run (beside text) (below ["m.py"]) = .defined (.str text) := by
  obtain ⟨s, argument, hread, hreads, heval⟩ := readingText_reads (beside text)
  have hstep := Script.Execution.stepWith_of_reads hreads rfl heval htext
  have hran : Standard.ran (beside text) (below ["m.py"]) readingText =
      .ok (some (.str text)) := by
    unfold Standard.ran Script.Execution.bindingsWith
    rw [hread]
    simp only [Script.Execution.runWith, hstep]
    rfl
  rw [Standard.run, Workspace.read_of_stat beside_stat_module]
  simp only [hran]
  rfl

/-- A load yields what the module read from the file beside it. -/
theorem beside_load (htext : Standard.fileText? (beside text) "/m.py.txt" = some text) :
    (plain.load (beside text) "x.js").outcome =
      .ok ⟨.str text, some (below []), some (below ["m.py"])⟩ := by
  obtain ⟨m, hdirectory, hname, hread⟩ := beside_read
  have hmodule : Format.ofSuffix (below ["m.py"]).suffix = .module := by
    decide
  have hcheck : ConfigFile.check (beside text) (below ["m.py"]) = .ok () :=
    ConfigFile.check_eq_ok_iff.mpr ⟨_, beside_stat_module⟩
  have hfile : (ConfigFile.load (beside text) (below ["m.py"])).outcome = .ok (.str text) := by
    rw [ConfigFile.load_module hmodule, ConfigFile.runModule, hcheck]
    exact congrArg (ConfigFile.moduleValue _) (beside_run htext)
  have hvalue : m.get? plain.name = some (.str "m.py") := hname
  rw [Loader.load_of_nearest rfl beside_resolve_script beside_nearest, hread text]
  simp only [bind, Except.bind, hvalue, hdirectory, Option.getD_some]
  rw [ConfigData.resolve_named beside_resolve_module, hfile]
  rfl

end Beside
end Session
end BuildTransform
