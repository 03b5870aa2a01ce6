import BuildTransform.Proofs.Config.Dependence
import BuildTransform.Proofs.Config.Flat
import BuildTransform.Proofs.Json.Breaks

/-!
# What an error of configuration is blamed on

Which cause each error of configuration has, and which path it names.

* `ConfigFile.Blame`, `ConfigData.Blame` and `Manifest.Blame` relate what is wrong to the problem
  that is reported; an error is reported iff one of the causes is there.
* `ConfigFile.Unparsable` and `ConfigFile.FailsToRun` say what is wrong with a file in terms of
  its suffix and content only, and `Manifest.Malformed` does so for a manifest.
* `Loader.error_blames` concludes: the class and the path of an error tell where the fault lies.
-/

namespace BuildTransform

namespace ConfigFile

/-- The path leads to a file that the system refuses to read. -/
def IsUnreadable (w : Workspace) (p : Path) : Prop :=
  ∃ error, w.stat p = .ok (.file (.unreadable error))

/-- The problem that is reported for a file, and its cause. -/
inductive Blame [Platform] (w : Workspace) (p : Path) : ConfigProblem → Prop
  | missing
      (habsent : w.exists? p = .ok false) :
      Blame w p .missingFile
  | notAFile
      (hexists : w.exists? p = .ok true)
      (hother : w.isFile? p = .ok false) :
      Blame w p .notAFile
  | unreadable {error : SystemError}
      (hformat : Format.ofSuffix p.suffix ≠ .module)
      (hstat : w.stat p = .ok (.file (.unreadable error))) :
      Blame w p (.unreadableFile (.unreadable error))
  | json {text : String} {e : Json.Error}
      (hformat : Format.ofSuffix p.suffix = .json)
      (htext : HoldsText w p text)
      (hread : Json.readWithin Platform.jsonLevels text = .error (.malformed e)) :
      Blame w p (.malformedJson e text)
  | yaml {text : String}
      (hformat : Format.ofSuffix p.suffix = .yaml)
      (htext : HoldsText w p text)
      (hread : Platform.yaml text = .error .malformed) :
      Blame w p .malformedYaml
  | failure {complaint : Script.Complaint}
      (hmodule : IsModule w p)
      (hfile : w.LeadsToFile p)
      (hran : Platform.run w p = .failed complaint) :
      Blame w p (.failedModule complaint)
  | lacking
      (hmodule : IsModule w p)
      (hfile : w.LeadsToFile p)
      (hran : Platform.run w p = .undefined) :
      Blame w p .moduleWithoutConfig

section Content

variable {w : Workspace} {p : Path} {e : ConfigError} {ending : Script.Ending}

/-- The error is that of a problem with the file. -/
theorem failure_eq_iff {problem : ConfigProblem} :
    failure p problem = .config e ↔ e.path = some p ∧ e.problem = problem := by
  obtain ⟨problem', path⟩ := e
  simp only [failure, Failure.config.injEq, ConfigError.mk.injEq]
  exact ⟨fun h => ⟨h.2.symm, h.1.symm⟩, fun h => ⟨h.2.symm, h.1.symm⟩⟩

theorem check_eq_config_iff : check w p = .error (.config e) ↔
    e.path = some p ∧ ((w.exists? p = .ok false ∧ e.problem = .missingFile) ∨
      (w.exists? p = .ok true ∧ w.isFile? p = .ok false ∧ e.problem = .notAFile)) := by
  unfold check Workspace.exists? Workspace.isFile? Workspace.test
  cases hstat : w.stat p with
  | error f =>
      cases f <;> simp [Except.mapError, Failure.ofFault, bind, Except.bind, failure_eq_iff]
  | ok entry => cases entry <;> simp [Except.mapError, bind, Except.bind, failure_eq_iff]

theorem content_eq_config_iff : content w p = .error (.config e) ↔
    check w p = .error (.config e) ∨ (e.path = some p ∧
      ∃ error, w.stat p = .ok (.file (.unreadable error)) ∧
        e.problem = .unreadableFile (.unreadable error)) := by
  rw [content, Outcome.chain_eq_error_iff]
  refine or_congr_right ?_
  simp only [check_eq_ok_iff]
  constructor
  · rintro ⟨-, ⟨c, hstat⟩, h⟩
    rw [Workspace.read_of_stat hstat] at h
    cases c with
    | unreadable error =>
        obtain ⟨hpath, hproblem⟩ := failure_eq_iff.mp (Except.error.inj h)
        exact ⟨hpath, error, hstat, hproblem⟩
    | text s => cases h
    | undecodable => cases h
  · rintro ⟨hpath, error, hstat, hproblem⟩
    refine ⟨(), ⟨_, hstat⟩, ?_⟩
    rw [Workspace.read_of_stat hstat]
    exact congrArg _ (failure_eq_iff.mpr ⟨hpath, hproblem⟩)

theorem text_eq_config_iff :
    text w p = .error (.config e) ↔ content w p = .error (.config e) := by
  rw [text, Outcome.chain_eq_error_iff]
  refine or_iff_left ?_
  rintro ⟨c, -, hc⟩
  cases c <;> simp [Content.text?] at hc

theorem moduleValue_eq_config_iff : moduleValue p ending = .error (.config e) ↔
    e.path = some p ∧ ((∃ c, ending = .failed c ∧ e.problem = .failedModule c) ∨
      (ending = .undefined ∧ e.problem = .moduleWithoutConfig)) := by
  cases ending <;> simp [moduleValue, failure_eq_iff]

end Content

section Load

variable [Platform] {w : Workspace} {p : Path} {e : ConfigError} {s : String}

theorem parseJson_eq_config_iff : parseJson p s = .error (.config e) ↔
    e.path = some p ∧ ∃ error,
      Json.readWithin Platform.jsonLevels s = .error (.malformed error) ∧
        e.problem = .malformedJson error s := by
  unfold parseJson
  rcases Json.readWithin Platform.jsonLevels s with (error | _ | _ | _) | v <;>
    simp [failure_eq_iff]

theorem parseYaml_eq_config_iff : parseYaml p s = .error (.config e) ↔
    e.path = some p ∧ Platform.yaml s = .error .malformed ∧ e.problem = .malformedYaml := by
  unfold parseYaml
  rcases Platform.yaml s with (_ | fault | _) | v <;> simp [failure_eq_iff]

theorem runModule_eq_config_iff : runModule w p = .error (.config e) ↔
    check w p = .error (.config e) ∨ (e.path = some p ∧ w.LeadsToFile p ∧
      ((∃ c, Platform.run w p = .failed c ∧ e.problem = .failedModule c) ∨
        (Platform.run w p = .undefined ∧ e.problem = .moduleWithoutConfig))) := by
  simp only [runModule, Outcome.chain_eq_error_iff, check_eq_ok_iff, moduleValue_eq_config_iff]
  refine or_congr_right ⟨?_, ?_⟩
  · rintro ⟨-, hfile, hpath, h⟩
    exact ⟨hpath, hfile, h⟩
  · rintro ⟨hpath, hfile, h⟩
    exact ⟨(), hfile, hpath, h⟩

theorem blame_of_check (h : check w p = .error (.config e)) :
    Blame w p e.problem ∧ e.path = some p := by
  obtain ⟨hpath, ⟨habsent, hproblem⟩ | ⟨hexists, hother, hproblem⟩⟩ := check_eq_config_iff.mp h
  · exact ⟨hproblem ▸ .missing habsent, hpath⟩
  · exact ⟨hproblem ▸ .notAFile hexists hother, hpath⟩

theorem blame_of_text (hformat : Format.ofSuffix p.suffix ≠ .module)
    (h : text w p = .error (.config e)) : Blame w p e.problem ∧ e.path = some p := by
  rcases content_eq_config_iff.mp (text_eq_config_iff.mp h) with h | ⟨hpath, error, hstat, hproblem⟩
  · exact blame_of_check h
  · exact ⟨hproblem ▸ .unreadable hformat hstat, hpath⟩

theorem blame_of_runModule (hmodule : IsModule w p) (h : runModule w p = .error (.config e)) :
    Blame w p e.problem ∧ e.path = some p := by
  rcases runModule_eq_config_iff.mp h with h |
    ⟨hpath, hfile, ⟨c, hran, hproblem⟩ | ⟨hran, hproblem⟩⟩
  · exact blame_of_check h
  · exact ⟨hproblem ▸ .failure hmodule hfile hran, hpath⟩
  · exact ⟨hproblem ▸ .lacking hmodule hfile hran, hpath⟩

/-- Unless it is a module by its suffix, a file without a text is not looked into further. -/
theorem load_of_no_text {f : Failure} (hformat : Format.ofSuffix p.suffix ≠ .module)
    (h : text w p = .error f) : (load w p).outcome = .error f := by
  cases hsuffix : Format.ofSuffix p.suffix with
  | json => rw [load_json hsuffix, h]; rfl
  | yaml => rw [load_yaml hsuffix, h]; rfl
  | module => exact absurd hsuffix hformat
  | unknown => rw [load_unknown hsuffix, h]; rfl

/-- Whatever the format, nothing is read from a path that leads to no file. -/
theorem load_of_no_file {f : Failure} (h : check w p = .error f) :
    (load w p).outcome = .error f := by
  by_cases hformat : Format.ofSuffix p.suffix = .module
  · rw [load_module hformat, runModule, h]
    rfl
  · refine load_of_no_text hformat ?_
    rw [text, content, h]
    rfl

/-- A module is run. -/
theorem load_of_isModule (h : IsModule w p) : (load w p).outcome = runModule w p := by
  rcases h with hformat | ⟨hformat, s, error, htext, hread⟩
  · exact load_module hformat
  · rw [load_unknown hformat, text_eq_ok_iff.mpr htext]
    rcases jsonOr_cases p s (runModule w p) with ⟨-, -, h⟩ | ⟨hother, -⟩
    · exact h
    · exact absurd hread (hother error)

theorem blame_of_load (h : (load w p).outcome = .error (.config e)) :
    Blame w p e.problem ∧ e.path = some p := by
  cases hformat : Format.ofSuffix p.suffix with
  | json =>
      rw [load_json hformat, Outcome.chain_eq_error_iff] at h
      rcases h with h | ⟨s, hs, h⟩
      · exact blame_of_text (by simp [hformat]) h
      · obtain ⟨hpath, error, hread, hproblem⟩ := parseJson_eq_config_iff.mp h
        exact ⟨hproblem ▸ .json hformat (text_eq_ok_iff.mp hs) hread, hpath⟩
  | yaml =>
      rw [load_yaml hformat, Outcome.chain_eq_error_iff] at h
      rcases h with h | ⟨s, hs, h⟩
      · exact blame_of_text (by simp [hformat]) h
      · obtain ⟨hpath, hread, hproblem⟩ := parseYaml_eq_config_iff.mp h
        exact ⟨hproblem ▸ .yaml hformat (text_eq_ok_iff.mp hs) hread, hpath⟩
  | module =>
      rw [load_module hformat] at h
      exact blame_of_runModule (Or.inl hformat) h
  | unknown =>
      rw [load_unknown hformat, Outcome.chain_eq_error_iff] at h
      rcases h with h | ⟨s, hs, h⟩
      · exact blame_of_text (by simp [hformat]) h
      · rcases jsonOr_cases p s (runModule w p) with ⟨error, hread, hrun⟩ | ⟨hread, hjson⟩
        · have hmodule : IsModule w p :=
            Or.inr ⟨hformat, s, error, text_eq_ok_iff.mp hs, hread⟩
          exact blame_of_runModule hmodule (hrun.symm.trans h)
        · obtain ⟨-, error, hmalformed, -⟩ := parseJson_eq_config_iff.mp (hjson.symm.trans h)
          exact absurd hmalformed (hread error)

/-- **An error is reported for a file** iff it is to blame for it. -/
theorem load_eq_config_iff :
    (load w p).outcome = .error (.config e) ↔ Blame w p e.problem ∧ e.path = some p := by
  refine ⟨blame_of_load, ?_⟩
  rintro ⟨hblame, hpath⟩
  obtain ⟨problem, path⟩ := e
  subst hpath
  cases hblame with
  | missing habsent =>
      exact load_of_no_file (check_eq_config_iff.mpr ⟨rfl, Or.inl ⟨habsent, rfl⟩⟩)
  | notAFile hexists hother =>
      exact load_of_no_file (check_eq_config_iff.mpr ⟨rfl, Or.inr ⟨hexists, hother, rfl⟩⟩)
  | unreadable hformat hstat =>
      exact load_of_no_text hformat
        (text_eq_config_iff.mpr (content_eq_config_iff.mpr (Or.inr ⟨rfl, _, hstat, rfl⟩)))
  | json hformat htext hread =>
      rw [load_json hformat, text_eq_ok_iff.mpr htext]
      exact parseJson_eq_config_iff.mpr ⟨rfl, _, hread, rfl⟩
  | yaml hformat htext hread =>
      rw [load_yaml hformat, text_eq_ok_iff.mpr htext]
      exact parseYaml_eq_config_iff.mpr ⟨rfl, hread, rfl⟩
  | failure hmodule hfile hran =>
      rw [load_of_isModule hmodule]
      exact runModule_eq_config_iff.mpr (Or.inr ⟨rfl, hfile, Or.inl ⟨_, hran, rfl⟩⟩)
  | lacking hmodule hfile hran =>
      rw [load_of_isModule hmodule]
      exact runModule_eq_config_iff.mpr (Or.inr ⟨rfl, hfile, Or.inr ⟨hran, rfl⟩⟩)

end Load

/-! ## Classes of errors -/

/-- The path leads to no file, or to one that the system refuses to read. The latter is not
noticed before a module is run. -/
def NotRead (w : Workspace) (p : Path) : Prop :=
  ¬ w.LeadsToFile p ∨ (IsUnreadable w p ∧ Format.ofSuffix p.suffix ≠ .module)

variable [Platform]

/-- The suffix of the file asks for a document, and its text is none. -/
def Unparsable (w : Workspace) (p : Path) : Prop :=
  ∃ text, HoldsText w p text ∧
    ((Format.ofSuffix p.suffix = .json ∧ ∀ v, Json.readWithin Platform.jsonLevels text ≠ .ok v) ∨
      (Format.ofSuffix p.suffix = .yaml ∧ ∀ v, Platform.yaml text ≠ .ok v))

/-- The file is run as a module, and that fails or defines no configuration. -/
def FailsToRun (w : Workspace) (p : Path) : Prop :=
  IsModule w p ∧ w.LeadsToFile p ∧
    ((∃ c, Platform.run w p = .failed c) ∨ (∃ r, Platform.run w p = .escaped r) ∨
      Platform.run w p = .undefined)

section Classes

variable {w : Workspace} {p : Path} {problem : ConfigProblem}

theorem Unparsable.not_notRead (h : Unparsable w p) : ¬ NotRead w p := by
  obtain ⟨text, ⟨c, hc, htext⟩, -⟩ := h
  rintro (hfile | ⟨⟨error, hstat⟩, -⟩)
  · exact hfile ⟨c, hc⟩
  · rw [hc] at hstat
    cases hstat
    cases htext

theorem FailsToRun.not_notRead (h : FailsToRun w p) : ¬ NotRead w p := by
  obtain ⟨hmodule, hfile, -⟩ := h
  rintro (hnone | ⟨⟨error, hstat⟩, hformat⟩)
  · exact hnone hfile
  · rcases hmodule with hmodule | ⟨-, text, e, ⟨c, hc, htext⟩, -⟩
    · exact hformat hmodule
    · rw [hc] at hstat
      cases hstat
      cases htext

theorem Unparsable.not_failsToRun (h : Unparsable w p) : ¬ FailsToRun w p := by
  rintro ⟨hmodule, -⟩
  obtain ⟨text, -, ⟨hformat, -⟩ | ⟨hformat, -⟩⟩ := h
  · simp [IsModule, hformat] at hmodule
  · simp [IsModule, hformat] at hmodule

/-- The class of a problem with a file tells its cause. -/
theorem Blame.cause (h : Blame w p problem) :
    (problem.cls = .read ∧ NotRead w p) ∨ (problem.cls = .parse ∧ Unparsable w p) ∨
      (problem.cls = .module ∧ FailsToRun w p) := by
  cases h with
  | missing habsent =>
      refine Or.inl ⟨rfl, Or.inl fun ⟨c, hc⟩ => ?_⟩
      simp [Workspace.exists?, Workspace.test, hc] at habsent
  | notAFile _ hother =>
      refine Or.inl ⟨rfl, Or.inl fun hfile => ?_⟩
      rw [Workspace.isFile?_of_leadsToFile hfile] at hother
      cases hother
  | unreadable hformat hstat => exact Or.inl ⟨rfl, Or.inr ⟨⟨_, hstat⟩, hformat⟩⟩
  | json hformat htext hread =>
      exact Or.inr (Or.inl ⟨rfl, _, htext, Or.inl ⟨hformat, by simp [hread]⟩⟩)
  | yaml hformat htext hread =>
      exact Or.inr (Or.inl ⟨rfl, _, htext, Or.inr ⟨hformat, by simp [hread]⟩⟩)
  | failure hmodule hfile hran =>
      exact Or.inr (Or.inr ⟨rfl, hmodule, hfile, Or.inl ⟨_, hran⟩⟩)
  | lacking hmodule hfile hran =>
      exact Or.inr (Or.inr ⟨rfl, hmodule, hfile, Or.inr (Or.inr hran)⟩)

/-- No two of the causes are there at once, so each class has its own. -/
theorem Blame.classes (h : Blame w p problem) :
    problem.cls ∈ [.read, .parse, .module] ∧ (problem.cls = .read ↔ NotRead w p) ∧
      (problem.cls = .parse ↔ Unparsable w p) ∧ (problem.cls = .module ↔ FailsToRun w p) := by
  rcases h.cause with ⟨hcls, hread⟩ | ⟨hcls, hparse⟩ | ⟨hcls, hrun⟩
  · have hparse : ¬ Unparsable w p := fun h => h.not_notRead hread
    have hrun : ¬ FailsToRun w p := fun h => h.not_notRead hread
    simp [hcls, hread, hparse, hrun]
  · simp [hcls, hparse.not_notRead, hparse, hparse.not_failsToRun]
  · have hparse : ¬ Unparsable w p := fun h => h.not_failsToRun hrun
    simp [hcls, hrun.not_notRead, hparse, hrun]

end Classes

end ConfigFile

/-! ## Manifests and the values in them -/

namespace ConfigData

/-- The value is none that a configuration may be or name. -/
def Unsuitable (raw : Value) : Prop :=
  raw ≠ .null ∧ (∀ entries, raw ≠ .dict entries) ∧ (∀ items, raw ≠ .list items) ∧
    ∀ s, raw ≠ .str s

variable [Platform] {w : Workspace} {dir : Path} {raw : Value} {e : ConfigError}

/-- **An error is reported for a value in a manifest** iff it is unsuitable or names a file that
is to blame. -/
theorem resolve_eq_config_iff : (resolve w dir raw).outcome = .error (.config e) ↔
    (Unsuitable raw ∧ e.problem = .unsuitableValue raw ∧ e.path = some dir) ∨
      ∃ s p, raw = .str s ∧ w.resolve (dir.child s) = .ok p ∧
        ConfigFile.Blame w p e.problem ∧ e.path = some p := by
  obtain ⟨problem, path⟩ := e
  cases raw with
  | str s =>
      have hsuitable : ¬ Unsuitable (.str s) := fun h => h.2.2.2 s rfl
      cases hresolve : w.resolve (dir.child s) with
      | error f => simp [resolve, hresolve, hsuitable]
      | ok p =>
          have hload := ConfigFile.load_eq_config_iff (w := w) (p := p) (e := ⟨problem, path⟩)
          simp only [resolve, hresolve, outcome_andThen, outcome_notice, outcome_pure,
            Outcome.chain_eq_error_iff, hload]
          simp [hsuitable, hresolve]
  | null => simp [resolve, Unsuitable]
  | dict entries => simp [resolve, Unsuitable]
  | list items => simp [resolve, Unsuitable]
  | _ => simp [resolve, Unsuitable, eq_comm]

end ConfigData

namespace Manifest

variable [Platform]

/-- The value in the text of a manifest under which its entries stand. -/
def space? (q : Path) (text : String) : Option Value :=
  if q.name = tomlName then
    if Platform.exhaustsToml text then none
    else (Toml.read text).toOption.map fun v => (v.get? tomlEntry).getD (.dict [])
  else (Json.readWithin Platform.jsonLevels text).toOption

/-- The text of a manifest does not parse, or its entries stand under no object. -/
def Malformed (q : Path) (text : String) : Prop :=
  ∀ data, space? q text ≠ some (.dict data)

section Read

variable {w : Workspace} {q : Path} {text : String} {m : Manifest} {e : ConfigError}

/-- The value of a manifest is read before it is asked for its entries. -/
theorem parse_eq : parse q text =
    (if q.name = tomlName then parseToml q text else parseJson q text) >>= fun v =>
      match v with
      | .dict data => .ok ⟨data, q⟩
      | v => .error (.config ⟨.manifestNotObject v.kindName, some q⟩) := by
  rw [parse]
  split_ifs <;> rfl

theorem value_eq_ok_iff {v : Value} :
    (if q.name = tomlName then parseToml q text else parseJson q text) = .ok v ↔
      space? q text = some v := by
  rw [space?]
  split_ifs with hname hdeep
  · simp [parseToml, hdeep]
  · rw [parseToml, if_neg hdeep]
    rcases Toml.read text with (_ | f | _) | u <;> simp [Except.toOption]
  · rw [parseJson]
    rcases Json.readWithin Platform.jsonLevels text with (_ | _ | _ | _) | u <;>
      simp [Except.toOption]

theorem value_blames
    (h : (if q.name = tomlName then parseToml q text else parseJson q text) =
      .error (.config e)) : e.cls = .parse ∧ e.path = some q := by
  split_ifs at h
  · rw [parseToml] at h
    split_ifs at h
    · cases h
    · rcases hread : Toml.read text with (_ | f | _) | u <;> simp [hread] at h
      exact h ▸ ⟨rfl, rfl⟩
  · rw [parseJson] at h
    rcases hread : Json.readWithin Platform.jsonLevels text with (_ | _ | _ | _) | u <;>
      simp [hread] at h
    exact h ▸ ⟨rfl, rfl⟩

theorem parse_eq_ok_iff :
    parse q text = .ok m ↔ space? q text = some (.dict m.data) ∧ m.path = q := by
  obtain ⟨data, path⟩ := m
  rw [parse_eq, Outcome.chain_eq_ok_iff]
  simp only [value_eq_ok_iff]
  constructor
  · rintro ⟨v, hv, hm⟩
    cases v <;> simp at hm
    exact ⟨hm.1 ▸ hv, hm.2.symm⟩
  · rintro ⟨hv, rfl⟩
    exact ⟨_, hv, rfl⟩

theorem parse_blames (h : parse q text = .error (.config e)) :
    Malformed q text ∧ e.cls = .parse ∧ e.path = some q := by
  have hmalformed : Malformed q text := by
    intro data hdata
    have hm : parse q text = .ok ⟨data, q⟩ := parse_eq_ok_iff.mpr ⟨hdata, rfl⟩
    rw [hm] at h
    cases h
  refine ⟨hmalformed, ?_⟩
  rw [parse_eq, Outcome.chain_eq_error_iff] at h
  rcases h with h | ⟨v, -, hv⟩
  · exact value_blames h
  · cases v <;> simp at hv <;> exact hv ▸ ⟨rfl, rfl⟩

/-- A manifest that is found is read from the text that it holds, if it can be read and holds
one. -/
theorem read_cases (hfile : w.isFile? q = .ok true) :
    (∃ text, ConfigFile.HoldsText w q text ∧ read w q = parse q text) ∨
      read w q = .error .undecodable ∨
      ∃ error, w.stat q = .ok (.file (.unreadable error)) ∧
        read w q = .error (.config ⟨.unreadableManifest (.unreadable error), some q⟩) := by
  obtain ⟨c, hc⟩ := Workspace.isFile?_eq_true_iff.mp hfile
  rw [read_of_stat hc]
  cases c with
  | text s => exact Or.inl ⟨_, ⟨_, hc, rfl⟩, rfl⟩
  | undecodable => exact Or.inr (Or.inl rfl)
  | unreadable error => exact Or.inr (Or.inr ⟨error, hc, rfl⟩)

end Read

end Manifest

namespace Loader

/-- The class and the path of an error tell where the fault lies: in the nearest manifest, in
the value that it has for the loader, or in the file that this value names. -/
inductive Blame [Platform] (w : Workspace) (l : Loader) (file : String) (e : ConfigError) : Prop
  | unreadable {q : Path} {error : SystemError}
      (hfinds : l.Finds w file q)
      (hstat : w.stat q = .ok (.file (.unreadable error)))
      (hcls : e.cls = .read)
      (hproblem : e.problem = .unreadableManifest (.unreadable error))
      (hpath : e.path = some q)
  | manifest {q : Path} {text : String}
      (hfinds : l.Finds w file q)
      (htext : ConfigFile.HoldsText w q text)
      (hmalformed : Manifest.Malformed q text)
      (hcls : e.cls = .parse)
      (hpath : e.path = some q)
  | value {q : Path} {text : String} {data : List (Value × Value)} {raw : Value}
      (hfinds : l.Finds w file q)
      (htext : ConfigFile.HoldsText w q text)
      (hspace : Manifest.space? q text = some (.dict data))
      (hraw : raw = (Value.lookup (.str l.name) data).getD .null)
      (hunsuitable : ConfigData.Unsuitable raw)
      (hcls : e.cls = .shape)
      (hproblem : e.problem = .unsuitableValue raw)
      (hpath : e.path = some q.parent)
  | target {q p : Path} {text s : String} {data : List (Value × Value)}
      (hfinds : l.Finds w file q)
      (htext : ConfigFile.HoldsText w q text)
      (hspace : Manifest.space? q text = some (.dict data))
      (hraw : (Value.lookup (.str l.name) data).getD .null = .str s)
      (hresolve : w.resolve (q.parent.child s) = .ok p)
      (hpath : e.path = some p)
      (hcls : e.cls ∈ [.read, .parse, .module])
      (hread : e.cls = .read ↔ ConfigFile.NotRead w p)
      (hparse : e.cls = .parse ↔ ConfigFile.Unparsable w p)
      (hmodule : e.cls = .module ↔ ConfigFile.FailsToRun w p)

section Load

variable [Platform] {w : Workspace} {l : Loader} {file : String} {e : ConfigError}

/-- An error is reported for a file iff it is for the manifest that is found or for its value. -/
theorem load_eq_config_iff (hoverride : l.override = none) :
    (l.load w file).outcome = .error (.config e) ↔ ∃ q, l.Finds w file q ∧
      (Manifest.read w q >>= fun m =>
        (ConfigData.resolve w m.directory ((m.get? l.name).getD .null)).outcome) =
          .error (.config e) := by
  constructor
  · intro h
    cases hresolve : w.resolve (Path.ofText file) with
    | error f =>
        obtain ⟨names, hnames⟩ := exists_names w l.manifestNames
        have hlocate : (Manifest.locate w file l.manifestNames).outcome = .error (.path f) := by
          rw [Manifest.locate]
          simp only [outcome_andThen, hnames, hresolve]
          rfl
        rw [load_of_failed hoverride hlocate] at h
        cases h
    | ok p =>
        rcases load_cases hoverride hresolve with
          ⟨q, fault, -, hload⟩ | ⟨q, hq, hload⟩ | ⟨-, hload⟩
        · rw [hload] at h
          cases fault <;> cases h
        · exact ⟨q, ⟨p, hresolve, hq⟩, hload ▸ h⟩
        · rw [hload] at h
          cases h
  · rintro ⟨q, ⟨p, hresolve, hq⟩, h⟩
    rw [load_of_nearest hoverride hresolve hq]
    exact h

theorem blame_of_load (hoverride : l.override = none)
    (h : (l.load w file).outcome = .error (.config e)) : Blame w l file e := by
  obtain ⟨q, hfinds, hresult⟩ := (load_eq_config_iff hoverride).mp h
  have hfile : w.isFile? q = .ok true := by
    obtain ⟨start, -, hsettles⟩ := hfinds
    exact hsettles.told_eq
  rcases Manifest.read_cases hfile with ⟨text, htext, hread⟩ | hread | ⟨error, hstat, hread⟩
  · rw [hread, Outcome.chain_eq_error_iff] at hresult
    rcases hresult with hparse | ⟨m, hm, hvalue⟩
    · obtain ⟨hmalformed, hcls, hpath⟩ := Manifest.parse_blames hparse
      exact .manifest hfinds htext hmalformed hcls hpath
    · obtain ⟨hspace, rfl⟩ := Manifest.parse_eq_ok_iff.mp hm
      rcases ConfigData.resolve_eq_config_iff.mp hvalue with
        ⟨hunsuitable, hproblem, hpath⟩ | ⟨s, p, hs, hresolve, hblame, hpath⟩
      · exact .value hfinds htext hspace rfl hunsuitable (congrArg ConfigProblem.cls hproblem)
          hproblem hpath
      · obtain ⟨hcls, hread, hparse, hmodule⟩ := hblame.classes
        exact .target hfinds htext hspace hs hresolve hpath hcls hread hparse hmodule
  · rw [hread] at hresult
    cases hresult
  · rw [hread] at hresult
    cases hresult
    exact .unreadable hfinds hstat rfl rfl rfl

theorem Blame.cls_mem (h : Blame w l file e) : e.cls ∈ [.read, .parse, .module, .shape] := by
  cases h with
  | unreadable _ _ hcls => simp [hcls]
  | manifest _ _ _ hcls => simp [hcls]
  | value _ _ _ _ _ hcls => simp [hcls]
  | target _ _ _ _ _ _ hcls => exact List.mem_append_left [ConfigErrorClass.shape] hcls

theorem Blame.exists_path (h : Blame w l file e) : ∃ p, e.path = some p := by
  cases h with
  | unreadable _ _ _ _ hpath => exact ⟨_, hpath⟩
  | manifest _ _ _ _ hpath => exact ⟨_, hpath⟩
  | value _ _ _ _ _ _ _ hpath => exact ⟨_, hpath⟩
  | target _ _ _ _ _ hpath => exact ⟨_, hpath⟩

end Load

/-! ### A manifest that names a file -/

section Dangling

open Json (skip isSpace)
open Manifest (below)

/-- A workspace with a manifest that names a file, which is not there. -/
def dangling : Workspace :=
  withManifest (.text "\x7b\"t\":\"c.js\"\x7d")

theorem dangling_read : Manifest.read dangling (atRoot "package.json") =
    .ok ⟨[(.str "t", .str "c.js")], atRoot "package.json"⟩ := by
  have hchars : (Lines.normalize "\x7b\"t\":\"c.js\"\x7d").toList =
      ['\x7b', '"', 't', '"', ':', '"', 'c', '.', 'j', 's', '"', '\x7d'] := by
    decide
  have hread : Json.readWithin Standard.platform.jsonLevels
      (Lines.normalize "\x7b\"t\":\"c.js\"\x7d") = .ok (.dict [(.str "t", .str "c.js")]) :=
    Json.readWithin_of_reads hchars (by simp)
      (.dict (by simp [skip, isSpace]) (.lastMember rfl rfl (.text rfl) rfl)) rfl
  have hspace : Manifest.space? (atRoot "package.json")
      (Lines.normalize "\x7b\"t\":\"c.js\"\x7d") = some (.dict [(.str "t", .str "c.js")]) := by
    rw [Manifest.space?, if_neg (by decide), hread]
    rfl
  have hparse : Manifest.parse (atRoot "package.json")
      (Lines.normalize "\x7b\"t\":\"c.js\"\x7d") =
        .ok ⟨[(.str "t", .str "c.js")], atRoot "package.json"⟩ :=
    Manifest.parse_eq_ok_iff.mpr ⟨hspace, rfl⟩
  rw [dangling, Manifest.read_of_stat withManifest_stat_manifest]
  exact hparse

end Dangling

end Loader
end BuildTransform
