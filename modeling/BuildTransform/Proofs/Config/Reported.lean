import BuildTransform.Proofs.Config.Escapes

/-!
# What loading reports

Loading configuration for a file ends in one of three ways: it is reported, as a result or as an
error of configuration, another failure escapes, or it is left open how it ends.

* `ConfigFile.LeftOpen`, `ConfigData.LeftOpen`, `Manifest.LeftOpen` and `Loader.LeftOpen` list
  what leaves it open, from one file to the whole search: half of a pair of units in a document,
  and a module whose run does not come to an end.
* `load_reported_iff` concludes: it is reported how loading ends unless a failure escapes or
  that is left open.
-/

namespace BuildTransform

namespace ConfigFile

variable [Platform]

/-- What leaves open how loading a file ends. -/
inductive LeftOpen (w : Workspace) (p : Path) : Prop
  | json {text : String}
      (hformat : Format.ofSuffix p.suffix = .json ∨ Format.ofSuffix p.suffix = .unknown)
      (htext : HoldsText w p text)
      (h : Json.readWithin Platform.jsonLevels text = .error .unpairedUnit)
  | yaml {text : String}
      (hformat : Format.ofSuffix p.suffix = .yaml)
      (htext : HoldsText w p text)
      (h : Platform.yaml text = .error .unpairedUnit)
  | module {c : Content}
      (hmodule : IsModule w p)
      (hfile : w.stat p = .ok (.file c))
      (hran : Platform.run w p = .unfinished)

section Load

variable {w : Workspace} {p : Path} {s : String}

omit [Platform] in
/-- Checking a path leaves nothing open. -/
theorem check_ne_open : check w p ≠ .error .beyondLanguage := by
  rcases check_cases w p with ⟨-, f, hf, hreported⟩ | ⟨c, -, h⟩ | ⟨-, -, e, h⟩
  · rw [hf]
    rintro ⟨⟩
    exact hreported trivial
  · rw [h]
    nofun
  · rw [h]
    nofun

omit [Platform] in
theorem text_ne_open : text w p ≠ .error .beyondLanguage := by
  intro h
  rcases Outcome.chain_eq_error_iff.mp h with h | ⟨c, -, h⟩
  · rcases Outcome.chain_eq_error_iff.mp h with h | ⟨-, -, h⟩
    · exact check_ne_open h
    · cases hread : w.read p <;> rw [hread] at h <;> cases h
  · cases htext : c.text? <;> rw [htext] at h <;> cases h

omit [Platform] in
/-- What is read behind a text leaves open what reading the text does. -/
theorem open_ofText_iff {read : String → Except Failure Value} :
    (text w p >>= read) = .error .beyondLanguage ↔
      ∃ s, HoldsText w p s ∧ read s = .error .beyondLanguage := by
  simp only [Outcome.chain_eq_error_iff, text_eq_ok_iff, or_iff_right text_ne_open]

theorem parseJson_open_iff : parseJson p s = .error .beyondLanguage ↔
    Json.readWithin Platform.jsonLevels s = .error .unpairedUnit := by
  unfold parseJson
  rcases Json.readWithin Platform.jsonLevels s with (e | _ | _ | _) | v <;> simp [failure]

theorem parseYaml_open_iff : parseYaml p s = .error .beyondLanguage ↔
    Platform.yaml s = .error .unpairedUnit := by
  unfold parseYaml
  rcases Platform.yaml s with (_ | fault | _) | v <;> simp [failure]

theorem runModule_open_iff : runModule w p = .error .beyondLanguage ↔
    ∃ c, w.stat p = .ok (.file c) ∧ Platform.run w p = .unfinished := by
  have hending {ending : Script.Ending} :
      moduleValue p ending = .error .beyondLanguage ↔ ending = .unfinished := by
    cases ending <;> simp [moduleValue, failure]
  simp only [runModule, Outcome.chain_eq_error_iff, or_iff_right check_ne_open, check_eq_ok_iff,
    hending, exists_and_left, exists_and_right, exists_const]

/-- What is read as JSON if it is JSON. -/
theorem jsonOr_open_iff {other : Except Failure Value} :
    jsonOr p s other = .error .beyondLanguage ↔
      Json.readWithin Platform.jsonLevels s = .error .unpairedUnit ∨
        (∃ e, Json.readWithin Platform.jsonLevels s = .error (.malformed e)) ∧
          other = .error .beyondLanguage := by
  rcases jsonOr_cases p s other with ⟨e, hread, h⟩ | ⟨hread, h⟩
  · simp [h, hread]
  · simp [h, hread, parseJson_open_iff]

/-- **How loading a file ends is left open** by the listed causes only. -/
theorem load_open_iff : (load w p).outcome = .error .beyondLanguage ↔ LeftOpen w p := by
  cases hformat : Format.ofSuffix p.suffix with
  | json =>
      rw [load_json hformat, open_ofText_iff]
      simp only [parseJson_open_iff]
      constructor
      · rintro ⟨s, hs, h⟩
        exact .json (Or.inl hformat) hs h
      · rintro (⟨-, hs, h⟩ | ⟨hyaml, -, -⟩ | ⟨hmodule, -, -⟩)
        · exact ⟨_, hs, h⟩
        · simp [hformat] at hyaml
        · simp [IsModule, hformat] at hmodule
  | yaml =>
      rw [load_yaml hformat, open_ofText_iff]
      simp only [parseYaml_open_iff]
      constructor
      · rintro ⟨s, hs, h⟩
        exact .yaml hformat hs h
      · rintro (⟨hjson, -, -⟩ | ⟨-, hs, h⟩ | ⟨hmodule, -, -⟩)
        · simp [hformat] at hjson
        · exact ⟨_, hs, h⟩
        · simp [IsModule, hformat] at hmodule
  | module =>
      rw [load_module hformat, runModule_open_iff]
      constructor
      · rintro ⟨c, hc, h⟩
        exact .module (Or.inl hformat) hc h
      · rintro (⟨hjson, -, -⟩ | ⟨hyaml, -, -⟩ | ⟨-, hc, h⟩)
        · simp [hformat] at hjson
        · simp [hformat] at hyaml
        · exact ⟨_, hc, h⟩
  | unknown =>
      rw [load_unknown hformat, open_ofText_iff]
      simp only [jsonOr_open_iff, runModule_open_iff]
      constructor
      · rintro ⟨s, hs, h | ⟨⟨e, hread⟩, c, hc, h⟩⟩
        · exact .json (Or.inr hformat) hs h
        · exact .module (Or.inr ⟨hformat, s, e, hs, hread⟩) hc h
      · rintro (⟨-, hs, h⟩ | ⟨hyaml, -, -⟩ | ⟨hmodule, hc, h⟩)
        · exact ⟨_, hs, Or.inl h⟩
        · simp [hformat] at hyaml
        · rcases hmodule with hmodule | ⟨-, s, e, hs, hread⟩
          · simp [hformat] at hmodule
          · exact ⟨s, hs, Or.inr ⟨⟨e, hread⟩, _, hc, h⟩⟩

end Load

end ConfigFile

namespace ConfigData

/-- What leaves open how the value in a manifest is resolved: the file that it names. -/
def LeftOpen [Platform] (w : Workspace) (dir : Path) (raw : Value) : Prop :=
  ∃ s p, raw = .str s ∧ w.resolve (dir.child s) = .ok p ∧ ConfigFile.LeftOpen w p

theorem resolve_open_iff [Platform] {w : Workspace} {dir : Path} {raw : Value} :
    (resolve w dir raw).outcome = .error .beyondLanguage ↔ LeftOpen w dir raw := by
  constructor
  · intro h
    cases raw with
    | str s =>
        cases hresolve : w.resolve (dir.child s) with
        | error fault => simp [resolve, hresolve] at h
        | ok p =>
            rw [resolve_named hresolve, Outcome.map_eq_error_iff] at h
            exact ⟨s, p, rfl, hresolve, ConfigFile.load_open_iff.mp h⟩
    | _ => simp [resolve] at h
  · rintro ⟨s, p, rfl, hresolve, h⟩
    rw [resolve_named hresolve, Outcome.map_eq_error_iff]
    exact ConfigFile.load_open_iff.mpr h

end ConfigData

namespace Manifest

variable [Platform]

/-- What leaves open how reading the manifest in a file ends. -/
inductive LeftOpen (w : Workspace) (p : Path) : Prop
  | json {text : String}
      (hname : p.name ≠ tomlName)
      (htext : ConfigFile.HoldsText w p text)
      (h : Json.readWithin Platform.jsonLevels text = .error .unpairedUnit)
  | toml {text : String}
      (hname : p.name = tomlName)
      (htext : ConfigFile.HoldsText w p text)
      (hnesting : Platform.exhaustsToml text = false)
      (h : Toml.read text = .error .unpairedUnit)

section Read

variable {w : Workspace} {p : Path} {text : String}

theorem parseJson_open_iff : parseJson p text = .error .beyondLanguage ↔
    Json.readWithin Platform.jsonLevels text = .error .unpairedUnit := by
  unfold parseJson
  rcases Json.readWithin Platform.jsonLevels text with (e | _ | _ | _) | v <;> simp

theorem parseToml_open_iff : parseToml p text = .error .beyondLanguage ↔
    Platform.exhaustsToml text = false ∧ Toml.read text = .error .unpairedUnit := by
  unfold parseToml
  cases Platform.exhaustsToml text with
  | true => simp
  | false => rcases Toml.read text with (_ | fault | _) | v <;> simp

/-- A document that is no manifest is reported. -/
theorem parse_open_iff : parse p text = .error .beyondLanguage ↔
    (if p.name = tomlName then parseToml p text else parseJson p text) =
      .error .beyondLanguage := by
  unfold parse
  split_ifs
  all_goals
    refine Outcome.chain_eq_error_iff.trans (or_iff_left ?_)
    rintro ⟨v, -, h⟩
    cases v <;> cases h

/-- Of a file that is read only its text can leave something open. -/
theorem read_eq_open_iff : read w p = .error .beyondLanguage ↔
    ∃ text, ConfigFile.HoldsText w p text ∧ parse p text = .error .beyondLanguage := by
  constructor
  · intro h
    unfold read at h
    split at h
    · cases h
    · cases h
    · next c hread =>
        split at h
        · cases h
        · next text htext => exact ⟨text, ⟨c, Workspace.stat_of_read hread, htext⟩, h⟩
  · rintro ⟨text, ⟨c, hstat, htext⟩, h⟩
    cases c with
    | text s =>
        cases htext
        simpa only [read, Workspace.read_of_stat hstat, Content.text?] using h
    | _ => cases htext

theorem read_open_iff : read w p = .error .beyondLanguage ↔ LeftOpen w p := by
  rw [read_eq_open_iff]
  simp only [parse_open_iff]
  constructor
  · rintro ⟨text, htext, h⟩
    split_ifs at h with hname
    · obtain ⟨hnesting, h⟩ := parseToml_open_iff.mp h
      exact .toml hname htext hnesting h
    · exact .json hname htext (parseJson_open_iff.mp h)
  · rintro (⟨hname, htext, h⟩ | ⟨hname, htext, hnesting, h⟩)
    · exact ⟨_, htext, by rw [if_neg hname, parseJson_open_iff.mpr h]⟩
    · exact ⟨_, htext, by rw [if_pos hname, parseToml_open_iff.mpr ⟨hnesting, h⟩]⟩

end Read

end Manifest

namespace Loader

/-- What leaves open how loading for a file at a path ends. -/
inductive LeftOpen [Platform] (w : Workspace) (l : Loader) (p : Path) : Prop
  | manifest {q : Path}
      (hnearest : w.Settles (manifestPaths w l p) q (.ok true))
      (h : Manifest.LeftOpen w q)
  | value {q : Path} {m : Manifest}
      (hnearest : w.Settles (manifestPaths w l p) q (.ok true))
      (hread : Manifest.read w q = .ok m)
      (h : ConfigData.LeftOpen w m.directory ((m.get? l.name).getD .null))

section Load

variable [Platform] {w : Workspace} {l : Loader} {file : String} {p : Path}

theorem load_open_iff (hoverride : l.override = none)
    (hresolve : w.resolve (Path.ofText file) = .ok p) :
    (l.load w file).outcome = .error .beyondLanguage ↔ LeftOpen w l p := by
  rcases load_cases hoverride hresolve with
    ⟨q, fault, hq, hload⟩ | ⟨q, hq, hload⟩ | ⟨habsent, hload⟩
  · rw [hload]
    refine iff_of_false (by cases fault <;> nofun) ?_
    rintro (⟨hother, -⟩ | ⟨hother, -, -⟩) <;> cases (hq.unique hother).2
  · rw [hload, Outcome.chain_eq_error_iff, Manifest.read_open_iff]
    simp only [ConfigData.resolve_open_iff]
    constructor
    · rintro (h | ⟨m, hread, h⟩)
      · exact .manifest hq h
      · exact .value hq hread h
    · rintro (⟨hother, h⟩ | ⟨hother, hread, h⟩)
      · obtain ⟨rfl, -⟩ := hq.unique hother
        exact Or.inl h
      · obtain ⟨rfl, -⟩ := hq.unique hother
        exact Or.inr ⟨_, hread, h⟩
  · rw [hload]
    refine iff_of_false nofun ?_
    rintro (⟨h, -⟩ | ⟨h, -, -⟩) <;> exact h.not_all_absent habsent

end Load

/-! ### A workspace with one manifest -/

section OneManifest

/-- A workspace whose only file is a manifest at the root, which is the working
directory. -/
def withManifest (c : Content) : Workspace :=
  ⟨⟨[(["package.json"], .file c)]⟩, [], none⟩

/-- The path of a name at the root. -/
def atRoot (name : String) : Path :=
  ⟨.single, [name]⟩

/-- A loader that was given a name only. -/
def plain : Loader :=
  ⟨"t", [], Options.empty, none⟩

variable {c : Content}

theorem withManifest_linkFree : (withManifest c).tree.LinkFree :=
  FileTree.linkFree_of_entries (by simp [withManifest])

theorem withManifest_stat_manifest :
    (withManifest c).stat (atRoot "package.json") = .ok (.file c) :=
  Workspace.stat_of_open withManifest_linkFree (by decide) ⟨rfl, trivial⟩

theorem withManifest_resolve :
    (withManifest c).resolve (Path.ofText "x.js") = .ok (atRoot "x.js") :=
  Workspace.resolve_of_follow withManifest_linkFree (by decide)
    (Workspace.start_of_home rfl _) (by decide)

theorem withManifest_nearest :
    (withManifest c).Settles (manifestPaths (withManifest c) plain (atRoot "x.js"))
      (atRoot "package.json") (.ok true) := by
  have hpaths : manifestPaths (withManifest c) plain (atRoot "x.js") =
      [atRoot "package.json"] :=
    (manifestPaths_of_default rfl rfl).trans (by decide)
  rw [hpaths, Workspace.settles_cons_iff]
  exact Or.inl ⟨rfl, by decide,
    Workspace.isFile?_eq_true_iff.mpr ⟨c, withManifest_stat_manifest⟩⟩

end OneManifest

end Loader
end BuildTransform
