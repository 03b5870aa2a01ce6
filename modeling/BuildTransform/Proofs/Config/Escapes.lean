import BuildTransform.Config.Loader
import BuildTransform.Config.Standard
import BuildTransform.Proofs.Config.Nearest
import BuildTransform.Proofs.Workspace.LinkFree

/-!
# Failures that are no configuration errors

Which failures escape when configuration is loaded for a file, although loading
reports what is wrong with configuration as an error of its own.

* `Escapes` says that an outcome is such a failure.
* `ConfigFile.Escape`, `ConfigData.Escape`, `Manifest.Escape` and `Loader.Escape`
  list the causes, from one file to the whole search: names that are too long,
  directories that are closed, contents that are no text, numerals and nestings
  beyond the limits of the platform, values that a well-formed document cannot
  denote, paths that cannot be resolved, and modules that stop the program or
  fail without a text.
* Each of them has a lemma `escapes_.._iff`: there are no other causes, on any platform.
-/

namespace BuildTransform

/-! ## Outcomes -/

/-- The failure is reported as an error of configuration. Running into what the
language of modules leaves open is no failure of loading. -/
def Failure.IsReported : Failure → Prop
  | .config _ => True
  | .beyondLanguage => True
  | _ => False

/-- The outcome is a failure that is not reported as an error of configuration. -/
def Escapes {α : Type} (outcome : Except Failure α) : Prop :=
  ∃ f, outcome = .error f ∧ ¬ f.IsReported

section Outcomes

variable {α β : Type} {x : Except Failure α}

@[simp] theorem not_escapes_ok (a : α) : ¬ Escapes (Except.ok a : Except Failure α) := by
  simp [Escapes]

@[simp] theorem escapes_error_iff {f : Failure} :
    Escapes (Except.error f : Except Failure α) ↔ ¬ f.IsReported := by
  simp [Escapes]

/-- A failure escapes from a chain where it escapes from one of its operations. -/
theorem escapes_chain_iff {next : α → Except Failure β} :
    Escapes (x >>= next) ↔ Escapes x ∨ ∃ a, x = .ok a ∧ Escapes (next a) := by
  rcases x with f | a <;> simp [bind, Except.bind, Escapes]

/-- The outcome of one report after another. -/
theorem outcome_andThen {r : Report α} {next : α → Report β} :
    (r >>= next).outcome = r.outcome >>= fun a => (next a).outcome := by
  show (r.andThen next).outcome = _
  unfold Report.andThen
  cases r.outcome <;> rfl

@[simp] theorem outcome_pure (a : α) : (pure a : Report α).outcome = .ok a :=
  rfl

@[simp] theorem outcome_ofExcept : (Report.ofExcept x).outcome = x :=
  rfl

@[simp] theorem outcome_fail {f : Failure} : (Report.fail f : Report α).outcome = .error f :=
  rfl

@[simp] theorem outcome_notice (n : Notice) : (Report.notice n).outcome = .ok () :=
  rfl

end Outcomes

/-! ## Documents -/

/-- The JSON text is refused for its size, not for its form. -/
def Json.Exceeds [Platform] (text : String) : Prop :=
  Json.readWithin Platform.jsonLevels text = .error .integerTooLong ∨
    Json.readWithin Platform.jsonLevels text = .error .tooDeep

/-- The path cannot be looked at: a name on it is too long, or it leads through a closed
directory. -/
def Workspace.Bars (w : Workspace) (p : Path) : Prop :=
  w.stat p = .error .nameTooLong ∨ w.stat p = .error .denied

namespace ConfigFile

/-- The path leads to a file that holds a text, with uniform line breaks. -/
def HoldsText (w : Workspace) (p : Path) (text : String) : Prop :=
  ∃ c, w.stat p = .ok (.file c) ∧ c.text? = some text

/-- The path leads to a file that holds no text. -/
def HoldsNoText (w : Workspace) (p : Path) : Prop :=
  w.stat p = .ok (.file .undecodable)

section Content

variable {w : Workspace} {p : Path}

/-- What loading knows of a path before it looks at the content. -/
theorem check_cases (w : Workspace) (p : Path) :
    (w.Bars p ∧ Escapes (check w p)) ∨
    (∃ c, w.stat p = .ok (.file c) ∧ check w p = .ok ()) ∨
    (¬ w.Bars p ∧ (∀ c, w.stat p ≠ .ok (.file c)) ∧ ∃ e, check w p = .error (.config e)) := by
  unfold check Workspace.exists? Workspace.isFile? Workspace.test Workspace.Bars
  cases hstat : w.stat p with
  | error f =>
      cases f <;> simp [Except.mapError, Failure.ofFault, bind, Except.bind, failure,
        Failure.IsReported]
  | ok e => cases e <;> simp [Except.mapError, bind, Except.bind, failure]

theorem check_eq_ok_iff {u : Unit} : check w p = .ok u ↔ ∃ c, w.stat p = .ok (.file c) := by
  rcases check_cases w p with ⟨hbars, f, hf, -⟩ | ⟨c, hstat, h⟩ | ⟨-, hstat, e, h⟩
  · rcases hbars with hstat | hstat <;> simp [hf, hstat]
  · simp [h, hstat]
  · simp [h, hstat]

theorem escapes_check_iff : Escapes (check w p) ↔ w.Bars p := by
  rcases check_cases w p with ⟨hbars, h⟩ | ⟨c, hstat, h⟩ | ⟨hbars, -, e, h⟩
  · exact iff_of_true h hbars
  · simp [h, hstat, Workspace.Bars]
  · simp [h, hbars, Failure.IsReported]

theorem content_eq_ok_iff {c : Content} : content w p = .ok c ↔
    w.stat p = .ok (.file c) ∧ ∀ error, c ≠ .unreadable error := by
  simp only [content, Outcome.chain_eq_ok_iff, check_eq_ok_iff]
  constructor
  · rintro ⟨-, ⟨c', hstat⟩, h⟩
    rw [Workspace.read_of_stat hstat] at h
    cases c' <;> cases h <;> exact ⟨hstat, by simp⟩
  · rintro ⟨hstat, hreadable⟩
    refine ⟨(), ⟨c, hstat⟩, ?_⟩
    rw [Workspace.read_of_stat hstat]
    cases c with
    | unreadable error => exact absurd rfl (hreadable error)
    | text s => rfl
    | undecodable => rfl

theorem escapes_content_iff : Escapes (content w p) ↔ w.Bars p := by
  rw [content, escapes_chain_iff, escapes_check_iff]
  refine or_iff_left ?_
  rintro ⟨-, -, h⟩
  cases hread : w.read p <;> simp [hread, failure, Failure.IsReported] at h

theorem text_eq_ok_iff {s : String} : text w p = .ok s ↔ HoldsText w p s := by
  simp only [text, Outcome.chain_eq_ok_iff, content_eq_ok_iff, HoldsText]
  refine exists_congr fun c => ?_
  cases c <;> simp [Content.text?]

theorem escapes_text_iff : Escapes (text w p) ↔ w.Bars p ∨ HoldsNoText w p := by
  simp only [text, escapes_chain_iff, escapes_content_iff, content_eq_ok_iff, HoldsNoText]
  refine or_congr_right ⟨?_, fun h => ⟨_, ⟨h, by simp⟩, ?_⟩⟩
  · rintro ⟨c, ⟨hstat, hreadable⟩, hescapes⟩
    cases c with
    | text s => simp [Content.text?] at hescapes
    | undecodable => exact hstat
    | unreadable error => exact absurd rfl (hreadable error)
  · simp [Content.text?, Failure.IsReported]

/-- A file with a known way of being read gives a text first. -/
theorem escapes_ofText_iff {read : String → Except Failure Value} :
    Escapes (text w p >>= read) ↔ w.Bars p ∨ HoldsNoText w p ∨
      ∃ s, HoldsText w p s ∧ Escapes (read s) := by
  simp only [escapes_chain_iff, escapes_text_iff, text_eq_ok_iff, or_assoc]

/-- Of the ways in which a module ends one escapes. -/
theorem escapes_moduleValue_iff {ending : Script.Ending} :
    Escapes (moduleValue p ending) ↔ ∃ r, ending = .escaped r := by
  cases ending <;> simp [moduleValue, failure, Failure.IsReported]

end Content

variable [Platform]

/-- The file is run as a module: its suffix says so, or it has no known suffix and
its text is not JSON. -/
def IsModule (w : Workspace) (p : Path) : Prop :=
  Format.ofSuffix p.suffix = .module ∨
  (Format.ofSuffix p.suffix = .unknown ∧
    ∃ text e, HoldsText w p text ∧
      Json.readWithin Platform.jsonLevels text = .error (.malformed e))

/-- Why a failure escapes when a file is loaded. -/
inductive Escape (w : Workspace) (p : Path) : Prop
  | name
      (h : w.Bars p)
  | encoding
      (hformat : Format.ofSuffix p.suffix ≠ .module)
      (h : HoldsNoText w p)
  | json {text : String}
      (hformat : Format.ofSuffix p.suffix = .json ∨ Format.ofSuffix p.suffix = .unknown)
      (htext : HoldsText w p text)
      (h : Json.Exceeds text)
  | yaml {text : String} {fault : DocumentFault}
      (hformat : Format.ofSuffix p.suffix = .yaml)
      (htext : HoldsText w p text)
      (h : Platform.yaml text = .error (.fault fault))
  | module {c : Content} {r : Script.Raised}
      (hmodule : IsModule w p)
      (hfile : w.stat p = .ok (.file c))
      (hran : Platform.run w p = .escaped r)

section Load

variable {w : Workspace} {p : Path}

theorem escapes_parseJson_iff {s : String} : Escapes (parseJson p s) ↔ Json.Exceeds s := by
  unfold parseJson Json.Exceeds
  rcases Json.readWithin Platform.jsonLevels s with (e | _ | _ | _) | v <;>
    simp [failure, Failure.IsReported]

theorem escapes_parseYaml_iff {s : String} :
    Escapes (parseYaml p s) ↔ ∃ fault, Platform.yaml s = .error (.fault fault) := by
  unfold parseYaml
  rcases Platform.yaml s with (_ | fault | _) | v <;> simp [failure, Failure.IsReported]

theorem escapes_runModule_iff :
    Escapes (runModule w p) ↔ w.Bars p ∨
      ∃ c r, w.stat p = .ok (.file c) ∧ Platform.run w p = .escaped r := by
  simp only [runModule, escapes_chain_iff, escapes_check_iff, check_eq_ok_iff,
    escapes_moduleValue_iff, exists_and_left, exists_and_right, exists_const]

theorem load_json (hformat : Format.ofSuffix p.suffix = .json) :
    (load w p).outcome = text w p >>= parseJson p := by
  unfold load
  rw [hformat]
  rfl

theorem load_yaml (hformat : Format.ofSuffix p.suffix = .yaml) :
    (load w p).outcome = text w p >>= parseYaml p := by
  unfold load
  rw [hformat]
  rfl

theorem load_module (hformat : Format.ofSuffix p.suffix = .module) :
    (load w p).outcome = runModule w p := by
  unfold load
  rw [hformat]
  rfl

/-- The value of a text as JSON if it is JSON, or else another one. -/
def jsonOr (p : Path) (s : String) (other : Except Failure Value) : Except Failure Value :=
  match Json.readWithin Platform.jsonLevels s with
  | .error (.malformed _) => other
  | _ => parseJson p s

theorem jsonOr_cases (p : Path) (s : String) (other : Except Failure Value) :
    (∃ e, Json.readWithin Platform.jsonLevels s = .error (.malformed e) ∧
      jsonOr p s other = other) ∨
    ((∀ e, Json.readWithin Platform.jsonLevels s ≠ .error (.malformed e)) ∧
      jsonOr p s other = parseJson p s) := by
  unfold jsonOr
  split
  · next e he => exact Or.inl ⟨e, he, rfl⟩
  · next hother => exact Or.inr ⟨hother, rfl⟩

/-- A file of unknown format is read as JSON if it is JSON, else run. -/
theorem load_unknown (hformat : Format.ofSuffix p.suffix = .unknown) :
    (load w p).outcome = text w p >>= fun s => jsonOr p s (runModule w p) := by
  unfold load jsonOr
  rw [hformat]
  simp only [outcome_andThen, outcome_ofExcept]
  refine congrArg (text w p >>= ·) (funext fun s => ?_)
  rcases Json.readWithin Platform.jsonLevels s with (e | _ | _ | _) | v
  · simp only [outcome_andThen, outcome_notice, outcome_ofExcept]
    rfl
  all_goals simp only [outcome_ofExcept]

/-- A file of JSON lets a failure escape for its name, its encoding or its size. -/
theorem escape_json_iff (hformat : Format.ofSuffix p.suffix = .json) :
    Escape w p ↔ w.Bars p ∨ HoldsNoText w p ∨
      ∃ s, HoldsText w p s ∧ Json.Exceeds s := by
  constructor
  · rintro (h | ⟨-, h⟩ | ⟨-, hs, h⟩ | ⟨hyaml, -, -⟩ | ⟨hmodule, -, -⟩)
    · exact Or.inl h
    · exact Or.inr (Or.inl h)
    · exact Or.inr (Or.inr ⟨_, hs, h⟩)
    · simp [hformat] at hyaml
    · simp [IsModule, hformat] at hmodule
  · rintro (h | h | ⟨s, hs, h⟩)
    · exact .name h
    · exact .encoding (by simp [hformat]) h
    · exact .json (Or.inl hformat) hs h

theorem escape_yaml_iff (hformat : Format.ofSuffix p.suffix = .yaml) :
    Escape w p ↔ w.Bars p ∨ HoldsNoText w p ∨
      ∃ s, HoldsText w p s ∧ ∃ fault, Platform.yaml s = .error (.fault fault) := by
  constructor
  · rintro (h | ⟨-, h⟩ | ⟨hjson, -, -⟩ | ⟨-, hs, h⟩ | ⟨hmodule, -, -⟩)
    · exact Or.inl h
    · exact Or.inr (Or.inl h)
    · simp [hformat] at hjson
    · exact Or.inr (Or.inr ⟨_, hs, _, h⟩)
    · simp [IsModule, hformat] at hmodule
  · rintro (h | h | ⟨s, hs, fault, h⟩)
    · exact .name h
    · exact .encoding (by simp [hformat]) h
    · exact .yaml hformat hs h

/-- A module lets a failure escape for its name, or if running it does. -/
theorem escape_module_iff (hformat : Format.ofSuffix p.suffix = .module) :
    Escape w p ↔ w.Bars p ∨
      ∃ c r, w.stat p = .ok (.file c) ∧ Platform.run w p = .escaped r := by
  constructor
  · rintro (h | ⟨hother, -⟩ | ⟨hjson, -, -⟩ | ⟨hyaml, -, -⟩ | ⟨-, hc, h⟩)
    · exact Or.inl h
    · exact absurd hformat hother
    · simp [hformat] at hjson
    · simp [hformat] at hyaml
    · exact Or.inr ⟨_, _, hc, h⟩
  · rintro (h | ⟨c, r, hc, h⟩)
    · exact .name h
    · exact .module (Or.inl hformat) hc h

/-- A file of unknown format lets a failure escape as one of JSON does, or as a module does if
its text is no JSON. -/
theorem escape_unknown_iff (hformat : Format.ofSuffix p.suffix = .unknown) :
    Escape w p ↔ w.Bars p ∨ HoldsNoText w p ∨
      ∃ s, HoldsText w p s ∧ (Json.Exceeds s ∨
        (∃ e, Json.readWithin Platform.jsonLevels s = .error (.malformed e)) ∧
          Escapes (runModule w p)) := by
  constructor
  · rintro (h | ⟨-, h⟩ | ⟨-, hs, h⟩ | ⟨hyaml, -, -⟩ | ⟨hmodule, hc, h⟩)
    · exact Or.inl h
    · exact Or.inr (Or.inl h)
    · exact Or.inr (Or.inr ⟨_, hs, Or.inl h⟩)
    · simp [hformat] at hyaml
    · rcases hmodule with hmodule | ⟨-, s, e, hs, hread⟩
      · simp [hformat] at hmodule
      · exact Or.inr (Or.inr ⟨s, hs, Or.inr ⟨⟨e, hread⟩,
          escapes_runModule_iff.mpr (Or.inr ⟨_, _, hc, h⟩)⟩⟩)
  · rintro (h | h | ⟨s, hs, h | ⟨⟨e, hread⟩, h⟩⟩)
    · exact .name h
    · exact .encoding (by simp [hformat]) h
    · exact .json (Or.inr hformat) hs h
    · rcases escapes_runModule_iff.mp h with h | ⟨c, r, hc, h⟩
      · exact .name h
      · exact .module (Or.inr ⟨hformat, s, e, hs, hread⟩) hc h

/-- What is read as JSON if it is JSON lets a failure escape only for its size. -/
theorem escapes_jsonOr_iff {s : String} {other : Except Failure Value} :
    Escapes (jsonOr p s other) ↔ Json.Exceeds s ∨
      (∃ e, Json.readWithin Platform.jsonLevels s = .error (.malformed e)) ∧ Escapes other := by
  rcases jsonOr_cases p s other with ⟨e, hread, h⟩ | ⟨hread, h⟩
  · simp [h, hread, Json.Exceeds]
  · simp [h, hread, escapes_parseJson_iff]

/-- **A failure escapes from loading a file** for one of the listed causes only. -/
theorem escapes_load_iff : Escapes (load w p).outcome ↔ Escape w p := by
  cases hformat : Format.ofSuffix p.suffix with
  | json =>
      rw [load_json hformat, escapes_ofText_iff, escape_json_iff hformat]
      simp only [escapes_parseJson_iff]
  | yaml =>
      rw [load_yaml hformat, escapes_ofText_iff, escape_yaml_iff hformat]
      simp only [escapes_parseYaml_iff]
  | module => rw [load_module hformat, escapes_runModule_iff, escape_module_iff hformat]
  | unknown =>
      rw [load_unknown hformat, escapes_ofText_iff, escape_unknown_iff hformat]
      simp only [escapes_jsonOr_iff]

end Load

end ConfigFile

/-! ## Manifests and the values in them -/

namespace ConfigData

variable [Platform]

/-- Why a failure escapes when the value in a manifest is resolved. -/
inductive Escape (w : Workspace) (dir : Path) (raw : Value) : Prop
  | path {s : String} {fault : ResolveFault}
      (hraw : raw = .str s)
      (h : w.resolve (dir.child s) = .error fault)
  | file {s : String} {p : Path}
      (hraw : raw = .str s)
      (hresolve : w.resolve (dir.child s) = .ok p)
      (h : ConfigFile.Escape w p)

/-- A named file is loaded once, and what it holds is the configuration. -/
theorem resolve_named {w : Workspace} {dir p : Path} {s : String}
    (hresolve : w.resolve (dir.child s) = .ok p) :
    (resolve w dir (.str s)).outcome =
      (ConfigFile.load w p).outcome.map fun v => ⟨v, some p.parent, some p⟩ := by
  simp only [resolve, hresolve, outcome_andThen, outcome_notice, outcome_pure]
  cases (ConfigFile.load w p).outcome <;> rfl

/-- A failure escapes only if the value is a text, and then from its file. -/
theorem escapes_resolve_iff {w : Workspace} {dir : Path} {raw : Value} :
    Escapes (resolve w dir raw).outcome ↔ Escape w dir raw := by
  constructor
  · intro h
    cases raw with
    | str s =>
        simp only [resolve] at h
        cases hresolve : w.resolve (dir.child s) with
        | error fault => exact .path rfl hresolve
        | ok p =>
            simp only [hresolve, outcome_andThen, outcome_notice, outcome_pure,
              escapes_chain_iff, ConfigFile.escapes_load_iff] at h
            simp only [not_escapes_ok, and_false, exists_false, or_false] at h
            exact .file rfl hresolve h
    | _ => simp [resolve, Failure.IsReported] at h
  · rintro (⟨rfl, h⟩ | ⟨rfl, hresolve, h⟩)
    · simp [resolve, h, Failure.IsReported]
    · simp only [resolve, hresolve, outcome_andThen, escapes_chain_iff]
      exact Or.inl (ConfigFile.escapes_load_iff.mpr h)

end ConfigData

namespace Manifest

variable [Platform]

/-- Why a failure escapes when the manifest in a file is read. -/
inductive Escape (w : Workspace) (p : Path) : Prop
  | encoding
      (h : ConfigFile.HoldsNoText w p)
  | json {text : String}
      (hname : p.name ≠ tomlName)
      (htext : ConfigFile.HoldsText w p text)
      (h : Json.Exceeds text)
  | nesting {text : String}
      (hname : p.name = tomlName)
      (htext : ConfigFile.HoldsText w p text)
      (h : Platform.exhaustsToml text = true)
  | toml {text : String} {fault : DocumentFault}
      (hname : p.name = tomlName)
      (htext : ConfigFile.HoldsText w p text)
      (h : Toml.read text = .error (.fault fault))

section Read

variable {w : Workspace} {p : Path}

theorem escapes_parseJson_iff {text : String} :
    Escapes (parseJson p text) ↔ Json.Exceeds text := by
  unfold parseJson Json.Exceeds
  rcases Json.readWithin Platform.jsonLevels text with (e | _ | _ | _) | v <;>
    simp [Failure.IsReported]

theorem escapes_parseToml_iff {text : String} :
    Escapes (parseToml p text) ↔
      Platform.exhaustsToml text = true ∨ ∃ fault, Toml.read text = .error (.fault fault) := by
  unfold parseToml
  cases Platform.exhaustsToml text with
  | true => simp [Failure.IsReported]
  | false => rcases Toml.read text with (_ | fault | _) | v <;> simp [Failure.IsReported]

/-- A document that is no manifest is reported. -/
theorem escapes_parse_iff {text : String} :
    Escapes (parse p text) ↔
      Escapes (if p.name = tomlName then parseToml p text else parseJson p text) := by
  unfold parse
  split_ifs
  all_goals
    refine escapes_chain_iff.trans (or_iff_left ?_)
    rintro ⟨v, -, h⟩
    cases v <;> simp [Failure.IsReported] at h

/-- **A failure escapes from reading a manifest** that is there for one of the
listed causes only. -/
theorem escapes_read_iff (hfile : w.isFile? p = .ok true) :
    Escapes (read w p) ↔ Escape w p := by
  obtain ⟨c, hstat⟩ := Workspace.isFile?_eq_true_iff.mp hfile
  cases c with
  | undecodable =>
      have hescapes : Escapes (read w p) := by
        simp [read, Workspace.read_of_stat hstat, Content.text?, Failure.IsReported]
      exact iff_of_true hescapes (.encoding hstat)
  | unreadable error =>
      have hreported : ¬ Escapes (read w p) := by
        simp [read, Workspace.read_of_stat hstat, Failure.IsReported]
      refine iff_of_false hreported ?_
      have hnone {text : String} : ¬ ConfigFile.HoldsText w p text := by
        rintro ⟨c, hc, htext⟩
        rw [hstat] at hc
        cases hc
        cases htext
      rintro (h | ⟨-, h, -⟩ | ⟨-, h, -⟩ | ⟨-, h, -⟩)
      · rw [ConfigFile.HoldsNoText, hstat] at h
        cases h
      · exact hnone h
      · exact hnone h
      · exact hnone h
  | text s =>
      have htext : ConfigFile.HoldsText w p (Lines.normalize s) := ⟨_, hstat, rfl⟩
      have hunique {text : String} (h : ConfigFile.HoldsText w p text) :
          text = Lines.normalize s := by
        obtain ⟨c, hc, htext⟩ := h
        rw [hstat] at hc
        cases hc
        exact (Option.some.inj htext).symm
      have hdecodable : ¬ ConfigFile.HoldsNoText w p := by
        rw [ConfigFile.HoldsNoText, hstat]
        rintro ⟨⟩
      have hread : read w p = parse p (Lines.normalize s) := by
        simp only [read, Workspace.read_of_stat hstat, Content.text?]
      rw [hread, escapes_parse_iff]
      by_cases hname : p.name = tomlName
      · rw [if_pos hname, escapes_parseToml_iff]
        constructor
        · rintro (h | ⟨fault, h⟩)
          · exact .nesting hname htext h
          · exact .toml hname htext h
        · rintro (h | ⟨hother, -, -⟩ | ⟨-, h, hnesting⟩ | ⟨-, h, hfault⟩)
          · exact absurd h hdecodable
          · exact absurd hname hother
          · exact Or.inl (hunique h ▸ hnesting)
          · exact Or.inr ⟨_, hunique h ▸ hfault⟩
      · rw [if_neg hname, escapes_parseJson_iff]
        constructor
        · exact fun h => .json hname htext h
        · rintro (h | ⟨-, h, hexceeds⟩ | ⟨hother, -, -⟩ | ⟨hother, -, -⟩)
          · exact absurd h hdecodable
          · exact hunique h ▸ hexceeds
          · exact absurd hother hname
          · exact absurd hother hname

end Read

end Manifest

/-! ## Loading for a file -/

namespace Loader

/-- The paths at which the manifest for a resolved file may lie. -/
def manifestPaths (w : Workspace) (l : Loader) (p : Path) : List Path :=
  match (Manifest.names w l.manifestNames).outcome with
  | .ok names => Manifest.candidates names p.parent.ancestry
  | .error _ => []

/-- Why a failure escapes when configuration is loaded for a file at a path. -/
inductive Escape [Platform] (w : Workspace) (l : Loader) (p : Path) : Prop
  | search {q : Path} {fault : Fault}
      (hnearest : w.Settles (manifestPaths w l p) q (.error fault))
  | manifest {q : Path}
      (hnearest : w.Settles (manifestPaths w l p) q (.ok true))
      (h : Manifest.Escape w q)
  | value {q : Path} {m : Manifest}
      (hnearest : w.Settles (manifestPaths w l p) q (.ok true))
      (hread : Manifest.read w q = .ok m)
      (h : ConfigData.Escape w m.directory ((m.get? l.name).getD .null))

section Load

variable {w : Workspace} {l : Loader} {file : String} {p : Path}

/-- There are always names of manifests. -/
theorem exists_names (w : Workspace) (given : List String) :
    ∃ names, (Manifest.names w given).outcome = .ok names := by
  unfold Manifest.names
  split_ifs
  · exact ⟨_, rfl⟩
  · cases w.manifestVariable with
    | none => exact ⟨_, rfl⟩
    | some s =>
        cases h : Manifest.namesOf s with
        | nil => exact ⟨_, by simp only [h]; rfl⟩
        | cons name rest => exact ⟨_, by simp only [h]; rfl⟩

/-- Unless other names are given, manifests have the default one. -/
theorem manifestPaths_of_default (hgiven : l.manifestNames = [])
    (hvariable : w.manifestVariable = none) :
    manifestPaths w l p = Manifest.candidates [defaultManifestName] p.parent.ancestry := by
  simp only [manifestPaths, Manifest.names, hgiven, hvariable]
  rfl

variable [Platform]

/-- How looking for the manifest of a file ends. -/
theorem locate_outcome {given names : List String}
    (hnames : (Manifest.names w given).outcome = .ok names)
    (hresolve : w.resolve (Path.ofText file) = .ok p) :
    (Manifest.locate w file given).outcome =
      match Manifest.search w names p.parent.ancestry with
      | .error fault => .error (Failure.ofFault fault)
      | .ok (searched, none) =>
          .ok (.missing (Manifest.missingMessage names file) (some .manifestNotFound) searched)
      | .ok (searched, some q) => (Manifest.read w q).map fun m => .found m searched := by
  rw [Manifest.locate]
  simp only [outcome_andThen, hnames, hresolve]
  show (_ : Report (Lookup Manifest)).outcome = _
  rcases Manifest.search w names p.parent.ancestry with fault | ⟨searched, _ | q⟩
  · rfl
  · rfl
  · simp only [outcome_andThen, outcome_notice, outcome_ofExcept]
    cases Manifest.read w q <;> rfl

/-- How loading ends if there is no manifest. -/
theorem load_of_missing {error : String} {kind : Option ErrorKind} {searched : List Path}
    (hoverride : l.override = none)
    (h : (Manifest.locate w file l.manifestNames).outcome = .ok (.missing error kind searched)) :
    (l.load w file).outcome = .ok ConfigData.empty := by
  rw [load, hoverride]
  simp only [outcome_andThen, h]
  rfl

/-- How loading ends with a manifest. -/
theorem load_of_found {m : Manifest} {searched : List Path} (hoverride : l.override = none)
    (h : (Manifest.locate w file l.manifestNames).outcome = .ok (.found m searched)) :
    (l.load w file).outcome =
      (ConfigData.resolve w m.directory ((m.get? l.name).getD .null)).outcome := by
  rw [load, hoverride]
  simp only [outcome_andThen, h]
  rfl

/-- How loading ends if looking for the manifest fails. -/
theorem load_of_failed {f : Failure} (hoverride : l.override = none)
    (h : (Manifest.locate w file l.manifestNames).outcome = .error f) :
    (l.load w file).outcome = .error f := by
  rw [load, hoverride]
  simp only [outcome_andThen, h]
  rfl

/-- What the search for a manifest comes to, and what follows from it. -/
theorem load_cases (hoverride : l.override = none)
    (hresolve : w.resolve (Path.ofText file) = .ok p) :
    (∃ q fault, w.Settles (manifestPaths w l p) q (.error fault) ∧
      (l.load w file).outcome = .error (Failure.ofFault fault)) ∨
    (∃ q, w.Settles (manifestPaths w l p) q (.ok true) ∧
      (l.load w file).outcome = Manifest.read w q >>= fun m =>
        (ConfigData.resolve w m.directory ((m.get? l.name).getD .null)).outcome) ∨
    ((∀ q, q ∈ manifestPaths w l p → w.isFile? q = .ok false) ∧
      (l.load w file).outcome = .ok ConfigData.empty) := by
  obtain ⟨names, hnames⟩ := exists_names w l.manifestNames
  have hpaths : manifestPaths w l p = Manifest.candidates names p.parent.ancestry := by
    simp only [manifestPaths, hnames]
  have hlocate := locate_outcome hnames hresolve
  rw [hpaths]
  cases hsearch : Manifest.search w names p.parent.ancestry with
  | error fault =>
      obtain ⟨q, hq⟩ := Manifest.search_eq_error_iff.mp hsearch
      rw [hsearch] at hlocate
      exact Or.inl ⟨q, fault, hq, load_of_failed hoverride hlocate⟩
  | ok result =>
      rw [hsearch] at hlocate
      obtain ⟨searched, _ | q⟩ := result
      · have habsent := Manifest.search_eq_missing_iff.mp ⟨searched, hsearch⟩
        exact Or.inr (Or.inr ⟨habsent, load_of_missing hoverride hlocate⟩)
      · have hfound := Manifest.search_eq_found_iff.mp ⟨searched, hsearch⟩
        refine Or.inr (Or.inl ⟨q, hfound, ?_⟩)
        have hmanifest : (Manifest.locate w file l.manifestNames).outcome =
            (Manifest.read w q).map fun m => .found m searched := hlocate
        cases hread : Manifest.read w q with
        | error f => exact load_of_failed hoverride (hmanifest.trans (congrArg _ hread))
        | ok m => exact load_of_found hoverride (hmanifest.trans (congrArg _ hread))

/-- **A failure escapes from loading for a file** for one of the listed causes
only. -/
theorem escapes_iff (hoverride : l.override = none)
    (hresolve : w.resolve (Path.ofText file) = .ok p) :
    Escapes (l.load w file).outcome ↔ Escape w l p := by
  rcases load_cases hoverride hresolve with
    ⟨q, fault, hq, hload⟩ | ⟨q, hq, hload⟩ | ⟨habsent, hload⟩
  · have hfault : ¬ (Failure.ofFault fault).IsReported := by
      cases fault <;> simp [Failure.ofFault, Failure.IsReported]
    rw [hload, escapes_error_iff]
    exact iff_of_true hfault (.search hq)
  · have hfile : w.isFile? q = .ok true := hq.told_eq
    rw [hload, escapes_chain_iff, Manifest.escapes_read_iff hfile]
    simp only [ConfigData.escapes_resolve_iff]
    constructor
    · rintro (h | ⟨m, hread, h⟩)
      · exact .manifest hq h
      · exact .value hq hread h
    · rintro (hother | ⟨hother, h⟩ | ⟨hother, hread, h⟩)
      · cases (hq.unique hother).2
      · obtain ⟨rfl, -⟩ := hq.unique hother
        exact Or.inl h
      · obtain ⟨rfl, -⟩ := hq.unique hother
        exact Or.inr ⟨_, hread, h⟩
  · rw [hload]
    refine iff_of_false (not_escapes_ok _) ?_
    rintro (h | ⟨h, -⟩ | ⟨h, -, -⟩) <;> exact h.not_all_absent habsent

/-- The nearest manifest is read, and what it holds for the loader is resolved. -/
theorem load_of_nearest {q : Path} (hoverride : l.override = none)
    (hresolve : w.resolve (Path.ofText file) = .ok p)
    (hq : w.Settles (manifestPaths w l p) q (.ok true)) :
    (l.load w file).outcome = Manifest.read w q >>= fun m =>
      (ConfigData.resolve w m.directory ((m.get? l.name).getD .null)).outcome := by
  rcases load_cases hoverride hresolve with
    ⟨q', fault, hq', -⟩ | ⟨q', hq', hload⟩ | ⟨habsent, -⟩
  · cases (hq.unique hq').2
  · obtain ⟨rfl, -⟩ := hq.unique hq'
    exact hload
  · exact absurd habsent hq.not_all_absent

end Load

end Loader
end BuildTransform
