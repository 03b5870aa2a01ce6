import BuildTransform.Proofs.Config.Flat
import BuildTransform.Proofs.Json.Breaks

/-!
# Routes of a configuration

A configuration in JSON may stand in a manifest or in a file that the manifest names.

* `Format.ofSuffix_eq_json_iff` and `Format.ofSuffix_eq_unknown_iff` say which suffixes leave a
  file to be read as JSON first.
* `ConfigFile.load_of_json` says that a file with such a suffix has the value of its text as it
  stands, although it is read with uniform line breaks.
* `ConfigData.delivered_alike` concludes: the routes differ in the directory and the file only,
  and what a named file holds is the configuration whatever it is.
-/

namespace BuildTransform

/-- The text with its ASCII letters in lower case. -/
def lowered (s : String) : String :=
  String.ofList (s.toList.map Char.toLower)

namespace Format

variable {suffix : String}

theorem ofSuffix_eq : ofSuffix suffix =
    if lowered suffix = ".py" then .module
    else if lowered suffix = ".json" then .json
    else if lowered suffix = ".yaml" ∨ lowered suffix = ".yml" then .yaml
    else .unknown :=
  rfl

theorem ofSuffix_eq_json_iff : ofSuffix suffix = .json ↔ lowered suffix = ".json" := by
  rw [ofSuffix_eq]
  generalize lowered suffix = s
  split_ifs <;> simp_all

theorem ofSuffix_eq_unknown_iff :
    ofSuffix suffix = .unknown ↔ lowered suffix ∉ [".json", ".yaml", ".yml", ".py"] := by
  rw [ofSuffix_eq]
  generalize lowered suffix = s
  split_ifs <;> simp_all

end Format

namespace ConfigFile

variable [Platform] {w : Workspace} {p : Path} {text : String} {v : Value}

theorem parseJson_of_read (h : Json.readWithin Platform.jsonLevels text = .ok v) :
    parseJson p text = .ok v := by
  rw [parseJson, h]

/-- **A JSON file has the value of its text**, however its lines end and whatever else the text
may mean. Nothing is noticed, so it is not run. -/
theorem load_of_json (hread : Json.readWithin Platform.jsonLevels text = .ok v)
    (hstat : w.stat p = .ok (.file (.text text)))
    (hformat : Format.ofSuffix p.suffix = .json ∨ Format.ofSuffix p.suffix = .unknown) :
    load w p = Report.ofExcept (.ok v) := by
  have huniform := Json.readWithin_normalize hread
  have htext : ConfigFile.text w p = .ok (Lines.normalize text) :=
    text_eq_ok_iff.mpr ⟨_, hstat, rfl⟩
  rcases hformat with hformat | hformat
  · simp only [load, hformat, htext]
    exact congrArg Report.ofExcept (parseJson_of_read huniform)
  · simp only [load, hformat, htext]
    show Report.andThen _ _ = _
    simp [Report.andThen, Report.ofExcept, huniform, parseJson_of_read huniform]

end ConfigFile

namespace ConfigData

/-- The value can be a configuration where it stands in a manifest. -/
def IsInline (v : Value) : Prop :=
  (∃ items, v = .list items) ∨ ∃ entries, v = .dict entries

/-- **The route of a JSON configuration does not matter.** -/
theorem delivered_alike [Platform] (w : Workspace) (dir : Path) :
    (∀ text v, Json.readWithin Platform.jsonLevels text = .ok v → IsInline v →
      (resolve w dir v).outcome = .ok ⟨v, some dir, none⟩ ∧
      ∀ s p, w.resolve (dir.child s) = .ok p → w.stat p = .ok (.file (.text text)) →
        (lowered p.suffix = ".json" ∨ lowered p.suffix ∉ [".json", ".yaml", ".yml", ".py"]) →
        (resolve w dir (.str s)).outcome = .ok ⟨v, some p.parent, some p⟩) ∧
    ∀ s p, w.resolve (dir.child s) = .ok p →
      (resolve w dir (.str s)).outcome =
        (ConfigFile.load w p).outcome.map fun u => ⟨u, some p.parent, some p⟩ := by
  refine ⟨fun text v hread hinline => ⟨?_, fun s p hresolve hstat hsuffix => ?_⟩,
    fun s p hresolve => resolve_named hresolve⟩
  · rcases hinline with ⟨items, rfl⟩ | ⟨entries, rfl⟩ <;> rfl
  · rw [← Format.ofSuffix_eq_json_iff, ← Format.ofSuffix_eq_unknown_iff] at hsuffix
    rw [resolve_named hresolve, ConfigFile.load_of_json hread hstat hsuffix]
    rfl

section Routes

open Json (Reads skip isSpace)
open Manifest (below)

/-- A text in two files, and the name of one of them in a third. -/
def routes (text : String) : Workspace :=
  Workspace.flat [("c.JSON", .text text), (".config", .text text), ("d.json", .text "\".config\"")]

/-- An object with a line break of two characters inside. -/
theorem read_object_with_break :
    Json.read "\x7b\"a\":\r\n[\"b\"]\x7d" = .ok (.dict [(.str "a", .list [.str "b"])]) := by
  have hchars : "\x7b\"a\":\r\n[\"b\"]\x7d".toList =
      ['\x7b', '"', 'a', '"', ':', '\r', '\n', '[', '"', 'b', '"', ']', '\x7d'] := by
    decide
  have hlist : Reads .value 999 ['[', '"', 'b', '"', ']', '\x7d'] (.list [.str "b"]) ['\x7d'] :=
    .list (by simp [skip, isSpace]) (.lastItem (.text rfl) rfl)
  exact Json.readWithin_of_reads hchars (by simp)
    (.dict (by simp [skip, isSpace]) (.lastMember rfl rfl hlist rfl)) rfl

theorem read_name : Json.read "\".config\"" = .ok (.str ".config") := by
  have hchars : "\".config\"".toList = ['"', '.', 'c', 'o', 'n', 'f', 'i', 'g', '"'] := by
    decide
  exact Json.readWithin_of_reads hchars (by simp) (.text rfl) rfl

/-- The value in the manifest and the two files give the same; the name in the third file is
not followed. -/
theorem named_text_not_followed :
    let text := "\x7b\"a\":\r\n[\"b\"]\x7d"
    let v : Value := .dict [(.str "a", .list [.str "b"])]
    let root := below []
    Json.read text = .ok v ∧
    (resolve (routes text) root v).outcome = .ok ⟨v, some root, none⟩ ∧
    (resolve (routes text) root (.str "c.JSON")).outcome =
      .ok ⟨v, some root, some (below ["c.JSON"])⟩ ∧
    (resolve (routes text) root (.str ".config")).outcome =
      .ok ⟨v, some root, some (below [".config"])⟩ ∧
    (resolve (routes text) root (.str "d.json")).outcome =
      .ok ⟨.str ".config", some root, some (below ["d.json"])⟩ := by
  intro text v root
  have hnames : ∀ name, name ∈ ["c.JSON", ".config", "d.json"] → Workspace.IsEntryName name := by
    decide
  simp only [List.forall_mem_cons, List.not_mem_nil, false_implies, implies_true,
    and_true] at hnames
  obtain ⟨hjson, hbare, hother⟩ := hnames
  have hroutes := delivered_alike (routes text) root
  obtain ⟨hinline, hnamed⟩ := hroutes.1 text v read_object_with_break (Or.inr ⟨_, rfl⟩)
  refine ⟨read_object_with_break, hinline, ?_, ?_, ?_⟩
  · exact hnamed _ _ (Workspace.flat_resolve _ hjson) (Workspace.flat_stat_file _ hjson rfl)
      (Or.inl (by decide))
  · exact hnamed _ _ (Workspace.flat_resolve _ hbare) (Workspace.flat_stat_file _ hbare rfl)
      (Or.inr (by decide))
  · have hstat : (routes text).stat (below ["d.json"]) = .ok (.file (.text "\".config\"")) :=
      Workspace.flat_stat_file _ hother rfl
    have hload := ConfigFile.load_of_json read_name hstat
      (Or.inl (Format.ofSuffix_eq_json_iff.mpr (by decide)))
    rw [hroutes.2 _ _ (Workspace.flat_resolve _ hother), hload]
    rfl

end Routes

end ConfigData
end BuildTransform
