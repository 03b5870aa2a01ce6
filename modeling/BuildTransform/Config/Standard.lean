import BuildTransform.Config.Platform
import BuildTransform.Script.Files
import BuildTransform.Toml.Document
import BuildTransform.Json.Reader
import BuildTransform.Text.Lines
import BuildTransform.Yaml.Document

/-!
# The standard platform

The platform that is used where no other one is named.

* Modules are run by `Script.Execution` and may read files with texts in ASCII; of any other
  module nothing is known.
* YAML is read by `Yaml.read`. Settings are read leniently: a truth value may be written as a
  number or as a word.
-/

namespace BuildTransform

namespace Standard

/-! ## Modules -/

/-- The text of a file as a module reads it, if it is the same in every encoding. The path has
to be written as its text. -/
def fileText? (w : Workspace) (path : String) : Option String :=
  let p := Path.ofText path
  if p.text = path then
    match w.read p with
    | .ok (.text s) =>
        if s.toList.all fun c => c.toNat < 128 then some (Lines.normalize s) else none
    | _ => none
  else none

/-- What running the text of a module gives for its configuration, with the files that are
there. -/
def ran (w : Workspace) (p : Path) (text : String) : Script.Run (Option Value) :=
  (Script.Execution.bindingsWith (fileText? w) (ConfigFile.moduleInfo w p) text).bind
    (Script.Execution.valueNamed? ConfigFile.configName)

/-- How running the file at a path as a module ends. -/
def run (w : Workspace) (p : Path) : Script.Ending :=
  match w.read p with
  | .ok (.text s) => .ofRun (ran w p s)
  | .error (.unreadable error) => .failed ⟨error.kind, .exact error.text⟩
  | _ => .unfinished

theorem ran_eq {w : Workspace} {p : Path} {text : String}
    (hknown : ConfigFile.followed w p text ≠ .error .beyond) :
    ran w p text = ConfigFile.followed w p text := by
  unfold ConfigFile.followed at hknown
  unfold ran ConfigFile.followed
  rw [Script.Execution.bindingsWith_eq]
  intro hbeyond
  rw [hbeyond] at hknown
  exact hknown rfl

/-! ## Settings -/

/-- Reads a path or nothing. -/
def pathOf : Setting → Except OptionFault (Option Path)
  | .path p => .ok (some p)
  | .value .null => .ok none
  | .value (.str s) => .ok (some (Path.ofText s))
  | .value _ => .error .notAPath

/-- The words for truth and for falsehood. -/
def booleanWord? (s : String) : Option Bool :=
  let word := String.ofList (s.toList.map Char.toLower)
  if ["1", "on", "t", "true", "y", "yes"].contains word then some true
  else if ["0", "off", "f", "false", "n", "no"].contains word then some false
  else none

/-- The truth value that an integer stands for. -/
def booleanInteger (i : Int) : Except OptionFault Bool :=
  if i = 0 then .ok false
  else if i = 1 then .ok true
  else .error .unreadableBoolean

/-- Integers below this number in size can be read from a floating-point number. -/
def integerBound : Nat := Nat.pow 2 63

/-- Reads a truth value: itself, the numbers zero and one, or a word. -/
def booleanOf : Setting → Except OptionFault Bool
  | .value (.bool b) => .ok b
  | .value (.int i) => booleanInteger i
  | .value (.float d) =>
      match d.integer? with
      | some i => if i.natAbs < integerBound then booleanInteger i else .error .notABoolean
      | none => .error .notABoolean
  | .value (.str s) => word s
  | .value (.bytes bs) => word (String.ofList (bs.map fun b => Char.ofNat b.toNat))
  | _ => .error .notABoolean
where
  /-- Reads a word. -/
  word (s : String) : Except OptionFault Bool :=
    match booleanWord? s with
    | some b => .ok b
    | none => .error .unreadableBoolean

/-- The standard platform. -/
instance platform : Platform where
  run := run
  yaml := Yaml.read
  jsonLevels := Json.depthLimit
  exhaustsToml := Toml.exceedsDepth
  pathOf := pathOf
  booleanOf := booleanOf
  run_followed w p text hread hknown := by
    rw [run, hread, ← ran_eq hknown]
  run_unreadable w p error hread := by
    rw [run, hread]

end Standard

end BuildTransform
