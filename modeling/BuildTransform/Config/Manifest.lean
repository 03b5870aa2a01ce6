import BuildTransform.Config.Lookup
import BuildTransform.Config.Report
import BuildTransform.Json.Reader
import BuildTransform.Text.Lines
import BuildTransform.Toml.Document

/-!
# Manifests

Finding the manifest of a project and reading it.

* `Manifest.names` says which file names count as manifests.
* `Manifest.read` reads one manifest: a JSON object, or the `tool` table of a
  TOML document.
* `Manifest.locate` looks through the directories above a file, nearest first; in
  each directory the names are tried in order.
-/

namespace BuildTransform

/-- A manifest: its entries and the path of its file. -/
structure Manifest where
  data : List (Value × Value)
  path : Path
deriving Repr

/-- The path and all paths above it, nearest first. -/
def Path.ancestry (p : Path) : List Path :=
  (List.range (p.names.length + 1)).map fun n =>
    { p with names := p.names.take (p.names.length - n) }

/-- The text of a content with line breaks made uniform, if it is a text. -/
def Content.text? : Content → Option String
  | .text s => some (Lines.normalize s)
  | _ => none

/-- What the system raises if a directory on the way is closed. -/
def permissionError : Script.Raised :=
  ⟨"PermissionError", some .omitted⟩

/-- The failure for a fault in looking at a path. -/
def Failure.ofFault : Fault → Failure
  | .nulInName => .nulInName
  | .denied => .stopped permissionError
  | _ => .nameTooLong

namespace Manifest

/-- The directory that holds a manifest. -/
def directory (m : Manifest) : Path :=
  m.path.parent

/-- The value under a name. -/
def get? (m : Manifest) (name : String) : Option Value :=
  Value.lookup (.str name) m.data

/-- The names in the text of the variable, without blanks around them. -/
def namesOf (s : String) : List String :=
  ((Text.pieces (· == ',') s.toList).map fun cs => String.ofList (Text.trimmed cs)).filter
    (· ≠ "")

/-- The names of manifests: the given ones, or those of the variable, or the
default. -/
def names (w : Workspace) (given : List String) : Report (List String) :=
  if !given.isEmpty then pure given
  else
    match w.manifestVariable with
    | none => pure [defaultManifestName]
    | some s =>
        match namesOf s with
        | [] => do
            Report.notice .emptyVariable
            pure [defaultManifestName]
        | found => pure found

/-- The name of manifests that are TOML documents. -/
def tomlName : String :=
  "pyproject.toml"

/-- The entry of a TOML document that holds the manifest. -/
def tomlEntry : String :=
  "tool"

section Reading

variable [Platform]

/-- The value of a TOML manifest: an entry of the document, empty if it is missing. -/
def parseToml (p : Path) (text : String) : Except Failure Value :=
  if Platform.exhaustsToml text then .error (.document .tooDeep)
  else
    match Toml.read text with
    | .ok v => .ok ((v.get? tomlEntry).getD (.dict []))
    | .error .malformed => .error (.config ⟨.malformedTomlManifest, some p⟩)
    | .error (.fault f) => .error (.document f)
    | .error .unpairedUnit => .error .beyondLanguage

/-- The value of a JSON manifest. -/
def parseJson (p : Path) (text : String) : Except Failure Value :=
  match Json.readWithin Platform.jsonLevels text with
  | .ok v => .ok v
  | .error (.malformed e) => .error (.config ⟨.malformedManifest e text, some p⟩)
  | .error .integerTooLong => .error (.document .integerTooLong)
  | .error .tooDeep => .error (.document .tooDeep)
  | .error .unpairedUnit => .error .beyondLanguage

/-- The manifest of a text. -/
def parse (p : Path) (text : String) : Except Failure Manifest := do
  let v ← if p.name = tomlName then parseToml p text else parseJson p text
  match v with
  | .dict data => .ok ⟨data, p⟩
  | v => .error (.config ⟨.manifestNotObject v.kindName, some p⟩)

/-- The manifest in a file. -/
def read (w : Workspace) (p : Path) : Except Failure Manifest :=
  match w.read p with
  | .error .nulInName => .error .nulInName
  | .error f => .error (.config ⟨.unreadableManifest f, some p⟩)
  | .ok c =>
      match c.text? with
      | none => .error .undecodable
      | some text => parse p text

end Reading

/-- The first name that leads to a file in a directory. -/
def firstFile (w : Workspace) (dir : Path) : List String → Except Fault (Option Path)
  | [] => .ok none
  | name :: rest => do
      if ← w.isFile? (dir.child name) then .ok (some (dir.child name))
      else firstFile w dir rest

/-- The directories that have to be searched and the manifest found in the last one. -/
def search (w : Workspace) (names : List String) :
    List Path → Except Fault (List Path × Option Path)
  | [] => .ok ([], none)
  | dir :: rest => do
      match ← firstFile w dir names with
      | some p => .ok ([dir], some p)
      | none => do
          let (searched, found) ← search w names rest
          .ok (dir :: searched, found)

/-- The message of a lookup without a manifest. -/
def missingMessage (names : List String) (start : String) : String :=
  "No manifest (" ++ ", ".intercalate names ++ ") found for " ++ start

/-- The manifest nearest to a file. -/
def locate [Platform] (w : Workspace) (start : String) (given : List String) :
    Report (Lookup Manifest) := do
  let names ← names w given
  match w.resolve (Path.ofText start) with
  | .error f => Report.fail (.path f)
  | .ok p =>
      match search w names p.parent.ancestry with
      | .error f => Report.fail (Failure.ofFault f)
      | .ok (searched, some found) => do
          Report.notice (.foundManifest found)
          let m ← Report.ofExcept (read w found)
          pure (.found m searched)
      | .ok (searched, none) => do
          Report.notice (.noManifest names searched.length start)
          pure (.missing (missingMessage names start) (some .manifestNotFound) searched)

end Manifest
end BuildTransform
