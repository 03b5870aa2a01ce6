import BuildTransform.Config.Manifest

/-!
# Configuration files

Loading a configuration file, and finding out what the value in a manifest means.

* The suffix of a file decides its `Format`; a file of no known format is read as
  JSON if possible and run as a module otherwise.
* `ConfigFile.load` gives the value in a file.
* `ConfigData.resolve` follows a text in a manifest to the file that it names; an
  object or a list is the configuration itself.
-/

namespace BuildTransform

/-- How a configuration file is read. -/
inductive Format
  | json
  | yaml
  | module
  | unknown
deriving DecidableEq, Repr

/-- The format that a suffix denotes, in letters of either case. -/
def Format.ofSuffix (suffix : String) : Format :=
  let s := String.ofList (suffix.toList.map Char.toLower)
  if s = ".py" then .module
  else if s = ".json" then .json
  else if s = ".yaml" ∨ s = ".yml" then .yaml
  else .unknown

/-- Configuration with the directory against which paths inside it are read and
the file that it was loaded from. -/
structure ConfigData where
  config : Value
  dir : Option Path
  file : Option Path
deriving Repr

namespace ConfigFile

/-- The failure of a problem with a file. -/
def failure (p : Path) (problem : ConfigProblem) : Failure :=
  .config ⟨problem, some p⟩

/-- Checks that a path leads to a file. -/
def check (w : Workspace) (p : Path) : Except Failure Unit := do
  let found ← (w.exists? p).mapError Failure.ofFault
  if !found then .error (failure p .missingFile)
  else
    let isFile ← (w.isFile? p).mapError Failure.ofFault
    if isFile then .ok () else .error (failure p .notAFile)

/-- The content of a file that is there. -/
def content (w : Workspace) (p : Path) : Except Failure Content := do
  check w p
  match w.read p with
  | .ok c => .ok c
  | .error f => .error (failure p (.unreadableFile f))

/-- The text of a file. -/
def text (w : Workspace) (p : Path) : Except Failure String := do
  match (← content w p).text? with
  | some s => .ok s
  | none => .error .undecodable

section Loading

variable [Platform]

/-- The value of a JSON text. -/
def parseJson (p : Path) (s : String) : Except Failure Value :=
  match Json.readWithin Platform.jsonLevels s with
  | .ok v => .ok v
  | .error (.malformed e) => .error (failure p (.malformedJson e s))
  | .error .integerTooLong => .error (.document .integerTooLong)
  | .error .tooDeep => .error (.document .tooDeep)
  | .error .unpairedUnit => .error .beyondLanguage

/-- The value of a YAML text. -/
def parseYaml (p : Path) (s : String) : Except Failure Value :=
  match Platform.yaml s with
  | .ok v => .ok v
  | .error .malformed => .error (failure p .malformedYaml)
  | .error (.fault f) => .error (.document f)
  | .error .unpairedUnit => .error .beyondLanguage

/-- The configuration of a module by how running it ends. -/
def moduleValue (p : Path) : Script.Ending → Except Failure Value
  | .defined v => .ok v
  | .undefined => .error (failure p .moduleWithoutConfig)
  | .failed c => .error (failure p (.failedModule c))
  | .escaped r => .error (.stopped r)
  | .unfinished => .error .beyondLanguage

/-- Runs a file as a module. -/
def runModule (w : Workspace) (p : Path) : Except Failure Value := do
  check w p
  moduleValue p (Platform.run w p)

/-- The value in a configuration file. -/
def load (w : Workspace) (p : Path) : Report Value :=
  match Format.ofSuffix p.suffix with
  | .module => Report.ofExcept (runModule w p)
  | .json => Report.ofExcept do parseJson p (← text w p)
  | .yaml => Report.ofExcept do parseYaml p (← text w p)
  | .unknown => do
      let s ← Report.ofExcept (text w p)
      match Json.readWithin Platform.jsonLevels s with
      | .error (.malformed _) => do
          Report.notice (.notJson p)
          Report.ofExcept (runModule w p)
      | _ => Report.ofExcept (parseJson p s)

end Loading

end ConfigFile

namespace ConfigData

/-- No configuration. -/
def empty : ConfigData :=
  ⟨.null, none, none⟩

/-- The configuration that a value in a manifest stands for. -/
def resolve [Platform] (w : Workspace) (dir : Path) (raw : Value) : Report ConfigData :=
  match raw with
  | .null => pure ⟨.null, some dir, none⟩
  | .dict _ => pure ⟨raw, some dir, none⟩
  | .list _ => pure ⟨raw, some dir, none⟩
  | .str s =>
      match w.resolve (dir.child s) with
      | .error f => Report.fail (.path f)
      | .ok p => do
          let v ← ConfigFile.load w p
          Report.notice (.loadedFrom p)
          pure ⟨v, some p.parent, some p⟩
  | v => Report.fail (.config ⟨.unsuitableValue v, some dir⟩)

end ConfigData
end BuildTransform
