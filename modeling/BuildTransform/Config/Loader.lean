import BuildTransform.Config.File

/-!
# Loaders

Finding the configuration of one transform for a file.

* A `Loader` has a name, manifest names, options and possibly configuration that
  was supplied directly; the latter wins over every manifest.
* `Loader.setConfig` supplies configuration to a loader, `Loader.configure` to a
  copy of it. The options are merged before paths are resolved, so they stay
  merged if a path cannot be resolved.
* `Loader.load` gives the configuration for a file, and `Loader.loadAsync` does so without
  keeping the caller waiting.
-/

namespace BuildTransform

/-- A source of configuration for one transform. -/
structure Loader where
  name : String
  manifestNames : List String
  options : Options
  override : Option ConfigData
deriving Repr

namespace Loader

/-- Configuration was supplied directly. -/
def hasOverride (l : Loader) : Bool :=
  l.override.isSome

/-- The loader as a term. -/
def shown (l : Loader) : String :=
  "TransformConfigLoader(transform_name=" ++ Quoted.text l.name ++ ", override=" ++
    (if l.hasOverride then "True" else "False") ++ ")"

/-- Configuration supplied with options, whose paths are resolved. -/
def supplied (w : Workspace) (config : Value) (o : Options) : Except Failure ConfigData := do
  let dir ← (o.resolvedDir w).mapError Failure.path
  let file ← (o.resolvedFile w).mapError Failure.path
  .ok ⟨config, dir, file⟩

variable [Platform]

/-- Options as a loader takes them. -/
def optionsOf (input : OptionsInput) : Except Failure Options :=
  (Options.ofInput input).mapError .options

/-- A loader of a name; a name of blanks only is none. -/
def make (name : String) (manifestNames : List String) (options : OptionsInput) :
    Except Failure Loader :=
  if Text.trim name = "" then .error .emptyName
  else (optionsOf options).map fun o => ⟨name, manifestNames, o, none⟩

/-- The loader after configuration was supplied to it, and how that went. -/
def setConfig (w : Workspace) (config : Value) (options : OptionsInput) (l : Loader) :
    Loader × Report Unit :=
  match optionsOf options with
  | .error f => (l, Report.fail f)
  | .ok o =>
      let merged := { l with options := l.options.merge o }
      match supplied w config o with
      | .error f => (merged, Report.fail f)
      | .ok data =>
          ({ merged with override := some data }, Report.notice (.setDirectly l.name data.dir))

/-- A new loader like this one with configuration supplied to it. -/
def configure (w : Workspace) (config : Value) (options : OptionsInput) (l : Loader) :
    Report Loader :=
  match optionsOf options with
  | .error f => Report.fail f
  | .ok o =>
      let base : Loader := ⟨l.name, l.manifestNames, l.options.merge o, none⟩
      let (configured, report) := setConfig w config options base
      report.andThen fun _ => pure configured

/-- The configuration for a file. -/
def load (w : Workspace) (file : String) (l : Loader) : Report ConfigData :=
  match l.override with
  | some data => pure data
  | none => do
      match ← Manifest.locate w file l.manifestNames with
      | .missing error _ _ => do
          Report.notice (.noConfiguration l.name error)
          pure ConfigData.empty
      | .found m _ => ConfigData.resolve w m.directory ((m.get? l.name).getD .null)

/-- The configuration for a file without waiting for the files: what was supplied is there
at once, and anything else is found in another thread. -/
def loadAsync (w : Workspace) (file : String) (l : Loader) : Report ConfigData :=
  match l.override with
  | some data => pure data
  | none => l.load w file

/-- The configuration for a file, with or without waiting. -/
def loadBy (async : Bool) (w : Workspace) (file : String) (l : Loader) : Report ConfigData :=
  if async then l.loadAsync w file else l.load w file

/-- The configuration of a transform for a file, with everything else by default. -/
def loadNamed (async : Bool) (w : Workspace) (name file : String) : Report ConfigData := do
  let l ← Report.ofExcept (make name [] .absent)
  l.loadBy async w file

end Loader
end BuildTransform
