import BuildTransform.Config.Error
import BuildTransform.Config.Options
import BuildTransform.Document
import BuildTransform.Value.Item

/-!
# Reports

The outcome of an operation together with what it tells about its course.

* A `Notice` is something worth logging; it has a channel, a level and a message.
* A `Failure` is whatever makes an operation fail.
* A `Report` holds the notices of an operation up to its end, also if it fails.
-/

namespace BuildTransform

/-- The operations that give notices. -/
inductive Channel
  | loader
  | file
  | manifest
deriving DecidableEq, Repr

/-- How important a notice is. -/
inductive Level
  | debug
  | info
  | warning
deriving DecidableEq, Repr

/-- Something worth logging. -/
inductive Notice
  | emptyVariable
  | foundManifest (path : Path)
  | noManifest (names : List String) (searched : Nat) (start : String)
  | notJson (path : Path)
  | loadedFrom (path : Path)
  | setDirectly (name : String) (dir : Option Path)
  | noConfiguration (name error : String)
deriving DecidableEq, Repr

/-- The variable that may name the manifests to look for. -/
def manifestVariableName : String :=
  "TRANSFORM_TOOLS_MANIFEST"

/-- The name of the manifests to look for if nothing else is said. -/
def defaultManifestName : String :=
  "package.json"

namespace Notice

/-- The operation that gives a notice. -/
def channel : Notice → Channel
  | .emptyVariable => .manifest
  | .foundManifest _ => .manifest
  | .noManifest _ _ _ => .manifest
  | .notJson _ => .file
  | .loadedFrom _ => .file
  | .setDirectly _ _ => .loader
  | .noConfiguration _ _ => .loader

/-- The importance of a notice. -/
def level : Notice → Level
  | .emptyVariable => .warning
  | .loadedFrom _ => .info
  | _ => .debug

/-- The text of a path that may be missing. -/
def pathText : Option Path → String
  | some p => p.text
  | none => "None"

/-- The message of a notice. -/
def message : Notice → String
  | .emptyVariable =>
      manifestVariableName ++ " is set but empty, using (" ++
        Quoted.text defaultManifestName ++ ",)"
  | .foundManifest p => "Found manifest: " ++ p.text
  | .noManifest names searched start =>
      "No " ++ " or ".intercalate names ++ " in " ++ Numeral.natText searched ++
        " directories above " ++ start
  | .notJson p => p.text ++ " is not JSON, executing it as a Python module"
  | .loadedFrom p => "Loaded transform configuration from: " ++ p.text
  | .setDirectly name dir =>
      "Configuration for '" ++ name ++ "' set directly (config_dir=" ++ pathText dir ++ ")"
  | .noConfiguration name error => "No configuration for '" ++ name ++ "': " ++ error

end Notice

/-- What makes an operation fail. Apart from configuration errors these are faults
that no error class describes. -/
inductive Failure
  | config (error : ConfigError)
  | options (errors : List OptionError)
  | path (fault : ResolveFault)
  | nameTooLong
  | nulInName
  | undecodable
  | document (fault : DocumentFault)
  | stopped (raised : Script.Raised)
  | emptyName
  | beyondLanguage
  | undefined (name : String)
  | noSuchItem (fault : ItemFault)
deriving Repr

/-- The outcome of an operation and the notices given until then. -/
structure Report (α : Type) where
  notices : List Notice
  outcome : Except Failure α

namespace Report

/-- A report of an outcome without notices. -/
def ofExcept {α : Type} (e : Except Failure α) : Report α :=
  ⟨[], e⟩

/-- A report of a failure. -/
def fail {α : Type} (f : Failure) : Report α :=
  ⟨[], .error f⟩

/-- A report of one notice. -/
def notice (n : Notice) : Report Unit :=
  ⟨[n], .ok ()⟩

/-- Goes on with the result of a report, if there is one. -/
def andThen {α β : Type} (r : Report α) (f : α → Report β) : Report β :=
  match r.outcome with
  | .error e => ⟨r.notices, .error e⟩
  | .ok a => ⟨r.notices ++ (f a).notices, (f a).outcome⟩

instance : Monad Report where
  pure a := ⟨[], .ok a⟩
  bind := andThen

end Report
end BuildTransform
