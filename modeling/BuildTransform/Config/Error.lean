import BuildTransform.ErrorKind
import BuildTransform.Json.Error
import BuildTransform.Script.Raised
import BuildTransform.Value.Basic
import BuildTransform.Workspace.Walk

/-!
# Errors of configuration

What can be wrong with a manifest, with a configuration file or with the value
that a manifest holds.

* `ConfigProblem` is the cause, with its class and its wording.
* `ConfigError` adds the path that the problem concerns; the message ends with
  that path in round brackets.
-/

namespace BuildTransform

/-- The classes of configuration errors. -/
inductive ConfigErrorClass
  | general
  | read
  | parse
  | module
  | shape
deriving DecidableEq, Repr

namespace ConfigErrorClass

/-- All classes. -/
def all : List ConfigErrorClass :=
  [.general, .read, .parse, .module, .shape]

/-- The name of a class. -/
def name : ConfigErrorClass → String
  | .general => "ConfigError"
  | .read => "ConfigFileReadError"
  | .parse => "ConfigFileParseError"
  | .module => "ConfigModuleError"
  | .shape => "ConfigShapeError"

/-- The class with a given name. -/
def ofName? (s : String) : Option ConfigErrorClass :=
  all.find? fun c => c.name == s

/-- The sort of the errors of a class. -/
def kind : ConfigErrorClass → ErrorKind
  | .general => .configFileRead
  | .read => .configFileRead
  | .parse => .configFileParse
  | .module => .configModule
  | .shape => .configShape

end ConfigErrorClass

/-- What is wrong with configuration. -/
inductive ConfigProblem
  | unreadableManifest (fault : Fault)
  | malformedManifest (error : Json.Error) (text : String)
  | malformedTomlManifest
  | manifestNotObject (kindName : String)
  | missingFile
  | notAFile
  | unreadableFile (fault : Fault)
  | malformedJson (error : Json.Error) (text : String)
  | malformedYaml
  | failedModule (complaint : Script.Complaint)
  | moduleWithoutConfig
  | unsuitableValue (value : Value)
  | reported (cls : ConfigErrorClass) (details : String)
deriving Repr

/-- What stands for the wording of an error that is not worded further. -/
def omittedDetail : String :=
  Script.Wording.omitted.shown

namespace ConfigProblem

/-- The class of a problem. -/
def cls : ConfigProblem → ConfigErrorClass
  | .unreadableManifest _ => .read
  | .malformedManifest _ _ => .parse
  | .malformedTomlManifest => .parse
  | .manifestNotObject _ => .parse
  | .missingFile => .read
  | .notAFile => .read
  | .unreadableFile _ => .read
  | .malformedJson _ _ => .parse
  | .malformedYaml => .parse
  | .failedModule _ => .module
  | .moduleWithoutConfig => .module
  | .unsuitableValue _ => .shape
  | .reported cls _ => cls

/-- The wording of a problem with a path. -/
def details (path : Option Path) : ConfigProblem → String
  | .unreadableManifest f => "Failed to read manifest: " ++ fault f
  | .malformedManifest e text => "Invalid JSON in manifest: " ++ e.message text
  | .malformedTomlManifest => "Invalid TOML in manifest: " ++ omittedDetail
  | .manifestNotObject kindName => "Manifest must contain an object, got " ++ kindName
  | .missingFile => "Configuration file not found"
  | .notAFile => "Configuration path is not a file"
  | .unreadableFile f => "Failed to read configuration file: " ++ fault f
  | .malformedJson e text => "Invalid JSON: " ++ e.message text
  | .malformedYaml => "Invalid YAML: " ++ omittedDetail
  | .failedModule c => "Configuration module failed: " ++ c.kind ++ ": " ++ c.text.shown
  | .moduleWithoutConfig => "Configuration module does not define 'config'"
  | .unsuitableValue v =>
      "configuration value must be an object or a string path, got " ++ v.kindName
  | .reported _ details => details
where
  /-- The wording of a fault in following the path. -/
  fault (f : Fault) : String :=
    f.describe ((path.map Path.text).getD "")

end ConfigProblem

/-- A problem with configuration and the path that it concerns. -/
structure ConfigError where
  problem : ConfigProblem
  path : Option Path
deriving Repr

namespace ConfigError

/-- The class of an error. -/
def cls (e : ConfigError) : ConfigErrorClass :=
  e.problem.cls

/-- The sort of an error. -/
def kind (e : ConfigError) : ErrorKind :=
  e.cls.kind

/-- The message of an error. -/
def message (e : ConfigError) : String :=
  e.problem.details e.path ++
    match e.path with
    | some p => " (" ++ p.text ++ ")"
    | none => ""

/-- The error as a term: its class with its sort and its path. -/
def shown (e : ConfigError) : String :=
  e.cls.name ++ "(kind=" ++ Quoted.text e.kind.word ++ ", path=" ++
    (match e.path with
      | some p => "PosixPath(" ++ Quoted.text p.text ++ ")"
      | none => "None") ++ ")"

end ConfigError
end BuildTransform
