import BuildTransform.Config.Setting
import BuildTransform.Document
import BuildTransform.Script.Ending
import BuildTransform.Workspace.Walk

/-!
# Platforms

What the library takes from the system that it runs on.

* A `Platform` runs configuration modules, reads YAML, reads the settings of options, and has
  limits for how deeply documents may be nested.
* Two laws say what is known of its modules: it agrees with `Script.Execution` on modules that
  are followed there, and a module that the system refuses to read fails.
* `Config.Standard` is the platform that is used where no other one is named.
-/

namespace BuildTransform

namespace ConfigFile

/-- The absolute text of a path: a relative one continues the working directory. -/
def absoluteText (w : Workspace) (p : Path) : String :=
  match p.root with
  | .relative => Path.rootText .single ++ "/".intercalate (w.home ++ p.names)
  | _ => p.text

/-- What the module of a path is called and where it lies. -/
def moduleInfo (w : Workspace) (p : Path) : Script.ModuleInfo :=
  ⟨Script.Execution.moduleName p.stem, absoluteText w p⟩

/-- The name of the binding that holds the configuration of a module. -/
def configName : String :=
  "config"

/-- What running the text of a module gives for its configuration, as far as it is followed. -/
def followed (w : Workspace) (p : Path) (text : String) : Script.Run (Option Value) :=
  (Script.Execution.bindingsOf (moduleInfo w p) text).bind
    (Script.Execution.valueNamed? configName)

end ConfigFile

/-- What comes from outside. -/
class Platform where
  /-- How running the file at a path as a module ends for its configuration. -/
  run : Workspace → Path → Script.Ending
  /-- The value of a YAML text. -/
  yaml : String → Except DocumentFailure Value
  /-- How many brackets of a JSON text may be open at a time. -/
  jsonLevels : Nat
  /-- The collections of a TOML text are nested too deeply. -/
  exhaustsToml : String → Bool
  /-- Reads a path or nothing. -/
  pathOf : Setting → Except OptionFault (Option Path)
  /-- Reads a truth value. -/
  booleanOf : Setting → Except OptionFault Bool
  /-- Modules that are followed end as they do here. -/
  run_followed (w : Workspace) (p : Path) (text : String)
    (hread : w.read p = .ok (.text text))
    (hknown : ConfigFile.followed w p text ≠ .error .beyond) :
    run w p = .ofRun (ConfigFile.followed w p text)
  /-- A module that cannot be read fails with the error of the system. -/
  run_unreadable (w : Workspace) (p : Path) (error : SystemError)
    (hread : w.read p = .error (.unreadable error)) :
    run w p = .failed ⟨error.kind, .exact error.text⟩

end BuildTransform
