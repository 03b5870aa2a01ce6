import BuildTransform.Config.Loader
import BuildTransform.Config.Standard
import BuildTransform.Workspace.Change

/-!
# Sessions

Histories of operations on loaders and on the files that they read.

* A `Session` holds a workspace, loaders by name and values that were kept.
* `Step` lists the operations; each yields an `Answer` or fails, and a session
  goes on after a failure.
* `Session.step` gives the session after a step and what the step reports.
-/

namespace BuildTransform

/-- An operation. -/
inductive Step
  | create (as name : String) (manifestNames : List String) (options : OptionsInput)
  | configure (on as : String) (config : Value) (options : OptionsInput)
      (keep : Option String)
  | setConfig (on : String) (config : Value) (options : OptionsInput) (keep : Option String)
  | load (on file : String) (async : Bool) (keep : Option String)
  | loadNamed (name file : String) (async : Bool)
  | mutate (kept : String) (keys : List Value) (value : Value)
  | inspect (on : String)
  | locate (file : String) (manifestNames : List String)
  | manifestNames (given : List String)
  | readManifest (path : Path)
  | loadFile (path : Path)
  | resolve (dir : Path) (value : Value)
  | write (path : Path) (entry : Entry)
  | remove (path : Path)
  | setVariable (value : Option String)

/-- What an operation yields. -/
inductive Answer
  | nothing
  | config (data : ConfigData)
  | loader (l : Loader)
  | lookup (found : Lookup Manifest)
  | names (ns : List String)
  | manifest (m : Manifest)
  | value (v : Value)

/-- The state between operations. -/
structure Session where
  workspace : Workspace
  loaders : List (String × Loader)
  kept : List (String × Value)

namespace Session

/-- A session of a workspace in which nothing has happened yet. -/
def start (w : Workspace) : Session :=
  ⟨w, [], []⟩

/-- The loader of a name. -/
def loader (s : Session) (name : String) : Except Failure Loader :=
  match s.loaders.lookup name with
  | some l => .ok l
  | none => .error (.undefined name)

/-- The session with a loader under a name. -/
def withLoader (s : Session) (name : String) (l : Loader) : Session :=
  { s with loaders := (name, l) :: s.loaders }

/-- The session with a value kept under a name, if one is given. -/
def keeping (s : Session) (name : Option String) (v : Value) : Session :=
  match name with
  | some n => { s with kept := (n, v) :: s.kept }
  | none => s

/-- The next session: `change` applies if the report is a success. -/
def after {α : Type} (s : Session) (r : Report α) (change : α → Session) : Session :=
  match r.outcome with
  | .ok a => change a
  | .error _ => s

/-- A report with what it yields as an answer. -/
def answering {α : Type} (r : Report α) (answer : α → Answer) : Report Answer :=
  r.andThen fun a => pure (answer a)

/-- A step that only asks. -/
def asking (s : Session) (r : Report Answer) : Session × Report Answer :=
  (s, r)

/-- A step that changes the workspace. -/
def changing (s : Session) (w : Workspace) : Session × Report Answer :=
  ({ s with workspace := w }, pure .nothing)

/-- Replaces an item of a kept value; loaders have copies of their own. -/
def mutate (s : Session) (kept : String) (keys : List Value) (value : Value) :
    Session × Report Answer :=
  let r : Except Failure Value :=
    match s.kept.lookup kept with
    | none => .error (.undefined kept)
    | some v => (Value.assign value keys v).mapError .noSuchItem
  let r := Report.ofExcept r
  (s.after r (s.keeping (some kept)), answering r fun _ => .nothing)

variable [Platform]

/-- Makes a loader under a name. -/
def create (s : Session) (as name : String) (manifestNames : List String)
    (options : OptionsInput) : Session × Report Answer :=
  let r := Report.ofExcept (Loader.make name manifestNames options)
  (s.after r (s.withLoader as), answering r fun _ => .nothing)

/-- Makes a loader with configuration from another one. -/
def configure (s : Session) (on as : String) (config : Value) (options : OptionsInput) :
    Session × Report Answer :=
  let r : Report Loader := do
    let l ← Report.ofExcept (s.loader on)
    l.configure s.workspace config options
  (s.after r (s.withLoader as), answering r fun _ => .nothing)

/-- Supplies configuration to a loader. -/
def setConfig (s : Session) (on : String) (config : Value) (options : OptionsInput) :
    Session × Report Answer :=
  match s.loader on with
  | .error f => (s, Report.fail f)
  | .ok l =>
      let (l, r) := l.setConfig s.workspace config options
      (s.withLoader on l, answering r fun _ => .nothing)

/-- Finds the configuration of a loader for a file. -/
def load (s : Session) (on file : String) (async : Bool) (keep : Option String) :
    Session × Report Answer :=
  let r : Report ConfigData := do
    let l ← Report.ofExcept (s.loader on)
    l.loadBy async s.workspace file
  (s.after r fun data => s.keeping keep data.config, answering r .config)

/-- Takes one step. -/
def step (s : Session) : Step → Session × Report Answer
  | .create as name manifestNames options => s.create as name manifestNames options
  | .configure on as config options keep => (s.keeping keep config).configure on as config options
  | .setConfig on config options keep => (s.keeping keep config).setConfig on config options
  | .load on file async keep => s.load on file async keep
  | .loadNamed name file async =>
      s.asking (answering (Loader.loadNamed async s.workspace name file) .config)
  | .mutate kept keys value => s.mutate kept keys value
  | .inspect on => s.asking (Report.ofExcept ((s.loader on).map .loader))
  | .locate file names => s.asking (answering (Manifest.locate s.workspace file names) .lookup)
  | .manifestNames given => s.asking (answering (Manifest.names s.workspace given) .names)
  | .readManifest p => s.asking (Report.ofExcept ((Manifest.read s.workspace p).map .manifest))
  | .loadFile p => s.asking (answering (ConfigFile.load s.workspace p) .value)
  | .resolve dir v => s.asking (answering (ConfigData.resolve s.workspace dir v) .config)
  | .write p e => s.changing (s.workspace.write p e)
  | .remove p => s.changing (s.workspace.remove p)
  | .setVariable v => s.changing { s.workspace with manifestVariable := v }

/-- Takes steps in order. -/
def run (s : Session) : List Step → Session × List (Report Answer)
  | [] => (s, [])
  | first :: rest =>
      let (next, r) := s.step first
      let (last, rs) := next.run rest
      (last, r :: rs)

end Session
end BuildTransform
