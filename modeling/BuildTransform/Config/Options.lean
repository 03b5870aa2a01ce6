import BuildTransform.Config.Platform
import BuildTransform.Workspace.Resolve

/-!
# Transform options

The options of a transform: where its configuration came from, and whether the
arguments of calls are evaluated.

* In `Options` every field is either given or not; a given path may be nothing.
* `Options.ofMapping` accepts two spellings of every field; the later one wins,
  and only the value that wins is checked, as the platform reads it.
* `Options.merge` lets the given fields of one set of options replace those of
  another.
-/

namespace BuildTransform

/-- A field of the options. -/
inductive OptionField
  | configFile
  | configDir
  | evaluateArguments
deriving DecidableEq, Repr

namespace OptionField

/-- The name of a field. -/
def name : OptionField → String
  | .configFile => "config_file"
  | .configDir => "config_dir"
  | .evaluateArguments => "evaluate_arguments"

/-- The other spelling of a field. -/
def alternative : OptionField → String
  | .configFile => "configFile"
  | .configDir => "configDir"
  | .evaluateArguments => "evaluateArguments"

/-- All fields in the order of their names. -/
def all : List OptionField :=
  [.configDir, .configFile, .evaluateArguments]

/-- The field that a key spells. -/
def ofKey? (key : String) : Option OptionField :=
  all.find? fun f => f.name == key || f.alternative == key

end OptionField

/-- A field whose value is refused. -/
structure OptionError where
  field : OptionField
  fault : OptionFault
deriving DecidableEq, Repr

/-- The options of a transform; a field that was not given is `none`. -/
structure Options where
  configFile : Option (Option Path)
  configDir : Option (Option Path)
  evaluateArguments : Option Bool
deriving DecidableEq, Repr

/-- Where options come from. -/
inductive OptionsInput
  | absent
  | made (options : Options)
  | mapping (pairs : List (String × Setting))

namespace Options

/-- Options of which no field is given. -/
def empty : Options :=
  ⟨none, none, none⟩

/-- The given fields. -/
def given (o : Options) : List OptionField :=
  OptionField.all.filter fun f =>
    match f with
    | .configFile => o.configFile.isSome
    | .configDir => o.configDir.isSome
    | .evaluateArguments => o.evaluateArguments.isSome

/-- The file that configuration came from. -/
def file (o : Options) : Option Path :=
  o.configFile.getD none

/-- The directory of the configuration. -/
def dir (o : Options) : Option Path :=
  o.configDir.getD none

/-- Arguments are evaluated unless the options say otherwise. -/
def evaluates (o : Options) : Bool :=
  o.evaluateArguments.getD true

/-- The given fields of `newer` replace those of `base`. -/
def merge (base newer : Options) : Options where
  configFile := newer.configFile <|> base.configFile
  configDir := newer.configDir <|> base.configDir
  evaluateArguments := newer.evaluateArguments <|> base.evaluateArguments

/-- The directory against which configuration is read: an explicit directory
wins over the directory of the file. -/
def resolvedDir (o : Options) (w : Workspace) : Except ResolveFault (Option Path) :=
  match o.dir, o.file with
  | some d, _ => (w.resolve d).map some
  | none, some f => (w.resolve f).map fun p => some p.parent
  | none, none => .ok none

/-- The file of the configuration as an absolute path. -/
def resolvedFile (o : Options) (w : Workspace) : Except ResolveFault (Option Path) :=
  match o.file with
  | some f => (w.resolve f).map some
  | none => .ok none

/-- Pairs with a value written under a key: in the place of the old value if
there is one, else at the end. -/
def putPair {α : Type} (key : String) (value : α) : List (String × α) → List (String × α)
  | [] => [(key, value)]
  | (k, v) :: rest =>
      if k = key then (k, value) :: rest else (k, v) :: putPair key value rest

/-- The value that a mapping holds for a field: the last one among the spellings
of the field, in the order in which the spellings first occur. -/
def valueFor (pairs : List (String × Setting)) (f : OptionField) : Option Setting :=
  let unique := pairs.foldl (fun ps (k, v) => putPair k v ps) []
  (unique.reverse.find? fun p => OptionField.ofKey? p.1 == some f).map (·.2)

/-- Checks the value of a field, if there is one. -/
def checked {α : Type} (f : OptionField) (read : Setting → Except OptionFault α)
    (v : Option Setting) : Except OptionError (Option α) :=
  match v with
  | none => .ok none
  | some v =>
      match read v with
      | .ok a => .ok (some a)
      | .error e => .error ⟨f, e⟩

section Mapping

variable [Platform]

/-- The options of a mapping, or all fields whose values are refused. -/
def ofMapping (pairs : List (String × Setting)) : Except (List OptionError) Options :=
  let dir := checked .configDir Platform.pathOf (valueFor pairs .configDir)
  let file := checked .configFile Platform.pathOf (valueFor pairs .configFile)
  let evaluate :=
    checked .evaluateArguments Platform.booleanOf (valueFor pairs .evaluateArguments)
  match file, dir, evaluate with
  | .ok f, .ok d, .ok e => .ok ⟨f, d, e⟩
  | _, _, _ => .error (faultOf dir ++ faultOf file ++ faultOf evaluate)
where
  /-- The error of a field as a list. -/
  faultOf {α : Type} : Except OptionError α → List OptionError
    | .error e => [e]
    | .ok _ => []

/-- The options that an input stands for. -/
def ofInput : OptionsInput → Except (List OptionError) Options
  | .absent => .ok empty
  | .made o => .ok o
  | .mapping pairs => ofMapping pairs

end Mapping

end Options
end BuildTransform
