import BuildTransform.Config.Loader
import BuildTransform.Config.Standard
import BuildTransform.Proofs.Outcome

/-!
# Configuration that is supplied directly

What supplying configuration does to a loader, whether it succeeds or fails.

* `Options.merge_eq_self_iff` says when merging options changes nothing.
* `Loader.setConfig_cases` lists the three ways in which a call can end: the
  options are refused, a path cannot be resolved, or configuration is supplied.
* `Loader.setConfig_failed_unchanged_iff` derives what is left of a call that
  fails: nothing but options that were merged before a path was resolved.
-/

namespace BuildTransform

namespace Options

/-- Every field that `o` gives is given by `base` with the same value. -/
structure Repeats (o base : Options) : Prop where
  configFile : ∀ p, o.configFile = some p → base.configFile = some p
  configDir : ∀ p, o.configDir = some p → base.configDir = some p
  evaluateArguments :
    ∀ b, o.evaluateArguments = some b → base.evaluateArguments = some b

/-- A field is the same after a newer one was put before it iff the newer one,
if given, repeats it. -/
theorem orElse_eq_right_iff {α : Type} {newer base : Option α} :
    (newer <|> base) = base ↔ ∀ a, newer = some a → base = some a := by
  cases newer <;> simp [eq_comm]

/-- Merging changes nothing iff the newer options repeat the older ones. -/
theorem merge_eq_self_iff {o base : Options} :
    base.merge o = base ↔ o.Repeats base := by
  cases base with
  | mk file dir evaluate =>
      simp only [merge, mk.injEq, orElse_eq_right_iff]
      constructor
      · rintro ⟨hfile, hdir, hevaluate⟩
        exact ⟨hfile, hdir, hevaluate⟩
      · rintro ⟨hfile, hdir, hevaluate⟩
        exact ⟨hfile, hdir, hevaluate⟩

/-- A path of the options cannot be resolved: that of the directory, or, where
that one can, the file. -/
def Unresolvable (o : Options) (w : Workspace) (fault : ResolveFault) : Prop :=
  o.resolvedDir w = .error fault ∨
    ∃ dir, o.resolvedDir w = .ok dir ∧ o.resolvedFile w = .error fault

end Options

namespace Loader

section SetConfig

variable {w : Workspace} {config : Value} {input : OptionsInput}
variable {o : Options}

/-- Supplied configuration consists of the value and the resolved paths. -/
theorem supplied_eq_ok_iff {data : ConfigData} :
    supplied w config o = .ok data ↔
      ∃ dir file, o.resolvedDir w = .ok dir ∧ o.resolvedFile w = .ok file ∧
        data = ⟨config, dir, file⟩ := by
  simp only [supplied, Outcome.chain_eq_ok_iff, Outcome.mapError_eq_ok_iff]
  constructor
  · rintro ⟨dir, hdir, file, hfile, h⟩
    cases h
    exact ⟨dir, file, hdir, hfile, rfl⟩
  · rintro ⟨dir, file, hdir, hfile, rfl⟩
    exact ⟨dir, hdir, file, hfile, rfl⟩

/-- Configuration cannot be supplied iff one of its paths cannot be resolved. -/
theorem supplied_eq_error_iff {f : Failure} :
    supplied w config o = .error f ↔
      ∃ fault, o.Unresolvable w fault ∧ f = .path fault := by
  simp only [supplied, Outcome.chain_eq_error_iff, Outcome.mapError_eq_ok_iff,
    Outcome.mapError_eq_error_iff, Options.Unresolvable]
  constructor
  · rintro (⟨fault, hdir, rfl⟩ | ⟨dir, hdir, ⟨fault, hfile, rfl⟩ | ⟨_, _, h⟩⟩)
    · exact ⟨fault, Or.inl hdir, rfl⟩
    · exact ⟨fault, Or.inr ⟨dir, hdir, hfile⟩, rfl⟩
    · cases h
  · rintro ⟨fault, hdir | ⟨dir, hdir, hfile⟩, rfl⟩
    · exact Or.inl ⟨fault, hdir, rfl⟩
    · exact Or.inr ⟨dir, hdir, Or.inl ⟨fault, hfile, rfl⟩⟩

/-- A file whose name has a NUL character cannot be resolved anywhere. -/
theorem unresolvable_of_nul {p : Path}
    (hp : p.text.toList.contains '\x00' = true) :
    Options.Unresolvable ⟨some (some p), none, none⟩ w .nulInName := by
  have hresolve : w.resolve p = .error .nulInName := by
    simp only [Workspace.resolve, hp, if_true]
  refine Or.inl ?_
  simp [Options.resolvedDir, Options.dir, Options.file, hresolve, Except.map]

variable [Platform]

/-- If a path cannot be resolved, the options have been merged already. -/
theorem setConfig_of_unresolvable {l : Loader} {fault : ResolveFault}
    (hinput : Options.ofInput input = .ok o)
    (hfault : o.Unresolvable w fault) :
    l.setConfig w config input =
      ({ l with options := l.options.merge o }, Report.fail (.path fault)) := by
  have hsupplied : supplied w config o = .error (.path fault) :=
    supplied_eq_error_iff.mpr ⟨fault, hfault, rfl⟩
  simp [setConfig, optionsOf, hinput, Except.mapError, hsupplied]

/-- **The ways in which a call can end**, with the loader and the report that it
leaves. -/
theorem setConfig_cases (w : Workspace) (config : Value) (input : OptionsInput)
    (l : Loader) :
    (∃ errors, Options.ofInput input = .error errors ∧
      l.setConfig w config input = (l, Report.fail (.options errors))) ∨
    (∃ o fault, Options.ofInput input = .ok o ∧ o.Unresolvable w fault ∧
      l.setConfig w config input =
        ({ l with options := l.options.merge o }, Report.fail (.path fault))) ∨
    (∃ o dir file, Options.ofInput input = .ok o ∧
      o.resolvedDir w = .ok dir ∧ o.resolvedFile w = .ok file ∧
      l.setConfig w config input =
        ({ l with
            options := l.options.merge o
            override := some ⟨config, dir, file⟩ },
          Report.notice (.setDirectly l.name dir))) := by
  cases hinput : Options.ofInput input with
  | error errors =>
      refine Or.inl ⟨errors, rfl, ?_⟩
      simp [setConfig, optionsOf, hinput, Except.mapError]
  | ok o =>
      cases hsupplied : supplied w config o with
      | error f =>
          obtain ⟨fault, hfault, rfl⟩ := supplied_eq_error_iff.mp hsupplied
          exact Or.inr (Or.inl ⟨o, fault, rfl, hfault,
            setConfig_of_unresolvable hinput hfault⟩)
      | ok data =>
          obtain ⟨dir, file, hdir, hfile, rfl⟩ := supplied_eq_ok_iff.mp hsupplied
          refine Or.inr (Or.inr ⟨o, dir, file, rfl, hdir, hfile, ?_⟩)
          simp [setConfig, optionsOf, hinput, Except.mapError, hsupplied]

/-- **A call that fails changes nothing but the options**, and these only if it
gives options that do not repeat them. -/
theorem setConfig_failed_unchanged_iff {l : Loader} {f : Failure}
    (h : (l.setConfig w config input).2.outcome = .error f) :
    (l.setConfig w config input).1.name = l.name ∧
    (l.setConfig w config input).1.manifestNames = l.manifestNames ∧
    (l.setConfig w config input).1.override = l.override ∧
    ((l.setConfig w config input).1.options = l.options ↔
      ∀ o, Options.ofInput input = .ok o → o.Repeats l.options) := by
  rcases setConfig_cases w config input l with
    ⟨errors, hinput, hcall⟩ | ⟨o, fault, hinput, -, hcall⟩ |
    ⟨o, dir, file, -, -, -, hcall⟩
  · simp [hcall, hinput]
  · simp [hcall, hinput, Options.merge_eq_self_iff]
  · rw [hcall] at h
    cases h

end SetConfig

/-- Supplying a file that was merged before fails and leaves no trace. -/
theorem repeated_file_unchanged :
    let w : Workspace := ⟨FileTree.empty, [], none⟩
    let file : Path := ⟨.relative, ["a\x00b"]⟩
    let l : Loader := ⟨"t", [], ⟨some (some file), none, some false⟩, none⟩
    let input := OptionsInput.made ⟨some (some file), none, none⟩
    (l.setConfig w .null input).2.outcome = .error (.path .nulInName) ∧
    (l.setConfig w .null input).1.options = l.options := by
  intro w file l input
  have hfault : Options.Unresolvable ⟨some (some file), none, none⟩ w .nulInName :=
    unresolvable_of_nul (by decide)
  have hfailed :
      (l.setConfig w .null input).2.outcome = .error (.path .nulInName) := by
    rw [setConfig_of_unresolvable rfl hfault]
    rfl
  refine ⟨hfailed, (setConfig_failed_unchanged_iff hfailed).2.2.2.mpr ?_⟩
  intro o ho
  cases ho
  exact ⟨fun p hp => hp, by simp, by simp⟩

/-- Supplying a new file whose name has a NUL character fails, but the loader
has the file among its options from then on. -/
theorem new_file_merged :
    let w : Workspace := ⟨FileTree.empty, [], none⟩
    let l : Loader := ⟨"t", [], Options.empty, none⟩
    let input := OptionsInput.mapping [("config_file", .value (.str "a\x00b"))]
    (l.setConfig w .null input).2.outcome = .error (.path .nulInName) ∧
    (l.setConfig w .null input).1.options.file = some ⟨.relative, ["a\x00b"]⟩ ∧
    l.options.file = none := by
  intro w l input
  have hfault : Options.Unresolvable
      ⟨some (some ⟨.relative, ["a\x00b"]⟩), none, none⟩ w .nulInName :=
    unresolvable_of_nul (by decide)
  have hcall : l.setConfig w .null input = _ :=
    setConfig_of_unresolvable rfl hfault
  rw [hcall]
  exact ⟨rfl, rfl, rfl⟩

end Loader
end BuildTransform
