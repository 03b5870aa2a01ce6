import BuildTransform.Proofs.Config.Reported
import BuildTransform.Proofs.Config.Merging

/-!
# What a history leaves in a loader

Which of the steps before it decides what a load yields.

* `Step.origin?` tells what a step makes of a loader: a new one, or one with configuration that
  was supplied. `Session.Decides` holds for such a step that succeeds.
* `Session.bare_loader_step` and `bare_loader_run` say that no other step leaves a trace in the
  loader, apart from options that were merged, and no load reads these.
* `Session.Latest` is the last step of a history that decides, and `Session.load_after_history`
  concludes what loads yield after any history.
-/

namespace BuildTransform

/-- Where a loader comes from. -/
inductive Origin
  | built (transform : String) (manifestNames : List String)
  | supplied (config : Value) (options : OptionsInput)

/-- What a step makes of the loader of a name if it succeeds, unless it leaves it alone. -/
def Step.origin? (name : String) : Step → Option Origin
  | .create as transform given _ => if as = name then some (.built transform given) else none
  | .configure _ as config options _ => if as = name then some (.supplied config options) else none
  | .setConfig on config options _ => if on = name then some (.supplied config options) else none
  | _ => none

/-! ## Configuration that was supplied -/

/-- The value with the file and the directory of the options, resolved: without a directory
that of the file, and nothing for what is not given. -/
structure ConfigData.Describes (data : ConfigData) (w : Workspace) (config : Value) (o : Options) :
    Prop where
  config : data.config = config
  file : match o.file with
    | some f => ∃ p, w.resolve f = .ok p ∧ data.file = some p
    | none => data.file = none
  dir : match o.dir with
    | some d => ∃ p, w.resolve d = .ok p ∧ data.dir = some p
    | none => data.dir = data.file.map Path.parent

namespace Loader

section Loads

variable {w : Workspace} {config : Value} {o : Options} {l : Loader} {data : ConfigData}

theorem describes_of_supplied (h : supplied w config o = .ok data) : data.Describes w config o := by
  obtain ⟨dir, file, hdir, hfile, rfl⟩ := supplied_eq_ok_iff.mp h
  constructor
  · rfl
  · simp only [Options.resolvedFile] at hfile
    cases ho : o.file with
    | none =>
        rw [ho] at hfile
        cases hfile
        rfl
    | some f =>
        rw [ho] at hfile
        obtain ⟨p, hp, rfl⟩ := Outcome.map_eq_ok_iff.mp hfile
        exact ⟨p, hp, rfl⟩
  · simp only [Options.resolvedDir] at hdir
    simp only [Options.resolvedFile] at hfile
    cases ho : o.dir with
    | some d =>
        rw [ho] at hdir
        obtain ⟨p, hp, rfl⟩ := Outcome.map_eq_ok_iff.mp hdir
        exact ⟨p, hp, rfl⟩
    | none =>
        cases hf : o.file with
        | none =>
            rw [ho, hf] at hdir
            rw [hf] at hfile
            cases hdir
            cases hfile
            rfl
        | some f =>
            -- The directory and the file are resolved one after the other, with one result.
            rw [ho, hf] at hdir
            rw [hf] at hfile
            obtain ⟨p, hp, rfl⟩ := Outcome.map_eq_ok_iff.mp hdir
            obtain ⟨q, hq, rfl⟩ := Outcome.map_eq_ok_iff.mp hfile
            rw [hp] at hq
            cases hq
            rfl

/-- The loader without the options that were merged into it. -/
def bare (l : Loader) : Loader :=
  { l with options := Options.empty }

variable [Platform]

/-- No load reads the options of a loader. -/
theorem loadBy_eq_of_bare {l l' : Loader} (h : l.bare = l'.bare) (async : Bool) (file : String) :
    l.loadBy async w file = l'.loadBy async w file := by
  obtain ⟨name, manifestNames, _, override⟩ := l
  obtain ⟨name', manifestNames', _, override'⟩ := l'
  simp only [bare, mk.injEq, true_and] at h
  obtain ⟨rfl, rfl, rfl⟩ := h
  rfl

/-- What was supplied is found at once, for every file and whether or not the caller waits. -/
theorem loadBy_of_override (h : l.override = some data) (async : Bool) (file : String) :
    l.loadBy async w file = pure data := by
  cases async <;> simp [loadBy, load, loadAsync, h]

theorem bare_setConfig_of_error {input : OptionsInput} {f : Failure}
    (h : (l.setConfig w config input).2.outcome = .error f) :
    (l.setConfig w config input).1.bare = l.bare := by
  rcases setConfig_cases w config input l with
    ⟨errors, -, hcall⟩ | ⟨o, fault, -, -, hcall⟩ | ⟨o, dir, file, -, -, -, hcall⟩
  · rw [hcall]
  · rw [hcall]
    rfl
  · rw [hcall] at h
    cases h

theorem make_eq_ok_iff {name : String} {manifestNames : List String} {input : OptionsInput} :
    make name manifestNames input = .ok l ↔
      Text.trim name ≠ "" ∧
        ∃ o, Options.ofInput input = .ok o ∧ l = ⟨name, manifestNames, o, none⟩ := by
  unfold make
  split_ifs with hname
  · simp [hname]
  · rw [Outcome.map_eq_ok_iff]
    simp only [optionsOf, Outcome.mapError_eq_ok_iff, ne_eq, hname, not_false_eq_true, true_and]
    exact exists_congr fun o => and_congr_right fun _ => eq_comm

/-- The loader has what its origin, in that workspace, gives it. -/
def StemsFrom (w : Workspace) (origin : Origin) (l : Loader) : Prop :=
  match origin with
  | .built transform manifestNames =>
      Text.trim transform ≠ "" ∧ l.bare = ⟨transform, manifestNames, Options.empty, none⟩
  | .supplied config input =>
      ∃ o data, Options.ofInput input = .ok o ∧ Loader.supplied w config o = .ok data ∧
        l.override = some data

theorem stemsFrom_of_bare {origin : Origin} {l l' : Loader} (h : l'.bare = l.bare)
    (hl : l.StemsFrom w origin) : l'.StemsFrom w origin := by
  cases origin with
  | built transform manifestNames => exact ⟨hl.1, h.trans hl.2⟩
  | supplied config input =>
      obtain ⟨o, data, hinput, hdata, hoverride⟩ := hl
      have hsame : l'.override = l.override := (Loader.mk.inj h).2.2.2
      exact ⟨o, data, hinput, hdata, hsame.trans hoverride⟩

end Loads

end Loader

namespace Session

/-! ## Steps -/

/-- The step succeeds. -/
def Succeeds [Platform] (s : Session) (step : Step) : Prop :=
  ∃ a, (s.step step).2.outcome = .ok a

/-- The step decides what the loader of the name is. -/
def Decides [Platform] (s : Session) (name : String) (step : Step) : Prop :=
  (∃ origin, step.origin? name = some origin) ∧ s.Succeeds step

section Steps

variable {α : Type} {s : Session} {step : Step} {name : String}

theorem outcome_answering {r : Report α} {answer : α → Answer} {b : Answer} :
    (answering r answer).outcome = .ok b ↔ ∃ a, r.outcome = .ok a ∧ answer a = b := by
  obtain ⟨notices, f | a⟩ := r
  · simp [answering, Report.andThen]
  · simp [answering, Report.andThen, pure]

theorem after_of_ok {r : Report α} {change : α → Session} {a : α} (h : r.outcome = .ok a) :
    s.after r change = change a := by
  simp only [after, h]

/-- A change that leaves a loader alone leaves it alone also if it does not apply. -/
theorem loader_after {r : Report α} {change : α → Session}
    (h : ∀ a, r.outcome = .ok a → (change a).loader name = s.loader name) :
    (s.after r change).loader name = s.loader name := by
  unfold after
  split
  · exact h _ ‹_›
  · rfl

variable [Platform]

/-- A copy with configuration is made of a loader that is there. -/
theorem outcome_configure {on : String} {config : Value} {input : OptionsInput} {l' : Loader} :
    (do let l ← Report.ofExcept (s.loader on); l.configure s.workspace config input :
        Report Loader).outcome = .ok l' ↔
      ∃ l, s.loader on = .ok l ∧ (l.configure s.workspace config input).outcome = .ok l' := by
  rw [outcome_andThen, Outcome.chain_eq_ok_iff, outcome_ofExcept]

/-- A step that decides leaves a loader of its origin. -/
theorem stemsFrom_step {origin : Origin} (h : step.origin? name = some origin)
    (hstep : s.Succeeds step) :
    ∃ l, (s.step step).1.loader name = .ok l ∧ l.StemsFrom s.workspace origin := by
  obtain ⟨b, hb⟩ := hstep
  cases step with
  | create as transform given input =>
      simp only [Step.origin?, Option.ite_none_right_eq_some, Option.some.injEq] at h
      obtain ⟨rfl, rfl⟩ := h
      simp only [Session.step, create] at hb
      obtain ⟨l, hmake, -⟩ := outcome_answering.mp hb
      have hmade := hmake
      rw [outcome_ofExcept] at hmade
      obtain ⟨hname, o, -, rfl⟩ := Loader.make_eq_ok_iff.mp hmade
      refine ⟨⟨transform, given, o, none⟩, ?_, hname, rfl⟩
      rw [Session.step, create, after_of_ok hmake, loader_withLoader_self]
  | configure on as config input keep =>
      simp only [Step.origin?, Option.ite_none_right_eq_some, Option.some.injEq] at h
      obtain ⟨rfl, rfl⟩ := h
      obtain ⟨l', hcopy, -⟩ := outcome_answering.mp hb
      obtain ⟨l, -, hconfigure⟩ := outcome_configure.mp hcopy
      obtain ⟨o, data, hinput, hdata, hl'⟩ := Loader.configure_eq_ok_iff.mp hconfigure
      refine ⟨l', ?_, o, data, hinput, ?_, by rw [hl']⟩
      · rw [Session.step, configure, after_of_ok hcopy, loader_withLoader_self]
      · cases keep <;> exact hdata
  | setConfig on config input keep =>
      simp only [Step.origin?, Option.ite_none_right_eq_some, Option.some.injEq] at h
      obtain ⟨rfl, rfl⟩ := h
      simp only [Session.step, setConfig, loader_keeping] at hb ⊢
      cases hon : s.loader on with
      | error f =>
          rw [hon] at hb
          cases hb
      | ok l =>
          rw [hon] at hb
          obtain ⟨u, hcall, -⟩ := outcome_answering.mp hb
          obtain ⟨o, data, hinput, hdata, hl'⟩ :=
            Loader.setConfig_eq_ok_iff.mp ⟨hcall, rfl⟩
          refine ⟨_, loader_withLoader_self, o, data, hinput, ?_, ?_⟩
          · cases keep <;> exact hdata
          · rw [hl']
  | _ => cases h

/-- **Any other step leaves no trace in a loader** but options that were merged. -/
theorem bare_loader_step (h : ¬ s.Decides name step) :
    ((s.step step).1.loader name).map Loader.bare = (s.loader name).map Loader.bare := by
  have hfails {origin : Origin} {b : Answer} (horigin : step.origin? name = some origin) :
      (s.step step).2.outcome ≠ .ok b := fun hb => h ⟨⟨origin, horigin⟩, b, hb⟩
  cases step with
  | create as transform given input =>
      rw [Session.step, create, loader_after]
      intro l hl
      have hname : name ≠ as := by
        rintro rfl
        exact hfails (if_pos rfl) (outcome_answering.mpr ⟨l, hl, rfl⟩)
      exact loader_withLoader_of_ne hname
  | configure on as config input keep =>
      rw [Session.step, configure, loader_after, loader_keeping]
      intro l hl
      have hname : name ≠ as := by
        rintro rfl
        exact hfails (if_pos rfl) (outcome_answering.mpr ⟨l, hl, rfl⟩)
      exact loader_withLoader_of_ne hname
  | setConfig on config input keep =>
      simp only [Session.step, setConfig, loader_keeping] at hfails ⊢
      cases hon : s.loader on with
      | error f => simp only [loader_keeping]
      | ok l =>
          by_cases hname : name = on
          · subst hname
            rw [hon] at hfails
            rw [hon, loader_withLoader_self]
            cases hcall :
              (l.setConfig (s.keeping keep config).workspace config input).2.outcome with
            | error f => exact congrArg Except.ok (Loader.bare_setConfig_of_error hcall)
            | ok u => exact absurd (outcome_answering.mpr ⟨u, hcall, rfl⟩) (hfails (if_pos rfl))
          · simp only [loader_withLoader_of_ne hname, loader_keeping]
  | load on file async keep => exact congrArg _ (loader_after fun _ _ => loader_keeping)
  | mutate kept keys value => exact congrArg _ (loader_after fun _ _ => loader_keeping)
  | _ => rfl

end Steps

/-! ## Histories -/

/-- None of the steps, taken one after the other, decides what the loader of the name is. -/
def Idle [Platform] (s : Session) (name : String) (steps : List Step) : Prop :=
  ∀ early step late, steps = early ++ step :: late → ¬ (s.run early).1.Decides name step

/-- The last of the steps that decides what the loader of the name is comes after the steps
`before` and gives it the origin. -/
def Latest [Platform] (s : Session) (name : String) (steps before : List Step)
    (origin : Origin) : Prop :=
  ∃ call later, steps = before ++ call :: later ∧ call.origin? name = some origin ∧
    (s.run before).1.Succeeds call ∧ (s.run (before ++ [call])).1.Idle name later

section Histories

variable [Platform] {s : Session} {step : Step} {steps rest before : List Step}
  {name : String}

theorem run_cons : (s.run (step :: rest)).1 = ((s.step step).1.run rest).1 :=
  rfl

theorem run_append : (s.run (steps ++ rest)).1 = ((s.run steps).1.run rest).1 := by
  induction steps generalizing s with
  | nil => rfl
  | cons step steps ih => exact ih

theorem idle_nil : s.Idle name [] := by
  rintro (_ | ⟨_, _⟩) step late h <;> cases h

theorem idle_cons :
    s.Idle name (step :: rest) ↔ ¬ s.Decides name step ∧ (s.step step).1.Idle name rest := by
  constructor
  · refine fun h => ⟨h [] step rest rfl, fun early next late hsplit => ?_⟩
    exact h (step :: early) next late (congrArg _ hsplit)
  · rintro ⟨hstep, hrest⟩ (_ | ⟨first, early⟩) next late hsplit
    · cases hsplit
      exact hstep
    · cases hsplit
      exact hrest early next late rfl

theorem idle_concat :
    s.Idle name (steps ++ [step]) ↔ s.Idle name steps ∧ ¬ (s.run steps).1.Decides name step := by
  induction steps generalizing s with
  | nil => simp [idle_cons, idle_nil, run]
  | cons first steps ih => simp only [List.cons_append, idle_cons, ih, run_cons, and_assoc]

/-- **A history in which nothing decides leaves no trace in a loader** but options that were
merged. -/
theorem bare_loader_run (h : s.Idle name steps) :
    ((s.run steps).1.loader name).map Loader.bare = (s.loader name).map Loader.bare := by
  induction steps generalizing s with
  | nil => rfl
  | cons step steps ih =>
      obtain ⟨hstep, hsteps⟩ := idle_cons.mp h
      exact (ih hsteps).trans (bare_loader_step hstep)

/-- A loader has what the last step that decides gives it. -/
theorem stemsFrom_of_latest {origin : Origin} (h : s.Latest name steps before origin) :
    ∃ l, (s.run steps).1.loader name = .ok l ∧ l.StemsFrom (s.run before).1.workspace origin := by
  obtain ⟨call, later, rfl, horigin, hcall, hlater⟩ := h
  obtain ⟨l, hl, hstems⟩ := stemsFrom_step horigin hcall
  have hrun : (s.run (before ++ call :: later)).1 = ((s.run (before ++ [call])).1.run later).1 := by
    rw [← run_append, List.append_assoc, List.singleton_append]
  have hmade : (s.run (before ++ [call])).1.loader name = .ok l := by
    rw [run_append]
    exact hl
  have hbare := bare_loader_run hlater
  rw [hmade, ← hrun] at hbare
  obtain ⟨l', hl', hsame⟩ := Outcome.map_eq_ok_iff.mp hbare
  exact ⟨l', hl', Loader.stemsFrom_of_bare hsame hstems⟩

/-- Every loader of a session was made in it. -/
theorem exists_latest {w : Workspace} {l : Loader}
    (h : ((start w).run steps).1.loader name = .ok l) :
    ∃ before origin, (start w).Latest name steps before origin := by
  induction steps using List.reverseRecOn generalizing l with
  | nil => cases h
  | append_singleton steps step ih =>
      by_cases hstep : ((start w).run steps).1.Decides name step
      · obtain ⟨⟨origin, horigin⟩, hsucceeds⟩ := hstep
        exact ⟨steps, origin, step, [], rfl, horigin, hsucceeds, idle_nil⟩
      · -- The loader was there before the step, and an earlier step made it.
        have hbare := bare_loader_step hstep
        rw [run_append] at h
        have hthere : ((((start w).run steps).1.step step).1.loader name).map Loader.bare =
            .ok l.bare := congrArg _ h
        rw [hthere] at hbare
        obtain ⟨l', hl', -⟩ := Outcome.map_eq_ok_iff.mp hbare.symm
        obtain ⟨before, origin, call, later, rfl, horigin, hcall, hlater⟩ := ih hl'
        refine ⟨before, origin, call, later ++ [step], by simp, horigin, hcall, ?_⟩
        refine idle_concat.mpr ⟨hlater, ?_⟩
        rwa [← run_append, List.append_assoc, List.singleton_append]

/-- What a load yields is what the loader yields. -/
theorem report_load {l : Loader} (h : s.loader name = .ok l) (file : String) (async : Bool)
    (keep : Option String) :
    (s.step (.load name file async keep)).2 =
      answering (l.loadBy async s.workspace file) .config := by
  simp only [Session.step, load, h]
  rfl

end Histories

/-- **What a load yields is decided by the last call that succeeded** of those that made the
loader or supplied configuration to it. If it supplied configuration, every load yields that,
with the paths of that call as they were resolved then. If it made the loader, a load yields
what any new loader of the same names would yield in the workspace as it is now. -/
theorem load_after_history [Platform] (w : Workspace) (steps : List Step) (name : String) :
    let s := ((start w).run steps).1
    ((∃ l, s.loader name = .ok l) ↔
      ∃ before origin, (start w).Latest name steps before origin) ∧
    (∀ before config input, (start w).Latest name steps before (.supplied config input) →
      ∃ o data, Options.ofInput input = .ok o ∧
        data.Describes ((start w).run before).1.workspace config o ∧
        ∀ file async keep,
          (s.step (.load name file async keep)).2 = pure (.config data)) ∧
    (∀ before transform given, (start w).Latest name steps before (.built transform given) →
      (∃ fresh, Loader.make transform given .absent = .ok fresh) ∧
      ∀ input fresh, Loader.make transform given input = .ok fresh →
        ∀ file async keep,
          (s.step (.load name file async keep)).2 =
            answering (fresh.loadBy async s.workspace file) .config) := by
  intro s
  refine ⟨⟨fun ⟨l, hl⟩ => exists_latest hl, ?_⟩, ?_, ?_⟩
  · rintro ⟨before, origin, hlatest⟩
    obtain ⟨l, hl, -⟩ := stemsFrom_of_latest hlatest
    exact ⟨l, hl⟩
  · intro before config input hlatest
    obtain ⟨l, hl, o, data, hinput, hdata, hoverride⟩ := stemsFrom_of_latest hlatest
    refine ⟨o, data, hinput, Loader.describes_of_supplied hdata, fun file async keep => ?_⟩
    rw [report_load hl, Loader.loadBy_of_override hoverride]
    rfl
  · intro before transform given hlatest
    obtain ⟨l, hl, hname, hbare⟩ := stemsFrom_of_latest hlatest
    refine ⟨⟨_, Loader.make_eq_ok_iff.mpr ⟨hname, _, rfl, rfl⟩⟩, ?_⟩
    intro input fresh hfresh file async keep
    obtain ⟨-, o, -, rfl⟩ := Loader.make_eq_ok_iff.mp hfresh
    have hsame : l.bare = (⟨transform, given, o, none⟩ : Loader).bare := hbare
    rw [report_load hl, Loader.loadBy_eq_of_bare hsame]

/-- A copy keeps its configuration after a call on it that fails, and the loader that was
copied has none. -/
theorem copy_keeps_configuration :
    let w : Workspace := ⟨FileTree.empty, [], none⟩
    let first := Step.create "base" "t" [] .absent
    let steps := [first, .configure "base" "copy" (.int 1) .absent none,
      .setVariable (some "other.json"),
      .setConfig "copy" (.int 2) (.mapping [("config_dir", .value (.int 3))]) none]
    (start w).Latest "copy" steps [first] (.supplied (.int 1) .absent) ∧
    (start w).Latest "base" steps [] (.built "t" []) ∧
    ∀ file async keep, (((start w).run steps).1.step (.load "copy" file async keep)).2 =
      pure (.config ⟨.int 1, none, none⟩) := by
  intro w first steps
  have hother {s : Session} {name : String} {step : Step} (h : step.origin? name = none) :
      ¬ s.Decides name step := by
    rintro ⟨⟨origin, horigin⟩, -⟩
    rw [h] at horigin
    cases horigin
  have hcopy : (start w).Latest "copy" steps [first] (.supplied (.int 1) .absent) := by
    refine ⟨_, _, rfl, rfl, ⟨.nothing, rfl⟩, ?_⟩
    refine idle_cons.mpr ⟨hother rfl, idle_cons.mpr ⟨?_, idle_nil⟩⟩
    rintro ⟨-, a, ha⟩
    cases ha
  have hbase : (start w).Latest "base" steps [] (.built "t" []) :=
    ⟨_, _, rfl, rfl, ⟨.nothing, rfl⟩, idle_cons.mpr ⟨hother rfl, idle_cons.mpr ⟨hother rfl,
      idle_cons.mpr ⟨hother rfl, idle_nil⟩⟩⟩⟩
  obtain ⟨o, data, hinput, hdata, hload⟩ :=
    (load_after_history w steps "copy").2.1 _ _ _ hcopy
  cases hinput
  have hfile : data.file = none := hdata.file
  have hdir : data.dir = none := hdata.dir.trans (by rw [hfile]; rfl)
  refine ⟨hcopy, hbase, fun file async keep => (hload file async keep).trans ?_⟩
  obtain ⟨config, dir, file⟩ := data
  cases hfile
  cases hdir
  cases hdata.config
  rfl

end Session
end BuildTransform
