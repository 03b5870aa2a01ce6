import BuildTransform.Proofs.Config.Blame
import BuildTransform.Proofs.Script.Running

/-!
# Configuration modules

What loading a file yields that is run as a module.

* `ConfigFile.ModuleText` says that a file is run as a module and which statements its text has.
* `load_of_raised`, `load_of_unassigned` and `load_of_lastAssigns` say how loading ends: with the
  first exception, without a configuration, or with what was assigned to its name last.
* `outcome_ofRaised_cases` says what becomes of an exception: an error of configuration, if it
  has a text.
* `module_all_or_nothing` concludes, for modules whose statements are all followed, and adds
  that nothing that was loaded or written before has a part in it.
-/

namespace BuildTransform

open Script (Bindings Complaint Ending Halt Object Raised Statement)
open Script.Execution (Completes Halts LastAssigns)

namespace ConfigFile

/-- The file is run as a module, it holds the text, and these are the statements of the text. -/
structure ModuleText [Platform] (w : Workspace) (p : Path) (s : String) (ss : List Statement) :
    Prop where
  module : IsModule w p
  content : w.stat p = .ok (.file (.text s))
  parsed : Script.Module.read s = .statements ss

/-- The bindings that a module has before its first statement runs. -/
def bindingsBefore (w : Workspace) (p : Path) (ss : List Statement) : Bindings :=
  Script.Execution.initial (moduleInfo w p) ss

/-- The message of an exception in a module, with the wording of its text. -/
def failureMessage (p : Path) (kind detail : String) : String :=
  "Configuration module failed: " ++ kind ++ ": " ++ detail ++ " (" ++ p.text ++ ")"

section Outcomes

variable {w : Workspace} {p : Path} {ss : List Statement} {c : Complaint} {r : Raised}

/-- No module has a configuration from the start. -/
theorem lookup_bindingsBefore : (bindingsBefore w p ss).lookup configName = none :=
  rfl

/-- An object that is no value is not known well enough. -/
theorem valueOf_cases (o : Object) :
    (∃ v, Script.Execution.valueOf o = .ok v) ∨ Script.Execution.valueOf o = .error .beyond := by
  cases o with
  | value v => exact Or.inl ⟨v, rfl⟩
  | _ => exact Or.inr rfl

/-- Looking for the configuration after the run raises nothing. -/
theorem valueNamed?_ne_raised {bs : Bindings} {name : String} :
    Script.Execution.valueNamed? name bs ≠ .error (.raised r) := by
  unfold Script.Execution.valueNamed?
  split
  · nofun
  · next o _ =>
      rcases valueOf_cases o with ⟨v, hv⟩ | hbeyond
      · rw [hv]
        nofun
      · rw [hbeyond]
        nofun

/-- The message names the exception and the path. -/
theorem message_failedModule : ConfigError.message ⟨.failedModule c, some p⟩ =
    failureMessage p c.kind c.text.shown := by
  unfold ConfigError.message ConfigProblem.details failureMessage
  dsimp only
  rw [← String.append_assoc, ← String.append_assoc]

/-- **An exception becomes an error of configuration if it has a text.** -/
theorem outcome_ofRaised_cases (hfailure : r.isFatal = false) :
    (∃ text, r.text = some text ∧ moduleValue p (.ofRaised r) =
      .error (.config ⟨.failedModule ⟨r.kind, text⟩, some p⟩)) ∨
    (r.text = none ∧ moduleValue p (.ofRaised r) = .error (.stopped Ending.withoutText)) := by
  unfold Ending.ofRaised
  rw [hfailure]
  cases htext : r.text with
  | some text => exact Or.inl ⟨text, rfl, rfl⟩
  | none => exact Or.inr ⟨rfl, rfl⟩

/-- No exception gives a configuration. -/
theorem outcome_ofRaised_ne {v : Value} : moduleValue p (.ofRaised r) ≠ .ok v := by
  unfold Ending.ofRaised
  split_ifs
  · nofun
  · cases r.text <;> nofun

end Outcomes

section Load

variable {there : Platform} [here : Platform] {w w' : Workspace} {p : Path} {s : String}
  {ss : List Statement} {bs : Bindings} {o : Object} {r : Raised} {v : Value}

/-- What running the module ends with is what its statements lead to. -/
theorem followed_eq (hmodule : ModuleText w p s ss) : followed w p s =
    Script.Execution.runAll ss (bindingsBefore w p ss) >>=
      Script.Execution.valueNamed? configName := by
  rw [followed, Script.Execution.bindingsOf_of_statements hmodule.parsed]
  rfl

/-- A module that is followed is loaded by running it. -/
theorem load_of_followed (hmodule : IsModule w p) (hstat : w.stat p = .ok (.file (.text s)))
    (hknown : followed w p s ≠ .error .beyond) :
    (load w p).outcome = moduleValue p (.ofRun (followed w p s)) := by
  have hread : w.read p = .ok (.text s) := Workspace.read_of_stat hstat
  have hcheck : check w p = .ok () := check_eq_ok_iff.mpr ⟨_, hstat⟩
  rw [load_of_isModule hmodule, runModule, hcheck]
  exact congrArg (moduleValue p) (here.run_followed w p s hread hknown)

/-- A statement that raises something ends the loading. -/
theorem load_of_raised (hmodule : ModuleText w p s ss)
    (hraised : Halts (bindingsBefore w p ss) ss (.raised r)) :
    (load w p).outcome = moduleValue p (.ofRaised r) := by
  have hfollowed : followed w p s = .error (.raised r) := by
    rw [followed_eq hmodule, Script.Execution.runAll_eq_error_iff.mpr hraised]
    rfl
  rw [load_of_followed hmodule.module hmodule.content (by rw [hfollowed]; nofun), hfollowed]
  rfl

/-- What is followed of a module that runs to its end. -/
theorem followed_of_completes (hmodule : ModuleText w p s ss)
    (hrun : Completes (bindingsBefore w p ss) ss bs) :
    followed w p s = Script.Execution.valueNamed? configName bs := by
  rw [followed_eq hmodule, Script.Execution.runAll_eq_ok_iff.mpr hrun]
  rfl

/-- A module that runs to its end and never assigns its configuration has none. -/
theorem load_of_unassigned (hmodule : ModuleText w p s ss)
    (hrun : Completes (bindingsBefore w p ss) ss bs)
    (hnone : ∀ t, t ∈ ss → t.assigned? configName = none) :
    (load w p).outcome = .error (failure p .moduleWithoutConfig) := by
  have hlookup : bs.lookup configName = none :=
    (hrun.lookup_of_unassigned hnone).trans lookup_bindingsBefore
  have hfollowed : followed w p s = .ok none := by
    rw [followed_of_completes hmodule hrun, Script.Execution.valueNamed?, hlookup]
  rw [load_of_followed hmodule.module hmodule.content (by rw [hfollowed]; nofun), hfollowed]
  rfl

theorem followed_of_lastAssigns (hmodule : ModuleText w p s ss)
    (hrun : Completes (bindingsBefore w p ss) ss bs)
    (hlast : LastAssigns (bindingsBefore w p ss) ss configName o) :
    followed w p s = (Script.Execution.valueOf o).map some := by
  rw [followed_of_completes hmodule hrun, Script.Execution.valueNamed?, hlast.lookup hrun]

/-- A module that runs to its end has the configuration that was assigned last. -/
theorem load_of_lastAssigns (hmodule : ModuleText w p s ss)
    (hrun : Completes (bindingsBefore w p ss) ss bs)
    (hlast : LastAssigns (bindingsBefore w p ss) ss configName o)
    (hvalue : Script.Execution.valueOf o = .ok v) : (load w p).outcome = .ok v := by
  have hfollowed : followed w p s = .ok (some v) := by
    rw [followed_of_lastAssigns hmodule hrun hlast, hvalue]
    rfl
  rw [load_of_followed hmodule.module hmodule.content (by rw [hfollowed]; nofun), hfollowed]
  rfl

/-- **How a module ends that is followed**: with its first exception, without a configuration,
or with the one that was assigned last. -/
theorem module_cases (hmodule : ModuleText w p s ss) (hknown : followed w p s ≠ .error .beyond) :
    (∃ r, Halts (bindingsBefore w p ss) ss (.raised r)) ∨
    ∃ bs, Completes (bindingsBefore w p ss) ss bs ∧
      ((∀ t, t ∈ ss → t.assigned? configName = none) ∨
        ∃ o v, LastAssigns (bindingsBefore w p ss) ss configName o ∧
          Script.Execution.valueOf o = .ok v) := by
  rcases Script.Execution.completes_or_halts (bindingsBefore w p ss) ss with
    ⟨bs, hrun⟩ | ⟨r | _, hhalts⟩
  · refine Or.inr ⟨bs, hrun, ?_⟩
    rcases hrun.lookup_cases configName with ⟨hnone, -⟩ | ⟨o, hlast, -⟩
    · exact Or.inl hnone
    · rcases valueOf_cases o with ⟨v, hv⟩ | hbeyond
      · exact Or.inr ⟨o, v, hlast, hv⟩
      · rw [followed_of_lastAssigns hmodule hrun hlast, hbeyond] at hknown
        exact absurd rfl hknown
  · exact Or.inl ⟨r, hhalts⟩
  · rw [followed_eq hmodule, Script.Execution.runAll_eq_error_iff.mpr hhalts] at hknown
    exact absurd rfl hknown

theorem load_eq_ok_iff (hmodule : ModuleText w p s ss) (hknown : followed w p s ≠ .error .beyond) :
    (load w p).outcome = .ok v ↔ (∃ bs, Completes (bindingsBefore w p ss) ss bs) ∧
      ∃ o, LastAssigns (bindingsBefore w p ss) ss configName o ∧
        Script.Execution.valueOf o = .ok v := by
  constructor
  · intro hload
    rcases module_cases hmodule hknown with ⟨r, hraised⟩ | ⟨bs, hrun, hnone | ⟨o, u, hlast, hu⟩⟩
    · rw [load_of_raised hmodule hraised] at hload
      exact absurd hload outcome_ofRaised_ne
    · rw [load_of_unassigned hmodule hrun hnone] at hload
      cases hload
    · rw [load_of_lastAssigns hmodule hrun hlast hu] at hload
      cases hload
      exact ⟨⟨bs, hrun⟩, o, hlast, hu⟩
  · rintro ⟨⟨bs, hrun⟩, o, hlast, hvalue⟩
    exact load_of_lastAssigns hmodule hrun hlast hvalue

/-- A module has a configuration iff nothing raises and it is assigned. -/
theorem exists_load_iff (hmodule : ModuleText w p s ss)
    (hknown : followed w p s ≠ .error .beyond) :
    (∃ v, (load w p).outcome = .ok v) ↔
      (∀ r, ¬ Halts (bindingsBefore w p ss) ss (.raised r)) ∧
        ∃ t, t ∈ ss ∧ t.assigned? configName ≠ none := by
  constructor
  · rintro ⟨v, hload⟩
    obtain ⟨⟨bs, hrun⟩, o, hlast, -⟩ := (load_eq_ok_iff hmodule hknown).mp hload
    exact ⟨fun r => hrun.not_halts, hlast.assigned⟩
  · rintro ⟨hraised, t, ht, hassigned⟩
    rcases module_cases hmodule hknown with ⟨r, hhalts⟩ | ⟨bs, hrun, hnone | ⟨o, v, hlast, hv⟩⟩
    · exact absurd hhalts (hraised r)
    · exact absurd (hnone t ht) hassigned
    · exact ⟨v, load_of_lastAssigns hmodule hrun hlast hv⟩

/-- A module in which nothing raises and nothing is assigned has no configuration. -/
theorem load_of_none (hmodule : ModuleText w p s ss) (hknown : followed w p s ≠ .error .beyond)
    (hraised : ∀ r, ¬ Halts (bindingsBefore w p ss) ss (.raised r))
    (hnone : ∀ t, t ∈ ss → t.assigned? configName = none) :
    (load w p).outcome = .error (.config ⟨.moduleWithoutConfig, some p⟩) := by
  rcases module_cases hmodule hknown with ⟨r, hhalts⟩ | ⟨bs, hrun, -⟩
  · exact absurd hhalts (hraised r)
  · exact load_of_unassigned hmodule hrun hnone

/-- An exception with a text is reported with it, whatever was assigned before. -/
theorem load_of_complaint (hmodule : ModuleText w p s ss)
    (hraised : Halts (bindingsBefore w p ss) ss (.raised r)) (hfailure : r.isFatal = false) :
    ((∃ e, (load w p).outcome = .error (.config e)) ↔ r.text ≠ none) ∧
    (r.text = none → (load w p).outcome = .error (.stopped Ending.withoutText)) ∧
    ∀ text, r.text = some text → ∃ e, (load w p).outcome = .error (.config e) ∧
      e.cls = .module ∧ e.path = some p ∧ e.problem = .failedModule ⟨r.kind, text⟩ ∧
        ∀ words, text = .exact words → e.message = failureMessage p r.kind words := by
  rw [load_of_raised hmodule hraised]
  rcases outcome_ofRaised_cases (p := p) hfailure with ⟨text, htext, houtcome⟩ | ⟨htext, houtcome⟩
  · rw [houtcome, htext]
    refine ⟨by simp, by simp, fun text' h => ?_⟩
    cases h
    refine ⟨_, rfl, rfl, rfl, rfl, fun words hwords => ?_⟩
    rw [hwords]
    exact message_failedModule
  · rw [houtcome, htext]
    simp

/-- A module that is followed ends alike wherever its text and its path are the same. -/
theorem load_eq_of_stat (hreaders : here.ReadsAlike there)
    (hmodule : ModuleText w p s ss) (hknown : followed w p s ≠ .error .beyond)
    (hstat : w'.stat p = .ok (.file (.text s))) (htext : absoluteText w p = absoluteText w' p) :
    load w p = @load there w' p := by
  have hsame : w.stat p = w'.stat p := hmodule.content.trans hstat.symm
  have hread : w.read p = .ok (.text s) := Workspace.read_of_stat hmodule.content
  refine load_congr hreaders htext ⟨?_, ?_, fun _ => ?_⟩ ?_
  · simp only [Workspace.exists?, Workspace.test, hsame]
  · simp only [Workspace.isFile?, Workspace.test, hsame]
  · simp only [Workspace.read, hsame]
  · rintro - ⟨c, hc, hunsettled⟩
    rw [hread] at hc
    cases hc
    exact absurd (hunsettled s rfl) hknown

theorem report_loadFile (session : Session) :
    (session.step (.loadFile p)).2 = Session.answering (load session.workspace p) .value := by
  rw [Session.step, Session.asking]

end Load

/-! ### A module that is rewritten between two loads -/

section Rewritten

open Manifest (below)

/-- A module that assigns its configuration and raises an exception then. -/
def raisingText : String :=
  "config=[]\nraise ValueError"

/-- A workspace with nothing but a module. -/
def withModule (text : String) : Workspace :=
  Workspace.flat [("m.py", .text text)]

variable {text : String} {ss : List Statement} {r : Raised}

theorem module_isEntryName : Workspace.IsEntryName "m.py" := by
  decide

theorem withModule_isModule : IsModule (withModule text) (below ["m.py"]) :=
  Or.inl (by decide)

theorem withModule_stat :
    (withModule text).stat (below ["m.py"]) = .ok (.file (.text text)) :=
  Workspace.flat_stat_file _ module_isEntryName rfl

/-- The workspace after the module was loaded and rewritten. -/
theorem rewritten_workspace {text' : String} :
    ((Session.start (withModule text)).run [.loadFile (below ["m.py"]),
      .write (below ["m.py"]) (.file (.text text'))]).1.workspace = withModule text' := by
  simp only [Session.run, Session.step, Session.asking, Session.changing, Session.start,
    withModule, Workspace.flat_write _ module_isEntryName]
  simp

/-- A module that raises something when it is followed has statements, and one of them does. -/
theorem exists_halts (hscript : r ≠ Script.malformedScript)
    (h : (followed (withModule text) (below ["m.py"]) text).map (fun _ => ()) =
      .error (.raised r)) :
    ∃ ss, ModuleText (withModule text) (below ["m.py"]) text ss ∧
      Halts (bindingsBefore (withModule text) (below ["m.py"]) ss) ss (.raised r) := by
  rw [Outcome.map_eq_error_iff] at h
  have hunread {halt : Halt} (hhalt : halt ≠ .raised r) :
      Script.Execution.bindingsOf (moduleInfo (withModule text) (below ["m.py"])) text ≠
        .error halt := by
    intro hbindings
    rw [followed, hbindings] at h
    exact hhalt (Except.error.inj h)
  rcases Script.Execution.bindingsOf_cases
    (moduleInfo (withModule text) (below ["m.py"])) text with ⟨ss, hparsed⟩ | hno | hno
  · have hmodule : ModuleText (withModule text) (below ["m.py"]) text ss :=
      ⟨withModule_isModule, withModule_stat, hparsed⟩
    refine ⟨ss, hmodule, Script.Execution.runAll_eq_error_iff.mp ?_⟩
    rw [followed_eq hmodule, Outcome.chain_eq_error_iff] at h
    refine h.resolve_right ?_
    rintro ⟨bs, -, hvalue⟩
    exact valueNamed?_ne_raised hvalue
  · exact absurd hno (hunread fun hraised => hscript (Halt.raised.inj hraised).symm)
  · exact absurd hno (hunread (by simp))

/-- The module assigns its configuration before it raises something. -/
theorem raisingText_assigns {ss : List Statement}
    (hparsed : Script.Module.read raisingText = .statements ss) :
    ∃ t, t ∈ ss ∧ t.assigned? configName ≠ none := by
  have hassigns : (Script.Module.read raisingText).statements?.all
      (fun ss => ss.any fun t => (t.assigned? configName).isSome) = true := by
    decide +kernel
  rw [Script.Reading.statements?_eq_some_iff.mpr hparsed] at hassigns
  obtain ⟨t, ht, hsome⟩ := List.any_eq_true.mp hassigns
  exact ⟨t, ht, Option.isSome_iff_ne_none.mp hsome⟩

end Rewritten

end ConfigFile
end BuildTransform
