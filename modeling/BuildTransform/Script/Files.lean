import BuildTransform.Script.Execution

/-!
# Scripts that read files

Running modules with statements `name = open(path).read()`, the only ones here that look at
anything but the text of their module.

* `Execution.stepWith` runs one statement and `Execution.bindingsWith` the text of a module, with
  the texts of the files that can be read.
* `stepWith_of_reads` says what such a statement binds.
* `bindingsWith_eq` says that nothing changes for modules that are followed without files.
-/

namespace BuildTransform
namespace Script

/-- The texts of files by what their paths are written as. -/
abbrev Files := String → Option String

namespace Execution

/-- The name and the text that a statement binds which reads a file. -/
def fileRead? (files : Files) (bs : Bindings) (s : Statement) : Option (String × String) :=
  match s.reads?, bs.lookup "open" with
  | some (target, argument), none =>
      match eval bs argument with
      | .ok (.value (.str path)) => (files path).map fun text => (target, text)
      | _ => none
  | _, _ => none

/-- Runs one statement, which may read a file. -/
def stepWith (files : Files) (bs : Bindings) (s : Statement) : Run Bindings :=
  match fileRead? files bs s with
  | some (target, text) => .ok ((target, .value (.str text)) :: bs)
  | none => step bs s

/-- Runs statements in order, which may read files. -/
def runWith (files : Files) : List Statement → Bindings → Run Bindings
  | [], bs => .ok bs
  | s :: rest, bs => do
      let bs ← stepWith files bs s
      runWith files rest bs

/-- The bindings that the text of a module leaves behind, which may read files. -/
def bindingsWith (files : Files) (info : ModuleInfo) (text : String) : Run Bindings :=
  match Module.read text with
  | .statements ss => runWith files ss (initial info ss)
  | .malformed => .error (.raised malformedScript)
  | .beyond => goBeyond

section Known

variable {files : Files} {bs : Bindings} {s : Statement} {ss : List Statement}

theorem lookup_open (h : bs.lookup "open" = none) : lookup bs "open" = .ok (.builtin "open") := by
  unfold lookup
  rw [h]
  rfl

/-- Opening a file is not followed. -/
theorem eval_open {argument : Node} {o : Object} {place place' : Place} {hasKeywords : Bool}
    (hopen : bs.lookup "open" = none) (hargument : eval bs argument = .ok o) :
    eval bs (.call (.name "open" place) [argument] hasKeywords place') = .error .beyond := by
  have hcallee : eval bs (.name "open" place) = .ok (.builtin "open") := by
    rw [eval, lookup_open hopen]
  rw [eval, evalEach, evalEach, hcallee, hargument]
  cases hasKeywords <;> rfl

/-- Without files the reading of one is not followed. -/
theorem step_of_fileRead {read : String × String} (h : fileRead? files bs s = some read) :
    step bs s = .error .beyond := by
  unfold fileRead? at h
  split at h
  · rename_i target argument hreads hopen
    unfold Statement.reads? at hreads
    split at hreads
    · cases hreads
      split at h
      · rename_i path hargument
        rw [step, eval, eval, eval_open hopen hargument]
        rfl
      · cases h
    · cases hreads
  · cases h

/-- A statement that reads a file binds its text, unless `open` stands for something else. -/
theorem stepWith_of_reads {target path text : String} {argument : Node}
    (hreads : s.reads? = some (target, argument)) (hopen : bs.lookup "open" = none)
    (hpath : eval bs argument = .ok (.value (.str path))) (hfile : files path = some text) :
    stepWith files bs s = .ok ((target, .value (.str text)) :: bs) := by
  have hread : fileRead? files bs s = some (target, text) := by
    unfold fileRead?
    rw [hreads]
    simp only [hopen, hpath, hfile, Option.map_some]
  rw [stepWith, hread]

theorem stepWith_eq (h : step bs s ≠ .error .beyond) : stepWith files bs s = step bs s := by
  unfold stepWith
  split
  · exact absurd (step_of_fileRead ‹_›) h
  · rfl

/-- Statements that are followed without files run alike with them. -/
theorem runWith_eq (h : runAll ss bs ≠ .error .beyond) : runWith files ss bs = runAll ss bs := by
  induction ss generalizing bs with
  | nil => rfl
  | cons s ss ih =>
      rw [runWith, runAll]
      rw [runAll] at h
      have hstep : step bs s ≠ .error .beyond := by
        intro hbeyond
        rw [hbeyond] at h
        exact h rfl
      rw [stepWith_eq hstep]
      cases hnext : step bs s with
      | error halt => rfl
      | ok next =>
          rw [hnext] at h
          exact ih h

/-- **Files make no difference to modules that are followed without them.** -/
theorem bindingsWith_eq {info : ModuleInfo} {text : String}
    (h : bindingsOf info text ≠ .error .beyond) :
    bindingsWith files info text = bindingsOf info text := by
  unfold bindingsWith
  unfold bindingsOf at h ⊢
  cases hread : Module.read text with
  | statements ss =>
      rw [hread] at h
      exact runWith_eq h
  | malformed => rfl
  | beyond => rfl

end Known

end Execution
end Script
end BuildTransform
