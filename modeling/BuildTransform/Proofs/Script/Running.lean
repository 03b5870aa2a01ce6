import BuildTransform.Proofs.Outcome
import BuildTransform.Script.Execution

/-!
# Running statements in order

What a list of statements leaves behind, and what it takes to run to its end.

* `Completes` and `Halts` say, one statement after the other, how a run ends; they agree with
  `Execution.runAll`.
* `Reading.statements?` are the statements of a text that has some.
* `Statement.assigned?` is the expression that a statement assigns to a name, and `LastAssigns`
  the object of the last such statement with the bindings before it.
* `step_lookup` says what one statement does to a name, and `Completes.lookup_cases` what a whole
  run does: a name stands for what was assigned last.
-/

namespace BuildTransform
namespace Script

/-- The node is that name. -/
def Node.isNamed (name : String) : Node → Bool
  | .name id _ => id == name
  | _ => false

/-- The expression whose object the statement assigns to the name, if it does. -/
def Statement.assigned? (name : String) : Statement → Option Node
  | .assignment targets value => if targets.any (Node.isNamed name) then some value else none
  | .hinted target _ (some value) => if target.isNamed name then some value else none
  | _ => none

/-- The statements of a text that has some. -/
def Reading.statements? : Reading → Option (List Statement)
  | .statements ss => some ss
  | _ => none

theorem Reading.statements?_eq_some_iff {r : Reading} {ss : List Statement} :
    r.statements? = some ss ↔ r = .statements ss := by
  cases r <;> simp [Reading.statements?]

namespace Execution

/-- The statements, run one after the other, lead from the first bindings to the last ones. -/
inductive Completes : Bindings → List Statement → Bindings → Prop
  | nil {bs : Bindings} :
      Completes bs [] bs
  | cons {bs mid bs' : Bindings} {s : Statement} {ss : List Statement}
      (hstep : step bs s = .ok mid)
      (hrest : Completes mid ss bs') :
      Completes bs (s :: ss) bs'

/-- The first of the statements that does not run ends the run. -/
def Halts (bs : Bindings) (ss : List Statement) (h : Halt) : Prop :=
  ∃ before s after mid, ss = before ++ s :: after ∧ Completes bs before mid ∧
    step mid s = .error h

/-- The last of the statements that assigns the name assigns it the object, which its expression
stands for with the bindings that are there before. -/
def LastAssigns (bs : Bindings) (ss : List Statement) (name : String) (o : Object) : Prop :=
  ∃ before s after mid value, ss = before ++ s :: after ∧ Completes bs before mid ∧
    s.assigned? name = some value ∧ eval mid value = .ok o ∧
    ∀ s', s' ∈ after → s'.assigned? name = none

section Runs

variable {bs mid bs' : Bindings} {s : Statement} {ss rest : List Statement} {h : Halt}

theorem completes_cons_iff :
    Completes bs (s :: ss) bs' ↔ ∃ mid, step bs s = .ok mid ∧ Completes mid ss bs' := by
  constructor
  · rintro ⟨⟩
    exact ⟨_, ‹_›, ‹_›⟩
  · rintro ⟨mid, hstep, hrest⟩
    exact .cons hstep hrest

/-- **A run that gives bindings runs every statement.** -/
theorem runAll_eq_ok_iff : runAll ss bs = .ok bs' ↔ Completes bs ss bs' := by
  induction ss generalizing bs with
  | nil =>
      constructor
      · rintro ⟨⟩
        exact .nil
      · rintro ⟨⟩
        rfl
  | cons s ss ih => simp only [runAll, Outcome.chain_eq_ok_iff, completes_cons_iff, ih]

theorem not_halts_nil : ¬ Halts bs [] h := by
  rintro ⟨before, s, after, mid, hsplit, -⟩
  simp at hsplit

theorem halts_cons_iff : Halts bs (s :: ss) h ↔
    step bs s = .error h ∨ ∃ mid, step bs s = .ok mid ∧ Halts mid ss h := by
  constructor
  · rintro ⟨_ | ⟨first, before⟩, s', after, mid, hsplit, hbefore, hstep⟩
    · cases hsplit
      cases hbefore
      exact Or.inl hstep
    · cases hsplit
      obtain ⟨next, hnext, hbefore⟩ := completes_cons_iff.mp hbefore
      exact Or.inr ⟨next, hnext, before, s', after, mid, rfl, hbefore, hstep⟩
  · rintro (hstep | ⟨next, hnext, before, s', after, mid, rfl, hbefore, hstep⟩)
    · exact ⟨[], s, ss, bs, rfl, .nil, hstep⟩
    · exact ⟨s :: before, s', after, mid, rfl, .cons hnext hbefore, hstep⟩

/-- **A run that ends early ends with the first statement that does not run.** -/
theorem runAll_eq_error_iff : runAll ss bs = .error h ↔ Halts bs ss h := by
  induction ss generalizing bs with
  | nil => simp [runAll, not_halts_nil]
  | cons s ss ih => simp only [runAll, Outcome.chain_eq_error_iff, halts_cons_iff, ih]

/-- A run comes to its end or ends early. -/
theorem completes_or_halts (bs : Bindings) (ss : List Statement) :
    (∃ bs', Completes bs ss bs') ∨ ∃ h, Halts bs ss h := by
  cases hrun : runAll ss bs with
  | ok bs' => exact Or.inl ⟨bs', runAll_eq_ok_iff.mp hrun⟩
  | error h => exact Or.inr ⟨h, runAll_eq_error_iff.mp hrun⟩

theorem Completes.unique (hfirst : Completes bs ss mid) (hsecond : Completes bs ss bs') :
    mid = bs' := by
  rw [← runAll_eq_ok_iff] at hfirst hsecond
  rw [hfirst] at hsecond
  exact Except.ok.inj hsecond

theorem Completes.not_halts (hcompletes : Completes bs ss bs') : ¬ Halts bs ss h := by
  intro hhalts
  rw [← runAll_eq_ok_iff] at hcompletes
  rw [← runAll_eq_error_iff, hcompletes] at hhalts
  cases hhalts

theorem completes_append_iff : Completes bs (ss ++ rest) bs' ↔
    ∃ mid, Completes bs ss mid ∧ Completes mid rest bs' := by
  induction ss generalizing bs with
  | nil =>
      constructor
      · exact fun hrest => ⟨bs, .nil, hrest⟩
      · rintro ⟨mid, ⟨⟩, hrest⟩
        exact hrest
  | cons s ss ih =>
      simp only [List.cons_append, completes_cons_iff, ih]
      constructor
      · rintro ⟨next, hstep, mid, hss, hrest⟩
        exact ⟨mid, ⟨next, hstep, hss⟩, hrest⟩
      · rintro ⟨mid, ⟨next, hstep, hss⟩, hrest⟩
        exact ⟨next, hstep, mid, hss, hrest⟩

/-- What the text of a module leaves behind is what its statements do. -/
theorem bindingsOf_of_statements {info : ModuleInfo} {text : String}
    (hread : Module.read text = .statements ss) :
    bindingsOf info text = runAll ss (initial info ss) := by
  unfold bindingsOf
  rw [hread]

/-- A text without statements is no script, or it is not followed. -/
theorem bindingsOf_cases (info : ModuleInfo) (text : String) :
    (∃ ss, Module.read text = .statements ss) ∨
    bindingsOf info text = .error (.raised malformedScript) ∨
    bindingsOf info text = .error .beyond := by
  unfold bindingsOf
  cases hread : Module.read text with
  | statements ss => exact Or.inl ⟨ss, rfl⟩
  | malformed => exact Or.inr (Or.inl rfl)
  | beyond => exact Or.inr (Or.inr rfl)

end Runs

/-! ## Assignments -/

section Assignments

variable {bs mid bs' : Bindings} {s : Statement} {ss : List Statement} {name : String}
  {o : Object} {target value : Node} {targets : List Node}

/-- Only a name can be bound, and nothing else is bound with it. -/
theorem lookup_of_bind (h : bind bs target o = .ok bs') :
    bs'.lookup name = if target.isNamed name then some o else bs.lookup name := by
  cases target with
  | name id place =>
      cases h
      rw [List.lookup_cons, Node.isNamed]
      by_cases hid : id = name
      · simp [hid]
      · have hid' : (name == id) = false := beq_eq_false_iff_ne.mpr (Ne.symm hid)
        simp [hid, hid']
  | member object field place =>
      obtain ⟨_, -, hbeyond⟩ := Outcome.chain_eq_ok_iff.mp h
      cases hbeyond
  | subscript object index place =>
      obtain ⟨_, -, hindex⟩ := Outcome.chain_eq_ok_iff.mp h
      obtain ⟨_, -, hbeyond⟩ := Outcome.chain_eq_ok_iff.mp hindex
      cases hbeyond
  | _ => cases h

theorem lookup_of_bindAll (h : bindAll o targets bs = .ok bs') :
    bs'.lookup name =
      if targets.any (Node.isNamed name) then some o else bs.lookup name := by
  induction targets generalizing bs with
  | nil =>
      cases h
      rfl
  | cons target targets ih =>
      obtain ⟨mid, hbind, hrest⟩ := Outcome.chain_eq_ok_iff.mp h
      rw [ih hrest, lookup_of_bind hbind, List.any_cons]
      cases target.isNamed name <;> cases targets.any (Node.isNamed name) <;> rfl

/-- **What one statement does to a name.** -/
theorem step_lookup (name : String) (h : step bs s = .ok bs') :
    (s.assigned? name = none ∧ bs'.lookup name = bs.lookup name) ∨
      ∃ value o, s.assigned? name = some value ∧ eval bs value = .ok o ∧
        bs'.lookup name = some o := by
  cases s with
  | pass =>
      cases h
      exact Or.inl ⟨rfl, rfl⟩
  | importing module =>
      cases module with
      | none => cases h
      | some module =>
          rw [step] at h
          split_ifs at h <;> cases h
  | raising exception cause =>
      cases exception with
      | none => cases h
      | some e =>
          obtain ⟨_, -, h⟩ := Outcome.chain_eq_ok_iff.mp h
          obtain ⟨_, -, h⟩ := Outcome.chain_eq_ok_iff.mp h
          obtain ⟨_, -, h⟩ := Outcome.chain_eq_ok_iff.mp h
          obtain ⟨_, -, h⟩ := Outcome.chain_eq_ok_iff.mp h
          cases h
  | assignment targets value =>
      obtain ⟨o, ho, hbind⟩ := Outcome.chain_eq_ok_iff.mp h
      rw [Statement.assigned?, lookup_of_bindAll hbind]
      split_ifs
      · exact Or.inr ⟨value, o, rfl, ho, rfl⟩
      · exact Or.inl ⟨rfl, rfl⟩
  | hinted target hint value =>
      cases value with
      | none =>
          obtain ⟨_, -, h⟩ := Outcome.chain_eq_ok_iff.mp h
          cases h
          exact Or.inl ⟨rfl, rfl⟩
      | some value =>
          obtain ⟨o, ho, h⟩ := Outcome.chain_eq_ok_iff.mp h
          obtain ⟨mid, hbind, h⟩ := Outcome.chain_eq_ok_iff.mp h
          obtain ⟨_, -, h⟩ := Outcome.chain_eq_ok_iff.mp h
          cases h
          rw [Statement.assigned?, lookup_of_bind hbind]
          split_ifs
          · exact Or.inr ⟨value, o, rfl, ho, rfl⟩
          · exact Or.inl ⟨rfl, rfl⟩
  | expression value =>
      obtain ⟨_, -, h⟩ := Outcome.chain_eq_ok_iff.mp h
      cases h
      exact Or.inl ⟨rfl, rfl⟩

theorem Completes.lookup_of_unassigned (h : Completes bs ss bs')
    (hnone : ∀ s, s ∈ ss → s.assigned? name = none) : bs'.lookup name = bs.lookup name := by
  induction h with
  | nil => rfl
  | cons hstep _ ih =>
      rw [List.forall_mem_cons] at hnone
      rcases step_lookup name hstep with ⟨-, hsame⟩ | ⟨value, o, hvalue, -, -⟩
      · rw [ih hnone.2, hsame]
      · rw [hnone.1] at hvalue
        cases hvalue

/-- What was assigned last stays. -/
theorem LastAssigns.lookup (h : LastAssigns bs ss name o) (hrun : Completes bs ss bs') :
    bs'.lookup name = some o := by
  obtain ⟨before, s, after, mid, value, rfl, hbefore, hassigned, hvalue, hafter⟩ := h
  obtain ⟨mid', hbefore', hrest⟩ := completes_append_iff.mp hrun
  cases hbefore'.unique hbefore
  obtain ⟨next, hstep, hrest⟩ := completes_cons_iff.mp hrest
  rw [hrest.lookup_of_unassigned hafter]
  rcases step_lookup name hstep with ⟨hnone, -⟩ | ⟨value', o', hassigned', ho, hlookup⟩
  · rw [hnone] at hassigned
    cases hassigned
  · rw [hassigned] at hassigned'
    cases hassigned'
    rw [hvalue] at ho
    cases ho
    exact hlookup

theorem LastAssigns.cons (hstep : step bs s = .ok mid) (h : LastAssigns mid ss name o) :
    LastAssigns bs (s :: ss) name o := by
  obtain ⟨before, s', after, mid', value, rfl, hbefore, hassigned, hvalue, hafter⟩ := h
  exact ⟨s :: before, s', after, mid', value, rfl, .cons hstep hbefore, hassigned, hvalue, hafter⟩

/-- **A name stands for what was assigned last**, or for what it stood for before. -/
theorem Completes.lookup_cases (name : String) (h : Completes bs ss bs') :
    ((∀ s, s ∈ ss → s.assigned? name = none) ∧ bs'.lookup name = bs.lookup name) ∨
      ∃ o, LastAssigns bs ss name o ∧ bs'.lookup name = some o := by
  induction h with
  | nil => exact Or.inl ⟨by simp, rfl⟩
  | @cons bs mid bs' s ss hstep hrest ih =>
      rcases ih with ⟨hnone, hsame⟩ | ⟨o, hlast, hlookup⟩
      · rcases step_lookup name hstep with ⟨hs, hlookup⟩ | ⟨value, o, hs, ho, hlookup⟩
        · exact Or.inl ⟨List.forall_mem_cons.mpr ⟨hs, hnone⟩, hsame.trans hlookup⟩
        · exact Or.inr ⟨o, ⟨[], s, ss, bs, value, rfl, .nil, hs, ho, hnone⟩, hsame.trans hlookup⟩
      · exact Or.inr ⟨o, hlast.cons hstep, hlookup⟩

theorem LastAssigns.assigned (h : LastAssigns bs ss name o) :
    ∃ s, s ∈ ss ∧ s.assigned? name ≠ none := by
  obtain ⟨before, s, after, mid, value, rfl, -, hassigned, -⟩ := h
  exact ⟨s, by simp, by simp [hassigned]⟩

end Assignments

end Execution
end Script
end BuildTransform
