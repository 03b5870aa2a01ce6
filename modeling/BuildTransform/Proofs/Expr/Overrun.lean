import BuildTransform.Proofs.Expr.Meaning

/-!
# Evaluations that are not reported

Evaluation reports the outcome of an expression as data, unless it comes upon a
number beyond its range.  This module says when that happens.

* `Yields` is the meaning of a part that is not too deep for the budget.
* `Reaches` says which parts of an expression evaluation comes to, from left to
  right, and `Exceeds` at which of them a number is beyond its range.
* `visit_eq_error_of_reaches` and `exists_reaches_of_visit_eq_error` show that
  evaluation overruns exactly at such a part.
* `isReported_iff` concludes that all other outcomes are reported, with a value
  or with the sort and the wording of a reason.
-/

namespace BuildTransform
namespace Evaluation

/-! ## Nodes -/

/-- The values that literals hold. -/
def IsLiteral : Value → Prop
  | .str _ | .int _ | .float _ | .bool _ | .null => True
  | _ => False

/-- The trees of nodes: literals hold literal values, names are texts. -/
inductive IsNode : Expr → Prop
  | literal {v : Value} (span : Option Span)
      (hv : IsLiteral v) :
      IsNode (.literal v span)
  | identifier (name : String) (span : Option Span) :
      IsNode (.identifier (.str name) span)
  | member {object : Expr} (property : String) (span : Option Span)
      (hobject : IsNode object) :
      IsNode (.member object (.str property) span)
  | plus {left right : Expr} (span : Option Span)
      (hleft : IsNode left)
      (hright : IsNode right) :
      IsNode (.plus left right span)
  | call {callee : Expr} {arguments : List Expr} (span : Option Span)
      (hcallee : IsNode callee)
      (harguments : ∀ e, e ∈ arguments → IsNode e) :
      IsNode (.call callee arguments span)
  | unsupported (kind : String) (span : Option Span) :
      IsNode (.unsupported (.str kind) span)

/-! ## Where evaluation comes to -/

/-- The expression has the meaning and is no deeper than the budget. -/
def Yields (env : Environment) (n : Nat) (e : Expr) (m : Meaning) : Prop :=
  Denotes env e m ∧ e.depth ≤ n

/-- The expression is a text within the budget. -/
def YieldsText (env : Environment) (n : Nat) (e : Expr) : Prop :=
  ∃ s, Yields env n e (.scalar (.text s))

/-- `Reaches env n e k d` says that evaluating `e` with budget `n` comes to
evaluate its part `d` with budget `k`: everything to the left of `d` had a
meaning that let evaluation go on. -/
inductive Reaches (env : Environment) : Nat → Expr → Nat → Expr → Prop
  | refl (n : Nat) (e : Expr) :
      Reaches env n e n e
  | object {n k : Nat} {object d : Expr} (property : Value) (span : Option Span)
      (h : Reaches env n object k d) :
      Reaches env (n + 1) (.member object property span) k d
  | left {n k : Nat} {left d : Expr} (right : Expr) (span : Option Span)
      (h : Reaches env n left k d) :
      Reaches env (n + 1) (.plus left right span) k d
  | right {n k : Nat} {left right d : Expr} {m : Meaning} (span : Option Span)
      (hleft : Yields env n left m)
      (h : Reaches env n right k d) :
      Reaches env (n + 1) (.plus left right span) k d
  | callee {n k : Nat} {callee d : Expr} (arguments : List Expr)
      (span : Option Span)
      (h : Reaches env n callee k d) :
      Reaches env (n + 1) (.call callee arguments span) k d
  | argument {n k : Nat} {callee e d : Expr} {before : List Expr}
      (after : List Expr) (span : Option Span)
      (hcallee : Yields env n callee .joinFunction)
      (hbefore : ∀ x, x ∈ before → YieldsText env n x)
      (h : Reaches env n e k d) :
      Reaches env (n + 1) (.call callee (before ++ e :: after) span) k d

/-- The nodes whose own evaluation overruns: a sum that fails, and a call that
would have to show an integer with too many digits as its wrong argument. -/
inductive Exceeds (env : Environment) : Nat → Expr → EvalFailure → Prop
  | sum {n : Nat} {left right : Expr} {a b : Scalar} {f : EvalFailure}
      (span : Option Span)
      (hleft : Yields env n left (.scalar a))
      (hright : Yields env n right (.scalar b))
      (hsum : SumExceeds a b f) :
      Exceeds env (n + 1) (.plus left right span) f
  | argument {n : Nat} {callee e : Expr} {i : Int} {before : List Expr}
      (after : List Expr) (span : Option Span)
      (hcallee : Yields env n callee .joinFunction)
      (hbefore : ∀ x, x ∈ before → YieldsText env n x)
      (he : Yields env n e (.scalar (.int i)))
      (hi : 10 ^ Numeral.digitLimit ≤ i.natAbs) :
      Exceeds env (n + 1) (.call callee (before ++ e :: after) span)
        .integerTooLong

section Overrun

variable {env : Environment}

theorem visit_eq_ok_iff_yields {n : Nat} {e : Expr} {m : Meaning} :
    visit env n e = .ok m ↔ Yields env n e m :=
  visit_eq_ok_iff n e m

theorem Exceeds.isOverrun {n : Nat} {e : Expr} {f : EvalFailure}
    (h : Exceeds env n e f) :
    IsOverrun f := by
  cases h with
  | sum _ _ _ hsum => exact hsum.isOverrun
  | argument => exact Or.inr rfl

/-! ## Evaluation overruns at the parts that exceed -/

/-- The argument of a call fails as it does by itself if those before it are
texts. -/
theorem visit_call_eq_error {n : Nat} {callee e : Expr} {before : List Expr}
    {f : EvalFailure} (after : List Expr) (span : Option Span)
    (hcallee : Yields env n callee .joinFunction)
    (hbefore : ∀ x, x ∈ before → YieldsText env n x)
    (he : segment env n e = .error f) :
    visit env (n + 1) (.call callee (before ++ e :: after) span) = .error f := by
  rw [visit_call_of_joinFunction (visit_eq_ok_iff_yields.mpr hcallee) (by simp),
    Outcome.map_eq_error_iff, visitSegments_eq_error_iff]
  refine ⟨before, e, after, rfl, ?_, he⟩
  intro x hx
  obtain ⟨s, hs⟩ := hbefore x hx
  exact ⟨s, visit_eq_ok_iff_yields.mpr hs⟩

/-- An argument that is an integer can only be refused by showing it. -/
theorem segment_eq_error_of_int {n : Nat} {e : Expr} {i : Int}
    (he : Yields env n e (.scalar (.int i)))
    (hi : 10 ^ Numeral.digitLimit ≤ i.natAbs) :
    segment env n e = .error .integerTooLong := by
  have hshown : shown ((Meaning.scalar (.int i)).display?) =
      .error .integerTooLong := by
    rw [shown_eq_error_iff]
    simp only [Meaning.display?, Scalar.toValue, Value.display?, and_true]
    exact intText?_eq_none_iff.mpr hi
  refine Outcome.chain_eq_error_iff.mpr
    (Or.inr ⟨_, visit_eq_ok_iff_yields.mpr he, ?_⟩)
  exact Outcome.chain_eq_error_iff.mpr (Or.inl hshown)

/-- Evaluating a node that exceeds overruns. -/
theorem Exceeds.visit_eq_error {n : Nat} {e : Expr} {f : EvalFailure}
    (h : Exceeds env n e f) :
    visit env n e = .error f := by
  cases h with
  | sum span hleft hright hsum =>
      simp only [visit, visit_eq_ok_iff_yields.mpr hleft,
        visit_eq_ok_iff_yields.mpr hright, plus]
      exact Outcome.map_eq_error_iff.mpr (add_eq_error_iff.mpr hsum)
  | argument after span hcallee hbefore he hi =>
      exact visit_call_eq_error after span hcallee hbefore
        (segment_eq_error_of_int he hi)

/-- An overrun at a part that is reached is the overrun of the whole. -/
theorem visit_eq_error_of_reaches {n k : Nat} {e d : Expr} {f : EvalFailure}
    (h : Reaches env n e k d)
    (hd : Exceeds env k d f) :
    visit env n e = .error f := by
  induction h with
  | refl => exact hd.visit_eq_error
  | object property span _ ih =>
      exact Outcome.chain_eq_error_iff.mpr (Or.inl (ih hd))
  | left right span _ ih =>
      exact Outcome.chain_eq_error_iff.mpr (Or.inl (ih hd))
  | right span hleft _ ih =>
      refine Outcome.chain_eq_error_iff.mpr
        (Or.inr ⟨_, visit_eq_ok_iff_yields.mpr hleft, ?_⟩)
      exact Outcome.chain_eq_error_iff.mpr (Or.inl (ih hd))
  | callee arguments span _ ih =>
      refine Outcome.chain_eq_error_iff.mpr (Or.inl ?_)
      rw [ih hd]
      rcases hd.isOverrun with rfl | rfl <;> rfl
  | argument after span hcallee hbefore _ ih =>
      refine visit_call_eq_error after span hcallee hbefore ?_
      exact Outcome.chain_eq_error_iff.mpr (Or.inl (ih hd))

/-! ## Evaluation overruns only there -/

theorem not_isOverrun_of_refuse {α : Type} {reason : EvalReason}
    {span : Option Span} {f : EvalFailure}
    (h : (refuse reason span : Evaluated α) = .error f) :
    ¬ IsOverrun f := by
  cases h
  simp [IsOverrun]

/-- A refusal overruns only if it cannot be worded. -/
theorem shown_eq_none_of_refuse {α : Type} {s : Option String}
    {reason : String → EvalReason} {span : Option Span} {f : EvalFailure}
    (h : (shown s >>= fun t => (refuse (reason t) span : Evaluated α)) = .error f)
    (hf : IsOverrun f) :
    s = none ∧ f = .integerTooLong := by
  rcases Outcome.chain_eq_error_iff.mp h with h | ⟨t, -, h⟩
  · exact shown_eq_error_iff.mp h
  · exact absurd hf (not_isOverrun_of_refuse h)

theorem literal_not_overrun {v : Value} {span : Option Span} {f : EvalFailure}
    (hv : IsLiteral v)
    (h : literal v span = .error f) :
    ¬ IsOverrun f := by
  intro hf
  unfold literal at h
  split at h
  · cases h
  · obtain ⟨hshown, -⟩ := shown_eq_none_of_refuse h hf
    cases v <;> simp_all [IsLiteral, Scalar.ofValue?, Value.display?]

theorem lookup_not_overrun {name : String} {span : Option Span} {f : EvalFailure}
    (h : lookup env (.str name) span = .error f) :
    ¬ IsOverrun f := by
  intro hf
  simp only [lookup] at h
  split_ifs at h
  obtain ⟨hshown, -⟩ := shown_eq_none_of_refuse h hf
  simp [Value.text?] at hshown

theorem member_not_overrun {m : Meaning} {property : String}
    {span : Option Span} {f : EvalFailure}
    (h : member m (.str property) span = .error f) :
    ¬ IsOverrun f := by
  intro hf
  unfold member at h
  split at h
  · cases h
  · obtain ⟨hshown, -⟩ := shown_eq_none_of_refuse h hf
    simp [Value.text?] at hshown

theorem plus_overrun {l r : Meaning} {span : Option Span} {f : EvalFailure}
    (h : plus l r span = .error f)
    (hf : IsOverrun f) :
    ∃ a b, l = .scalar a ∧ r = .scalar b ∧ SumExceeds a b f := by
  unfold plus at h
  split at h
  · next a b =>
      rw [Outcome.map_eq_error_iff, add_eq_error_iff] at h
      exact ⟨a, b, rfl, rfl, h⟩
  · exact absurd hf (not_isOverrun_of_refuse h)

theorem calleeOf_overrun {callee : Evaluated Meaning} {span : Option Span}
    {f : EvalFailure}
    (h : calleeOf callee span = .error f)
    (hf : IsOverrun f) :
    callee = .error f := by
  unfold calleeOf at h
  split at h
  · cases h
  · exact absurd hf (not_isOverrun_of_refuse h)
  · exact absurd hf (not_isOverrun_of_refuse h)
  · cases h
    rfl

theorem segmentOf_overrun {m : Meaning} {span : Option Span} {f : EvalFailure}
    (h : segmentOf env m span = .error f)
    (hf : IsOverrun f) :
    ∃ i, m = .scalar (.int i) ∧ 10 ^ Numeral.digitLimit ≤ i.natAbs ∧
      f = .integerTooLong := by
  unfold segmentOf at h
  split at h
  · cases h
  · obtain ⟨hshown, rfl⟩ := shown_eq_none_of_refuse h hf
    rcases m with (s | i | d) | _ | _ <;>
      simp [Meaning.display?, Scalar.toValue, Value.display?] at hshown
    exact ⟨i, rfl, intText?_eq_none_iff.mp hshown, rfl⟩

/-- An argument overruns by itself or as an integer that cannot be shown. -/
theorem segment_overrun {n : Nat} {e : Expr} {f : EvalFailure}
    (h : segment env n e = .error f)
    (hf : IsOverrun f) :
    visit env n e = .error f ∨
      ∃ i, Yields env n e (.scalar (.int i)) ∧
        10 ^ Numeral.digitLimit ≤ i.natAbs ∧ f = .integerTooLong := by
  rcases Outcome.chain_eq_error_iff.mp h with h | ⟨m, hm, h⟩
  · exact Or.inl h
  · obtain ⟨i, rfl, hi, rfl⟩ := segmentOf_overrun h hf
    exact Or.inr ⟨i, visit_eq_ok_iff_yields.mp hm, hi, rfl⟩

/-- A call overruns in its callee, or in one of its arguments behind texts. -/
theorem call_overrun {n : Nat} {callee : Expr} {arguments : List Expr}
    {span : Option Span} {f : EvalFailure}
    (h : visit env (n + 1) (.call callee arguments span) = .error f)
    (hf : IsOverrun f) :
    visit env n callee = .error f ∨
      (Yields env n callee .joinFunction ∧
        ∃ before e after, arguments = before ++ e :: after ∧
          (∀ x, x ∈ before → YieldsText env n x) ∧
          segment env n e = .error f) := by
  simp only [visit] at h
  rcases Outcome.chain_eq_error_iff.mp h with h | ⟨u, hu, h⟩
  · exact Or.inl (calleeOf_overrun h hf)
  · split_ifs at h
    · exact absurd hf (not_isOverrun_of_refuse h)
    · rw [Outcome.chain_eq_error_iff, visitSegments_eq_error_iff] at h
      rcases h with ⟨before, e, after, harguments, hbefore, he⟩ | ⟨ss, -, h⟩
      · refine Or.inr ⟨visit_eq_ok_iff_yields.mp (calleeOf_eq_ok_iff.mp hu),
          before, e, after, harguments, ?_, he⟩
        intro x hx
        obtain ⟨s, hs⟩ := hbefore x hx
        exact ⟨s, visit_eq_ok_iff_yields.mp hs⟩
      · cases h

/-- If evaluating a tree of nodes overruns, it does so at a part that it
reaches. -/
theorem exists_reaches_of_visit_eq_error {n : Nat} {e : Expr} {f : EvalFailure}
    (hnode : IsNode e)
    (h : visit env n e = .error f)
    (hf : IsOverrun f) :
    ∃ k d, Reaches env n e k d ∧ Exceeds env k d f := by
  induction n generalizing e with
  | zero =>
      simp only [visit, Except.error.injEq] at h
      subst h
      simp [IsOverrun] at hf
  | succ n ih =>
      cases hnode with
      | literal span hv => exact absurd hf (literal_not_overrun hv h)
      | identifier name span => exact absurd hf (lookup_not_overrun h)
      | member property span hobject =>
          rcases Outcome.chain_eq_error_iff.mp h with h | ⟨m, -, h⟩
          · obtain ⟨k, d, hreach, hd⟩ := ih hobject h
            exact ⟨k, d, .object _ span hreach, hd⟩
          · exact absurd hf (member_not_overrun h)
      | plus span hleft hright =>
          rcases Outcome.chain_eq_error_iff.mp h with h | ⟨l, hl, h⟩
          · obtain ⟨k, d, hreach, hd⟩ := ih hleft h
            exact ⟨k, d, .left _ span hreach, hd⟩
          · rw [visit_eq_ok_iff_yields] at hl
            rcases Outcome.chain_eq_error_iff.mp h with h | ⟨r, hr, h⟩
            · obtain ⟨k, d, hreach, hd⟩ := ih hright h
              exact ⟨k, d, .right span hl hreach, hd⟩
            · rw [visit_eq_ok_iff_yields] at hr
              obtain ⟨a, b, rfl, rfl, hsum⟩ := plus_overrun h hf
              exact ⟨n + 1, _, .refl _ _, .sum span hl hr hsum⟩
      | call span hcallee harguments =>
          rcases call_overrun h hf with
            h | ⟨hc, before, e, after, rfl, hbefore, he⟩
          · obtain ⟨k, d, hreach, hd⟩ := ih hcallee h
            exact ⟨k, d, .callee _ span hreach, hd⟩
          · rcases segment_overrun he hf with he | ⟨i, hi, hlong, rfl⟩
            · obtain ⟨k, d, hreach, hd⟩ := ih (harguments e (by simp)) he
              exact ⟨k, d, .argument after span hc hbefore hreach, hd⟩
            · exact ⟨n + 1, _, .refl _ _, .argument after span hc hbefore hi hlong⟩
      | unsupported kind span =>
          obtain ⟨hshown, -⟩ := shown_eq_none_of_refuse h hf
          simp [Value.text?] at hshown

/-! ## Reasons are worded -/

/-- Every reason that evaluation gives by itself has a wording. -/
theorem message_ne_empty {reason : EvalReason}
    (h : ∀ m, reason ≠ .reported m) :
    reason.message ≠ "" := by
  cases reason with
  | reported m => exact absurd rfl (h m)
  | _ =>
      unfold EvalReason.message
      simp [String.append_eq_empty_iff]

/-- A refusal has a wording that is not empty. -/
def Worded {α : Type} (x : Evaluated α) : Prop :=
  ∀ err, x = .error (.refused err) → err.reason.message ≠ ""

theorem Worded.ok {α : Type} (a : α) : Worded (.ok a) := by
  intro err h
  cases h

theorem Worded.refuse {α : Type} {reason : EvalReason} {span : Option Span}
    (h : ∀ m, reason ≠ .reported m) :
    Worded (Evaluation.refuse reason span : Evaluated α) := by
  rintro err ⟨⟩
  exact message_ne_empty h

/-- A chain is worded if its operations are. -/
theorem Worded.chain {α β : Type} {x : Evaluated α} {next : α → Evaluated β}
    (hx : Worded x)
    (hnext : ∀ a, Worded (next a)) :
    Worded (x >>= next) := by
  intro err h
  rcases Outcome.chain_eq_error_iff.mp h with h | ⟨a, -, h⟩
  · exact hx err h
  · exact hnext a err h

theorem Worded.of_isOverrun {α : Type} {x : Evaluated α}
    (h : ∀ f, x = .error f → IsOverrun f) :
    Worded x := by
  intro err hx
  have := h _ hx
  simp [IsOverrun] at this

theorem Worded.shown_refuse {α : Type} {s : Option String}
    {reason : String → EvalReason} {span : Option Span}
    (h : ∀ t m, reason t ≠ .reported m) :
    Worded (shown s >>= fun t => (Evaluation.refuse (reason t) span : Evaluated α)) := by
  refine .chain ?_ fun t => .refuse (h t)
  refine .of_isOverrun fun f hf => ?_
  exact Or.inr (shown_eq_error_iff.mp hf).2

theorem literal_worded (v : Value) (span : Option Span) :
    Worded (literal v span) := by
  unfold literal
  split
  · exact .ok _
  · exact .shown_refuse (by simp)

theorem lookup_worded (name : Value) (span : Option Span) :
    Worded (lookup env name span) := by
  simp only [lookup]
  split_ifs
  · exact .ok _
  · exact .ok _
  · exact .ok _
  · exact .shown_refuse (by simp)

theorem member_worded (m : Meaning) (property : Value) (span : Option Span) :
    Worded (member m property span) := by
  unfold member
  split
  · exact .ok _
  · exact .shown_refuse (by simp)

theorem plus_worded (l r : Meaning) (span : Option Span) :
    Worded (plus l r span) := by
  unfold plus
  split
  · refine .of_isOverrun fun f hf => ?_
    rw [Outcome.map_eq_error_iff, add_eq_error_iff] at hf
    exact hf.isOverrun
  · exact .refuse (by simp)

theorem calleeOf_worded (callee : Evaluated Meaning) (span : Option Span) :
    Worded (calleeOf callee span) := by
  unfold calleeOf
  split
  · exact .ok _
  · exact .refuse (by simp)
  · exact .refuse (by simp)
  · next hno =>
      intro err h
      cases h
      exact absurd rfl (hno err)

theorem segmentOf_worded (m : Meaning) (span : Option Span) :
    Worded (segmentOf env m span) := by
  unfold segmentOf
  split
  · exact .ok _
  · exact .shown_refuse (by simp)

/-- Arguments are worded if each of them is. -/
theorem visitSegments_worded {n : Nat} {es : List Expr}
    (h : ∀ e, e ∈ es → Worded (visit env n e)) :
    Worded (visitSegments env n es) := by
  induction es with
  | nil => exact .ok _
  | cons e es ih =>
      rw [visitSegments_cons]
      refine .chain ?_ fun s => ?_
      · exact .chain (h e (by simp)) fun m => segmentOf_worded m e.span
      · exact .chain (ih fun x hx => h x (by simp [hx])) fun rest => .ok _

/-- Every refusal in an evaluation is worded. -/
theorem visit_worded (n : Nat) (e : Expr) :
    Worded (visit env n e) := by
  induction n generalizing e with
  | zero =>
      intro err h
      simp [visit] at h
  | succ n ih =>
      cases e with
      | literal v span => exact literal_worded v span
      | identifier name span => exact lookup_worded name span
      | member object property span =>
          exact .chain (ih object) fun m => member_worded m property span
      | plus left right span =>
          exact .chain (ih left) fun l =>
            .chain (ih right) fun r => plus_worded l r span
      | call callee arguments span =>
          refine .chain (calleeOf_worded _ span) fun u => ?_
          split_ifs
          · exact .refuse (by simp)
          · exact .chain (visitSegments_worded fun e _ => ih e) fun ss => .ok _
      | unsupported kind span =>
          exact .shown_refuse (by simp)
      | foreign v => exact .refuse (by simp)

/-- The error of a refused expression is worded. -/
theorem refusal_message_ne_empty {e : Expr} {n : Nat} {err : EvalError}
    (h : refusal e (visit env n e) = some err) :
    err.reason.message ≠ "" := by
  have hworded : Worded (visit env n e) := visit_worded n e
  rcases hvisit : visit env n e with (err' | _ | _ | _) | (a | _ | _) <;>
    rw [hvisit] at h <;> cases h
  · exact hworded err hvisit
  all_goals exact message_ne_empty (by simp)

/-! ## Reported outcomes -/

/-- The outcome of an expression is reported: with the value that it yields, or
as a failure with the sort and a wording of the reason why it yields none. -/
def IsReported (env : Environment) (e : Expr) : Prop :=
  ∃ r, evaluate e env = .ok r ∧
    ((∃ a, Yields env depthLimit e (.scalar a) ∧
        r.succeeded = true ∧ r.value = a.toValue) ∨
      ((∀ a, ¬ Yields env depthLimit e (.scalar a)) ∧
        r.succeeded = false ∧
        ∃ kind text, r.kind = some kind ∧ r.message = some text ∧ text ≠ ""))

/-- What evaluation returns reports the outcome. -/
theorem isReported_of_evaluate_eq_ok {e : Expr} {r : EvalResult}
    (h : evaluate e env = .ok r) :
    IsReported env e := by
  refine ⟨r, h, ?_⟩
  rcases evaluate_eq_ok_iff.mp h with ⟨a, ha, rfl⟩ | ⟨err, herr, rfl⟩
  · exact Or.inl ⟨a, visit_eq_ok_iff_yields.mp ha, rfl, rfl⟩
  · refine Or.inr ⟨?_, rfl, _, _, rfl, rfl, refusal_message_ne_empty herr⟩
    intro a ha
    rw [visit_eq_ok_iff_yields.mpr ha] at herr
    cases herr

/-- **The outcome of a tree of nodes is reported iff evaluation reaches no sum
or argument with a number beyond its range.** -/
theorem isReported_iff {e : Expr}
    (hnode : IsNode e) :
    IsReported env e ↔
      ¬ ∃ k d f, Reaches env depthLimit e k d ∧ Exceeds env k d f := by
  constructor
  · rintro ⟨r, hr, -⟩ ⟨k, d, f, hreach, hd⟩
    have herror : evaluate e env = .error f :=
      evaluate_eq_error_iff.mpr
        ⟨visit_eq_error_of_reaches hreach hd, hd.isOverrun⟩
    rw [hr] at herror
    cases herror
  · intro hnone
    cases heval : evaluate e env with
    | ok r => exact isReported_of_evaluate_eq_ok heval
    | error f =>
        obtain ⟨hvisit, hf⟩ := evaluate_eq_error_iff.mp heval
        obtain ⟨k, d, hreach, hd⟩ :=
          exists_reaches_of_visit_eq_error hnode hvisit hf
        exact absurd ⟨k, d, f, hreach, hd⟩ hnone

/-- The sum of two small integers reaches nothing that exceeds. -/
theorem small_sum_isReported :
    let env := Environment.ofPaths "/r/a.js" "/r"
    let e := Expr.plus (.literal (.int 1) none) (.literal (.int 2) none) none
    IsNode e ∧ IsReported env e ∧
      ¬ ∃ k d f, Reaches env depthLimit e k d ∧ Exceeds env k d f := by
  intro env e
  have hnode : IsNode e :=
    .plus none (.literal none trivial) (.literal none trivial)
  have hthree : Yields env depthLimit e (.scalar (.int 3)) :=
    ⟨.plus none (.literal (.int 1) none) (.literal (.int 2) none) rfl, by decide⟩
  have hnone : ¬ ∃ k d f, Reaches env depthLimit e k d ∧ Exceeds env k d f := by
    rintro ⟨k, d, f, hreach, hd⟩
    have herror := visit_eq_error_of_reaches hreach hd
    rw [visit_eq_ok_iff_yields.mpr hthree] at herror
    cases herror
  exact ⟨hnode, (isReported_iff hnode).mpr hnone, hnone⟩

/-- Large powers of ten are beyond the range of floating-point numbers. -/
theorem overflowBound_le_pow {k : Nat}
    (hk : 342 ≤ k) :
    Double.overflowBound ≤ ((10 : Int) ^ k).natAbs := by
  rw [Int.natAbs_pow]
  calc
    Double.overflowBound ≤ 2 ^ 1024 := Nat.sub_le _ _
    _ ≤ 2 ^ (3 * k) := pow_le_pow_right₀ (by decide) (by omega)
    _ = (2 ^ 3) ^ k := pow_mul 2 3 k
    _ ≤ 10 ^ k := Nat.pow_le_pow_left (by decide) k

/-- The sum of `10 ^ 400` and `1.0` is a tree of nodes whose outcome is not
reported. -/
theorem large_sum_not_isReported :
    let env := Environment.ofPaths "/r/a.js" "/r"
    let one := Double.finite false 4503599627370496 (-52)
    let e := Expr.plus (.literal (.int (10 ^ 400)) none)
      (.literal (.float one) none) none
    IsNode e ∧ evaluate e env = .error .integerTooLarge ∧ ¬ IsReported env e := by
  intro env one e
  have hnode : IsNode e :=
    .plus none (.literal none trivial) (.literal none trivial)
  have hsum : SumExceeds (.int (10 ^ 400)) (.float one) .integerTooLarge :=
    .int_float one (overflowBound_le_pow (by decide))
  have hleft : Yields env 999 (.literal (.int (10 ^ 400)) none)
      (.scalar (.int (10 ^ 400))) :=
    ⟨.literal (.int (10 ^ 400)) none, by decide⟩
  have hright : Yields env 999 (.literal (.float one) none)
      (.scalar (.float one)) :=
    ⟨.literal (.float one) none, by decide⟩
  have hexceeds : Exceeds env depthLimit e .integerTooLarge :=
    .sum none hleft hright hsum
  have herror : evaluate e env = .error .integerTooLarge :=
    evaluate_eq_error_iff.mpr ⟨hexceeds.visit_eq_error, Or.inl rfl⟩
  refine ⟨hnode, herror, ?_⟩
  rintro ⟨r, hr, -⟩
  rw [herror] at hr
  cases hr

end Overrun

end Evaluation
end BuildTransform
