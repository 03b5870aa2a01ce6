import BuildTransform.Proofs.Expr.Meaning

/-!
# Kinds of unsupported syntax

What the kind of a node without a rule is good for: it is named in one message, and nothing
else depends on it.

* `Expr.kindless` is an expression without these kinds, and `EvalFailure.kindless` a failure
  that does not name one.
* `visit_kindless` says that evaluation commutes with leaving them out.
* `EvalResult.Matches` compares outcomes apart from their wording; `evaluate_matches` concludes
  that expressions that differ in kinds only have matching outcomes.
-/

namespace BuildTransform

/-! ## Leaving out kinds -/

mutual

/-- The expression without the names of the kinds of unsupported nodes. -/
def Expr.kindless : Expr → Expr
  | .member object property span => .member object.kindless property span
  | .plus left right span => .plus left.kindless right.kindless span
  | .call callee arguments span => .call callee.kindless (Expr.kindlessAll arguments) span
  | .unsupported (.str _) span => .unsupported (.str "") span
  | e => e

/-- The expressions without the names of the kinds of unsupported nodes. -/
def Expr.kindlessAll : List Expr → List Expr
  | [] => []
  | e :: es => e.kindless :: Expr.kindlessAll es

end

/-- The reason without the name of a kind. -/
def EvalReason.kindless : EvalReason → EvalReason
  | .unsupportedNode _ => .unsupportedNode ""
  | reason => reason

/-- The failure without the name of a kind. -/
def EvalFailure.kindless : EvalFailure → EvalFailure
  | .refused e => .refused ⟨e.reason.kindless, e.span⟩
  | f => f

/-- The outcomes are of the same sort, with the same value, and concern the same place; they
may be worded differently. -/
structure EvalResult.Matches (r r' : EvalResult) : Prop where
  succeeded : r.succeeded = r'.succeeded
  value : r.value = r'.value
  kind : r.kind = r'.kind
  span : r.span = r'.span

section Kindless

variable {e : Expr} {es : List Expr} {f f' : EvalFailure}

@[simp] theorem Expr.span_kindless : e.kindless.span = e.span := by
  cases e with
  | unsupported kind span => cases kind <;> rfl
  | _ => rfl

theorem Expr.isEmpty_kindlessAll : (Expr.kindlessAll es).isEmpty = es.isEmpty := by
  cases es <;> rfl

/-- The sort of a reason does not depend on the name of a kind. -/
@[simp] theorem EvalReason.kind_kindless (reason : EvalReason) :
    reason.kindless.kind = reason.kind := by
  cases reason <;> rfl

/-- Failures that differ in the name of a kind only are the same, or they are refusals of the
same sort at the same place. -/
theorem EvalFailure.kindless_eq_cases (h : f.kindless = f'.kindless) :
    f = f' ∨ ∃ err err', f = .refused err ∧ f' = .refused err' ∧
      err.reason.kind = err'.reason.kind ∧ err.span = err'.span := by
  cases f with
  | refused err =>
      cases f' with
      | refused err' =>
          obtain ⟨hreason, hspan⟩ := EvalError.mk.inj (EvalFailure.refused.inj h)
          refine Or.inr ⟨err, err', rfl, rfl, ?_, hspan⟩
          rw [← EvalReason.kind_kindless, hreason, EvalReason.kind_kindless]
      | _ => cases h
  | _ =>
      cases f' with
      | refused err' => cases h
      | _ => exact Or.inl h

end Kindless

/-! ## Evaluation -/

namespace Evaluation

section Evaluation

variable {env : Environment} {α : Type}

/-- The outcome of an operation without the name of a kind. -/
def nameless (x : Evaluated α) : Evaluated α :=
  x.mapError EvalFailure.kindless

theorem nameless_chain {β : Type} {x : Evaluated α} {next : α → Evaluated β} :
    nameless (x >>= next) = nameless x >>= fun a => nameless (next a) :=
  Outcome.mapError_chain

/-- Chains agree if their first operations do, and the next ones do on every result. -/
theorem nameless_chain_congr {β : Type} {x y : Evaluated α} {next next' : α → Evaluated β}
    (h : nameless x = nameless y) (hnext : ∀ a, nameless (next a) = nameless (next' a)) :
    nameless (x >>= next) = nameless (y >>= next') := by
  rw [nameless_chain, nameless_chain, h]
  exact congrArg _ (funext hnext)

/-- Of a callee that is refused only the sort of the refusal is remembered. -/
theorem calleeOf_congr {x y : Evaluated Meaning} (h : nameless x = nameless y)
    (span : Option Span) : calleeOf x span = calleeOf y span := by
  have hnameless (x : Evaluated Meaning) : calleeOf (nameless x) span = calleeOf x span := by
    rcases x with (err | _ | _ | _) | m
    · simp [nameless, Except.mapError, EvalFailure.kindless, calleeOf]
    all_goals rfl
  rw [← hnameless x, h, hnameless y]

/-- Arguments have the same texts, or the same one of them fails, if each is evaluated alike. -/
theorem visitSegments_kindless {n : Nat} {es : List Expr}
    (h : ∀ e, nameless (visit env n e.kindless) = nameless (visit env n e)) :
    nameless (visitSegments env n (Expr.kindlessAll es)) = nameless (visitSegments env n es) := by
  induction es with
  | nil => rfl
  | cons e es ih =>
      rw [Expr.kindlessAll, visitSegments_cons, visitSegments_cons]
      refine nameless_chain_congr ?_ fun s => nameless_chain_congr ih fun rest => rfl
      refine nameless_chain_congr (h e) fun m => ?_
      rw [Expr.span_kindless]

/-- **Evaluation does not look at kinds** but to name them in a refusal. -/
theorem visit_kindless (n : Nat) (e : Expr) :
    nameless (visit env n e.kindless) = nameless (visit env n e) := by
  induction n generalizing e with
  | zero => simp only [visit]
  | succ n ih =>
      cases e with
      | member object property span =>
          exact nameless_chain_congr (ih object) fun m => rfl
      | plus left right span =>
          exact nameless_chain_congr (ih left) fun l => nameless_chain_congr (ih right) fun r => rfl
      | call callee arguments span =>
          simp only [Expr.kindless, visit, Expr.isEmpty_kindlessAll,
            calleeOf_congr (ih callee) span]
          refine nameless_chain_congr rfl fun _ => ?_
          split_ifs
          · rfl
          · exact nameless_chain_congr (visitSegments_kindless ih) fun ss => rfl
      | unsupported kind span => cases kind <;> rfl
      | _ => rfl

theorem evaluateOrFail_kindless (e : Expr) :
    nameless (evaluateOrFail e.kindless env) = nameless (evaluateOrFail e env) := by
  have hroot : nameless (rooted e.kindless (visit env depthLimit e.kindless)) =
      nameless (rooted e (visit env depthLimit e)) := by
    have hvisit : nameless (visit env depthLimit e.kindless) = nameless (visit env depthLimit e) :=
      visit_kindless depthLimit e
    have hrooted (x : Evaluated Meaning) : nameless (rooted e x) = rooted e (nameless x) := by
      rcases x with (err | _ | _ | _) | m <;> rfl
    have hspan (x : Evaluated Meaning) : rooted e.kindless x = rooted e x := by
      rcases x with (err | _ | _ | _) | m <;> simp [rooted]
    rw [hspan, hrooted, hrooted, hvisit]
  refine nameless_chain_congr hroot fun m => ?_
  simp only [scalarOf, Expr.span_kindless]

end Evaluation

end Evaluation

open Evaluation in
/-- **Expressions that differ in kinds only have matching outcomes**, in every environment:
equal values, or errors of one sort at one place. Overruns of numbers are the same, too. -/
theorem evaluate_matches {a b : Expr} (h : a.kindless = b.kindless) (env : Environment) :
    Outcome.Corresponds EvalResult.Matches (evaluate a env) (evaluate b env) := by
  have hsame : nameless (evaluateOrFail a env) = nameless (evaluateOrFail b env) := by
    rw [← evaluateOrFail_kindless, h, evaluateOrFail_kindless]
  unfold evaluate
  cases ha : evaluateOrFail a env with
  | ok s =>
      cases hb : evaluateOrFail b env with
      | ok s' =>
          rw [ha, hb] at hsame
          cases hsame
          exact .ok ⟨rfl, rfl, rfl, rfl⟩
      | error f =>
          rw [ha, hb] at hsame
          cases hsame
  | error f =>
      cases hb : evaluateOrFail b env with
      | ok s' =>
          rw [ha, hb] at hsame
          cases hsame
      | error f' =>
          rw [ha, hb] at hsame
          rcases EvalFailure.kindless_eq_cases (Except.error.inj hsame) with
            rfl | ⟨err, err', rfl, rfl, hkind, hspan⟩
          · cases f with
            | refused err => exact .ok ⟨rfl, rfl, rfl, rfl⟩
            | _ => exact .error _
          · exact .ok ⟨rfl, rfl, congrArg some hkind, hspan⟩

end BuildTransform
