import BuildTransform.Proofs.Expr.Folding
import BuildTransform.Proofs.Expr.Overrun

/-!
# The first refusal is the one reported

Evaluation goes from left to right and ends at the first part that is refused.
This module says what is reported of it, wherever the part stands.

* `IsReached` says of a context that evaluation comes to its hole: what stands
  before the hole has a meaning with which evaluation goes on.
* `calledAt` finds the outermost call in whose callee the hole stands.  Such a
  call answers for its callee, so it hides the error of the part.
* `visit_fill_error` carries the failure of the part up to the root, and
  `evaluate_fill_refused` reads off what is reported.
-/

namespace BuildTransform

namespace Expr.Context

/-- The place of the outermost call in whose callee the hole stands, if there is
such a call. -/
def calledAt : Expr.Context → Option (Option Span)
  | .hole => none
  | .inObject inner _ _ => inner.calledAt
  | .inLeft inner _ _ => inner.calledAt
  | .inRight _ inner _ => inner.calledAt
  | .inCallee _ _ span => some span
  | .inArgument _ _ inner _ _ => inner.calledAt

/-- The contexts have the same form and agree in all that is evaluated before the
hole. -/
inductive SameBefore : Expr.Context → Expr.Context → Prop
  | hole :
      SameBefore .hole .hole
  | inObject {inner inner' : Expr.Context} (property property' : Value)
      (span span' : Option Span)
      (h : SameBefore inner inner') :
      SameBefore (.inObject inner property span) (.inObject inner' property' span')
  | inLeft {inner inner' : Expr.Context} (right right' : Expr)
      (span span' : Option Span)
      (h : SameBefore inner inner') :
      SameBefore (.inLeft inner right span) (.inLeft inner' right' span')
  | inRight {inner inner' : Expr.Context} (left : Expr) (span span' : Option Span)
      (h : SameBefore inner inner') :
      SameBefore (.inRight left inner span) (.inRight left inner' span')
  | inCallee {inner inner' : Expr.Context} (arguments arguments' : List Expr)
      (span : Option Span)
      (h : SameBefore inner inner') :
      SameBefore (.inCallee inner arguments span) (.inCallee inner' arguments' span)
  | inArgument {inner inner' : Expr.Context} (callee : Expr) (before : List Expr)
      (after after' : List Expr) (span span' : Option Span)
      (h : SameBefore inner inner') :
      SameBefore (.inArgument callee before inner after span)
        (.inArgument callee before inner' after' span')

end Expr.Context

namespace Evaluation

/-- Evaluation comes to the hole: a left operand before it has a meaning, the
arguments before it are texts and belong to a call of the join function. -/
inductive IsReached (env : Environment) : Expr.Context → Prop
  | hole :
      IsReached env .hole
  | inObject {inner : Expr.Context} (property : Value) (span : Option Span)
      (h : IsReached env inner) :
      IsReached env (.inObject inner property span)
  | inLeft {inner : Expr.Context} (right : Expr) (span : Option Span)
      (h : IsReached env inner) :
      IsReached env (.inLeft inner right span)
  | inRight {left : Expr} {inner : Expr.Context} {m : Meaning} (span : Option Span)
      (hleft : Denotes env left m)
      (h : IsReached env inner) :
      IsReached env (.inRight left inner span)
  | inCallee {inner : Expr.Context} (arguments : List Expr) (span : Option Span)
      (h : IsReached env inner) :
      IsReached env (.inCallee inner arguments span)
  | inArgument {callee : Expr} {before : List Expr} {inner : Expr.Context}
      (after : List Expr) (span : Option Span)
      (hcallee : Denotes env callee .joinFunction)
      (hbefore : ∀ x, x ∈ before → ∃ s, Denotes env x (.scalar (.text s)))
      (h : IsReached env inner) :
      IsReached env (.inArgument callee before inner after span)

/-- The failure of a call whose callee fails. -/
def calleeFailure (span : Option Span) : EvalFailure → EvalFailure
  | .refused err => .refused ⟨.unknownCall (some err.reason.kind), span⟩
  | f => f

/-- The failure of the whole if the part in the hole fails: only calls of the part
replace it. -/
def failureOf (f : EvalFailure) : Expr.Context → EvalFailure
  | .hole => f
  | .inObject inner _ _ => failureOf f inner
  | .inLeft inner _ _ => failureOf f inner
  | .inRight _ inner _ => failureOf f inner
  | .inCallee inner _ span => calleeFailure span (failureOf f inner)
  | .inArgument _ _ inner _ _ => failureOf f inner

section Refusal

variable {env : Environment} {part : Expr} {c c' : Expr.Context}

theorem calleeOf_error (f : EvalFailure) (span : Option Span) :
    calleeOf (.error f) span = .error (calleeFailure span f) := by
  cases f <;> rfl

/-! ## From the part to the root -/

/-- A part is no deeper than the whole. -/
theorem depth_le_fill (part : Expr) (c : Expr.Context) :
    part.depth ≤ (c.fill part).depth := by
  induction c with
  | hole => exact le_rfl
  | inObject inner property span ih =>
      simp only [Expr.Context.fill, Expr.depth]
      omega
  | inLeft inner right span ih =>
      simp only [Expr.Context.fill, Expr.depth]
      omega
  | inRight left inner span ih =>
      simp only [Expr.Context.fill, Expr.depth]
      omega
  | inCallee inner arguments span ih =>
      simp only [Expr.Context.fill, Expr.depth]
      omega
  | inArgument callee before inner after span ih =>
      have hargument : (inner.fill part).depth ≤
          Expr.depthAll (before ++ inner.fill part :: after) :=
        (depthAll_le_iff _).mp le_rfl _ (by simp)
      simp only [Expr.Context.fill, Expr.depth]
      omega

/-- **The failure of a part that is reached is the failure of the whole**, as far as
no call stands in between that answers for its callee. -/
theorem visit_fill_error {f : EvalFailure}
    (hpart : ∀ n, part.depth ≤ n → visit env n part = .error f)
    (hreached : IsReached env c) {n : Nat} (hdepth : (c.fill part).depth ≤ n) :
    visit env n (c.fill part) = .error (failureOf f c) := by
  induction hreached generalizing n with
  | hole => exact hpart n hdepth
  | inObject property span _ ih =>
      obtain ⟨n, rfl⟩ := Nat.exists_eq_add_of_le' ((one_le_depth _).trans hdepth)
      simp only [Expr.Context.fill, Expr.depth, Nat.add_le_add_iff_right] at hdepth
      exact Outcome.chain_eq_error_iff.mpr (Or.inl (ih hdepth))
  | inLeft right span _ ih =>
      obtain ⟨n, rfl⟩ := Nat.exists_eq_add_of_le' ((one_le_depth _).trans hdepth)
      simp only [Expr.Context.fill, Expr.depth, Nat.add_le_add_iff_right,
        Nat.max_le] at hdepth
      exact Outcome.chain_eq_error_iff.mpr (Or.inl (ih hdepth.1))
  | @inRight left _ m span hleft _ ih =>
      obtain ⟨n, rfl⟩ := Nat.exists_eq_add_of_le' ((one_le_depth _).trans hdepth)
      simp only [Expr.Context.fill, Expr.depth, Nat.add_le_add_iff_right,
        Nat.max_le] at hdepth
      have hl := (visit_eq_ok_iff n left m).mpr ⟨hleft, hdepth.1⟩
      refine Outcome.chain_eq_error_iff.mpr (Or.inr ⟨m, hl, ?_⟩)
      exact Outcome.chain_eq_error_iff.mpr (Or.inl (ih hdepth.2))
  | inCallee arguments span _ ih =>
      obtain ⟨n, rfl⟩ := Nat.exists_eq_add_of_le' ((one_le_depth _).trans hdepth)
      simp only [Expr.Context.fill, Expr.depth, Nat.add_le_add_iff_right,
        Nat.max_le] at hdepth
      refine Outcome.chain_eq_error_iff.mpr (Or.inl ?_)
      rw [ih hdepth.1, calleeOf_error, failureOf]
  | @inArgument callee before _ after span hcallee hbefore _ ih =>
      obtain ⟨n, rfl⟩ := Nat.exists_eq_add_of_le' ((one_le_depth _).trans hdepth)
      simp only [Expr.Context.fill, Expr.depth, Nat.add_le_add_iff_right, Nat.max_le,
        depthAll_le_iff] at hdepth
      refine visit_call_eq_error after span ⟨hcallee, hdepth.1⟩ ?_
        (Outcome.chain_eq_error_iff.mpr (Or.inl (ih (hdepth.2 _ (by simp)))))
      intro x hx
      obtain ⟨s, hs⟩ := hbefore x hx
      exact ⟨s, hs, hdepth.2 x (by simp [hx])⟩

/-! ## What is reported -/

/-- Outside of callees the failure of the part stays as it is. -/
theorem failureOf_of_not_called (hcalled : c.calledAt = none) (f : EvalFailure) :
    failureOf f c = f := by
  induction c with
  | hole => rfl
  | inObject inner property span ih => exact ih hcalled
  | inLeft inner right span ih => exact ih hcalled
  | inRight left inner span ih => exact ih hcalled
  | inCallee inner arguments span ih => cases hcalled
  | inArgument callee before inner after span ih => exact ih hcalled

/-- The failure of a part that is refused is a refusal. -/
theorem exists_failureOf_refused (err : EvalError) (c : Expr.Context) :
    ∃ err', failureOf (.refused err) c = .refused err' := by
  induction c with
  | hole => exact ⟨err, rfl⟩
  | inObject inner property span ih => exact ih
  | inLeft inner right span ih => exact ih
  | inRight left inner span ih => exact ih
  | inCallee inner arguments span ih =>
      obtain ⟨err', herr'⟩ := ih
      exact ⟨_, by rw [failureOf, herr', calleeFailure]⟩
  | inArgument callee before inner after span ih => exact ih

/-- Inside of a callee only the outermost call is heard of. -/
theorem failureOf_of_called {span : Option Span} (hcalled : c.calledAt = some span)
    (err : EvalError) :
    ∃ kind, failureOf (.refused err) c = .refused ⟨.unknownCall (some kind), span⟩ := by
  induction c with
  | hole => cases hcalled
  | inObject inner property span' ih => exact ih hcalled
  | inLeft inner right span' ih => exact ih hcalled
  | inRight left inner span' ih => exact ih hcalled
  | inCallee inner arguments span' ih =>
      cases hcalled
      obtain ⟨err', herr'⟩ := exists_failureOf_refused err inner
      exact ⟨err'.reason.kind, by rw [failureOf, herr', calleeFailure]⟩
  | inArgument callee before inner after span' ih => exact ih hcalled

/-- What comes behind the hole has no part in the failure. -/
theorem failureOf_sameBefore (h : c.SameBefore c') (f : EvalFailure) :
    failureOf f c' = failureOf f c := by
  induction h with
  | hole => rfl
  | inObject _ _ _ _ _ ih => exact ih
  | inLeft _ _ _ _ _ ih => exact ih
  | inRight _ _ _ _ ih => exact ih
  | inCallee _ _ span _ ih => exact congrArg (calleeFailure span) ih
  | inArgument _ _ _ _ _ _ _ ih => exact ih

theorem IsReached.sameBefore (hreached : IsReached env c) (h : c.SameBefore c') :
    IsReached env c' := by
  induction h with
  | hole => exact hreached
  | inObject _ _ _ _ _ ih =>
      cases hreached with
      | inObject _ _ hinner => exact .inObject _ _ (ih hinner)
  | inLeft _ _ _ _ _ ih =>
      cases hreached with
      | inLeft _ _ hinner => exact .inLeft _ _ (ih hinner)
  | inRight _ _ _ _ ih =>
      cases hreached with
      | inRight _ hleft hinner => exact .inRight _ hleft (ih hinner)
  | inCallee _ _ _ _ ih =>
      cases hreached with
      | inCallee _ _ hinner => exact .inCallee _ _ (ih hinner)
  | inArgument _ _ _ _ _ _ _ ih =>
      cases hreached with
      | inArgument _ _ hcallee hbefore hinner =>
          exact .inArgument _ _ hcallee hbefore (ih hinner)

/-- A refusal that ends the evaluation of an expression is its outcome. -/
theorem evaluate_of_visit_refused {e : Expr} {err : EvalError}
    (h : visit env depthLimit e = .error (.refused err)) :
    evaluate e env = .ok (.failure err) :=
  evaluate_eq_ok_iff.mpr (Or.inr ⟨err, by rw [h, refusal], rfl⟩)

/-- **The first refusal is the one reported.** If a part is refused and evaluation comes
to it, the whole expression is refused with the very same error; but if the part stands
in the callee of a call, then as an unknown call, at the place of the outermost such
call. Nothing behind the part matters. -/
theorem evaluate_fill_refused {err : EvalError}
    (hpart : visit env depthLimit part = .error (.refused err))
    (hreached : IsReached env c)
    (hdepth : (c.fill part).depth ≤ depthLimit) :
    (c.calledAt = none → evaluate (c.fill part) env = .ok (.failure err)) ∧
    (∀ span, c.calledAt = some span →
      ∃ call : EvalError, evaluate (c.fill part) env = .ok (.failure call) ∧
        call.reason.kind = .unsupportedExpression ∧
        call.reason.message = "cannot evaluate unknown function call" ∧
        call.span = span) ∧
    ∀ c', c.SameBefore c' → (c'.fill part).depth ≤ depthLimit →
      evaluate (c'.fill part) env = evaluate (c.fill part) env := by
  have hwithin : part.depth ≤ depthLimit := (depth_le_fill part c).trans hdepth
  have hbudgets : ∀ n, part.depth ≤ n → visit env n part = .error (.refused err) :=
    fun n hn => (visit_eq_of_depth_le hn hwithin).trans hpart
  have hwhole := visit_fill_error hbudgets hreached hdepth
  refine ⟨fun hcalled => ?_, fun span hcalled => ?_, fun c' hbefore hdepth' => ?_⟩
  · rw [failureOf_of_not_called hcalled] at hwhole
    exact evaluate_of_visit_refused hwhole
  · obtain ⟨kind, hkind⟩ := failureOf_of_called hcalled err
    rw [hkind] at hwhole
    exact ⟨_, evaluate_of_visit_refused hwhole, rfl, rfl, rfl⟩
  · obtain ⟨err', herr'⟩ := exists_failureOf_refused err c
    have hother := visit_fill_error hbudgets (hreached.sameBefore hbefore) hdepth'
    rw [failureOf_sameBefore hbefore, herr'] at hother
    rw [herr'] at hwhole
    rw [evaluate_of_visit_refused hother, evaluate_of_visit_refused hwhole]

/-- In `path.join("a", (path.join(b, c) + 1)())` the unbound `b` is the first to be
refused.  The call of the sum answers for it, whatever `c` is. -/
theorem unbound_in_callee_reported :
    let env := Environment.ofPaths "/r/a.js" "/r"
    let join := Expr.member (.identifier (.str "path") none) (.str "join") none
    let part := Expr.identifier (.str "b") (some ⟨26, 27⟩)
    let inner (last : Expr) : Expr.Context :=
      .inLeft (.inArgument join [] .hole [last] none) (.literal (.int 1) none) none
    let c (last : Expr) : Expr.Context :=
      .inArgument join [.literal (.str "a") none]
        (.inCallee (inner last) [] (some ⟨15, 38⟩)) [] none
    let unbound : EvalError := ⟨.unbound (.str "b") "b", some ⟨26, 27⟩⟩
    let last := Expr.identifier (.str "c") none
    visit env depthLimit part = .error (.refused unbound) ∧
      IsReached env (inner last) ∧ IsReached env (c last) ∧
      evaluate ((inner last).fill part) env = .ok (.failure unbound) ∧
      (∃ call : EvalError, evaluate ((c last).fill part) env = .ok (.failure call) ∧
        call.reason.kind = .unsupportedExpression ∧
        call.reason.message = "cannot evaluate unknown function call" ∧
        call.span = some ⟨15, 38⟩) ∧
      evaluate ((c (.literal .null none)).fill part) env =
        evaluate ((c last).fill part) env := by
  intro env join part inner c unbound last
  have hjoin : Denotes env join .joinFunction :=
    .member none (.pathNamespace none (by decide) (by decide))
  have hpart : visit env depthLimit part = .error (.refused unbound) := rfl
  have hinner : IsReached env (inner last) :=
    .inLeft _ none (.inArgument _ none hjoin (by simp) .hole)
  have hc : IsReached env (c last) :=
    .inArgument _ none hjoin (by simpa using ⟨"a", .literal (.text "a") none⟩)
      (.inCallee _ _ hinner)
  have hsame : (c last).SameBefore (c (.literal .null none)) :=
    .inArgument _ _ _ _ _ _ (.inCallee _ _ _ (.inLeft _ _ _ _ (.inArgument _ _ _ _ _ _ .hole)))
  obtain ⟨-, hcalled, hbehind⟩ := evaluate_fill_refused hpart hc (by decide)
  exact ⟨hpart, hinner, hc, (evaluate_fill_refused hpart hinner (by decide)).1 rfl,
    hcalled _ rfl, hbehind _ hsame (by decide)⟩

end Refusal

end Evaluation
end BuildTransform
