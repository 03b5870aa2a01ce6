import BuildTransform.Proofs.Expr.Meaning

/-!
# Parts replaced by their values

Evaluation does not see whether a part of an expression is written out or stands there as
its value.

* A `Context` is an expression with a hole in the place of one part.
* `visit_fill` says that two parts that evaluate alike and have the same place in the source
  can be exchanged in every context.
* `evaluate_fill_literal` concludes for a part that has a value and the literal of that value.
-/

namespace BuildTransform

/-- An expression with a hole in the place of one of its parts. -/
inductive Expr.Context
  | hole
  | inObject (inner : Expr.Context) (property : Value) (span : Option Span)
  | inLeft (inner : Expr.Context) (right : Expr) (span : Option Span)
  | inRight (left : Expr) (inner : Expr.Context) (span : Option Span)
  | inCallee (inner : Expr.Context) (arguments : List Expr) (span : Option Span)
  | inArgument (callee : Expr) (before : List Expr) (inner : Expr.Context)
      (after : List Expr) (span : Option Span)

namespace Expr.Context

/-- The expression with a part in the place of the hole. -/
def fill (part : Expr) : Expr.Context → Expr
  | .hole => part
  | .inObject inner property span => .member (inner.fill part) property span
  | .inLeft inner right span => .plus (inner.fill part) right span
  | .inRight left inner span => .plus left (inner.fill part) span
  | .inCallee inner arguments span => .call (inner.fill part) arguments span
  | .inArgument callee before inner after span =>
      .call callee (before ++ inner.fill part :: after) span

/-- Exchanging the part keeps the place of the whole if it keeps that of the part. -/
theorem span_fill {part part' : Expr} (h : part'.span = part.span) (c : Expr.Context) :
    (c.fill part').span = (c.fill part).span := by
  cases c with
  | hole => exact h
  | _ => rfl

end Expr.Context

namespace Evaluation

section Folding

variable {env : Environment} {part part' : Expr} {c : Expr.Context}

/-- One argument may be exchanged for another one with the same text or the same failure. -/
theorem visitSegments_append_cons {n : Nat} {e e' : Expr}
    (h : segment env n e' = segment env n e) (before after : List Expr) :
    visitSegments env n (before ++ e' :: after) =
      visitSegments env n (before ++ e :: after) := by
  induction before with
  | nil => rw [List.nil_append, List.nil_append, visitSegments_cons, visitSegments_cons, h]
  | cons x before ih =>
      rw [List.cons_append, List.cons_append, visitSegments_cons, visitSegments_cons, ih]

/-- **Parts that evaluate alike can be exchanged** in every context, as long as the budget
reaches down to them. -/
theorem visit_fill
    (hvisit : ∀ n, part.depth ≤ n → visit env n part' = visit env n part)
    (hspan : part'.span = part.span) {n : Nat} (hdepth : (c.fill part).depth ≤ n) :
    visit env n (c.fill part') = visit env n (c.fill part) := by
  induction n generalizing c with
  | zero =>
      have := one_le_depth (c.fill part)
      omega
  | succ n ih =>
      cases c with
      | hole => exact hvisit (n + 1) hdepth
      | inObject inner property span =>
          simp only [Expr.Context.fill, Expr.depth, Nat.add_le_add_iff_right] at hdepth
          simp only [Expr.Context.fill, visit, ih hdepth]
      | inLeft inner right span =>
          simp only [Expr.Context.fill, Expr.depth, Nat.add_le_add_iff_right,
            Nat.max_le] at hdepth
          simp only [Expr.Context.fill, visit, ih hdepth.1]
      | inRight left inner span =>
          simp only [Expr.Context.fill, Expr.depth, Nat.add_le_add_iff_right,
            Nat.max_le] at hdepth
          simp only [Expr.Context.fill, visit, ih hdepth.2]
      | inCallee inner arguments span =>
          simp only [Expr.Context.fill, Expr.depth, Nat.add_le_add_iff_right,
            Nat.max_le] at hdepth
          simp only [Expr.Context.fill, visit, ih hdepth.1]
      | inArgument callee before inner after span =>
          simp only [Expr.Context.fill, Expr.depth, Nat.add_le_add_iff_right, Nat.max_le,
            depthAll_le_iff] at hdepth
          have hinner := ih (hdepth.2 (inner.fill part) (by simp))
          have hsegment :
              segment env n (inner.fill part') = segment env n (inner.fill part) := by
            rw [segment, segment, hinner, inner.span_fill hspan]
          have hempty (e : Expr) : (before ++ e :: after).isEmpty = false := by
            simp
          simp only [Expr.Context.fill, visit, visitSegments_append_cons hsegment, hempty]

/-- A part that has a value and the literal of that value evaluate alike. -/
theorem visit_literal_of_visit {a : Scalar}
    (h : visit env depthLimit part = .ok (.scalar a)) {n : Nat} (hn : part.depth ≤ n) :
    visit env n (.literal a.toValue part.span) = visit env n part := by
  have hpart := ((visit_eq_ok_iff _ _ _).mp h).1
  have hone : (Expr.literal a.toValue part.span).depth ≤ n := (one_le_depth part).trans hn
  rw [(visit_eq_ok_iff _ _ _).mpr ⟨hpart, hn⟩,
    (visit_eq_ok_iff _ _ _).mpr ⟨.literal a part.span, hone⟩]

/-- The outcome of an expression depends on its meaning and on its place. -/
theorem evaluateOrFail_congr {e e' : Expr}
    (hvisit : visit env depthLimit e' = visit env depthLimit e)
    (hspan : e'.span = e.span) :
    evaluateOrFail e' env = evaluateOrFail e env := by
  have hrooted : rooted e' = rooted e := by
    funext r
    simp only [rooted, hspan]
  have hscalar : scalarOf e' = scalarOf e := by
    funext m
    simp only [scalarOf, hspan]
  rw [evaluateOrFail, evaluateOrFail, hvisit, hrooted, hscalar]

/-- **A part that has a value can be replaced by the literal of that value** at the same
place of the source: the whole expression has the same outcome. -/
theorem evaluate_fill_literal {r : EvalResult}
    (hpart : evaluate part env = .ok r) (hvalue : r.succeeded = true)
    (hdepth : (c.fill part).depth ≤ depthLimit) :
    evaluateOrFail (c.fill (.literal r.value part.span)) env =
        evaluateOrFail (c.fill part) env ∧
      evaluate (c.fill (.literal r.value part.span)) env = evaluate (c.fill part) env := by
  rcases evaluate_eq_ok_iff.mp hpart with ⟨a, ha, rfl⟩ | ⟨err, -, rfl⟩
  · have hliteral : (Expr.literal a.toValue part.span).span = part.span := rfl
    have hsame : evaluateOrFail (c.fill (.literal a.toValue part.span)) env =
        evaluateOrFail (c.fill part) env :=
      evaluateOrFail_congr
        (visit_fill (fun n hn => visit_literal_of_visit ha hn) hliteral hdepth)
        (c.span_fill hliteral)
    refine ⟨hsame, ?_⟩
    rw [evaluate, evaluate, EvalResult.success, hsame]
  · cases hvalue

/-- The sum in `path.join("a", 1 + 2)` may be written as `3`: the call is refused for the
same argument at the same place. -/
theorem refused_sum_folded :
    let env := Environment.ofPaths "/r/a.js" "/r"
    let span : Span := ⟨15, 20⟩
    let sum := Expr.plus (.literal (.int 1) none) (.literal (.int 2) none) (some span)
    let callee := Expr.member (.identifier (.str "path") none) (.str "join") none
    let c := Expr.Context.inArgument callee [.literal (.str "a") none] .hole [] none
    let r := EvalResult.success (.int 3)
    let refusal : EvalError := ⟨.joinArgument "path" "3", some span⟩
    evaluate sum env = .ok r ∧ r.succeeded = true ∧ (c.fill sum).depth ≤ depthLimit ∧
      evaluate (c.fill sum) env = .ok (.failure refusal) ∧
      evaluate (c.fill (.literal r.value (some span))) env = .ok (.failure refusal) := by
  intro env span sum callee c r refusal
  have hsum : evaluate sum env = .ok r := rfl
  have hdepth : (c.fill sum).depth ≤ depthLimit := by decide
  have hrefused : evaluate (c.fill sum) env = .ok (.failure refusal) := by
    have hthree : (Meaning.scalar (.int 3)).display? = some "3" := by decide +kernel
    have hargument : segment env 999 sum = .error (.refused refusal) := by
      have hmeaning : visit env 999 sum = .ok (.scalar (.int 3)) := rfl
      simp only [segment, hmeaning, bind, Except.bind, segmentOf, hthree]
      rfl
    have hvisit : visit env depthLimit (c.fill sum) = .error (.refused refusal) := by
      refine (visit_call_of_joinFunction rfl (by simp)).trans ?_
      rw [Outcome.map_eq_error_iff, visitSegments_eq_error_iff]
      exact ⟨[.literal (.str "a") none], sum, [], rfl, by simpa using ⟨"a", rfl⟩, hargument⟩
    exact evaluate_eq_ok_iff.mpr (Or.inr ⟨refusal, by rw [hvisit]; rfl, rfl⟩)
  refine ⟨hsum, rfl, hdepth, hrefused, ?_⟩
  exact (evaluate_fill_literal hsum rfl hdepth).2.trans hrefused

end Folding

end Evaluation
end BuildTransform
