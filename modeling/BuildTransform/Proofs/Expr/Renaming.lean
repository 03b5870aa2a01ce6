import BuildTransform.Proofs.Expr.Kinds

/-!
# Renamed bindings

Evaluation compares names with the three that an environment binds, and with nothing else. So
other spellings of all names change no outcome but for the names that an error mentions.

* `Expr.renamed` and `Environment.renamed` put other spellings in place of names; members and
  literals keep theirs.
* `visit_renamed` says that evaluation commutes with a renaming that keeps different names apart.
* `EvalResult.Renames` compares outcomes, and `evaluate_renamed` concludes for whole expressions.
-/

namespace BuildTransform

/-! ## Other spellings -/

/-- Data in place of a name, with another spelling. Only a text is a name. -/
def Value.renamed (r : String → String) : Value → Value
  | .str s => .str (r s)
  | v => v

mutual

/-- The expression with other spellings of its names. Members are no names. -/
def Expr.renamed (r : String → String) : Expr → Expr
  | .identifier name span => .identifier (name.renamed r) span
  | .member object property span => .member (object.renamed r) property span
  | .plus left right span => .plus (left.renamed r) (right.renamed r) span
  | .call callee arguments span => .call (callee.renamed r) (Expr.renamedAll r arguments) span
  | e => e

/-- The expressions with other spellings of their names. -/
def Expr.renamedAll (r : String → String) : List Expr → List Expr
  | [] => []
  | e :: es => e.renamed r :: Expr.renamedAll r es

end

/-- The environment with other spellings of the names that it binds. -/
def Environment.renamed (r : String → String) (env : Environment) : Environment :=
  { env with
    filenameName := r env.filenameName
    dirnameName := r env.dirnameName
    joinAlias := r env.joinAlias }

/-- The reason with other spellings of the names that it mentions: the one that is not bound and
the one that owns the join function. -/
def EvalReason.renamed (r : String → String) : EvalReason → EvalReason
  | .unbound (.str s) _ => .unbound (.str (r s)) (r s)
  | .joinWithoutArguments owner => .joinWithoutArguments (r owner)
  | .joinArgument owner shown => .joinArgument (r owner) shown
  | reason => reason

/-- The error with other spellings of the names that it mentions. -/
def EvalError.renamed (r : String → String) (err : EvalError) : EvalError :=
  ⟨err.reason.renamed r, err.span⟩

/-- The failure with other spellings of the names that it mentions. -/
def EvalFailure.renamed (r : String → String) : EvalFailure → EvalFailure
  | .refused err => .refused (err.renamed r)
  | f => f

/-- The outcomes are the same up to other spellings: of the same sort, with the same value and at
the same place. An error is the same error about the names in their other spelling; in particular
a name that is not bound is reported under it. -/
structure EvalResult.Renames (r : String → String) (x y : EvalResult) : Prop
    extends EvalResult.Matches x y where
  error : y.error = x.error.map (EvalError.renamed r)
  unbound : ∀ s shown span, x.error = some ⟨.unbound (.str s) shown, span⟩ →
    y.error = some ⟨.unbound (.str (r s)) (r s), span⟩ ∧
    y.message = some ("'" ++ r s ++ "' is not defined")

section Spellings

variable {r : String → String}

@[simp] theorem Expr.span_renamed (e : Expr) : (e.renamed r).span = e.span := by
  cases e <;> rfl

theorem Expr.isEmpty_renamedAll (es : List Expr) :
    (Expr.renamedAll r es).isEmpty = es.isEmpty := by
  cases es <;> rfl

/-- The sort of a reason does not depend on the names that it mentions. -/
@[simp] theorem EvalReason.kind_renamed (reason : EvalReason) :
    (reason.renamed r).kind = reason.kind := by
  cases reason with
  | unbound name shown => cases name <;> rfl
  | _ => rfl

/-- A failure with an error and its renamed form have outcomes that are the same up to
spellings. -/
theorem EvalResult.renames_failure (err : EvalError) :
    EvalResult.Renames r (.failure err) (.failure (err.renamed r)) where
  succeeded := rfl
  value := rfl
  kind := congrArg some (EvalReason.kind_renamed err.reason).symm
  span := rfl
  error := rfl
  unbound := by
    intro s shown span herr
    obtain rfl := Option.some.inj herr
    exact ⟨rfl, rfl⟩

theorem EvalResult.renames_success (a : Scalar) :
    EvalResult.Renames r (.success a) (.success a) where
  succeeded := rfl
  value := rfl
  kind := rfl
  span := rfl
  error := rfl
  unbound := nofun

end Spellings

/-! ## Evaluation -/

namespace Evaluation

section Renaming

variable {r : String → String} {env : Environment} {α : Type}

/-- The same evaluation with other spellings of the names in its failure. -/
def respelled (r : String → String) (x : Evaluated α) : Evaluated α :=
  x.mapError (EvalFailure.renamed r)

@[simp] theorem respelled_refuse (reason : EvalReason) (span : Option Span) :
    respelled r (refuse reason span : Evaluated α) = refuse (reason.renamed r) span :=
  rfl

@[simp] theorem respelled_shown (s : Option String) : respelled r (shown s) = shown s := by
  cases s <;> rfl

/-- Chains differ in spellings only if both of their operations do. -/
theorem chain_respelled {β : Type} {x y : Evaluated α} {next next' : α → Evaluated β}
    (h : y = respelled r x) (hnext : ∀ a, next' a = respelled r (next a)) :
    (y >>= next') = respelled r (x >>= next) := by
  rw [h, respelled, respelled, Outcome.mapError_chain]
  exact congrArg _ (funext hnext)

/-- A refusal that mentions no name has one spelling only. -/
theorem shown_refuse_respelled (s : Option String) (reason : String → EvalReason)
    (span : Option Span) (hreason : ∀ t, (reason t).renamed r = reason t) :
    (shown s >>= fun t => refuse (reason t) span : Evaluated α) =
      respelled r (shown s >>= fun t => refuse (reason t) span) :=
  chain_respelled (respelled_shown s).symm fun t => by rw [respelled_refuse, hreason]

/-! ### Single operations -/

theorem literal_respelled (v : Value) (span : Option Span) :
    literal v span = respelled r (literal v span) := by
  unfold literal
  split
  · rfl
  · exact shown_refuse_respelled _ _ _ fun _ => rfl

/-- **Looking up a name** commutes with a renaming that keeps different names apart, whichever of
the three bindings have the same name. -/
theorem lookup_renamed (hr : Function.Injective r) (name : Value) (span : Option Span) :
    lookup (env.renamed r) (name.renamed r) span = respelled r (lookup env name span) := by
  cases name with
  | str s =>
      simp only [lookup, Value.renamed, Environment.renamed, hr.beq_eq]
      split_ifs <;> rfl
  | _ => exact shown_refuse_respelled _ _ _ fun _ => rfl

theorem member_respelled (m : Meaning) (property : Value) (span : Option Span) :
    member m property span = respelled r (member m property span) := by
  unfold member
  split
  · rfl
  · exact shown_refuse_respelled _ _ _ fun _ => rfl

theorem plus_respelled (l m : Meaning) (span : Option Span) :
    plus l m span = respelled r (plus l m span) := by
  unfold plus
  split
  · next a b =>
      cases hsum : add a b with
      | ok c => rfl
      | error f => rcases (add_eq_error_iff.mp hsum).isOverrun with rfl | rfl <;> rfl
  · rfl

/-- Of a callee that is refused only the sort of the refusal is remembered, not a name. -/
theorem calleeOf_respelled (x : Evaluated Meaning) (span : Option Span) :
    calleeOf (respelled r x) span = respelled r (calleeOf x span) := by
  rcases x with (err | _ | _ | _) | m
  · show refuse (.unknownCall (some (err.reason.renamed r).kind)) span = _
    rw [EvalReason.kind_renamed]
    rfl
  · rfl
  · rfl
  · rfl
  · cases m <;> rfl

theorem segmentOf_renamed (m : Meaning) (span : Option Span) :
    segmentOf (env.renamed r) m span = respelled r (segmentOf env m span) := by
  unfold segmentOf
  split
  · rfl
  · exact chain_respelled (respelled_shown _).symm fun _ => rfl

/-! ### Whole expressions -/

/-- Arguments have the same texts, or the same one of them fails, if each is evaluated alike. -/
theorem visitSegments_renamed {n : Nat}
    (h : ∀ e, visit (env.renamed r) n (e.renamed r) = respelled r (visit env n e))
    (es : List Expr) :
    visitSegments (env.renamed r) n (Expr.renamedAll r es) =
      respelled r (visitSegments env n es) := by
  induction es with
  | nil => rfl
  | cons e es ih =>
      rw [Expr.renamedAll, visitSegments_cons, visitSegments_cons]
      refine chain_respelled ?_ fun s => chain_respelled ih fun rest => rfl
      refine chain_respelled (h e) fun m => ?_
      rw [Expr.span_renamed]
      exact segmentOf_renamed m e.span

/-- **Evaluation commutes with a renaming** that keeps different names apart. -/
theorem visit_renamed (hr : Function.Injective r) (n : Nat) (e : Expr) :
    visit (env.renamed r) n (e.renamed r) = respelled r (visit env n e) := by
  induction n generalizing e with
  | zero =>
      simp only [visit]
      rfl
  | succ n ih =>
      cases e with
      | literal v span => exact literal_respelled v span
      | identifier name span => exact lookup_renamed hr name span
      | member object property span =>
          exact chain_respelled (ih object) fun m => member_respelled m property span
      | plus left right span =>
          exact chain_respelled (ih left) fun l =>
            chain_respelled (ih right) fun m => plus_respelled l m span
      | call callee arguments span =>
          simp only [Expr.renamed, visit, Expr.isEmpty_renamedAll, ih callee]
          refine chain_respelled (calleeOf_respelled _ span) fun _ => ?_
          split_ifs
          · rfl
          · exact chain_respelled (visitSegments_renamed ih arguments) fun ss => rfl
      | unsupported kind span =>
          simp only [Expr.renamed, visit]
          exact shown_refuse_respelled _ _ _ fun _ => rfl
      | foreign v => rfl

theorem rooted_renamed (e : Expr) (x : Evaluated Meaning) :
    rooted (e.renamed r) (respelled r x) = respelled r (rooted e x) := by
  rcases x with (err | _ | _ | _) | m
  · rfl
  · rfl
  · rfl
  · simp only [rooted, Expr.span_renamed]
    rfl
  · rfl

theorem scalarOf_renamed (e : Expr) (m : Meaning) :
    scalarOf (e.renamed r) m = respelled r (scalarOf e m) := by
  unfold scalarOf
  rw [Expr.span_renamed]
  split
  · rfl
  · exact shown_refuse_respelled _ _ _ fun _ => rfl

theorem evaluateOrFail_renamed (hr : Function.Injective r) (env : Environment) (e : Expr) :
    evaluateOrFail (e.renamed r) (env.renamed r) = respelled r (evaluateOrFail e env) := by
  refine chain_respelled ?_ (scalarOf_renamed e)
  rw [visit_renamed hr, rooted_renamed]

end Renaming

end Evaluation

section Outcomes

open Evaluation

variable {r : String → String}

/-- **The spelling of the bindings does not matter.** Evaluated with other spellings of all names,
in the environment as in the expression, an expression has the same value or the same error, up to
the spelling of the names in the error; and what escapes from one evaluation escapes from the
other. Different names have to stay different. -/
theorem evaluate_renamed (hr : Function.Injective r) (env : Environment) (e : Expr) :
    Outcome.Corresponds (EvalResult.Renames r) (evaluate e env)
      (evaluate (e.renamed r) (env.renamed r)) := by
  unfold evaluate
  rw [evaluateOrFail_renamed hr]
  rcases evaluateOrFail e env with (err | _ | _ | _) | a
  · exact .ok (EvalResult.renames_failure err)
  · exact .error _
  · exact .error _
  · exact .error _
  · exact .ok (EvalResult.renames_success a)

/-- With `__dirname` and `join` exchanged, `path.join(__dirname, "a" + join)` is
`path.join(join, "a" + __dirname)`: the member keeps its name, and where `join` was not bound,
`__dirname` now is not. -/
theorem exchanged_names_reported :
    let env := Environment.ofPaths "/r/a.js" "/r"
    let r : String → String := Equiv.swap "__dirname" "join"
    let expr (first last : String) : Expr :=
      .call (.member (.identifier (.str "path") none) (.str "join") none)
        [.identifier (.str first) none,
          .plus (.literal (.str "a") none) (.identifier (.str last) (some ⟨27, 31⟩)) none]
        none
    Function.Injective r ∧
    (expr "__dirname" "join").renamed r = expr "join" "__dirname" ∧
    env.renamed r = ⟨"/r/a.js", "/r", "__filename", "join", "path"⟩ ∧
    evaluate (expr "__dirname" "join") env =
      .ok (.failure ⟨.unbound (.str "join") "join", some ⟨27, 31⟩⟩) ∧
    ∃ y, evaluate (expr "join" "__dirname") (env.renamed r) = .ok y ∧
      y.kind = some .unboundIdentifier ∧ y.span = some ⟨27, 31⟩ ∧
      y.message = some "'__dirname' is not defined" := by
  intro env r expr
  have hr : Function.Injective r := (Equiv.swap "__dirname" "join").injective
  have hexpr : (expr "__dirname" "join").renamed r = expr "join" "__dirname" := by
    simp [expr, r, Expr.renamed, Expr.renamedAll, Value.renamed, Equiv.swap_apply_def]
  have henv : env.renamed r = ⟨"/r/a.js", "/r", "__filename", "join", "path"⟩ := by
    simp [env, r, Environment.renamed, Environment.ofPaths, Equiv.swap_apply_def]
  have hvalue : evaluate (expr "__dirname" "join") env =
      .ok (.failure ⟨.unbound (.str "join") "join", some ⟨27, 31⟩⟩) := rfl
  refine ⟨hr, hexpr, henv, hvalue, ?_⟩
  have hrenamed := evaluate_renamed hr env (expr "__dirname" "join")
  rw [hexpr, hvalue] at hrenamed
  generalize evaluate (expr "join" "__dirname") (env.renamed r) = x at hrenamed ⊢
  cases hrenamed with
  | ok h =>
      obtain ⟨-, hmessage⟩ := h.unbound "join" "join" (some ⟨27, 31⟩) rfl
      have hspelled : r "join" = "__dirname" := Equiv.swap_apply_right _ _
      refine ⟨_, rfl, h.kind.symm, h.span.symm, hmessage.trans ?_⟩
      rw [hspelled]
      rfl

end Outcomes

end BuildTransform
