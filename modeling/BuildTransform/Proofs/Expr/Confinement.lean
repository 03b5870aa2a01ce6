import BuildTransform.Proofs.Expr.Typing

/-!
# What texts say stays within texts

Evaluation never looks at what a text says: it decides neither whether an
expression has a value nor any number, and no refusal tells of it.

* `Retexted` relates expressions that differ at most in what their text literals
  say, and `SameNames` environments that differ at most in their paths.
* `Similar` relates meanings that are both texts or else the same.
* `visit_retexted` compares two evaluations: they fail alike or find similar
  meanings.
* `evaluate_retexted` concludes for the outcomes of whole expressions.
-/

namespace BuildTransform
namespace Evaluation

/-- The expressions differ at most in what their text literals say. -/
inductive Retexted : Expr → Expr → Prop
  | text (s t : String) (span : Option Span) :
      Retexted (.literal (.str s) span) (.literal (.str t) span)
  | literal (v : Value) (span : Option Span) :
      Retexted (.literal v span) (.literal v span)
  | identifier (name : Value) (span : Option Span) :
      Retexted (.identifier name span) (.identifier name span)
  | member {object object' : Expr} (property : Value) (span : Option Span)
      (hobject : Retexted object object') :
      Retexted (.member object property span) (.member object' property span)
  | plus {left left' right right' : Expr} (span : Option Span)
      (hleft : Retexted left left')
      (hright : Retexted right right') :
      Retexted (.plus left right span) (.plus left' right' span)
  | call {callee callee' : Expr} {arguments arguments' : List Expr}
      (span : Option Span)
      (hcallee : Retexted callee callee')
      (harguments : List.Forall₂ Retexted arguments arguments') :
      Retexted (.call callee arguments span) (.call callee' arguments' span)
  | unsupported (kind : Value) (span : Option Span) :
      Retexted (.unsupported kind span) (.unsupported kind span)
  | foreign (v : Value) :
      Retexted (.foreign v) (.foreign v)

/-- The environments bind the same names. -/
structure SameNames (env env' : Environment) : Prop where
  filename : env.filenameName = env'.filenameName
  dirname : env.dirnameName = env'.dirnameName
  joinAlias : env.joinAlias = env'.joinAlias

/-- The meanings are both texts, or they are the same. -/
inductive Similar : Meaning → Meaning → Prop
  | text (s t : String) :
      Similar (.scalar (.text s)) (.scalar (.text t))
  | same (m : Meaning) :
      Similar m m

section Confinement

variable {env env' : Environment}

theorem Retexted.span_eq {e e' : Expr} (h : Retexted e e') : e.span = e'.span := by
  cases h <;> rfl

/-- The same operation on the same data has similar results. -/
theorem corresponds_similar (x : Evaluated Meaning) :
    Outcome.Corresponds Similar x x :=
  .refl .same x

/-! ## Single operations -/

theorem lookup_sameNames (h : SameNames env env') (name : Value) (span : Option Span) :
    Outcome.Corresponds Similar (lookup env name span) (lookup env' name span) := by
  simp only [lookup, h.filename, h.dirname, h.joinAlias]
  split_ifs
  · exact .ok (.text _ _)
  · exact .ok (.text _ _)
  · exact .ok (.same _)
  · exact corresponds_similar _

/-- No text has a member, whatever the text says. -/
theorem member_similar {m m' : Meaning} (h : Similar m m') (property : Value)
    (span : Option Span) :
    Outcome.Corresponds Similar (member m property span) (member m' property span) := by
  cases h with
  | text s t => exact corresponds_similar (member (.scalar (.text s)) property span)
  | same => exact corresponds_similar _

/-- Whether a scalar can be joined to a text does not depend on what it says if it
is a text. -/
theorem joinedText_similar {a b : Scalar} (h : Similar (.scalar a) (.scalar b)) :
    Outcome.Corresponds (fun _ _ => True) (joinedText a) (joinedText b) := by
  cases h with
  | text s t => exact .ok trivial
  | same => exact .refl (fun _ => trivial) _

/-- A sum in which a text takes part is a text if it succeeds at all. -/
theorem add_text_similar {a a' b b' : Scalar}
    (ha : Similar (.scalar a) (.scalar a'))
    (hb : Similar (.scalar b) (.scalar b'))
    (h : scalarTy a = .text ∨ scalarTy b = .text)
    (h' : scalarTy a' = .text ∨ scalarTy b' = .text) :
    Outcome.Corresponds (fun c c' => Similar (.scalar c) (.scalar c'))
      (add a b) (add a' b') := by
  rw [add_of_text h, add_of_text h']
  refine .chain (joinedText_similar ha) fun s s' _ => ?_
  refine .chain (joinedText_similar hb) fun t t' _ => ?_
  exact .ok (.text _ _)

theorem add_similar {a a' b b' : Scalar}
    (ha : Similar (.scalar a) (.scalar a'))
    (hb : Similar (.scalar b) (.scalar b')) :
    Outcome.Corresponds (fun c c' => Similar (.scalar c) (.scalar c'))
      (add a b) (add a' b') := by
  cases ha with
  | text s s' => exact add_text_similar (.text s s') hb (Or.inl rfl) (Or.inl rfl)
  | same =>
      cases hb with
      | text t t' => exact add_text_similar (.same _) (.text t t') (Or.inr rfl) (Or.inr rfl)
      | same => exact .refl (fun _ => .same _) _

/-- Adding scalars is adding their meanings; anything else is refused. -/
theorem plus_similar {l l' r r' : Meaning} (hl : Similar l l') (hr : Similar r r')
    (span : Option Span) :
    Outcome.Corresponds Similar (plus l r span) (plus l' r' span) := by
  have hsum {a a' b b' : Scalar} (ha : Similar (.scalar a) (.scalar a'))
      (hb : Similar (.scalar b) (.scalar b')) :
      Outcome.Corresponds Similar (plus (.scalar a) (.scalar b) span)
        (plus (.scalar a') (.scalar b') span) :=
    .map (add_similar ha hb) fun _ _ h => h
  cases hl with
  | text s s' =>
      cases hr with
      | text t t' => exact hsum (.text s s') (.text t t')
      | same =>
          cases r with
          | scalar b => exact hsum (.text s s') (.same _)
          | pathNamespace => exact .error _
          | joinFunction => exact .error _
  | same =>
      cases hr with
      | text t t' =>
          cases l with
          | scalar a => exact hsum (.same _) (.text t t')
          | pathNamespace => exact .error _
          | joinFunction => exact .error _
      | same => exact corresponds_similar _

/-- A callee that is a text is refused as any other. -/
theorem calleeOf_similar {x y : Evaluated Meaning}
    (h : Outcome.Corresponds Similar x y) (span : Option Span) :
    Outcome.Corresponds (fun _ _ => True) (calleeOf x span) (calleeOf y span) := by
  cases h with
  | ok h =>
      cases h with
      | text s t => exact .error _
      | same => exact .refl (fun _ => trivial) _
  | error failure => exact .refl (fun _ => trivial) _

/-- An argument is refused only if it is no text. -/
theorem segmentOf_similar (henv : SameNames env env') {m m' : Meaning}
    (h : Similar m m') (span : Option Span) :
    Outcome.Corresponds (fun _ _ => True) (segmentOf env m span)
      (segmentOf env' m' span) := by
  cases h with
  | text s t => exact .ok trivial
  | same =>
      simp only [segmentOf, henv.joinAlias]
      exact .refl (fun _ => trivial) _

/-! ## Evaluation -/

/-- Arguments that are evaluated alike have texts alike. -/
theorem visitSegments_retexted (henv : SameNames env env') {n : Nat}
    (ih : ∀ e e', Retexted e e' →
      Outcome.Corresponds Similar (visit env n e) (visit env' n e'))
    {es es' : List Expr} (h : List.Forall₂ Retexted es es') :
    Outcome.Corresponds (fun _ _ => True) (visitSegments env n es)
      (visitSegments env' n es') := by
  induction h with
  | nil => exact .ok trivial
  | @cons e e' es es' he _ ihes =>
      refine .chain (ih e e' he) fun m m' hm => ?_
      rw [he.span_eq]
      refine .chain (segmentOf_similar henv hm e'.span) fun s s' _ => ?_
      exact .chain ihes fun rest rest' _ => .ok trivial

/-- **Evaluation does not look at what texts say**: it fails alike or finds similar
meanings, whatever the text literals and the paths of the environment are. -/
theorem visit_retexted (henv : SameNames env env') (n : Nat) {e e' : Expr}
    (h : Retexted e e') :
    Outcome.Corresponds Similar (visit env n e) (visit env' n e') := by
  induction n generalizing e e' with
  | zero =>
      simp only [visit]
      exact .error _
  | succ n ih =>
      cases h with
      | text s t span => exact .ok (.text s t)
      | literal v span => exact corresponds_similar _
      | identifier name span => exact lookup_sameNames henv name span
      | member property span hobject =>
          exact .chain (ih hobject) fun m m' hm => member_similar hm property span
      | plus span hleft hright =>
          refine .chain (ih hleft) fun l l' hl => ?_
          exact .chain (ih hright) fun r r' hr => plus_similar hl hr span
      | call span hcallee harguments =>
          refine .chain (calleeOf_similar (ih hcallee) span) fun _ _ _ => ?_
          cases harguments with
          | nil =>
              simp only [henv.joinAlias]
              exact corresponds_similar _
          | cons he hes =>
              refine .chain (visitSegments_retexted henv (fun _ _ => ih) (.cons he hes))
                fun _ _ _ => ?_
              exact .ok (.text _ _)
      | unsupported kind span => exact corresponds_similar _
      | foreign v => exact corresponds_similar _

theorem rooted_similar {e e' : Expr} (h : Retexted e e') {x y : Evaluated Meaning}
    (hxy : Outcome.Corresponds Similar x y) :
    Outcome.Corresponds Similar (rooted e x) (rooted e' y) := by
  cases hxy with
  | ok hm => exact .ok hm
  | error failure =>
      simp only [rooted, h.span_eq]
      exact corresponds_similar _

theorem scalarOf_similar {e e' : Expr} (h : Retexted e e') {m m' : Meaning}
    (hm : Similar m m') :
    Outcome.Corresponds (fun a a' => Similar (.scalar a) (.scalar a'))
      (scalarOf e m) (scalarOf e' m') := by
  cases hm with
  | text s t => exact .ok (.text s t)
  | same =>
      simp only [scalarOf, h.span_eq]
      exact .refl (fun _ => .same _) _

/-- The values of whole expressions are similar, or both evaluations fail alike. -/
theorem evaluateOrFail_retexted (henv : SameNames env env') {e e' : Expr}
    (h : Retexted e e') :
    Outcome.Corresponds (fun a a' => Similar (.scalar a) (.scalar a'))
      (evaluateOrFail e env) (evaluateOrFail e' env') :=
  .chain (rooted_similar h (visit_retexted henv depthLimit h)) fun _ _ => scalarOf_similar h

/-- **What texts say stays within texts.** If the text literals of an expression and
the paths of its environment are exchanged for others, then either the same failure
escapes from both evaluations, or both report the same error, or both have values;
and the values are two texts or one and the same number. -/
theorem evaluate_retexted (henv : SameNames env env') {e e' : Expr}
    (h : Retexted e e') :
    (∃ f, evaluate e env = .error f ∧ evaluate e' env' = .error f) ∨
    (∃ err, evaluate e env = .ok (.failure err) ∧
      evaluate e' env' = .ok (.failure err)) ∨
    (∃ s t, evaluate e env = .ok (.success (.text s)) ∧
      evaluate e' env' = .ok (.success (.text t))) ∨
    ∃ a, scalarTy a = .number ∧ evaluate e env = .ok (.success a) ∧
      evaluate e' env' = .ok (.success a) := by
  have hvalues := evaluateOrFail_retexted henv h
  simp only [evaluate]
  generalize evaluateOrFail e env = x at hvalues ⊢
  generalize evaluateOrFail e' env' = y at hvalues ⊢
  cases hvalues with
  | error failure =>
      cases failure with
      | refused err => exact Or.inr (Or.inl ⟨err, rfl, rfl⟩)
      | _ => exact Or.inl ⟨_, rfl, rfl⟩
  | ok hab =>
      refine Or.inr (Or.inr ?_)
      cases hab with
      | text s t => exact Or.inl ⟨s, t, rfl, rfl⟩
      | same =>
          rename_i a
          cases a with
          | text s => exact Or.inl ⟨s, s, rfl, rfl⟩
          | int i => exact Or.inr ⟨.int i, rfl, rfl, rfl⟩
          | float d => exact Or.inr ⟨.float d, rfl, rfl, rfl⟩

/-- In `path.join(__dirname, "lib", "v" + __filename)` other texts and other paths give
another path. -/
theorem joined_path_retexted :
    let env := Environment.ofPaths "/r/a.js" "/r"
    let env' := Environment.ofPaths "/s/b.js" "/s"
    let expr (dir version : String) : Expr :=
      .call (.member (.identifier (.str "path") none) (.str "join") none)
        [.identifier (.str "__dirname") none, .literal (.str dir) none,
          .plus (.literal (.str version) none) (.identifier (.str "__filename") none) none]
        none
    SameNames env env' ∧ Retexted (expr "lib" "v") (expr "../x" "") ∧
      evaluate (expr "lib" "v") env = .ok (.success (.text "/r/lib/v/r/a.js")) ∧
      ∃ t, evaluate (expr "../x" "") env' = .ok (.success (.text t)) := by
  intro env env' expr
  have henv : SameNames env env' := ⟨rfl, rfl, rfl⟩
  have hexpr : Retexted (expr "lib" "v") (expr "../x" "") :=
    .call none (.member _ none (.identifier _ none))
      (.cons (.identifier _ none) (.cons (.text _ _ none)
        (.cons (.plus none (.text _ _ none) (.identifier _ none)) .nil)))
  have hvalue : evaluate (expr "lib" "v") env = .ok (.success (.text "/r/lib/v/r/a.js")) := by
    cbv
  refine ⟨henv, hexpr, hvalue, ?_⟩
  rcases evaluate_retexted henv hexpr with
    ⟨f, hf, -⟩ | ⟨err, herr, -⟩ | ⟨s, t, -, ht⟩ | ⟨a, ha, hnumber, -⟩
  · rw [hvalue] at hf
    cases hf
  · rw [hvalue] at herr
    cases herr
  · exact ⟨t, ht⟩
  · rw [hvalue] at hnumber
    cases a with
    | text s => cases ha
    | _ => cases hnumber

end Confinement

end Evaluation
end BuildTransform
