import BuildTransform.Expr.OfScript
import BuildTransform.Proofs.Outcome

/-!
# Conversion of scripts

What the nodes of a script become when they are converted to argument
expressions.

* `convert_leaf_eq_ok_iff` and its companions say for each form of node when it
  can be converted, and to what.
* `Part` relates the nodes of a script to the parts of the expression that they
  become; `convert_part` shows that every part is converted by itself, and
  `convert_span` that it has the span of its node.
-/

namespace BuildTransform
namespace Script

/-! ## Leaves -/

/-- Nodes at which conversion stops: their parts are not looked at. -/
def IsLeaf : Node → Prop
  | .root _ _ => False
  | .member _ _ _ => False
  | .binary .add _ _ _ => False
  | .call _ _ false _ => False
  | _ => True

/-- What a leaf becomes. -/
def leafOf (node : Node) (span : Option Span) : Expr :=
  match node with
  | .constant v _ => constantOf v span
  | .name id _ => .identifier (.str id) span
  | .binary operator _ _ _ =>
      .unsupported (.str ("BinOp(" ++ operator.formName ++ ")")) span
  | .call _ _ _ _ => .unsupported (.str "Call(keywords)") span
  | node => .unsupported (.str node.formName) span

theorem leafOf_span (node : Node) (span : Option Span) :
    (leafOf node span).span = span := by
  cases node with
  | constant v place => cases v <;> rfl
  | _ => rfl

/-- A node that is no leaf has one of four forms. -/
theorem not_isLeaf_cases {node : Node}
    (h : ¬ IsLeaf node) :
    (∃ body place, node = .root body place) ∨
    (∃ object field place, node = .member object field place) ∨
    (∃ left right place, node = .binary .add left right place) ∨
    (∃ callee arguments place, node = .call callee arguments false place) := by
  cases node with
  | root body place => exact Or.inl ⟨_, _, rfl⟩
  | member object field place => exact Or.inr (Or.inl ⟨_, _, _, rfl⟩)
  | binary operator left right place =>
      cases operator with
      | add => exact Or.inr (Or.inr (Or.inl ⟨_, _, _, rfl⟩))
      | _ => exact absurd trivial h
  | call callee arguments hasKeywords place =>
      cases hasKeywords with
      | false => exact Or.inr (Or.inr (Or.inr ⟨_, _, _, rfl⟩))
      | true => exact absurd trivial h
  | _ => exact absurd trivial h

/-! ## Forms of nodes -/

section Forms

variable {m : LineMap} {n : Nat} {place : Place} {e : Expr}

theorem convert_leaf {node : Node}
    (hleaf : IsLeaf node) :
    convert m (n + 1) node = (spanOf m node.place).map (leafOf node) := by
  cases node with
  | root body place => exact hleaf.elim
  | member object field place => exact hleaf.elim
  | binary operator left right place =>
      cases operator with
      | add => exact hleaf.elim
      | _ => rfl
  | call callee arguments hasKeywords place =>
      cases hasKeywords with
      | false => exact hleaf.elim
      | true => rfl
  | _ => rfl

theorem convert_leaf_eq_ok_iff {node : Node}
    (hleaf : IsLeaf node) :
    convert m (n + 1) node = .ok e ↔
      ∃ span, spanOf m node.place = .ok span ∧ leafOf node span = e := by
  rw [convert_leaf hleaf, Outcome.map_eq_ok_iff]

/-- The place of a root is read and then forgotten. -/
theorem convert_root_eq_ok_iff {body : Node} :
    convert m (n + 1) (.root body place) = .ok e ↔
      ∃ span, spanOf m place = .ok span ∧ convert m n body = .ok e :=
  Outcome.chain_eq_ok_iff

theorem convert_member_eq_ok_iff {object : Node} {field : String} :
    convert m (n + 1) (.member object field place) = .ok e ↔
      ∃ span o, spanOf m place = .ok span ∧ convert m n object = .ok o ∧
        e = .member o (.str field) span := by
  simp only [convert, Node.place, Outcome.chain_eq_ok_iff]
  constructor
  · rintro ⟨span, hspan, o, ho, h⟩
    cases h
    exact ⟨span, o, hspan, ho, rfl⟩
  · rintro ⟨span, o, hspan, ho, rfl⟩
    exact ⟨span, hspan, o, ho, rfl⟩

theorem convert_plus_eq_ok_iff {left right : Node} :
    convert m (n + 1) (.binary .add left right place) = .ok e ↔
      ∃ span l r, spanOf m place = .ok span ∧ convert m n left = .ok l ∧
        convert m n right = .ok r ∧ e = .plus l r span := by
  simp only [convert, Node.place, Outcome.chain_eq_ok_iff]
  constructor
  · rintro ⟨span, hspan, l, hl, r, hr, h⟩
    cases h
    exact ⟨span, l, r, hspan, hl, hr, rfl⟩
  · rintro ⟨span, l, r, hspan, hl, hr, rfl⟩
    exact ⟨span, hspan, l, hl, r, hr, rfl⟩

theorem convert_call_eq_ok_iff {callee : Node} {arguments : List Node} :
    convert m (n + 1) (.call callee arguments false place) = .ok e ↔
      ∃ span f es, spanOf m place = .ok span ∧ convert m n callee = .ok f ∧
        convertAll m n arguments = .ok es ∧ e = .call f es span := by
  simp only [convert, Node.place, Bool.false_eq_true, if_false,
    Outcome.chain_eq_ok_iff]
  constructor
  · rintro ⟨span, hspan, f, hf, es, hes, h⟩
    cases h
    exact ⟨span, f, es, hspan, hf, hes, rfl⟩
  · rintro ⟨span, f, es, hspan, hf, hes, rfl⟩
    exact ⟨span, hspan, f, hf, es, hes, rfl⟩

end Forms

/-! ## Arguments -/

section Arguments

variable {m : LineMap} {n : Nat} {arguments : List Node}

theorem convertAll_cons_eq_ok_iff {first : Node} {es : List Expr} :
    convertAll m n (first :: arguments) = .ok es ↔
      ∃ x xs, convert m n first = .ok x ∧ convertAll m n arguments = .ok xs ∧
        es = x :: xs := by
  simp only [convertAll, Outcome.chain_eq_ok_iff]
  constructor
  · rintro ⟨x, hx, xs, hxs, h⟩
    cases h
    exact ⟨x, xs, hx, hxs, rfl⟩
  · rintro ⟨x, xs, hx, hxs, rfl⟩
    exact ⟨x, hx, xs, hxs, rfl⟩

/-- Arguments are converted one by one. -/
theorem convert_argument {es : List Expr} {argument : Node} {e : Expr}
    (h : convertAll m n arguments = .ok es)
    (hmem : (argument, e) ∈ arguments.zip es) :
    convert m n argument = .ok e := by
  induction arguments generalizing es with
  | nil => simp at hmem
  | cons first rest ih =>
      obtain ⟨x, xs, hx, hxs, rfl⟩ := convertAll_cons_eq_ok_iff.mp h
      rcases List.mem_cons.mp hmem with heq | hmem
      · cases heq
        exact hx
      · exact ih hxs hmem

/-- Arguments can be converted if each of them can. -/
theorem convertAll_ok
    (h : ∀ x, x ∈ arguments → ∃ e, convert m n x = .ok e) :
    ∃ es, convertAll m n arguments = .ok es := by
  induction arguments with
  | nil => exact ⟨[], rfl⟩
  | cons first rest ih =>
      obtain ⟨x, hx⟩ := h first (by simp)
      obtain ⟨xs, hxs⟩ := ih (fun y hy => h y (by simp [hy]))
      exact ⟨x :: xs, convertAll_cons_eq_ok_iff.mpr ⟨x, xs, hx, hxs, rfl⟩⟩

end Arguments

/-! ## Parts -/

/-- `Part node e part e'` says that `part` is a node of the script `node` and
becomes the part `e'` when `node` becomes `e`.  Only nodes with a rule of
evaluation have parts other than themselves. -/
inductive Part : Node → Expr → Node → Expr → Prop
  | refl {node : Node} (e : Expr)
      (hroot : ∀ body place, node ≠ .root body place) :
      Part node e node e
  | root {body part : Node} {e e' : Expr} (place : Place)
      (h : Part body e part e') :
      Part (.root body place) e part e'
  | object {object part : Node} {o e' : Expr} (field : String) (place : Place)
      (property : Value) (span : Option Span)
      (h : Part object o part e') :
      Part (.member object field place) (.member o property span) part e'
  | left {left right part : Node} {l e' : Expr} (r : Expr) (place : Place)
      (span : Option Span)
      (h : Part left l part e') :
      Part (.binary .add left right place) (.plus l r span) part e'
  | right {left right part : Node} {r e' : Expr} (l : Expr) (place : Place)
      (span : Option Span)
      (h : Part right r part e') :
      Part (.binary .add left right place) (.plus l r span) part e'
  | callee {callee part : Node} {f e' : Expr} (arguments : List Node)
      (es : List Expr) (place : Place) (span : Option Span)
      (h : Part callee f part e') :
      Part (.call callee arguments false place) (.call f es span) part e'
  | argument {callee argument part : Node} {arguments : List Node}
      {es : List Expr} {e e' : Expr} (f : Expr) (place : Place)
      (span : Option Span)
      (hmem : (argument, e) ∈ arguments.zip es)
      (h : Part argument e part e') :
      Part (.call callee arguments false place) (.call f es span) part e'

theorem Part.not_root {node part : Node} {e e' : Expr}
    (h : Part node e part e') :
    ∀ body place, part ≠ .root body place := by
  induction h with
  | refl _ hroot => exact hroot
  | _ => assumption

section Parts

variable {m : LineMap}

/-- Nothing is converted without a budget. -/
theorem budget_pos {n : Nat} {node : Node} {e : Expr}
    (h : convert m n node = .ok e) :
    ∃ k, n = k + 1 := by
  cases n with
  | zero => simp [convert] at h
  | succ n => exact ⟨n, rfl⟩

/-- Every part is converted by itself. -/
theorem convert_part {n : Nat} {node part : Node} {e e' : Expr}
    (h : convert m n node = .ok e)
    (hpart : Part node e part e') :
    ∃ k, convert m k part = .ok e' := by
  induction hpart generalizing n with
  | refl => exact ⟨n, h⟩
  | root place _ ih =>
      obtain ⟨n, rfl⟩ := budget_pos h
      obtain ⟨span, -, hbody⟩ := convert_root_eq_ok_iff.mp h
      exact ih hbody
  | object field place property span _ ih =>
      obtain ⟨n, rfl⟩ := budget_pos h
      obtain ⟨_, o, -, ho, heq⟩ := convert_member_eq_ok_iff.mp h
      cases heq
      exact ih ho
  | left r place span _ ih =>
      obtain ⟨n, rfl⟩ := budget_pos h
      obtain ⟨_, l, r, -, hl, -, heq⟩ := convert_plus_eq_ok_iff.mp h
      cases heq
      exact ih hl
  | right l place span _ ih =>
      obtain ⟨n, rfl⟩ := budget_pos h
      obtain ⟨_, l, r, -, -, hr, heq⟩ := convert_plus_eq_ok_iff.mp h
      cases heq
      exact ih hr
  | callee arguments es place span _ ih =>
      obtain ⟨n, rfl⟩ := budget_pos h
      obtain ⟨_, f, es, -, hf, -, heq⟩ := convert_call_eq_ok_iff.mp h
      cases heq
      exact ih hf
  | argument f place span hmem _ ih =>
      obtain ⟨n, rfl⟩ := budget_pos h
      obtain ⟨_, f, es, -, -, hes, heq⟩ := convert_call_eq_ok_iff.mp h
      cases heq
      exact ih (convert_argument hes hmem)

/-- A node other than a root gives its span to what it becomes. -/
theorem convert_span {n : Nat} {node : Node} {e : Expr}
    (hroot : ∀ body place, node ≠ .root body place)
    (h : convert m n node = .ok e) :
    spanOf m node.place = .ok e.span := by
  obtain ⟨n, rfl⟩ := budget_pos h
  by_cases hleaf : IsLeaf node
  · obtain ⟨span, hspan, rfl⟩ := (convert_leaf_eq_ok_iff hleaf).mp h
    rw [hspan, leafOf_span]
  · rcases not_isLeaf_cases hleaf with
      ⟨body, place, rfl⟩ | ⟨object, field, place, rfl⟩ |
      ⟨left, right, place, rfl⟩ | ⟨callee, arguments, place, rfl⟩
    · exact absurd rfl (hroot body place)
    · obtain ⟨span, o, hspan, -, rfl⟩ := convert_member_eq_ok_iff.mp h
      exact hspan
    · obtain ⟨span, l, r, hspan, -, -, rfl⟩ := convert_plus_eq_ok_iff.mp h
      exact hspan
    · obtain ⟨span, f, es, hspan, -, -, rfl⟩ := convert_call_eq_ok_iff.mp h
      exact hspan

end Parts

end Script
end BuildTransform
