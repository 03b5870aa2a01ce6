import BuildTransform.Expr.ESTree
import BuildTransform.Proofs.Outcome
import BuildTransform.Proofs.Text.Units

/-!
# Ranges of ESTree nodes

Which spans the nodes of an ESTree object get when they are converted to
argument expressions, where the nodes carry ranges in 16-bit units.

* `RangeAt` says between which positions of a source a node stands.
* `Ranged` says that every node that conversion looks at has a range.
* `BareAt` is the place of a node without the parentheses around it.
* `convert_ranged` gives an expression the place of its bare node, and
  `ranged_of_convert` says that nothing but the depth of nesting can prevent the
  conversion.
-/

namespace BuildTransform
namespace ESTree

/-! ## Places -/

/-- The node stands between two positions of the source: its `range` counts the
16-bit units in front of them. -/
def RangeAt (source : String) (es : List (Value × Value)) (i j : Nat) : Prop :=
  ∃ u v : Nat, field es "range" = .list [.int u, .int v] ∧
    Units.At Units.width16 source.toList i u ∧ Units.At Units.width16 source.toList j v

section Places

variable {source : String} {es : List (Value × Value)} {i j : Nat}

theorem RangeAt.unique {i' j' : Nat} (h : RangeAt source es i j)
    (h' : RangeAt source es i' j') :
    i = i' ∧ j = j' := by
  obtain ⟨u, v, hrange, hi, hj⟩ := h
  obtain ⟨u', v', hrange', hi', hj'⟩ := h'
  have hsame : u = u' ∧ v = v' := by
    rw [hrange] at hrange'
    simpa using hrange'
  obtain ⟨rfl, rfl⟩ := hsame
  exact ⟨hi.unique Units.one_le_width16 hi', hj.unique Units.one_le_width16 hj'⟩

/-- Units become the position that they stand in front of. -/
theorem position_of_at {u : Nat} (h : Units.At Units.width16 source.toList i u) :
    position (indexOf (some source)) u = .ok i := by
  simp only [indexOf]
  split_ifs with hall
  · have hone : ∀ c, c ∈ source.toList → Units.width16 c = 1 := by
      intro c hc
      simpa using List.all_eq_true.mp hall c hc
    rw [h.eq_of_forall_one hone]
    rfl
  · have hle := h.le_total
    have hmin : min (u : Int) (Units.total Units.width16 source.toList) = u := by omega
    have hnonneg : ¬ (u : Int) < 0 := by omega
    simp only [position, hmin, hnonneg, if_false, Int.toNat_natCast,
      Units.floorIndex_eq Units.one_le_width16 h]

/-- The place of a node with a range. -/
theorem span_of_rangeAt (h : RangeAt source es i j) :
    span (indexOf (some source)) es = .ok (some ⟨i, j⟩) := by
  obtain ⟨u, v, hrange, hi, hj⟩ := h
  simp only [span, hrange, length, item, integerOf, spanOf, bind, Except.bind,
    List.length_cons, List.length_nil, if_true, List.getElem?_cons_zero,
    List.getElem?_cons_succ, position_of_at hi, position_of_at hj]

end Places

/-! ## Forms of nodes -/

/-- The node is of a type. -/
def IsA (es : List (Value × Value)) (type : String) : Prop :=
  find es "type" = some (.str type)

/-- The types of the nodes with a rule of conversion. -/
def converted : List String :=
  ["Literal", "Identifier", "ParenthesizedExpression", "MemberExpression",
    "BinaryExpression", "CallExpression"]

/-- Nodes at which conversion stops: no node below them is looked at. -/
inductive Leaf (es : List (Value × Value)) : Prop
  | literal
      (htype : IsA es "Literal")
  | identifier {name : Value}
      (htype : IsA es "Identifier")
      (hname : find es "name" = some name)
  | computed
      (htype : IsA es "MemberExpression")
      (hproperty : propertyOf es = .ok none)
  | operation {operator : String}
      (htype : IsA es "BinaryExpression")
      (hoperator : find es "operator" = some (.str operator))
      (hplus : operator ≠ "+")
  | optionalCall
      (htype : IsA es "CallExpression")
      (hoptional : (field es "optional").isTruthy = true)
  | other {type : String}
      (htype : IsA es type)
      (hother : type ∉ converted)

/-- Every node that conversion looks at, at most `n` nodes down, has a range. -/
inductive Ranged (source : String) : Nat → Value → Prop
  | leaf {n i j : Nat} {es : List (Value × Value)}
      (hplace : RangeAt source es i j)
      (hleaf : Leaf es) :
      Ranged source (n + 1) (.dict es)
  | parenthesized {n i j : Nat} {es : List (Value × Value)} {inner : Value}
      (hplace : RangeAt source es i j)
      (htype : IsA es "ParenthesizedExpression")
      (hfind : find es "expression" = some inner)
      (hinner : Ranged source n inner) :
      Ranged source (n + 1) (.dict es)
  | member {n i j : Nat} {es : List (Value × Value)} {object property : Value}
      (hplace : RangeAt source es i j)
      (htype : IsA es "MemberExpression")
      (hproperty : propertyOf es = .ok (some property))
      (hfind : find es "object" = some object)
      (hobject : Ranged source n object) :
      Ranged source (n + 1) (.dict es)
  | plus {n i j : Nat} {es : List (Value × Value)} {left right : Value}
      (hplace : RangeAt source es i j)
      (htype : IsA es "BinaryExpression")
      (hoperator : find es "operator" = some (.str "+"))
      (hfindLeft : find es "left" = some left)
      (hfindRight : find es "right" = some right)
      (hleft : Ranged source n left)
      (hright : Ranged source n right) :
      Ranged source (n + 1) (.dict es)
  | call {n i j : Nat} {es : List (Value × Value)} {callee : Value}
      {arguments : List Value}
      (hplace : RangeAt source es i j)
      (htype : IsA es "CallExpression")
      (hoptional : (field es "optional").isTruthy = false)
      (hfindCallee : find es "callee" = some callee)
      (hfindArguments : find es "arguments" = some (.list arguments))
      (hcallee : Ranged source n callee)
      (harguments : ∀ x, x ∈ arguments → Ranged source n x) :
      Ranged source (n + 1) (.dict es)

/-- The node inside all parentheses around it stands between two positions. -/
inductive BareAt (source : String) : Value → Nat → Nat → Prop
  | node {i j : Nat} {es : List (Value × Value)}
      (hplace : RangeAt source es i j)
      (htype : ¬ IsA es "ParenthesizedExpression") :
      BareAt source (.dict es) i j
  | parenthesized {i j : Nat} {es : List (Value × Value)} {inner : Value}
      (htype : IsA es "ParenthesizedExpression")
      (hfind : find es "expression" = some inner)
      (hinner : BareAt source inner i j) :
      BareAt source (.dict es) i j

section Forms

variable {source : String} {es : List (Value × Value)} {i j n : Nat}

theorem IsA.unique {type type' : String} (h : IsA es type) (h' : IsA es type') :
    type = type' := by
  have hsome := h.symm.trans h'
  simpa using hsome

theorem BareAt.unique {v : Value} {i' j' : Nat} (h : BareAt source v i j)
    (h' : BareAt source v i' j') :
    i = i' ∧ j = j' := by
  induction h with
  | node hplace htype =>
      cases h' with
      | node hplace' _ => exact hplace.unique hplace'
      | parenthesized htype' _ _ => exact absurd htype' htype
  | parenthesized htype hfind _ ih =>
      cases h' with
      | node _ htype' => exact absurd htype htype'
      | parenthesized _ hfind' hinner' =>
          obtain rfl : _ = _ := Option.some.inj (hfind.symm.trans hfind')
          exact ih hinner'

/-- A node is converted as its type says, once its place is known. -/
theorem convert_dict {type : String} (hplace : RangeAt source es i j) (htype : IsA es type) :
    convert (indexOf (some source)) (n + 1) (.dict es) =
      node (convert (indexOf (some source)) n) (.str type) es (some ⟨i, j⟩) := by
  have hfind : find es "type" = some (.str type) := htype
  simp only [convert, entries, bind, Except.bind, span_of_rangeAt hplace, hfind,
    Option.getD_some]

/-- A leaf is converted at any depth. -/
theorem convert_leaf (hplace : RangeAt source es i j) (hleaf : Leaf es) :
    ∃ e, convert (indexOf (some source)) (n + 1) (.dict es) = .ok e ∧
      e.span = some ⟨i, j⟩ := by
  cases hleaf with
  | literal htype =>
      rw [convert_dict hplace htype, node]
      split_ifs
      · exact ⟨_, rfl, rfl⟩
      · exact ⟨_, rfl, rfl⟩
  | identifier htype hname =>
      rw [convert_dict hplace htype, node]
      simp [require, hname, bind, Except.bind, Expr.span]
  | computed htype hproperty =>
      rw [convert_dict hplace htype, node]
      simp [hproperty, bind, Except.bind, Expr.span]
  | operation htype hoperator hplus =>
      rw [convert_dict hplace htype, node]
      simp [field, hoperator, isText, hplus, kindText, Value.text?, bind, Except.bind,
        Expr.span]
  | optionalCall htype hoptional =>
      rw [convert_dict hplace htype, node]
      simp [hoptional, Expr.span]
  | other htype hother =>
      rw [convert_dict hplace htype]
      simp only [converted, List.mem_cons, not_or, List.not_mem_nil, not_false_eq_true,
        and_true] at hother
      obtain ⟨hliteral, hidentifier, hparenthesized, hmember, hbinary, hcall⟩ := hother
      unfold node
      split <;> simp_all [Expr.span]

theorem convert_parenthesized {inner : Value} (hplace : RangeAt source es i j)
    (htype : IsA es "ParenthesizedExpression") (hfind : find es "expression" = some inner) :
    convert (indexOf (some source)) (n + 1) (.dict es) =
      convert (indexOf (some source)) n inner := by
  rw [convert_dict hplace htype, node]
  simp [below, require, hfind, bind, Except.bind]

theorem convert_member_eq_ok_iff {object property : Value} {e : Expr}
    (hplace : RangeAt source es i j) (htype : IsA es "MemberExpression")
    (hproperty : propertyOf es = .ok (some property))
    (hfind : find es "object" = some object) :
    convert (indexOf (some source)) (n + 1) (.dict es) = .ok e ↔
      ∃ o, convert (indexOf (some source)) n object = .ok o ∧
        .member o property (some ⟨i, j⟩) = e := by
  rw [convert_dict hplace htype, node]
  simp [hproperty, below, require, hfind, Outcome.chain_eq_ok_iff]

theorem convert_plus_eq_ok_iff {left right : Value} {e : Expr}
    (hplace : RangeAt source es i j) (htype : IsA es "BinaryExpression")
    (hoperator : find es "operator" = some (.str "+"))
    (hleft : find es "left" = some left) (hright : find es "right" = some right) :
    convert (indexOf (some source)) (n + 1) (.dict es) = .ok e ↔
      ∃ l r, convert (indexOf (some source)) n left = .ok l ∧
        convert (indexOf (some source)) n right = .ok r ∧ .plus l r (some ⟨i, j⟩) = e := by
  rw [convert_dict hplace htype, node]
  simp [field, hoperator, isText, below, require, hleft, hright, Outcome.chain_eq_ok_iff]

theorem convert_call_eq_ok_iff {callee : Value} {arguments : List Value} {e : Expr}
    (hplace : RangeAt source es i j) (htype : IsA es "CallExpression")
    (hoptional : (field es "optional").isTruthy = false)
    (hcallee : find es "callee" = some callee)
    (harguments : find es "arguments" = some (.list arguments)) :
    convert (indexOf (some source)) (n + 1) (.dict es) = .ok e ↔
      ∃ f as, convert (indexOf (some source)) n callee = .ok f ∧
        List.Forall₂ (fun a b => convert (indexOf (some source)) n a = .ok b) arguments as ∧
        .call f as (some ⟨i, j⟩) = e := by
  rw [convert_dict hplace htype, node]
  simp [hoptional, below, require, hcallee, harguments, argumentsOf,
    Outcome.chain_eq_ok_iff, Outcome.mapM_eq_ok_iff]

end Forms

/-! ## Conversion -/

section Conversion

variable {source : String} {v : Value} {n : Nat}

theorem Leaf.not_parenthesized {es : List (Value × Value)} (h : Leaf es) :
    ¬ IsA es "ParenthesizedExpression" := by
  intro hparenthesized
  cases h with
  | literal htype => exact absurd (htype.unique hparenthesized) (by decide)
  | identifier htype _ => exact absurd (htype.unique hparenthesized) (by decide)
  | computed htype _ => exact absurd (htype.unique hparenthesized) (by decide)
  | operation htype _ _ => exact absurd (htype.unique hparenthesized) (by decide)
  | optionalCall htype _ => exact absurd (htype.unique hparenthesized) (by decide)
  | other htype hother =>
      obtain rfl := htype.unique hparenthesized
      exact hother (by decide)

/-- Items that can all be converted can be converted together. -/
theorem exists_forall₂ {α β : Type} {R : α → β → Prop} {as : List α}
    (h : ∀ a, a ∈ as → ∃ b, R a b) :
    ∃ bs, List.Forall₂ R as bs := by
  induction as with
  | nil => exact ⟨[], .nil⟩
  | cons a as ih =>
      obtain ⟨b, hb⟩ := h a List.mem_cons_self
      obtain ⟨bs, hbs⟩ := ih fun x hx => h x (List.mem_cons_of_mem a hx)
      exact ⟨b :: bs, .cons hb hbs⟩

theorem exists_of_forall₂ {α β : Type} {R : α → β → Prop} {as : List α} {bs : List β}
    (h : List.Forall₂ R as bs) {a : α} (ha : a ∈ as) :
    ∃ b, R a b := by
  induction h with
  | nil => cases ha
  | cons hab _ ih =>
      rcases List.mem_cons.mp ha with rfl | ha
      · exact ⟨_, hab⟩
      · exact ih ha

/-- **A node whose parts have ranges is converted**, and gets the place that it has
without the parentheses around it. -/
theorem convert_ranged (h : Ranged source n v) :
    ∃ i j e, BareAt source v i j ∧
      convert (indexOf (some source)) n v = .ok e ∧ e.span = some ⟨i, j⟩ := by
  induction h with
  | leaf hplace hleaf =>
      obtain ⟨e, he, hspan⟩ := convert_leaf hplace hleaf
      exact ⟨_, _, e, .node hplace hleaf.not_parenthesized, he, hspan⟩
  | parenthesized hplace htype hfind _ ih =>
      obtain ⟨i, j, e, hbare, he, hspan⟩ := ih
      exact ⟨i, j, e, .parenthesized htype hfind hbare,
        (convert_parenthesized hplace htype hfind).trans he, hspan⟩
  | member hplace htype hproperty hfind _ ih =>
      obtain ⟨_, _, o, -, ho, -⟩ := ih
      exact ⟨_, _, _, .node hplace fun h => absurd (htype.unique h) (by decide),
        (convert_member_eq_ok_iff hplace htype hproperty hfind).mpr ⟨o, ho, rfl⟩, rfl⟩
  | plus hplace htype hoperator hfindLeft hfindRight _ _ ihl ihr =>
      obtain ⟨_, _, l, -, hl, -⟩ := ihl
      obtain ⟨_, _, r, -, hr, -⟩ := ihr
      exact ⟨_, _, _, .node hplace fun h => absurd (htype.unique h) (by decide),
        (convert_plus_eq_ok_iff hplace htype hoperator hfindLeft hfindRight).mpr
          ⟨l, r, hl, hr, rfl⟩, rfl⟩
  | call hplace htype hoptional hfindCallee hfindArguments _ _ ihc iha =>
      obtain ⟨_, _, f, -, hf, -⟩ := ihc
      obtain ⟨as, has⟩ := exists_forall₂ fun x hx =>
        let ⟨_, _, e, _, he, _⟩ := iha x hx
        ⟨e, he⟩
      exact ⟨_, _, _, .node hplace fun h => absurd (htype.unique h) (by decide),
        (convert_call_eq_ok_iff hplace htype hoptional hfindCallee hfindArguments).mpr
          ⟨f, as, hf, has, rfl⟩, rfl⟩

/-- Nothing but its depth prevents a node with ranges from being converted. -/
theorem ranged_of_convert {k : Nat} {e : Expr} (h : Ranged source n v)
    (he : convert (indexOf (some source)) k v = .ok e) :
    Ranged source k v := by
  induction h generalizing k e with
  | leaf hplace hleaf =>
      cases k with
      | zero => cases he
      | succ k => exact .leaf hplace hleaf
  | parenthesized hplace htype hfind _ ih =>
      cases k with
      | zero => cases he
      | succ k =>
          rw [convert_parenthesized hplace htype hfind] at he
          exact .parenthesized hplace htype hfind (ih he)
  | member hplace htype hproperty hfind _ ih =>
      cases k with
      | zero => cases he
      | succ k =>
          obtain ⟨o, ho, -⟩ := (convert_member_eq_ok_iff hplace htype hproperty hfind).mp he
          exact .member hplace htype hproperty hfind (ih ho)
  | plus hplace htype hoperator hfindLeft hfindRight _ _ ihl ihr =>
      cases k with
      | zero => cases he
      | succ k =>
          obtain ⟨l, r, hl, hr, -⟩ :=
            (convert_plus_eq_ok_iff hplace htype hoperator hfindLeft hfindRight).mp he
          exact .plus hplace htype hoperator hfindLeft hfindRight (ihl hl) (ihr hr)
  | call hplace htype hoptional hfindCallee hfindArguments _ _ ihc iha =>
      cases k with
      | zero => cases he
      | succ k =>
          obtain ⟨f, as, hf, has, -⟩ :=
            (convert_call_eq_ok_iff hplace htype hoptional hfindCallee hfindArguments).mp he
          refine .call hplace htype hoptional hfindCallee hfindArguments (ihc hf) ?_
          intro x hx
          obtain ⟨y, hy⟩ := exists_of_forall₂ has hx
          exact iha x hx hy

end Conversion

end ESTree
end BuildTransform
