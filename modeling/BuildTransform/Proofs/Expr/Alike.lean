import BuildTransform.Proofs.Expr.Conversion
import BuildTransform.Proofs.Text.Positions
import BuildTransform.Script.Grammar

/-!
# Nodes that differ in their places

Two readings of the same tokens at different places give nodes that are alike.

* `Alike` relates nodes of one form with the same contents; the places of the
  second node are complete.
* `Expr.unplaced` is an argument expression without its spans.
* `convert_alike` says that nodes that are alike become the same expressions up to
  spans.
-/

namespace BuildTransform

mutual

/-- The expression without any spans. -/
def Expr.unplaced : Expr → Expr
  | .literal v _ => .literal v none
  | .identifier name _ => .identifier name none
  | .member object property _ => .member object.unplaced property none
  | .plus left right _ => .plus left.unplaced right.unplaced none
  | .call callee arguments _ => .call callee.unplaced (Expr.unplacedAll arguments) none
  | .unsupported kind _ => .unsupported kind none
  | .foreign v => .foreign v

/-- The expressions without any spans. -/
def Expr.unplacedAll : List Expr → List Expr
  | [] => []
  | e :: es => e.unplaced :: Expr.unplacedAll es

end

theorem Expr.unplacedAll_eq_map (es : List Expr) :
    Expr.unplacedAll es = es.map Expr.unplaced := by
  induction es with
  | nil => rfl
  | cons e es ih => rw [Expr.unplacedAll, ih, List.map_cons]

namespace Script

open Grammar (placeBetween isStarred assignable allAssignable)

/-! ## Nodes -/

/-- The nodes have the same form and the same contents, and the second one and all
its parts have complete places. -/
inductive Alike : Node → Node → Prop
  | constant {v : Value} {p : Place} {m e : Mark} :
      Alike (.constant v p) (.constant v (placeBetween m e))
  | name {id : String} {p : Place} {m e : Mark} :
      Alike (.name id p) (.name id (placeBetween m e))
  | member {object object' : Node} {field : String} {p : Place} {m e : Mark}
      (hobject : Alike object object') :
      Alike (.member object field p) (.member object' field (placeBetween m e))
  | binary {o : Operator} {left left' right right' : Node} {p : Place} {m e : Mark}
      (hleft : Alike left left')
      (hright : Alike right right') :
      Alike (.binary o left right p) (.binary o left' right' (placeBetween m e))
  | call {callee callee' : Node} {arguments arguments' : List Node} {hasKeywords : Bool}
      {p : Place} {m e : Mark}
      (hcallee : Alike callee callee')
      (harguments : List.Forall₂ Alike arguments arguments') :
      Alike (.call callee arguments hasKeywords p)
        (.call callee' arguments' hasKeywords (placeBetween m e))
  | unary {sign : Sign} {operand operand' : Node} {p : Place} {m e : Mark}
      (hoperand : Alike operand operand') :
      Alike (.unary sign operand p) (.unary sign operand' (placeBetween m e))
  | choice {test test' yes yes' no no' : Node} {p : Place} {m e : Mark}
      (htest : Alike test test')
      (hyes : Alike yes yes')
      (hno : Alike no no') :
      Alike (.choice test yes no p) (.choice test' yes' no' (placeBetween m e))
  | logical {isOr : Bool} {operands operands' : List Node} {p : Place} {m e : Mark}
      (hoperands : List.Forall₂ Alike operands operands') :
      Alike (.logical isOr operands p) (.logical isOr operands' (placeBetween m e))
  | display {shape : Display} {items items' : List Node} {p : Place} {m e : Mark}
      (hitems : List.Forall₂ Alike items items') :
      Alike (.display shape items p) (.display shape items' (placeBetween m e))
  | dict {keys keys' values values' : List Node} {p : Place} {m e : Mark}
      (hkeys : List.Forall₂ Alike keys keys')
      (hvalues : List.Forall₂ Alike values values') :
      Alike (.dict keys values p) (.dict keys' values' (placeBetween m e))
  | subscript {object object' index index' : Node} {p : Place} {m e : Mark}
      (hobject : Alike object object')
      (hindex : Alike index index') :
      Alike (.subscript object index p) (.subscript object' index' (placeBetween m e))
  | starred {value value' : Node} {p : Place} {m e : Mark}
      (hvalue : Alike value value') :
      Alike (.starred value p) (.starred value' (placeBetween m e))
  | other {form : String} {parts parts' : List Node} {p : Place} {m e : Mark}
      (hparts : List.Forall₂ Alike parts parts') :
      Alike (.other form parts p) (.other form parts' (placeBetween m e))

section Nodes

variable {n n' : Node} {ns ns' : List Node}

theorem Alike.place_eq (h : Alike n n') : ∃ m e, n'.place = placeBetween m e := by
  cases h <;> exact ⟨_, _, rfl⟩

theorem Alike.isStarred_eq (h : Alike n n') : isStarred n = isStarred n' := by
  cases h <;> rfl

mutual

theorem Alike.assignable_eq {n n' : Node} (h : Alike n n') :
    assignable n = assignable n' := by
  cases h with
  | display hitems =>
      rename_i shape _ _ _ _ _
      cases shape
      · simpa only [assignable] using Alike.allAssignable_eq hitems
      · simpa only [assignable] using Alike.allAssignable_eq hitems
      · rfl
  | _ => rfl

theorem Alike.allAssignable_eq {ns ns' : List Node} (h : List.Forall₂ Alike ns ns') :
    allAssignable ns = allAssignable ns' := by
  cases h with
  | nil => rfl
  | cons hn hns =>
      have hfirst := Alike.assignable_eq hn
      have hrest := Alike.allAssignable_eq hns
      cases hn with
      | starred hvalue =>
          simp only [allAssignable, Alike.assignable_eq hvalue, hrest]
      | _ => simp only [allAssignable, hfirst, hrest]

end

end Nodes

/-! ## Conversion -/

section Conversion

variable {source : String} {m : LineMap} {p : Place} {budget : Nat} {e : Expr} {n n' : Node}

/-- A line and a column of a text that is not empty fall on a position. -/
theorem offset_natCast (h : source ≠ "") (line column : Nat) :
    ∃ i, (LineMap.ofText source).offset line column = .ok i := by
  have hlines : (LineMap.ofText source).lines.length ≠ 0 := by
    intro hlength
    have hnil : Lines.pieces source.toList = [] := List.eq_nil_of_length_eq_zero hlength
    cases hsource : source.toList with
    | nil => exact h (String.toList_inj.mp hsource)
    | cons c rest =>
        rw [hsource, Lines.pieces_cons] at hnil
        split_ifs at hnil
        unfold Lines.onFirst at hnil
        split at hnil <;> cases hnil
  unfold LineMap.offset
  by_cases hlate : ((LineMap.ofText source).lines.length : Int) ≤ (line : Int) - 1
  · exact ⟨_, if_pos hlate⟩
  · have hfound : ¬ (if (line : Int) - 1 < 0 then
        (line : Int) - 1 + (LineMap.ofText source).lines.length else (line : Int) - 1) < 0 := by
      split_ifs <;> omega
    exact ⟨_, (if_neg hlate).trans (if_neg hfound)⟩

/-- A complete place has a span in any text that is not empty. -/
theorem spanOf_placeBetween (h : source ≠ "") (a b : Mark) :
    ∃ span, spanOf (LineMap.ofText source) (placeBetween a b) = .ok span := by
  obtain ⟨start, hstart⟩ := offset_natCast h a.line a.column
  obtain ⟨stop, hstop⟩ := offset_natCast h b.line b.column
  refine ⟨some ⟨start, stop⟩, ?_⟩
  simp only [spanOf, placeBetween, coordinate, bind, Except.bind, hstart, hstop]

theorem Alike.isLeaf_iff (h : Alike n n') : IsLeaf n ↔ IsLeaf n' := by
  cases h with
  | binary =>
      rename_i o _ _ _ _ _ _ _ _ _
      cases o <;> exact Iff.rfl
  | call =>
      rename_i k _ _ _ _ _
      cases k <;> exact Iff.rfl
  | _ => exact Iff.rfl

theorem unplaced_leafOf (h : Alike n n') (span span' : Option Span) :
    (leafOf n' span').unplaced = (leafOf n span).unplaced := by
  cases h with
  | constant =>
      rename_i v _ _ _
      cases v <;> rfl
  | display =>
      rename_i shape _ _ _ _ _ _
      cases shape <;> rfl
  | _ => rfl

/-- Lists of nodes become the same expressions if the nodes do. -/
theorem convertAll_alike {ns ns' : List Node} {es : List Expr}
    (ih : ∀ n n' e, Alike n n' → convert m budget n = .ok e →
      ∃ e', convert (LineMap.ofText source) budget n' = .ok e' ∧ e'.unplaced = e.unplaced)
    (h : List.Forall₂ Alike ns ns')
    (hconvert : convertAll m budget ns = .ok es) :
    ∃ es', convertAll (LineMap.ofText source) budget ns' = .ok es' ∧
      es'.map Expr.unplaced = es.map Expr.unplaced := by
  induction h generalizing es with
  | nil =>
      cases hconvert
      exact ⟨[], rfl, rfl⟩
  | cons hn _ ihrest =>
      obtain ⟨x, xs, hx, hxs, rfl⟩ := convertAll_cons_eq_ok_iff.mp hconvert
      obtain ⟨x', hx', hsame⟩ := ih _ _ _ hn hx
      obtain ⟨xs', hxs', hsames⟩ := ihrest hxs
      refine ⟨x' :: xs', convertAll_cons_eq_ok_iff.mpr ⟨x', xs', hx', hxs', rfl⟩, ?_⟩
      rw [List.map_cons, List.map_cons, hsame, hsames]

/-- **Nodes that are alike become the same expressions** up to spans. -/
theorem convert_alike
    (hsource : source ≠ "")
    (h : Alike n n')
    (hconvert : convert m budget n = .ok e) :
    ∃ e', convert (LineMap.ofText source) budget n' = .ok e' ∧
      e'.unplaced = e.unplaced := by
  induction budget generalizing n n' e with
  | zero => simp [convert] at hconvert
  | succ budget ih =>
      obtain ⟨a, b, hplace⟩ := h.place_eq
      obtain ⟨span', hspan'⟩ := spanOf_placeBetween hsource a b
      rw [← hplace] at hspan'
      by_cases hleaf : IsLeaf n
      · obtain ⟨span, -, rfl⟩ := (convert_leaf_eq_ok_iff hleaf).mp hconvert
        have hleaf' := h.isLeaf_iff.mp hleaf
        exact ⟨leafOf n' span', (convert_leaf_eq_ok_iff hleaf').mpr
          ⟨span', hspan', rfl⟩, unplaced_leafOf h span span'⟩
      · rcases not_isLeaf_cases hleaf with
          ⟨body, place, rfl⟩ | ⟨object, field, place, rfl⟩ |
          ⟨left, right, place, rfl⟩ | ⟨callee, arguments, place, rfl⟩
        · cases h
        · cases h with
          | member hobject =>
              obtain ⟨span, o, -, ho, rfl⟩ := convert_member_eq_ok_iff.mp hconvert
              obtain ⟨o', ho', hsame⟩ := ih hobject ho
              refine ⟨_, convert_member_eq_ok_iff.mpr
                ⟨span', o', hspan', ho', rfl⟩, ?_⟩
              simp only [Expr.unplaced, hsame]
        · cases h with
          | binary hleft hright =>
              obtain ⟨span, l, r, -, hl, hr, rfl⟩ := convert_plus_eq_ok_iff.mp hconvert
              obtain ⟨l', hl', hsamel⟩ := ih hleft hl
              obtain ⟨r', hr', hsamer⟩ := ih hright hr
              refine ⟨_, convert_plus_eq_ok_iff.mpr
                ⟨span', l', r', hspan', hl', hr', rfl⟩, ?_⟩
              simp only [Expr.unplaced, hsamel, hsamer]
        · cases h with
          | call hcallee harguments =>
              obtain ⟨span, f, es, -, hf, hes, rfl⟩ := convert_call_eq_ok_iff.mp hconvert
              obtain ⟨f', hf', hsamef⟩ := ih hcallee hf
              obtain ⟨es', hes', hsamees⟩ :=
                convertAll_alike (fun _ _ _ => ih) harguments hes
              refine ⟨_, convert_call_eq_ok_iff.mpr
                ⟨span', f', es', hspan', hf', hes', rfl⟩, ?_⟩
              simp only [Expr.unplaced, Expr.unplacedAll_eq_map, hsamef, hsamees]

end Conversion

end Script
end BuildTransform
