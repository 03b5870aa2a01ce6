import BuildTransform.Proofs.Expr.Alike
import BuildTransform.Proofs.Expr.Nodes
import BuildTransform.Proofs.Text.Floors

/-!
# Places in the source text

What knowing the source text changes in the conversion of an ESTree object: places
count characters instead of 16-bit units, and nothing else.

* `positionOf` is the position that a number of units becomes, and `locates_positionOf`
  collects what is true of it for any two offsets, inside of characters and past the
  end too.
* `convert_unplaced` says that conversions with and without the source differ in their
  places only.
* `toExpr_relocated` concludes, with the place of every part.
-/

namespace BuildTransform
namespace ESTree

/-! ## Positions -/

/-- The position of a character from a number of units: the number itself if every
character of the source is one unit, else its floor. -/
def positionOf (source : String) (u : Nat) : Nat :=
  if source.toList.all (fun c => Units.width16 c == 1) then u
  else Units.floorIndex Units.width16 source.toList u

/-- The entry of the table of floors for a number of units; behind the last entry
the last one counts. -/
def entryAt (source : String) (u : Nat) : Option Nat :=
  let table := Units.floorTable Units.width16 0 source.toList
  table[min u (table.length - 1)]?

/-- `f` turns numbers of units into positions of the source.

* `slice_eq`: between two positions are the characters between the floors.
* `encode_eq`: between the borders of characters these are the units in between.
* `mono`: the order is kept, so nested places stay nested.
* `direct`: where no character needs two units, the numbers are used as they are.
* `indexed`: where one does, they are looked up in the table.
* `entry_eq`: the entries of the table select the same characters in both cases. -/
structure Locates (source : String) (f : Nat → Nat) : Prop where
  slice_eq : ∀ s t i j, Units.IsFloor Units.width16 source.toList s i →
    Units.IsFloor Units.width16 source.toList t j →
    Units.slice source.toList (f s) (f t) = (source.toList.take j).drop i
  encode_eq : ∀ s t i j, Units.At Units.width16 source.toList i s →
    Units.At Units.width16 source.toList j t →
    Units.encode16 (Units.slice source.toList (f s) (f t)) =
      ((Units.encode16 source.toList).take t).drop s
  mono : ∀ s t, s ≤ t → f s ≤ f t
  direct : (∀ c, c ∈ source.toList → c.toNat ≤ 0xFFFF) → ∀ u, f u = u
  indexed : (∃ c, c ∈ source.toList ∧ 0xFFFF < c.toNat) → ∀ u, entryAt source u = some (f u)
  entry_eq : ∀ s t, ∃ a b : Nat, entryAt source s = some a ∧ entryAt source t = some b ∧
    Units.slice source.toList (f s) (f t) = Units.slice source.toList a b

section Positions

variable {source : String} {u : Nat}

theorem width16_eq_one_iff {c : Char} : Units.width16 c = 1 ↔ c.toNat ≤ 0xFFFF := by
  unfold Units.width16
  split_ifs with h
  · simpa using h
  · simpa using h

theorem all_narrow_iff :
    source.toList.all (fun c => Units.width16 c == 1) = true ↔
      ∀ c, c ∈ source.toList → c.toNat ≤ 0xFFFF := by
  simp only [List.all_eq_true, beq_iff_eq, width16_eq_one_iff]

/-- Conversion with the source turns units into positions. -/
theorem position_indexOf (source : String) (u : Nat) :
    position (indexOf (some source)) u = .ok (positionOf source u) := by
  simp only [indexOf, positionOf]
  split_ifs with hnarrow
  · rfl
  · have hmin : min (u : Int) (Units.total Units.width16 source.toList : Int) =
        (min u (Units.total Units.width16 source.toList) : Nat) := by omega
    have hnonneg : ¬ ((min u (Units.total Units.width16 source.toList) : Nat) : Int) < 0 := by
      omega
    simp only [position, hmin, hnonneg, if_false, Int.toNat_natCast, Units.floorIndex_min_total]

/-- Cut at the end of the source, a position is the floor of its number of units. -/
theorem min_positionOf :
    min (positionOf source u) source.toList.length =
      Units.floorIndex Units.width16 source.toList u := by
  unfold positionOf
  split_ifs with hnarrow
  · have hone : ∀ c, c ∈ source.toList → Units.width16 c = 1 := fun c hc =>
      width16_eq_one_iff.mpr (all_narrow_iff.mp hnarrow c hc)
    exact (Units.isFloor_iff.mp (Units.isFloor_of_forall_one hone)).symm
  · exact min_eq_left Units.floorIndex_le_length

theorem entryAt_eq (source : String) (u : Nat) :
    entryAt source u = some (Units.floorIndex Units.width16 source.toList u) :=
  Units.floorTable_getElem?_clamped

/-- Between two positions are the characters between the floors. -/
theorem slice_positionOf (s t : Nat) :
    Units.slice source.toList (positionOf source s) (positionOf source t) =
      (source.toList.take (Units.floorIndex Units.width16 source.toList t)).drop
        (Units.floorIndex Units.width16 source.toList s) := by
  have hclamped : ∀ u, Units.clamped source.toList.length (positionOf source u) =
      Units.floorIndex Units.width16 source.toList u := by
    intro u
    have hnonneg : ¬ (positionOf source u : Int) < 0 := by omega
    rw [Units.clamped, if_neg hnonneg, Int.toNat_natCast, min_positionOf]
  simp only [Units.slice, hclamped]

theorem positionOf_mono (source : String) {s t : Nat} (h : s ≤ t) :
    positionOf source s ≤ positionOf source t := by
  unfold positionOf
  split_ifs
  · exact h
  · exact Units.floorIndex_mono h

/-- What is true of the positions that units become. -/
theorem locates_positionOf (source : String) : Locates source (positionOf source) where
  slice_eq s t i j hi hj := by
    rw [slice_positionOf, Units.isFloor_iff.mp hi, Units.isFloor_iff.mp hj]
  encode_eq s t i j hi hj := by
    rw [slice_positionOf, Units.floorIndex_eq Units.one_le_width16 hi,
      Units.floorIndex_eq Units.one_le_width16 hj, Units.encode16_slice hi hj]
  mono _ _ := positionOf_mono source
  direct hnarrow u := if_pos (all_narrow_iff.mpr hnarrow)
  indexed := by
    rintro ⟨c, hc, hwide⟩ u
    have hnot : ¬ source.toList.all (fun c => Units.width16 c == 1) = true := fun hall =>
      absurd (all_narrow_iff.mp hall c hc) (Nat.not_le.mpr hwide)
    rw [entryAt_eq, positionOf, if_neg hnot]
  entry_eq s t := by
    refine ⟨_, _, entryAt_eq source s, entryAt_eq source t, ?_⟩
    rw [slice_positionOf, Units.slice_natCast Units.floorIndex_le_length
      Units.floorIndex_le_length]

end Positions

/-! ## Places of nodes -/

/-- The place of a node whose offsets `f` maps to other numbers. -/
inductive PlacedBy (f : Nat → Nat) (es : List (Value × Value)) : Option Span → Prop
  | offsets {s t : Nat}
      (h : Positioned es (some ⟨s, t⟩)) :
      PlacedBy f es (some ⟨f s, f t⟩)
  | nowhere
      (h : Positioned es none) :
      PlacedBy f es none

/-- The node gives itself a place by natural numbers, or none at all. -/
def Counted (es : List (Value × Value)) : Prop :=
  ∃ place, PlacedBy id es place

section Relocation

variable {es : List (Value × Value)} {v : Value} {e : Expr} {n : Nat}

/-- With the source, offsets become positions of it. -/
theorem Counted.span_eq (source : String) (h : Counted es) :
    ∃ place, span (indexOf (some source)) es = .ok place ∧
      PlacedBy (positionOf source) es place := by
  obtain ⟨_, h | h⟩ := h
  · rename_i s t
    refine ⟨_, ?_, .offsets h⟩
    rw [span_of_positioned h, located, spanOf]
    simp only [integerOf, bind, Except.bind, position_indexOf]
  · exact ⟨none, span_of_positioned h, .nowhere h⟩

/-- Items that one relation leads on from can be led on by another to results that
look the same. -/
theorem exists_forall₂_map_eq {α β γ δ : Type} {R : α → β → Prop} {S : α → γ → Prop}
    {f : β → δ} {g : γ → δ} {xs : List α} {bs : List β}
    (hall : List.Forall₂ R xs bs)
    (h : ∀ x, x ∈ xs → ∀ b, R x b → ∃ c, S x c ∧ g c = f b) :
    ∃ cs, List.Forall₂ S xs cs ∧ cs.map g = bs.map f := by
  induction hall with
  | nil => exact ⟨[], .nil, rfl⟩
  | @cons x b xs bs hxb _ ih =>
      obtain ⟨c, hc, hsame⟩ := h x List.mem_cons_self b hxb
      obtain ⟨cs, hcs, hmap⟩ := ih fun y hy => h y (List.mem_cons_of_mem x hy)
      exact ⟨c :: cs, .cons hc hcs, by rw [List.map_cons, List.map_cons, hsame, hmap]⟩

/-- A form that can be read without the source can be read with it, and the results
differ in places only, if this is so for the objects below. -/
theorem Formed.unplaced {read read' : Value → Read Expr} {place place' : Option Span}
    (h : Formed read es place e)
    (hbelow : ∀ role w, Child es role w → ∀ a, read w = .ok a →
      ∃ b, read' w = .ok b ∧ b.unplaced = a.unplaced) :
    ∃ e', Formed read' es place' e' ∧ e'.unplaced = e.unplaced := by
  cases h with
  | literal htype hregex hbigint => exact ⟨_, .literal htype hregex hbigint, rfl⟩
  | identifier htype hname => exact ⟨_, .identifier htype hname, rfl⟩
  | parenthesized hchild h =>
      obtain ⟨b, hb, hsame⟩ := hbelow _ _ hchild _ h
      exact ⟨b, .parenthesized hchild hb, hsame⟩
  | member hproperty hchild ho =>
      obtain ⟨b, hb, hsame⟩ := hbelow _ _ hchild _ ho
      exact ⟨_, .member hproperty hchild hb, by rw [Expr.unplaced, Expr.unplaced, hsame]⟩
  | plus hleft hright hl hr =>
      obtain ⟨l, hl, hsamel⟩ := hbelow _ _ hleft _ hl
      obtain ⟨r, hr, hsamer⟩ := hbelow _ _ hright _ hr
      exact ⟨_, .plus hleft hright hl hr, by rw [Expr.unplaced, Expr.unplaced, hsamel, hsamer]⟩
  | call hcallee hlisted hf has =>
      obtain ⟨f, hf, hsamef⟩ := hbelow _ _ hcallee _ hf
      obtain ⟨bs, hbs, hsame⟩ := exists_forall₂_map_eq has fun x hx a ha => by
        obtain ⟨role, hchild⟩ := hcallee.argument_of_mem hlisted hx
        exact hbelow role x hchild a ha
      refine ⟨_, .call hcallee hlisted hf hbs, ?_⟩
      rw [Expr.unplaced, Expr.unplaced, hsamef, Expr.unplacedAll_eq_map, hsame,
        Expr.unplacedAll_eq_map]
  | unsupported hkind => exact ⟨_, .unsupported hkind, rfl⟩

/-- Knowing the source changes places only. -/
theorem convert_unplaced (source : String) (hcounted : Throughout Counted v)
    (he : convert none n v = .ok e) :
    ∃ e', convert (indexOf (some source)) n v = .ok e' ∧ e'.unplaced = e.unplaced := by
  induction n generalizing v e with
  | zero => cases he
  | succ n ih =>
      obtain ⟨_, es, place, hn, rfl, -, hformed⟩ := convert_eq_ok_iff.mp he
      cases hn
      obtain ⟨place', hplace', -⟩ := hcounted.here.span_eq source
      obtain ⟨e', hformed', hsame⟩ := hformed.unplaced fun role w hchild a ha =>
        ih (hcounted.child hchild) ha
      exact ⟨e', convert_dict_eq_ok_iff.mpr ⟨place', hplace', hformed'⟩, hsame⟩

/-- **With the source, the parts of an expression stand between positions of its
characters.** An object whose nodes give themselves places by natural numbers is
converted to the same expression up to places, and every part has the place of its
node, in positions that select the characters between the floors of its offsets. -/
theorem toExpr_relocated (source : String) (hcounted : Throughout Counted v)
    (he : toExpr v none = .ok e) :
    Locates source (positionOf source) ∧
      ∃ e', toExpr v (some source) = .ok e' ∧ e'.unplaced = e.unplaced ∧
        ∀ c d, e' = c.fill d →
          ∃ es, NodeAt v c es ∧ PlacedBy (positionOf source) es d.span := by
  refine ⟨locates_positionOf source, ?_⟩
  obtain ⟨e', he', hsame⟩ := convert_unplaced source hcounted he
  refine ⟨e', he', hsame, ?_⟩
  rintro c d rfl
  obtain ⟨es, hnode, hspan⟩ := span_of_fill he'
  obtain ⟨place, hplace, hplaced⟩ := (hcounted.nodeAt hnode).span_eq source
  obtain rfl : place = d.span := Except.ok.inj (hplace.symm.trans hspan)
  exact ⟨es, hnode, hplaced⟩

/-- In `"😀" + a` the place of the text begins inside the character and that of the sum
ends past the source: the one begins with the whole character, and the other ends at the
end. -/
theorem split_character_relocated :
    let source := "\"😀\" + a"
    let text : List (Value × Value) := [(.str "type", .str "Literal"),
      (.str "value", .str "😀"), (.str "range", .list [.int 2, .int 4])]
    let name : List (Value × Value) := [(.str "type", .str "Identifier"),
      (.str "name", .str "a"), (.str "start", .int 7), (.str "end", .int 8)]
    let sum : List (Value × Value) := [(.str "type", .str "BinaryExpression"),
      (.str "operator", .str "+"), (.str "left", .dict text), (.str "right", .dict name),
      (.str "range", .list [.int 0, .int 99])]
    let plain := Expr.plus (.literal (.str "😀") (some ⟨2, 4⟩))
      (.identifier (.str "a") (some ⟨7, 8⟩)) (some ⟨0, 99⟩)
    let placed := Expr.plus (.literal (.str "😀") (some ⟨1, 3⟩))
      (.identifier (.str "a") (some ⟨6, 7⟩)) (some ⟨0, 7⟩)
    Throughout Counted (.dict sum) ∧ toExpr (.dict sum) none = .ok plain ∧
      toExpr (.dict sum) (some source) = .ok placed ∧ placed.unplaced = plain.unplaced ∧
      Units.slice source.toList 1 3 = ['😀', '"'] := by
  intro source text name sum plain placed
  have hsource : source.toList = ['"', '😀', '"', ' ', '+', ' ', 'a'] := String.toList_ofList
  have hcounted : Throughout Counted (.dict sum) := by
    refine throughout_dict_iff.mpr
      ⟨⟨_, .offsets (.range (s := (0 : Nat)) (t := (99 : Nat)) .list)⟩, ?_⟩
    intro role v hchild
    have htype : role.parent = "BinaryExpression" := hchild.isA.unique rfl
    cases hchild with
    | left _ _ hfind =>
        cases hfind
        exact throughout_leaf (show IsA text "Literal" from rfl)
          (by rintro (_ | _ | _) <;> simp [Role.parent])
          ⟨_, .offsets (.range (s := (2 : Nat)) (t := (4 : Nat)) .list)⟩
    | right _ _ hfind =>
        cases hfind
        exact throughout_leaf (show IsA name "Identifier" from rfl)
          (by rintro (_ | _ | _) <;> simp [Role.parent])
          ⟨_, .offsets (.ends (s := (7 : Nat)) (t := (8 : Nat)) (.absent rfl) rfl rfl)⟩
    | _ => simp [Role.parent] at htype
  have hindex : indexOf (some source) = some ['"', '😀', '"', ' ', '+', ' ', 'a'] := by
    simp only [indexOf, hsource]
    rfl
  have hplain : toExpr (.dict sum) none = .ok plain := rfl
  have hplaced : toExpr (.dict sum) (some source) = .ok placed := by
    rw [toExpr, hindex]
    rfl
  obtain ⟨hlocates, e', he', hsame, -⟩ := toExpr_relocated source hcounted hplain
  obtain rfl : placed = e' := Except.ok.inj (hplaced.symm.trans he')
  refine ⟨hcounted, hplain, hplaced, hsame, ?_⟩
  have hslice := hlocates.slice_eq 2 4 1 3 (Units.isFloor_iff.mpr (by rw [hsource]; rfl))
    (Units.isFloor_iff.mpr (by rw [hsource]; rfl))
  have hstart : positionOf source 2 = 1 := by
    rw [positionOf, hsource]
    rfl
  have hstop : positionOf source 4 = 3 := by
    rw [positionOf, hsource]
    rfl
  rw [hstart, hstop, hsource] at hslice
  rw [hsource]
  exact hslice

end Relocation

end ESTree
end BuildTransform
