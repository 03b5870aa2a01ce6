import BuildTransform.Proofs.Expr.Conversion
import BuildTransform.Proofs.Script.Marks
import BuildTransform.Proofs.Text.Units

/-!
# Spans of script expressions

Which spans the nodes of a script get when they are converted to argument
expressions.

* `placeOf` is the place that the parser of scripts gives to a text: its lines
  end only at line feeds and carriage returns.
* `offset_markAt` says what position a mark falls on, and `spanOf_placeOf` what
  span a place gives.
* `Placed` says that all nodes of a script have such places.
* `part_span_eq_iff` concludes when the span of a part is the place of its node.
-/

namespace BuildTransform
namespace Script

/-! ## Places -/

/-- The place of the text between two positions of a source. -/
def placeOf (source : String) (a b : Nat) : Place :=
  ⟨some (markAt source a).line, some (markAt source a).column,
    some (markAt source b).line, some (markAt source b).column⟩

/-- The text of a node is between two positions of the source. -/
structure StandsAt (source : String) (node : Node) (a b : Nat) : Prop where
  place : node.place = placeOf source a b
  le : a ≤ b
  le_length : b ≤ source.toList.length

/-- The position that a line, counted from one, and a column fall on. -/
theorem offset_eq_indexAt (source : String) (l k : Nat) :
    (LineMap.ofText source).offset ((l + 1 : Nat) : Int) (k : Int) =
      .ok (Lines.indexAt source.toList l k : Int) := by
  rw [← Lines.indexIn_pieces]
  unfold LineMap.offset LineMap.length LineMap.startOf LineMap.charsBefore
    LineMap.ofText Lines.indexIn
  have hline : ((l + 1 : Nat) : Int) - 1 = (l : Int) := by omega
  have hnonneg : ¬ (l : Int) < 0 := by omega
  have hcolumn : ¬ (k : Int) < 0 := by omega
  simp only [hline, hnonneg, hcolumn, if_false, Int.toNat_natCast]
  split_ifs with hpast
  · have hpast : (Lines.pieces source.toList).length ≤ l := by omega
    simp [List.take_of_length_le hpast, List.getElem?_eq_none hpast,
      Units.floorIndex]
  · simp

/-- The position that the mark of a position falls on. -/
def landing (source : String) (i : Nat) : Nat :=
  Lines.indexAt source.toList (Lines.lineAt Lines.isEnding source.toList i)
    (Lines.columnAt Lines.isEnding source.toList i)

theorem offset_markAt (source : String) (i : Nat) :
    (LineMap.ofText source).offset (markAt source i).line (markAt source i).column =
      .ok (landing source i : Int) :=
  offset_eq_indexAt source _ _

theorem spanOf_placeOf (source : String) (a b : Nat) :
    spanOf (LineMap.ofText source) (placeOf source a b) =
      .ok (some ⟨landing source a, landing source b⟩) := by
  simp only [spanOf, placeOf, coordinate, bind, Except.bind, offset_markAt]

/-- A position is found again iff no stray break stands before it. -/
theorem landing_eq_iff {source : String} {i : Nat}
    (hi : i ≤ source.toList.length) :
    landing source i = i ↔ ¬ Lines.StrayBefore source.toList i :=
  Lines.indexAt_eq_iff hi

/-- The span of a place is its text iff no stray break stands before its end. -/
theorem landing_span_eq_iff {source : String} {a b : Nat}
    (hab : a ≤ b)
    (hb : b ≤ source.toList.length) :
    (⟨landing source a, landing source b⟩ : Span) = ⟨a, b⟩ ↔
      ¬ Lines.StrayBefore source.toList b := by
  rw [Span.mk.injEq, Int.natCast_inj, Int.natCast_inj,
    landing_eq_iff (hab.trans hb), landing_eq_iff hb]
  exact ⟨fun h => h.2, fun h => ⟨fun ha => h (ha.mono hab), h⟩⟩

/-! ## Scripts whose nodes have places -/

/-- Every node that conversion looks at, at most `n` nodes down, has the place
of some text of the source; only the root has no place. -/
inductive Placed (source : String) : Nat → Node → Prop
  | root {n : Nat} {body : Node}
      (hbody : Placed source n body) :
      Placed source (n + 1) (.root body ⟨none, none, none, none⟩)
  | leaf {n a b : Nat} {node : Node}
      (hleaf : IsLeaf node)
      (hplace : StandsAt source node a b) :
      Placed source (n + 1) node
  | member {n a b : Nat} {object : Node} {field : String} {place : Place}
      (hplace : StandsAt source (.member object field place) a b)
      (hobject : Placed source n object) :
      Placed source (n + 1) (.member object field place)
  | plus {n a b : Nat} {left right : Node} {place : Place}
      (hplace : StandsAt source (.binary .add left right place) a b)
      (hleft : Placed source n left)
      (hright : Placed source n right) :
      Placed source (n + 1) (.binary .add left right place)
  | call {n a b : Nat} {callee : Node} {arguments : List Node} {place : Place}
      (hplace : StandsAt source (.call callee arguments false place) a b)
      (hcallee : Placed source n callee)
      (harguments : ∀ x, x ∈ arguments → Placed source n x) :
      Placed source (n + 1) (.call callee arguments false place)

theorem StandsAt.spanOf_eq {source : String} {node : Node} {a b : Nat}
    (h : StandsAt source node a b) :
    spanOf (LineMap.ofText source) node.place =
      .ok (some ⟨landing source a, landing source b⟩) := by
  rw [h.place, spanOf_placeOf]

/-- A script whose nodes have places can be converted. -/
theorem convert_placed {source : String} {n : Nat} {node : Node}
    (h : Placed source n node) :
    ∃ e, convert (LineMap.ofText source) n node = .ok e := by
  induction h with
  | root _ ih =>
      obtain ⟨e, he⟩ := ih
      exact ⟨e, convert_root_eq_ok_iff.mpr ⟨none, rfl, he⟩⟩
  | leaf hleaf hplace =>
      exact ⟨_, (convert_leaf_eq_ok_iff hleaf).mpr ⟨_, hplace.spanOf_eq, rfl⟩⟩
  | member hplace _ ih =>
      obtain ⟨o, ho⟩ := ih
      exact ⟨_, convert_member_eq_ok_iff.mpr ⟨_, o, hplace.spanOf_eq, ho, rfl⟩⟩
  | plus hplace _ _ ihl ihr =>
      obtain ⟨l, hl⟩ := ihl
      obtain ⟨r, hr⟩ := ihr
      exact ⟨_, convert_plus_eq_ok_iff.mpr
        ⟨_, l, r, hplace.spanOf_eq, hl, hr, rfl⟩⟩
  | call hplace _ _ ihc iha =>
      obtain ⟨f, hf⟩ := ihc
      obtain ⟨es, hes⟩ := convertAll_ok iha
      exact ⟨_, convert_call_eq_ok_iff.mpr
        ⟨_, f, es, hplace.spanOf_eq, hf, hes, rfl⟩⟩

/-! ## Spans -/

/-- The text that a span cuts out of a source. -/
def cut (source : String) (span : Option Span) : Option (List Char) :=
  span.map fun s => Units.slice source.toList s.start s.stop

theorem cut_eq {source : String} {a b : Nat}
    (hab : a ≤ b)
    (hb : b ≤ source.toList.length) :
    cut source (some ⟨a, b⟩) = some ((source.toList.take b).drop a) := by
  rw [cut, Option.map_some, Units.slice_natCast (hab.trans hb) hb]

/-- **The span of a converted part is the place of its node iff no stray break
stands before the end of the node**, and it then cuts out the text of the node.
A script whose nodes have places can be converted. -/
theorem part_span_eq_iff (source : String) (node : Node) :
    (Placed source ESTree.depthLimit node → ∃ e, toExpr node source = .ok e) ∧
    ∀ e part e' a b,
      toExpr node source = .ok e → Part node e part e' →
      StandsAt source part a b →
        (e'.span = some ⟨a, b⟩ ↔ ¬ Lines.StrayBefore source.toList b) ∧
        (e'.span = some ⟨a, b⟩ →
          cut source e'.span = some ((source.toList.take b).drop a)) := by
  refine ⟨convert_placed, ?_⟩
  intro e part e' a b he hpart hplace
  obtain ⟨k, hk⟩ := convert_part he hpart
  have hspan := convert_span hpart.not_root hk
  rw [hplace.spanOf_eq, Except.ok.injEq] at hspan
  constructor
  · rw [← hspan, Option.some.injEq]
    exact landing_span_eq_iff hplace.le hplace.le_length
  · intro heq
    rw [heq, cut_eq hplace.le hplace.le_length]

/-- The call `f("é", "x")`, with a line break between its arguments. -/
theorem second_line_span :
    let source := "f(\"é\",\n  \"x\")"
    let second := Node.constant (.str "x") (placeOf source 9 12)
    let node := Node.call (.name "f" (placeOf source 0 1))
      [.constant (.str "é") (placeOf source 2 5), second] false
      (placeOf source 0 13)
    Placed source ESTree.depthLimit node ∧
    ∃ e, toExpr node source = .ok e ∧ e.span = some ⟨0, 13⟩ ∧
      ∀ e', Part node e second e' →
        e'.span = some ⟨9, 12⟩ ∧ cut source e'.span = some "\"x\"".toList := by
  intro source second node
  have hsource : source.toList =
      ['f', '(', '"', 'é', '"', ',', '\n', ' ', ' ', '"', 'x', '"', ')'] := by
    simp [source]
  have hlength : source.toList.length = 13 := by
    rw [hsource]
    rfl
  have hstray : source.toList.any Lines.isStray = false := by
    rw [hsource]
    decide
  have hnone := Lines.not_strayBefore_of_any hstray
  have hstands {n : Node} {a b : Nat} (hn : n.place = placeOf source a b)
      (hab : a ≤ b) (hb : b ≤ 13) : StandsAt source n a b :=
    ⟨hn, hab, hlength ▸ hb⟩
  have hsecond : StandsAt source second 9 12 := hstands rfl (by decide) (by decide)
  have hnode : StandsAt source node 0 13 := hstands rfl (by decide) (by decide)
  have hplaced : Placed source ESTree.depthLimit node := by
    refine .call hnode (.leaf trivial (hstands rfl (by decide) (by decide))) ?_
    intro x hx
    rcases List.mem_cons.mp hx with rfl | hx
    · exact .leaf trivial (hstands rfl (by decide) (by decide))
    · rcases List.mem_singleton.mp hx with rfl
      exact .leaf trivial hsecond
  refine ⟨hplaced, ?_⟩
  obtain ⟨hconverted, hspans⟩ := part_span_eq_iff source node
  obtain ⟨e, he⟩ := hconverted hplaced
  refine ⟨e, he, ?_, ?_⟩
  · exact (hspans e node e 0 13 he (.refl e (by simp [node])) hnode).1.mpr (hnone 13)
  · intro e' hpart
    obtain ⟨hiff, hcut⟩ := hspans e second e' 9 12 he hpart hsecond
    have hspan := hiff.mpr (hnone 12)
    refine ⟨hspan, (hcut hspan).trans ?_⟩
    rw [hsource]
    simp

/-- Behind a text with a form feed in it, a span is wrong. -/
theorem form_feed_span :
    let source := "'\x0c' + b"
    let right := Node.name "b" (placeOf source 6 7)
    let node := Node.binary .add
      (.constant (.str "\x0c") (placeOf source 0 3)) right (placeOf source 0 7)
    Placed source ESTree.depthLimit node ∧
    ∃ e e', toExpr node source = .ok e ∧ Part node e right e' ∧
      StandsAt source right 6 7 ∧ e'.span = some ⟨2, 2⟩ ∧
      cut source e'.span ≠ some "b".toList := by
  intro source right node
  have hsource : source.toList =
      ['\'', '\x0c', '\'', ' ', '+', ' ', 'b'] := by
    simp [source]
  have hlength : source.toList.length = 7 := by
    rw [hsource]
    rfl
  have hstands {n : Node} {a b : Nat} (hn : n.place = placeOf source a b)
      (hab : a ≤ b) (hb : b ≤ 7) : StandsAt source n a b :=
    ⟨hn, hab, hlength ▸ hb⟩
  have hplaced : Placed source ESTree.depthLimit node :=
    .plus (hstands rfl (by decide) (by decide))
      (.leaf trivial (hstands rfl (by decide) (by decide)))
      (.leaf trivial (hstands rfl (by decide) (by decide)))
  refine ⟨hplaced, ?_⟩
  -- The first line ends behind the form feed, so later columns fall on its end.
  have hland : landing source 0 = 0 ∧ landing source 3 = 2 ∧
      landing source 6 = 2 ∧ landing source 7 = 2 := by
    simp only [landing, hsource]
    decide
  obtain ⟨hzero, hthree, hsix, hseven⟩ := hland
  have hleft : spanOf (LineMap.ofText source) (placeOf source 0 3) =
      .ok (some ⟨0, 2⟩) := by
    rw [spanOf_placeOf, hzero, hthree]
    rfl
  have hright : spanOf (LineMap.ofText source) (placeOf source 6 7) =
      .ok (some ⟨2, 2⟩) := by
    rw [spanOf_placeOf, hsix, hseven]
    rfl
  have hboth : spanOf (LineMap.ofText source) (placeOf source 0 7) =
      .ok (some ⟨0, 2⟩) := by
    rw [spanOf_placeOf, hzero, hseven]
    rfl
  have hcut : cut source (some ⟨2, 2⟩) ≠ some "b".toList := by
    simp [cut, hsource, Units.slice, Units.clamped]
  let left := Node.constant (.str "\x0c") (placeOf source 0 3)
  have hleafLeft : IsLeaf left := trivial
  have hleafRight : IsLeaf right := trivial
  have hl : convert (LineMap.ofText source) 999 left = .ok (leafOf left (some ⟨0, 2⟩)) :=
    (convert_leaf_eq_ok_iff hleafLeft).mpr ⟨_, hleft, rfl⟩
  have hr : convert (LineMap.ofText source) 999 right =
      .ok (leafOf right (some ⟨2, 2⟩)) :=
    (convert_leaf_eq_ok_iff hleafRight).mpr ⟨_, hright, rfl⟩
  refine ⟨_, _, convert_plus_eq_ok_iff.mpr ⟨_, _, _, hboth, hl, hr, rfl⟩,
    .right _ _ _ (.refl _ (by simp [right])), hstands rfl (by decide) (by decide),
    rfl, hcut⟩

end Script
end BuildTransform
