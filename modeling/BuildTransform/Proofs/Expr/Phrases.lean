import BuildTransform.Proofs.Expr.Kinds
import BuildTransform.Proofs.Expr.Spans
import BuildTransform.Proofs.Expr.Spellings

/-!
# One expression in two trees

What an expression becomes that both languages can write, if it arrives as an ESTree object and
as a node of a script.

* A `Phrase` is such an expression with the positions of its parts in a source. `Phrase.expr` is
  the argument expression for it, in which the kinds of unsupported parts are not named.
* `ESTree.Depicts` says that an object is the tree of a phrase, with places in 16-bit units, and
  `Script.Depicts` that a node is, with places in lines and in bytes of them.
* `ESTree.convert_of_depicts` and `Script.convert_of_depicts` convert each tree by itself.
* `conversions_agree` concludes: both become the argument expression of the phrase, so they have
  the same value or are refused alike.
-/

namespace BuildTransform

/-! ## Phrases -/

/-- A constant that both languages can write. -/
inductive Constant
  | text (s : String)
  | int (i : Int)
  | float (d : Double)
  | truth (b : Bool)
  | null

/-- The constant as a value. -/
def Constant.toValue : Constant → Value
  | .text s => .str s
  | .int i => .int i
  | .float d => .float d
  | .truth b => .bool b
  | .null => .null

/-- An expression that both languages can write: each part stands between two positions of a
source. An unsupported part may be anything. -/
inductive Phrase
  | constant (c : Constant) (start stop : Nat)
  | name (id : String) (start stop : Nat)
  | member (object : Phrase) (property : String) (start stop : Nat)
  | plus (left right : Phrase) (start stop : Nat)
  | call (callee : Phrase) (arguments : List Phrase) (start stop : Nat)
  | unsupported (start stop : Nat)

namespace Phrase

mutual

/-- The argument expression for a phrase, without the kinds of unsupported parts. -/
def expr : Phrase → Expr
  | .constant c i j => .literal c.toValue (some ⟨i, j⟩)
  | .name id i j => .identifier (.str id) (some ⟨i, j⟩)
  | .member object property i j => .member object.expr (.str property) (some ⟨i, j⟩)
  | .plus left right i j => .plus left.expr right.expr (some ⟨i, j⟩)
  | .call callee arguments i j => .call callee.expr (exprs arguments) (some ⟨i, j⟩)
  | .unsupported i j => .unsupported (.str "") (some ⟨i, j⟩)

/-- The argument expressions for several phrases. -/
def exprs : List Phrase → List Expr
  | [] => []
  | p :: ps => p.expr :: exprs ps

end

/-- Parts that are read one by one are read together. -/
theorem exists_exprs {α : Type} {R : α → Expr → Prop} {xs : List α} {ps : List Phrase}
    (hlength : xs.length = ps.length)
    (h : ∀ x p, (x, p) ∈ xs.zip ps → ∃ e, R x e ∧ e.kindless = p.expr) :
    ∃ es, List.Forall₂ R xs es ∧ Expr.kindlessAll es = exprs ps := by
  have hall : List.Forall₂ (fun x p => ∃ e, R x e ∧ e.kindless = p.expr) xs ps :=
    List.forall₂_iff_zip.mpr ⟨hlength, fun hmem => h _ _ hmem⟩
  clear h hlength
  induction hall with
  | nil => exact ⟨[], .nil, rfl⟩
  | cons hx _ ih =>
      obtain ⟨e, he, hkindless⟩ := hx
      obtain ⟨es, hes, hall⟩ := ih
      exact ⟨e :: es, .cons he hes, congrArg₂ List.cons hkindless hall⟩

end Phrase

/-! ## Trees of objects -/

namespace ESTree

/-- The node stands between two positions of the source: it gives itself the 16-bit units in
front of them. -/
def Occupies (source : String) (es : List (Value × Value)) (i j : Nat) : Prop :=
  ∃ u v : Nat, Positioned es (some ⟨u, v⟩) ∧
    Units.At Units.width16 source.toList i u ∧ Units.At Units.width16 source.toList j v

/-- An object with at most `n` nodes nested in one another is the tree of a phrase. Entries that
are not mentioned may be anything, and so may parentheses. -/
inductive Depicts (source : String) : Nat → Value → Phrase → Prop
  | constant {n i j : Nat} {es : List (Value × Value)} {c : Constant}
      (hplace : Occupies source es i j)
      (htype : IsA es "Literal")
      (hregex : find es "regex" = none)
      (hbigint : find es "bigint" = none)
      (hvalue : find es "value" = some c.toValue) :
      Depicts source (n + 1) (.dict es) (.constant c i j)
  | name {n i j : Nat} {es : List (Value × Value)} {id : String}
      (hplace : Occupies source es i j)
      (htype : IsA es "Identifier")
      (hname : find es "name" = some (.str id)) :
      Depicts source (n + 1) (.dict es) (.name id i j)
  | member {n i j : Nat} {es : List (Value × Value)} {v : Value} {object : Phrase}
      {property : String}
      (hplace : Occupies source es i j)
      (htype : IsA es "MemberExpression")
      (hproperty : NamesProperty es (.str property))
      (hfind : find es "object" = some v)
      (hobject : Depicts source n v object) :
      Depicts source (n + 1) (.dict es) (.member object property i j)
  | plus {n i j : Nat} {es : List (Value × Value)} {v w : Value} {left right : Phrase}
      (hplace : Occupies source es i j)
      (htype : IsA es "BinaryExpression")
      (hplus : find es "operator" = some (.str "+"))
      (hfindLeft : find es "left" = some v)
      (hfindRight : find es "right" = some w)
      (hleft : Depicts source n v left)
      (hright : Depicts source n w right) :
      Depicts source (n + 1) (.dict es) (.plus left right i j)
  | call {n i j : Nat} {es : List (Value × Value)} {v : Value} {xs : List Value}
      {callee : Phrase} {arguments : List Phrase}
      (hplace : Occupies source es i j)
      (htype : IsA es "CallExpression")
      (hoptional : (field es "optional").isTruthy = false)
      (hfind : find es "callee" = some v)
      (hlists : ListsArguments es xs)
      (hcallee : Depicts source n v callee)
      (hlength : xs.length = arguments.length)
      (harguments : ∀ x p, (x, p) ∈ xs.zip arguments → Depicts source n x p) :
      Depicts source (n + 1) (.dict es) (.call callee arguments i j)
  | unsupported {n i j : Nat} {es : List (Value × Value)} {kind : String}
      (hplace : Occupies source es i j)
      (hkind : Ruleless es (.str kind)) :
      Depicts source (n + 1) (.dict es) (.unsupported i j)
  | parenthesized {n i j : Nat} {es : List (Value × Value)} {v : Value} {p : Phrase}
      (hplace : Occupies source es i j)
      (htype : IsA es "ParenthesizedExpression")
      (hfind : find es "expression" = some v)
      (hinner : Depicts source n v p) :
      Depicts source (n + 1) (.dict es) p

section Objects

variable {source : String} {es : List (Value × Value)} {i j n : Nat} {v : Value} {p : Phrase}

theorem span_of_occupies (h : Occupies source es i j) :
    span (indexOf (some source)) es = .ok (some ⟨i, j⟩) := by
  obtain ⟨u, v, hplace, hu, hv⟩ := h
  rw [span_of_positioned hplace, located, spanOf]
  simp only [integerOf, bind, Except.bind, position_of_at hu, position_of_at hv]

/-- **The tree of a phrase becomes its argument expression**, up to the names of kinds. -/
theorem convert_of_depicts (h : Depicts source n v p) :
    ∃ e, convert (indexOf (some source)) n v = .ok e ∧ e.kindless = p.expr := by
  induction h with
  | @constant _ _ _ es c hplace htype hregex hbigint hvalue =>
      refine ⟨_, convert_dict_eq_ok_iff.mpr
        ⟨_, span_of_occupies hplace, .literal htype hregex hbigint⟩, ?_⟩
      rw [field, hvalue]
      rfl
  | name hplace htype hname =>
      exact ⟨_, convert_dict_eq_ok_iff.mpr
        ⟨_, span_of_occupies hplace, .identifier htype hname⟩, rfl⟩
  | member hplace htype hproperty hfind _ ih =>
      obtain ⟨o, ho, hkindless⟩ := ih
      have hproperty := propertyOf_eq_ok_some_iff.mpr hproperty
      refine ⟨_, convert_dict_eq_ok_iff.mpr ⟨_, span_of_occupies hplace,
        .member hproperty (.object htype hproperty hfind) ho⟩, ?_⟩
      rw [Expr.kindless, hkindless, Phrase.expr]
  | plus hplace htype hplus hfindLeft hfindRight _ _ ihl ihr =>
      obtain ⟨l, hl, hleft⟩ := ihl
      obtain ⟨r, hr, hright⟩ := ihr
      refine ⟨_, convert_dict_eq_ok_iff.mpr ⟨_, span_of_occupies hplace,
        .plus (.left htype hplus hfindLeft) (.right htype hplus hfindRight) hl hr⟩, ?_⟩
      rw [Expr.kindless, hleft, hright, Phrase.expr]
  | call hplace htype hoptional hfind hlists _ hlength _ ihf iha =>
      obtain ⟨f, hf, hcallee⟩ := ihf
      obtain ⟨as, has, harguments⟩ := Phrase.exists_exprs hlength iha
      refine ⟨_, convert_dict_eq_ok_iff.mpr ⟨_, span_of_occupies hplace,
        .call (.callee htype hoptional hfind) (listed_of_listsArguments hlists) hf has⟩, ?_⟩
      rw [Expr.kindless, hcallee, harguments, Phrase.expr]
  | unsupported hplace hkind =>
      exact ⟨_, convert_dict_eq_ok_iff.mpr
        ⟨_, span_of_occupies hplace, .unsupported hkind⟩, rfl⟩
  | parenthesized hplace htype hfind _ ih =>
      obtain ⟨e, he, hkindless⟩ := ih
      exact ⟨e, convert_dict_eq_ok_iff.mpr ⟨_, span_of_occupies hplace,
        .parenthesized (.expression htype hfind) he⟩, hkindless⟩

end Objects

end ESTree

/-! ## Trees of scripts -/

namespace Script

/-- The node has no rule of conversion: it becomes unsupported syntax. -/
def IsUnsupported : Node → Prop
  | .root _ _ => False
  | .name _ _ => False
  | .member _ _ _ => False
  | .binary operator _ _ _ => operator ≠ .add
  | .call _ _ hasKeywords _ => hasKeywords = true
  | .constant v _ => (∃ bs, v = .bytes bs) ∨ (∃ z, v = .complex z) ∨ v = .ellipsis
  | _ => True

/-- A node with at most `n` nodes nested in one another is the tree of a phrase. Only a node that
stands for a whole text has no place. -/
inductive Depicts (source : String) : Nat → Node → Phrase → Prop
  | constant {n i j : Nat} {c : Constant} {place : Place}
      (hplace : StandsAt source (.constant c.toValue place) i j) :
      Depicts source (n + 1) (.constant c.toValue place) (.constant c i j)
  | name {n i j : Nat} {id : String} {place : Place}
      (hplace : StandsAt source (.name id place) i j) :
      Depicts source (n + 1) (.name id place) (.name id i j)
  | member {n i j : Nat} {node : Node} {object : Phrase} {property : String} {place : Place}
      (hplace : StandsAt source (.member node property place) i j)
      (hobject : Depicts source n node object) :
      Depicts source (n + 1) (.member node property place) (.member object property i j)
  | plus {n i j : Nat} {node node' : Node} {left right : Phrase} {place : Place}
      (hplace : StandsAt source (.binary .add node node' place) i j)
      (hleft : Depicts source n node left)
      (hright : Depicts source n node' right) :
      Depicts source (n + 1) (.binary .add node node' place) (.plus left right i j)
  | call {n i j : Nat} {node : Node} {nodes : List Node} {callee : Phrase}
      {arguments : List Phrase} {place : Place}
      (hplace : StandsAt source (.call node nodes false place) i j)
      (hcallee : Depicts source n node callee)
      (hlength : nodes.length = arguments.length)
      (harguments : ∀ x p, (x, p) ∈ nodes.zip arguments → Depicts source n x p) :
      Depicts source (n + 1) (.call node nodes false place) (.call callee arguments i j)
  | unsupported {n i j : Nat} {node : Node}
      (hplace : StandsAt source node i j)
      (hnode : IsUnsupported node) :
      Depicts source (n + 1) node (.unsupported i j)
  | root {n : Nat} {body : Node} {p : Phrase}
      (hbody : Depicts source n body p) :
      Depicts source (n + 1) (.root body ⟨none, none, none, none⟩) p

section Nodes

variable {source : String} {node : Node} {i j n : Nat} {p : Phrase}

theorem convertAll_eq_ok_iff {m : LineMap} {nodes : List Node} {es : List Expr} :
    convertAll m n nodes = .ok es ↔
      List.Forall₂ (fun x e => convert m n x = .ok e) nodes es := by
  induction nodes generalizing es with
  | nil => simp [convertAll, eq_comm]
  | cons x nodes ih =>
      simp only [convertAll_cons_eq_ok_iff, ih, List.forall₂_cons_left_iff]

/-- Unsupported syntax has nothing below it that is looked at, and becomes a node of some
kind. -/
theorem IsUnsupported.leaf (h : IsUnsupported node) :
    IsLeaf node ∧ ∀ span, (leafOf node span).kindless = .unsupported (.str "") span := by
  cases node with
  | root | name | member => exact h.elim
  | constant v place =>
      rcases h with ⟨bs, rfl⟩ | ⟨z, rfl⟩ | rfl <;> exact ⟨trivial, fun _ => rfl⟩
  | binary operator left right place =>
      cases operator with
      | add => exact absurd rfl h
      | _ => exact ⟨trivial, fun _ => rfl⟩
  | call callee arguments hasKeywords place =>
      obtain rfl : hasKeywords = true := h
      exact ⟨trivial, fun _ => rfl⟩
  | _ => exact ⟨trivial, fun _ => rfl⟩

/-- A source whose lines end as those of a script do has no stray break. -/
theorem not_strayBefore
    (hbreaks : ∀ c, c ∈ source.toList → Lines.isBreak c = true → c = '\n' ∨ c = '\r') :
    ¬ Lines.StrayBefore source.toList i := by
  refine Lines.not_strayBefore_of_any (List.any_eq_false.mpr fun c hc hstray => ?_) i
  simp only [Lines.isStray, Bool.and_eq_true, Bool.not_eq_true'] at hstray
  obtain ⟨hbreak, hending⟩ := hstray
  rcases hbreaks c hc hbreak with rfl | rfl <;> simp [Lines.isEnding] at hending

/-- Without stray breaks a place is read as the positions that it was made of. -/
theorem spanOf_of_standsAt
    (hbreaks : ∀ c, c ∈ source.toList → Lines.isBreak c = true → c = '\n' ∨ c = '\r')
    (h : StandsAt source node i j) :
    spanOf (LineMap.ofText source) node.place = .ok (some ⟨i, j⟩) := by
  rw [h.spanOf_eq, (landing_span_eq_iff h.le h.le_length).mpr (not_strayBefore hbreaks)]

/-- **The tree of a phrase becomes its argument expression**, up to the names of kinds. -/
theorem convert_of_depicts
    (hbreaks : ∀ c, c ∈ source.toList → Lines.isBreak c = true → c = '\n' ∨ c = '\r')
    (h : Depicts source n node p) :
    ∃ e, convert (LineMap.ofText source) n node = .ok e ∧ e.kindless = p.expr := by
  have hspan {node : Node} {i j : Nat} (h : StandsAt source node i j) :=
    spanOf_of_standsAt hbreaks h
  induction h with
  | @constant _ _ _ c place hplace =>
      have hleaf : IsLeaf (.constant c.toValue place) := trivial
      refine ⟨_, (convert_leaf_eq_ok_iff hleaf).mpr ⟨_, hspan hplace, rfl⟩, ?_⟩
      cases c <;> rfl
  | @name _ _ _ id place hplace =>
      have hleaf : IsLeaf (.name id place) := trivial
      exact ⟨_, (convert_leaf_eq_ok_iff hleaf).mpr ⟨_, hspan hplace, rfl⟩, rfl⟩
  | member hplace _ ih =>
      obtain ⟨o, ho, hkindless⟩ := ih
      refine ⟨_, convert_member_eq_ok_iff.mpr ⟨_, o, hspan hplace, ho, rfl⟩, ?_⟩
      rw [Expr.kindless, hkindless, Phrase.expr]
  | plus hplace _ _ ihl ihr =>
      obtain ⟨l, hl, hleft⟩ := ihl
      obtain ⟨r, hr, hright⟩ := ihr
      refine ⟨_, convert_plus_eq_ok_iff.mpr ⟨_, l, r, hspan hplace, hl, hr, rfl⟩, ?_⟩
      rw [Expr.kindless, hleft, hright, Phrase.expr]
  | call hplace _ hlength _ ihf iha =>
      obtain ⟨f, hf, hcallee⟩ := ihf
      obtain ⟨es, hes, harguments⟩ := Phrase.exists_exprs hlength iha
      refine ⟨_, convert_call_eq_ok_iff.mpr
        ⟨_, f, es, hspan hplace, hf, convertAll_eq_ok_iff.mpr hes, rfl⟩, ?_⟩
      rw [Expr.kindless, hcallee, harguments, Phrase.expr]
  | unsupported hplace hnode =>
      obtain ⟨hleaf, hkindless⟩ := hnode.leaf
      exact ⟨_, (convert_leaf_eq_ok_iff hleaf).mpr ⟨_, hspan hplace, rfl⟩, hkindless _⟩
  | root _ ih =>
      obtain ⟨e, he, hkindless⟩ := ih
      exact ⟨e, convert_root_eq_ok_iff.mpr ⟨none, rfl, he⟩, hkindless⟩

end Nodes

end Script

/-! ## Both trees -/

/-- **The two conversions agree.** An object and a node that are trees of one phrase become the
same argument expression, with the places of the phrase, up to the names of unsupported kinds. In
every environment they have the same value, or errors of one sort at one place. -/
theorem conversions_agree {source : String} {phrase : Phrase} {object : Value}
    {node : Script.Node}
    (hbreaks : ∀ c, c ∈ source.toList → Lines.isBreak c = true → c = '\n' ∨ c = '\r')
    (hobject : ESTree.Depicts source ESTree.depthLimit object phrase)
    (hnode : Script.Depicts source ESTree.depthLimit node phrase) :
    ∃ a b, ESTree.toExpr object (some source) = .ok a ∧ Script.toExpr node source = .ok b ∧
      a.kindless = phrase.expr ∧ b.kindless = phrase.expr ∧
      ∀ env, Outcome.Corresponds EvalResult.Matches (evaluate a env) (evaluate b env) := by
  obtain ⟨a, ha, hobject⟩ := ESTree.convert_of_depicts hobject
  obtain ⟨b, hb, hnode⟩ := Script.convert_of_depicts hbreaks hnode
  exact ⟨a, b, ha, hb, hobject, hnode, evaluate_matches (hobject.trans hnode.symm)⟩

/-- The call `f("😀", -b)` on two lines: the places of its parts differ in all three units. -/
theorem two_line_call_agrees :
    let source := "f(\"😀\",\n -b)"
    let phrase := Phrase.call (.name "f" 0 1) [.constant (.text "😀") 2 5, .unsupported 8 10] 0 11
    let name : List (Value × Value) := [(.str "type", .str "Identifier"),
      (.str "name", .str "f"), (.str "range", .list [.int 0, .int 1])]
    let text : List (Value × Value) := [(.str "type", .str "Literal"),
      (.str "value", .str "😀"), (.str "range", .list [.int 2, .int 6])]
    let negative : List (Value × Value) := [(.str "type", .str "UnaryExpression"),
      (.str "operator", .str "-"), (.str "range", .list [.int 9, .int 11])]
    let call : List (Value × Value) := [(.str "type", .str "CallExpression"),
      (.str "callee", .dict name), (.str "arguments", .list [.dict text, .dict negative]),
      (.str "start", .int 0), (.str "end", .int 12)]
    let node := Script.Node.call (.name "f" ⟨some 1, some 0, some 1, some 1⟩)
      [.constant (.str "😀") ⟨some 1, some 2, some 1, some 8⟩,
        .unary .minus (.name "b" ⟨some 2, some 2, some 2, some 3⟩)
          ⟨some 2, some 1, some 2, some 3⟩]
      false ⟨some 1, some 0, some 2, some 4⟩
    (∀ c, c ∈ source.toList → Lines.isBreak c = true → c = '\n' ∨ c = '\r') ∧
    ESTree.Depicts source ESTree.depthLimit (.dict call) phrase ∧
    Script.Depicts source ESTree.depthLimit node phrase ∧
    ∃ a b, ESTree.toExpr (.dict call) (some source) = .ok a ∧ Script.toExpr node source = .ok b ∧
      a.kindless = phrase.expr ∧ b.kindless = phrase.expr ∧
      ∀ env, Outcome.Corresponds EvalResult.Matches (evaluate a env) (evaluate b env) := by
  intro source phrase name text negative call node
  have hsource : source.toList =
      ['f', '(', '"', '😀', '"', ',', '\n', ' ', '-', 'b', ')'] := String.toList_ofList
  have hbreaks : ∀ c, c ∈ source.toList → Lines.isBreak c = true → c = '\n' ∨ c = '\r' := by
    simp [hsource, Lines.isBreak]
  have hat {i u : Nat} (hi : i ≤ 11)
      (hu : Units.total Units.width16
        (['f', '(', '"', '😀', '"', ',', '\n', ' ', '-', 'b', ')'].take i) = u) :
      Units.At Units.width16 source.toList i u :=
    ⟨by rw [hsource]; exact hi, by rw [hsource]; exact hu⟩
  have hobject : ESTree.Depicts source ESTree.depthLimit (.dict call) phrase := by
    refine .call ⟨0, 12, .ends (.absent rfl) rfl rfl, hat (by decide) rfl, hat (by decide) rfl⟩
      rfl rfl rfl (.array rfl .list) ?_ rfl ?_
    · exact .name ⟨0, 1, .range .list, hat (by decide) rfl, hat (by decide) rfl⟩ rfl rfl
    · intro x p hmem
      simp only [List.zip_cons_cons, List.zip_nil_right, List.mem_cons, List.not_mem_nil,
        Prod.mk.injEq, or_false] at hmem
      rcases hmem with ⟨rfl, rfl⟩ | ⟨rfl, rfl⟩
      · exact .constant ⟨2, 6, .range .list, hat (by decide) rfl, hat (by decide) rfl⟩ rfl rfl
          rfl rfl
      · have hunary : ESTree.Ruleless negative (.str "UnaryExpression") := by
          refine .other fun type htype hnegative => ?_
          rw [hnegative.unique (rfl : ESTree.IsA negative "UnaryExpression")] at htype
          exact absurd htype (by decide)
        exact .unsupported
          ⟨9, 11, .range .list, hat (by decide) rfl, hat (by decide) rfl⟩ hunary
  have hplaces : Script.placeOf source 0 1 = ⟨some 1, some 0, some 1, some 1⟩ ∧
      Script.placeOf source 2 5 = ⟨some 1, some 2, some 1, some 8⟩ ∧
      Script.placeOf source 8 10 = ⟨some 2, some 1, some 2, some 3⟩ ∧
      Script.placeOf source 0 11 = ⟨some 1, some 0, some 2, some 4⟩ := by
    simp only [Script.placeOf, Script.markAt, hsource]
    decide
  obtain ⟨hname, htext, hnegative, hcall⟩ := hplaces
  have hstands {n : Script.Node} {i j : Nat} (hplace : Script.placeOf source i j = n.place)
      (hij : i ≤ j) (hj : j ≤ 11) : Script.StandsAt source n i j :=
    ⟨hplace.symm, hij, by rw [hsource]; exact hj⟩
  have hnode : Script.Depicts source ESTree.depthLimit node phrase := by
    refine .call (hstands hcall (by decide) (by decide)) ?_ rfl ?_
    · exact .name (hstands hname (by decide) (by decide))
    · intro x p hmem
      simp only [List.zip_cons_cons, List.zip_nil_right, List.mem_cons, List.not_mem_nil,
        Prod.mk.injEq, or_false] at hmem
      rcases hmem with ⟨rfl, rfl⟩ | ⟨rfl, rfl⟩
      · exact .constant (c := .text "😀") (hstands htext (by decide) (by decide))
      · exact .unsupported (hstands hnegative (by decide) (by decide)) trivial
  exact ⟨hbreaks, hobject, hnode, conversions_agree hbreaks hobject hnode⟩

end BuildTransform
