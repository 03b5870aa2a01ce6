import BuildTransform.CallSite
import BuildTransform.Config.Standard
import BuildTransform.Proofs.Expr.Ranges

/-!
# The text of arguments

What the text of a call's arguments is when the call is an ESTree object whose
nodes carry ranges.

* `callArguments_eq` and `callArgument_eq` reduce both ways of asking for the
  arguments to `argumentSource`, when evaluation is off.
* `argumentSource_eq_ok_iff` gives the text: it runs from the start of the first
  argument to the end of the last, both without the parentheses around them.
* `rawText_eq_own_iff` compares this with the places of the arguments themselves.
-/

namespace BuildTransform
namespace CallSite

/-! ## Evaluation switched off -/

section Off

variable {w : Workspace} {r : Request} {source : String}

theorem rawText_eq {arguments : List Expr} (hsource : r.source = some source) :
    r.rawText arguments = (textOf arguments source).map .source := by
  simp only [Request.rawText, hsource]

variable [Platform]

/-- Without evaluation the arguments of a call are their text. -/
theorem callArguments_eq (hsource : r.source = some source)
    (hoff : r.shouldEvaluate = .ok false) :
    callArguments w r = (argumentSource r.form source).map .source := by
  simp only [callArguments, argumentSource, hoff, hsource, rawText_eq hsource]
  cases argumentsOf r.form (some source) <;> rfl

/-- Without evaluation the first argument is the text of all. -/
theorem callArgument_eq (hsource : r.source = some source)
    (hoff : r.shouldEvaluate = .ok false) :
    callArgument w r = (argumentSource r.form source).map .source := by
  simp only [callArgument, argumentSource, hoff, hsource, rawText_eq hsource]
  cases argumentsOf r.form (some source) <;> rfl

end Off

/-! ## The text of converted arguments -/

section Text

variable {source : String} {es : List (Value × Value)} {arguments : List Value}

/-- A node with a place is a node. -/
theorem spanOf_of_span {e : Expr} {s : Span} (h : e.span = some s) :
    spanOf e = .ok (some s) := by
  cases e with
  | foreign v => cases h
  | _ => exact congrArg Except.ok h

/-- The text between the places of the first and the last argument. -/
theorem textOf_eq {as : List Expr} {a b : Expr} {i j : Nat} {i' j' : Int}
    (ha : as.head? = some a) (hb : as.getLast? = some b)
    (hi : a.span = some ⟨i, j'⟩) (hj : b.span = some ⟨i', j⟩)
    (hile : i ≤ source.toList.length) (hjle : j ≤ source.toList.length) :
    textOf as source = .ok (String.ofList ((source.toList.take j).drop i)) := by
  simp only [textOf, ha, hb, bind, Except.bind, spanOf_of_span hi, spanOf_of_span hj,
    Units.slice_natCast hile hjle]

end Text

/-- An object has arguments iff it is converted to a call. -/
theorem argumentsOf_object_eq_ok_iff {v : Value} {source : Option String} {as : List Expr} :
    argumentsOf (.object v) source = .ok as ↔
      ∃ f place, ESTree.toExpr v source = .ok (.call f as place) := by
  simp only [argumentsOf, exprOf]
  cases ESTree.toExpr v source with
  | error fault => simp [bind, Except.bind]
  | ok e => cases e <;> simp [bind, Except.bind]

end CallSite

namespace ESTree

/-- A call of which the callee and the arguments are trees with ranges. -/
structure RangedCall (source : String) (es : List (Value × Value))
    (arguments : List Value) : Prop where
  isCall : IsA es "CallExpression"
  place : ∃ i j, RangeAt source es i j
  callee : ∃ c n, find es "callee" = some c ∧ Ranged source n c
  listed : find es "arguments" = some (.list arguments)
  ranged : ∀ x, x ∈ arguments → ∃ n, Ranged source n x

/-- The call is not optional, and its nodes are not nested more deeply than
conversion looks. -/
structure Readable (source : String) (es : List (Value × Value)) : Prop where
  notOptional : (field es "optional").isTruthy = false
  shallow : Ranged source depthLimit (.dict es)

/-- The node itself stands between two positions. -/
def StandsAt (source : String) (v : Value) (i j : Nat) : Prop :=
  ∃ es, v = .dict es ∧ RangeAt source es i j

/-- The node is in parentheses of its own. -/
def Parenthesized (v : Value) : Prop :=
  ∃ es, v = .dict es ∧ IsA es "ParenthesizedExpression"

/-- The parentheses of a node, if it has any, enclose the bare node. -/
def Encloses (source : String) (v : Value) : Prop :=
  Parenthesized v → ∀ i j i' j', StandsAt source v i j → BareAt source v i' j' →
    i < i' ∧ j' < j

section RawText

variable {source : String} {es : List (Value × Value)} {arguments : List Value}

theorem BareAt.le_length {v : Value} {i j : Nat} (h : BareAt source v i j) :
    i ≤ source.toList.length ∧ j ≤ source.toList.length := by
  induction h with
  | node hplace _ =>
      obtain ⟨_, _, -, hi, hj⟩ := hplace
      exact ⟨hi.le_length, hj.le_length⟩
  | parenthesized _ _ _ ih => exact ih

/-- Without parentheses the bare node is the node. -/
theorem bareAt_of_standsAt {v : Value} {i j : Nat} (h : StandsAt source v i j)
    (hbare : ¬ Parenthesized v) :
    BareAt source v i j := by
  obtain ⟨es, rfl, hplace⟩ := h
  exact .node hplace fun htype => hbare ⟨es, rfl, htype⟩

/-- A call that is converted to a call is not optional. -/
theorem RangedCall.notOptional (h : RangedCall source es arguments) {f : Expr}
    {as : List Expr} {place : Option Span}
    (he : toExpr (.dict es) (some source) = .ok (.call f as place)) :
    (field es "optional").isTruthy = false := by
  obtain ⟨i, j, hplace⟩ := h.place
  by_contra hoptional
  have hconvert := convert_dict (n := 999) hplace h.isCall
  rw [node, if_pos (by simpa using hoptional)] at hconvert
  have hsame := he.symm.trans hconvert
  cases hsame

/-- The arguments of a call are its arguments one by one, with the places of the
bare nodes. -/
theorem RangedCall.argumentsOf_eq_ok (h : RangedCall source es arguments)
    {as : List Expr}
    (has : CallSite.argumentsOf (.object (.dict es)) (some source) = .ok as) :
    Readable source es ∧
      List.Forall₂ (fun a e => ∃ i j, BareAt source a i j ∧ e.span = some ⟨i, j⟩)
        arguments as := by
  obtain ⟨f, place, he⟩ := CallSite.argumentsOf_object_eq_ok_iff.mp has
  have hoptional := h.notOptional he
  obtain ⟨i, j, hplace⟩ := h.place
  obtain ⟨c, n, hfind, hc⟩ := h.callee
  obtain ⟨f', as', hf, has', hcall⟩ :=
    (convert_call_eq_ok_iff (n := 999) hplace h.isCall hoptional hfind h.listed).mp he
  obtain rfl : as' = as := by
    cases hcall
    rfl
  have hranged : ∀ x, x ∈ arguments → Ranged source 999 x := by
    intro x hx
    obtain ⟨m, hm⟩ := h.ranged x hx
    obtain ⟨y, hy⟩ := exists_of_forall₂ has' hx
    exact ranged_of_convert hm hy
  refine ⟨⟨hoptional, .call hplace h.isCall hoptional hfind h.listed
    (ranged_of_convert hc hf) hranged⟩, ?_⟩
  clear hcall he has h
  induction has' with
  | nil => exact .nil
  | cons hab _ ih =>
      obtain ⟨i, j, e, hbare, he, hspan⟩ := convert_ranged (hranged _ List.mem_cons_self)
      obtain rfl := Except.ok.inj (hab.symm.trans he)
      exact .cons ⟨i, j, hbare, hspan⟩ (ih fun x hx => hranged x (List.mem_cons_of_mem _ hx))

/-- A readable call has arguments. -/
theorem Readable.exists_argumentsOf (hcall : IsA es "CallExpression")
    (h : Readable source es) :
    ∃ as, CallSite.argumentsOf (.object (.dict es)) (some source) = .ok as := by
  obtain ⟨_, _, e, -, he, -⟩ := convert_ranged h.shallow
  cases h.shallow with
  | leaf hplace hleaf =>
      cases hleaf with
      | optionalCall _ hoptional => simp [h.notOptional] at hoptional
      | literal htype => exact absurd (hcall.unique htype) (by decide)
      | identifier htype _ => exact absurd (hcall.unique htype) (by decide)
      | computed htype _ => exact absurd (hcall.unique htype) (by decide)
      | operation htype _ _ => exact absurd (hcall.unique htype) (by decide)
      | other htype hother =>
          obtain rfl := hcall.unique htype
          exact absurd (by decide) hother
  | parenthesized _ htype _ _ => exact absurd (hcall.unique htype) (by decide)
  | member _ htype _ _ _ => exact absurd (hcall.unique htype) (by decide)
  | plus _ htype _ _ _ _ _ => exact absurd (hcall.unique htype) (by decide)
  | call hplace htype hoptional hcallee harguments _ _ =>
      obtain ⟨f, as, -, -, rfl⟩ :=
        (convert_call_eq_ok_iff hplace htype hoptional hcallee harguments).mp he
      exact ⟨as, CallSite.argumentsOf_object_eq_ok_iff.mpr ⟨f, _, he⟩⟩

theorem head?_of_forall₂ {α β : Type} {R : α → β → Prop} {as : List α} {bs : List β}
    (h : List.Forall₂ R as bs) {a : α} (ha : as.head? = some a) :
    ∃ b, bs.head? = some b ∧ R a b := by
  cases h with
  | nil => cases ha
  | cons hab _ =>
      obtain rfl := Option.some.inj ha
      exact ⟨_, rfl, hab⟩

theorem getLast?_of_forall₂ {α β : Type} {R : α → β → Prop} {as : List α} {bs : List β}
    (h : List.Forall₂ R as bs) {a : α} (ha : as.getLast? = some a) :
    ∃ b, bs.getLast? = some b ∧ R a b := by
  rw [List.getLast?_eq_head?_reverse] at ha ⊢
  exact head?_of_forall₂ (List.rel_reverse h) ha

/-- **The text of the arguments** of a readable call runs from the start of the
first bare argument to the end of the last; any other call is refused. -/
theorem argumentSource_eq_ok_iff (h : RangedCall source es arguments) {first last : Value}
    (hfirst : arguments.head? = some first) (hlast : arguments.getLast? = some last)
    {text : String} :
    CallSite.argumentSource (.object (.dict es)) source = .ok text ↔
      Readable source es ∧ ∃ i i' j j', BareAt source first i i' ∧ BareAt source last j' j ∧
        text = String.ofList ((source.toList.take j).drop i) := by
  have htext {as : List Expr}
      (has : CallSite.argumentsOf (.object (.dict es)) (some source) = .ok as) :
      ∃ i i' j j', BareAt source first i i' ∧ BareAt source last j' j ∧
        CallSite.textOf as source = .ok (String.ofList ((source.toList.take j).drop i)) := by
    obtain ⟨-, hspans⟩ := h.argumentsOf_eq_ok has
    obtain ⟨a, ha, i, i', hi, hai⟩ := head?_of_forall₂ hspans hfirst
    obtain ⟨b, hb, j', j, hj, hbj⟩ := getLast?_of_forall₂ hspans hlast
    exact ⟨i, i', j, j', hi, hj,
      CallSite.textOf_eq ha hb hai hbj hi.le_length.1 hj.le_length.2⟩
  simp only [CallSite.argumentSource, Outcome.chain_eq_ok_iff]
  constructor
  · rintro ⟨as, has, htextOf⟩
    obtain ⟨i, i', j, j', hi, hj, htextOf'⟩ := htext has
    obtain rfl := Except.ok.inj (htextOf.symm.trans htextOf')
    exact ⟨(h.argumentsOf_eq_ok has).1, i, i', j, j', hi, hj, rfl⟩
  · rintro ⟨hreadable, i, i', j, j', hi, hj, rfl⟩
    obtain ⟨as, has⟩ := hreadable.exists_argumentsOf h.isCall
    obtain ⟨k, k', l, l', hk, hl, htextOf⟩ := htext has
    obtain ⟨rfl, -⟩ := hi.unique hk
    obtain ⟨-, rfl⟩ := hj.unique hl
    exact ⟨as, has, htextOf⟩

/-- The bare node stands within the node, and further in if there are parentheses. -/
theorem Encloses.within {v : Value} {i j i' j' : Nat} (h : Encloses source v)
    (hplace : StandsAt source v i j) (hbare : BareAt source v i' j') :
    i ≤ i' ∧ j' ≤ j ∧ (Parenthesized v → i < i' ∧ j' < j) := by
  by_cases hparenthesized : Parenthesized v
  · have hinside := h hparenthesized i j i' j' hplace hbare
    exact ⟨hinside.1.le, hinside.2.le, fun _ => hinside⟩
  · obtain ⟨rfl, rfl⟩ := hbare.unique (bareAt_of_standsAt hplace hparenthesized)
    exact ⟨le_rfl, le_rfl, fun hv => absurd hv hparenthesized⟩

/-- **All ways of asking for the raw text of a call** give the source from the
start of its first argument to the end of its last, if the call is readable and
neither of the two is in parentheses. Where parentheses enclose what is inside of
them, no other call gives that text. -/
theorem rawText_eq_own_iff [Platform] {w : Workspace} {r : CallSite.Request} {first last : Value}
    {i i' j j' : Nat}
    (hform : r.form = .object (.dict es))
    (hsource : r.source = some source)
    (hoff : r.shouldEvaluate = .ok false)
    (hcall : RangedCall source es arguments)
    (hfirst : arguments.head? = some first)
    (hlast : arguments.getLast? = some last)
    (hstart : StandsAt source first i i')
    (hstop : StandsAt source last j' j) :
    let own := String.ofList ((source.toList.take j).drop i)
    let isOwn :=
      CallSite.argumentSource (.object (.dict es)) source = .ok own ∧
      CallSite.callArguments w r = .ok (.source own) ∧
      CallSite.callArgument w r = .ok (.source own)
    (Readable source es ∧ ¬ Parenthesized first ∧ ¬ Parenthesized last → isOwn) ∧
    (i < j → Encloses source first → Encloses source last → isOwn →
      Readable source es ∧ ¬ Parenthesized first ∧ ¬ Parenthesized last) := by
  intro own isOwn
  constructor
  · rintro ⟨hreadable, hbareFirst, hbareLast⟩
    have hown : CallSite.argumentSource (.object (.dict es)) source = .ok own :=
      (argumentSource_eq_ok_iff hcall hfirst hlast).mpr
        ⟨hreadable, i, i', j, j', bareAt_of_standsAt hstart hbareFirst,
          bareAt_of_standsAt hstop hbareLast, rfl⟩
    refine ⟨hown, ?_, ?_⟩
    · rw [CallSite.callArguments_eq hsource hoff, hform, hown]
      rfl
    · rw [CallSite.callArgument_eq hsource hoff, hform, hown]
      rfl
  · rintro hij hencloseFirst hencloseLast ⟨hown, -, -⟩
    obtain ⟨hreadable, k, k', l, l', hk, hl, htext⟩ :=
      (argumentSource_eq_ok_iff hcall hfirst hlast).mp hown
    obtain ⟨hik, -, hfirstInside⟩ := hencloseFirst.within hstart hk
    obtain ⟨-, hlj, hlastInside⟩ := hencloseLast.within hstop hl
    obtain ⟨_, -, _, _, -, -, hj⟩ := hstop
    -- Parentheses that are left out make the text shorter.
    have hlength : j - i = l - k := by
      have htext := congrArg (fun s : String => s.toList.length) htext
      simpa [own, min_eq_left hj.le_length, min_eq_left hl.le_length.2] using htext
    refine ⟨hreadable, fun h => ?_, fun h => ?_⟩
    · have := (hfirstInside h).1
      omega
    · have := (hlastInside h).2
      omega

end RawText

/-! ## Calls with a given source -/

/-- The entries of a node of a type with a range. -/
def entriesOf (type : String) (u v : Nat) (more : List (Value × Value)) :
    List (Value × Value) :=
  (.str "type", .str type) :: (.str "range", .list [.int u, .int v]) :: more

section Calls

variable {source type : String} {u v i j : Nat} {more : List (Value × Value)}

theorem isA_entriesOf : IsA (entriesOf type u v more) type := by
  simp [IsA, find, entriesOf, Value.lookup, Value.same]

theorem rangeAt_entriesOf (hi : Units.At Units.width16 source.toList i u)
    (hj : Units.At Units.width16 source.toList j v) :
    RangeAt source (entriesOf type u v more) i j := by
  refine ⟨u, v, ?_, hi, hj⟩
  simp [field, find, entriesOf, Value.lookup, Value.same]

theorem ranged_identifier {name : String} {n : Nat}
    (hi : Units.At Units.width16 source.toList i u)
    (hj : Units.At Units.width16 source.toList j v) :
    Ranged source (n + 1) (.dict (entriesOf "Identifier" u v [(.str "name", .str name)])) :=
  .leaf (rangeAt_entriesOf hi hj) (.identifier isA_entriesOf
    (by simp [find, entriesOf, Value.lookup, Value.same]; rfl))

theorem find_expression {inner : Value} :
    find (entriesOf type u v [(.str "expression", inner)]) "expression" = some inner := by
  simp [find, entriesOf, Value.lookup, Value.same]

theorem ranged_parentheses {inner : Value} {n : Nat}
    (hi : Units.At Units.width16 source.toList i u)
    (hj : Units.At Units.width16 source.toList j v) (hinner : Ranged source n inner) :
    Ranged source (n + 1)
      (.dict (entriesOf "ParenthesizedExpression" u v [(.str "expression", inner)])) :=
  .parenthesized (rangeAt_entriesOf hi hj) isA_entriesOf find_expression hinner

/-- A call with a range can be read if its callee and its arguments have ranges and are not
nested too deeply. -/
theorem ranged_call {callee : Value} {arguments : List Value}
    (hi : Units.At Units.width16 source.toList i u)
    (hj : Units.At Units.width16 source.toList j v)
    (hcallee : Ranged source (depthLimit - 1) callee)
    (harguments : ∀ x, x ∈ arguments → Ranged source (depthLimit - 1) x) :
    let es := entriesOf "CallExpression" u v
      [(.str "callee", callee), (.str "arguments", .list arguments)]
    RangedCall source es arguments ∧ Readable source es := by
  intro es
  have hplace : RangeAt source es i j := rangeAt_entriesOf hi hj
  have hfind : find es "callee" = some callee := by
    simp [es, find, entriesOf, Value.lookup, Value.same]
  have hlisted : find es "arguments" = some (.list arguments) := by
    simp [es, find, entriesOf, Value.lookup, Value.same]
  have hoptional : (field es "optional").isTruthy = false := by
    simp [es, field, find, entriesOf, Value.lookup, Value.same, Value.isTruthy]
  exact ⟨⟨isA_entriesOf, ⟨i, j, hplace⟩, ⟨_, _, hfind, hcallee⟩, hlisted,
      fun x hx => ⟨_, harguments x hx⟩⟩,
    hoptional, .call hplace isA_entriesOf hoptional hfind hlisted hcallee harguments⟩

/-- The call `f("😀", a)`: behind the first argument a position is one less than the
number of units in front of it. -/
theorem wide_text_rawText :
    let source := "f(\"😀\", a)"
    let callee := entriesOf "Identifier" 0 1 [(.str "name", .str "f")]
    let first := entriesOf "Literal" 2 6 [(.str "value", .str "😀")]
    let last := entriesOf "Identifier" 8 9 [(.str "name", .str "a")]
    let es := entriesOf "CallExpression" 0 10
      [(.str "callee", .dict callee), (.str "arguments", .list [.dict first, .dict last])]
    let w : Workspace := ⟨FileTree.empty, [], none⟩
    let r : CallSite.Request :=
      ⟨.object (.dict es), "/r/a.js", some source, .absent, some false, none⟩
    RangedCall source es [.dict first, .dict last] ∧ Readable source es ∧
    CallSite.argumentSource (.object (.dict es)) source = .ok "\"😀\", a" ∧
    CallSite.callArguments w r = .ok (.source "\"😀\", a") ∧
    CallSite.callArgument w r = .ok (.source "\"😀\", a") := by
  intro source callee first last es w r
  have hsource : source.toList = ['f', '(', '"', '😀', '"', ',', ' ', 'a', ')'] :=
    String.toList_ofList
  have hat (i : Nat) (hi : i ≤ 9) :
      Units.At Units.width16 source.toList i
        (Units.total Units.width16 (['f', '(', '"', '😀', '"', ',', ' ', 'a', ')'].take i)) :=
    ⟨by rw [hsource]; exact hi, by rw [hsource]⟩
  have hfirst : RangeAt source first 2 5 :=
    rangeAt_entriesOf (hat 2 (by decide)) (hat 5 (by decide))
  have hlast : RangeAt source last 7 8 :=
    rangeAt_entriesOf (hat 7 (by decide)) (hat 8 (by decide))
  have hranged : ∀ x, x ∈ [Value.dict first, .dict last] →
      Ranged source (depthLimit - 1) x := by
    intro x hx
    rcases List.mem_pair.mp hx with rfl | rfl
    · exact .leaf hfirst (.literal isA_entriesOf)
    · exact ranged_identifier (hat 7 (by decide)) (hat 8 (by decide))
  obtain ⟨hrangedCall, hreadable⟩ : RangedCall source es [.dict first, .dict last] ∧
      Readable source es :=
    ranged_call (hat 0 (by decide)) (hat 9 (by decide))
      (ranged_identifier (hat 0 (by decide)) (hat 1 (by decide))) hranged
  have hbare {type : String} {u v : Nat} {more : List (Value × Value)}
      (htype : type ≠ "ParenthesizedExpression") :
      ¬ Parenthesized (.dict (entriesOf type u v more)) := by
    rintro ⟨es, hes, hparenthesized⟩
    cases hes
    exact htype (isA_entriesOf.unique hparenthesized)
  have hown := (rawText_eq_own_iff (w := w) (r := r) rfl rfl rfl hrangedCall rfl rfl
    ⟨first, rfl, hfirst⟩ ⟨last, rfl, hlast⟩).1
    ⟨hreadable, hbare (by decide), hbare (by decide)⟩
  have htext : String.ofList ((source.toList.take 8).drop 2) = "\"😀\", a" := by
    simp [hsource]
  rw [htext] at hown
  exact ⟨hrangedCall, hreadable, hown⟩

/-- The call `f((a), (b))`: the text has a parenthesis of either argument only. -/
theorem parenthesized_text_cut :
    let source := "f((a), (b))"
    let callee := entriesOf "Identifier" 0 1 [(.str "name", .str "f")]
    let a := entriesOf "Identifier" 3 4 [(.str "name", .str "a")]
    let b := entriesOf "Identifier" 8 9 [(.str "name", .str "b")]
    let first := entriesOf "ParenthesizedExpression" 2 5 [(.str "expression", .dict a)]
    let last := entriesOf "ParenthesizedExpression" 7 10 [(.str "expression", .dict b)]
    let es := entriesOf "CallExpression" 0 11
      [(.str "callee", .dict callee), (.str "arguments", .list [.dict first, .dict last])]
    RangedCall source es [.dict first, .dict last] ∧
    StandsAt source (.dict first) 2 5 ∧ StandsAt source (.dict last) 7 10 ∧
    (source.toList.take 10).drop 2 = "(a), (b)".toList ∧
    CallSite.argumentSource (.object (.dict es)) source = .ok "a), (b" := by
  intro source callee a b first last es
  have hsource : source.toList = ['f', '(', '(', 'a', ')', ',', ' ', '(', 'b', ')', ')'] :=
    String.toList_ofList
  have hat (i : Nat) (hi : i ≤ 11) :
      Units.At Units.width16 source.toList i
        (Units.total Units.width16
          (['f', '(', '(', 'a', ')', ',', ' ', '(', 'b', ')', ')'].take i)) :=
    ⟨by rw [hsource]; exact hi, by rw [hsource]⟩
  have hfirst : RangeAt source first 2 5 :=
    rangeAt_entriesOf (hat 2 (by decide)) (hat 5 (by decide))
  have hlast : RangeAt source last 7 10 :=
    rangeAt_entriesOf (hat 7 (by decide)) (hat 10 (by decide))
  have hranged : ∀ x, x ∈ [Value.dict first, .dict last] →
      Ranged source (depthLimit - 1) x := by
    intro x hx
    rcases List.mem_pair.mp hx with rfl | rfl
    · exact ranged_parentheses (hat 2 (by decide)) (hat 5 (by decide))
        (ranged_identifier (n := 997) (hat 3 (by decide)) (hat 4 (by decide)))
    · exact ranged_parentheses (hat 7 (by decide)) (hat 10 (by decide))
        (ranged_identifier (n := 997) (hat 8 (by decide)) (hat 9 (by decide)))
  obtain ⟨hrangedCall, hreadable⟩ : RangedCall source es [.dict first, .dict last] ∧
      Readable source es :=
    ranged_call (hat 0 (by decide)) (hat 11 (by decide))
      (ranged_identifier (hat 0 (by decide)) (hat 1 (by decide))) hranged
  have hnotParenthesized {u v : Nat} {more : List (Value × Value)} :
      ¬ IsA (entriesOf "Identifier" u v more) "ParenthesizedExpression" :=
    fun h => absurd (isA_entriesOf.unique h) (by decide)
  refine ⟨hrangedCall, ⟨first, rfl, hfirst⟩, ⟨last, rfl, hlast⟩, by rw [hsource]; rfl, ?_⟩
  refine (argumentSource_eq_ok_iff hrangedCall rfl rfl).mpr ⟨hreadable, 3, 4, 9, 8, ?_, ?_, ?_⟩
  · exact .parenthesized isA_entriesOf find_expression
      (.node (rangeAt_entriesOf (hat 3 (by decide)) (hat 4 (by decide))) hnotParenthesized)
  · exact .parenthesized isA_entriesOf find_expression
      (.node (rangeAt_entriesOf (hat 8 (by decide)) (hat 9 (by decide))) hnotParenthesized)
  · rw [hsource]
    rfl

end Calls

end ESTree
end BuildTransform
