import BuildTransform.Proofs.Expr.Nodes

/-!
# Spellings of expressions

Which ESTree objects are read as an expression that has a rule of evaluation for
each of its parts.

* `Spells` is the grammar: an object spells an expression if its nodes have the right
  types and details. It does not mention conversion; an expression has many spellings.
* `Supported` says that an expression has no part without a rule.
* `spells_of_convert` and `convert_of_spells` are the two halves of
  `toExpr_supported_iff_spells`: conversion accepts exactly the grammar.
-/

namespace BuildTransform
namespace ESTree

/-! ## The grammar -/

/-- Every part of the expression has a rule of evaluation. -/
inductive Supported : Expr → Prop
  | literal {value : Value} {place : Option Span} :
      Supported (.literal value place)
  | identifier {name : Value} {place : Option Span} :
      Supported (.identifier name place)
  | member {o : Expr} {property : Value} {place : Option Span}
      (hobject : Supported o) :
      Supported (.member o property place)
  | plus {l r : Expr} {place : Option Span}
      (hleft : Supported l)
      (hright : Supported r) :
      Supported (.plus l r place)
  | call {f : Expr} {as : List Expr} {place : Option Span}
      (hcallee : Supported f)
      (harguments : ∀ a, a ∈ as → Supported a) :
      Supported (.call f as place)

/-- A member expression names a property: by an identifier behind a dot, or by a
literal text in brackets. -/
inductive NamesProperty (es : List (Value × Value)) : Value → Prop
  | dotted {property : List (Value × Value)} {name : Value}
      (hcomputed : (field es "computed").isTruthy = false)
      (hfind : find es "property" = some (.dict property))
      (htype : IsA property "Identifier")
      (hname : find property "name" = some name) :
      NamesProperty es name
  | bracketed {property : List (Value × Value)} {name : String}
      (hcomputed : (field es "computed").isTruthy = true)
      (hfind : find es "property" = some (.dict property))
      (htype : IsA property "Literal")
      (hvalue : find property "value" = some (.str name)) :
      NamesProperty es (.str name)

/-- A call lists its arguments in an array, or has none. -/
inductive ListsArguments (es : List (Value × Value)) : List Value → Prop
  | absent
      (h : find es "arguments" = none) :
      ListsArguments es []
  | array {v : Value} {xs : List Value}
      (hfind : find es "arguments" = some v)
      (hlists : Lists v xs) :
      ListsArguments es xs

/-- An object spells an expression. Entries that are not mentioned may be anything,
and the place of an expression is that of the node inside all parentheses. -/
inductive Spells : Value → Expr → Prop
  | literal {es : List (Value × Value)} {place : Option Span}
      (hplace : Positioned es place)
      (htype : IsA es "Literal")
      (hregex : find es "regex" = none)
      (hbigint : find es "bigint" = none) :
      Spells (.dict es) (.literal (field es "value") place)
  | identifier {es : List (Value × Value)} {place : Option Span} {name : Value}
      (hplace : Positioned es place)
      (htype : IsA es "Identifier")
      (hname : find es "name" = some name) :
      Spells (.dict es) (.identifier name place)
  | member {es : List (Value × Value)} {place : Option Span} {v property : Value} {o : Expr}
      (hplace : Positioned es place)
      (htype : IsA es "MemberExpression")
      (hproperty : NamesProperty es property)
      (hfind : find es "object" = some v)
      (hobject : Spells v o) :
      Spells (.dict es) (.member o property place)
  | plus {es : List (Value × Value)} {place : Option Span} {v w : Value} {l r : Expr}
      (hplace : Positioned es place)
      (htype : IsA es "BinaryExpression")
      (hplus : find es "operator" = some (.str "+"))
      (hfindLeft : find es "left" = some v)
      (hfindRight : find es "right" = some w)
      (hleft : Spells v l)
      (hright : Spells w r) :
      Spells (.dict es) (.plus l r place)
  | call {es : List (Value × Value)} {place : Option Span} {v : Value} {xs : List Value}
      {f : Expr} {as : List Expr}
      (hplace : Positioned es place)
      (htype : IsA es "CallExpression")
      (hoptional : (field es "optional").isTruthy = false)
      (hfind : find es "callee" = some v)
      (hlists : ListsArguments es xs)
      (hcallee : Spells v f)
      (hlength : xs.length = as.length)
      (harguments : ∀ x a, (x, a) ∈ xs.zip as → Spells x a) :
      Spells (.dict es) (.call f as place)
  | parenthesized {es : List (Value × Value)} {v : Value} {e : Expr}
      (htype : IsA es "ParenthesizedExpression")
      (hfind : find es "expression" = some v)
      (hinner : Spells v e) :
      Spells (.dict es) e

/-- What the grammar asks of a node for its details to be read at all: its place is
given by integers, and what it has as `arguments` is an array. -/
structure WellFormed (es : List (Value × Value)) : Prop where
  place : ∃ place, Positioned es place
  arguments : ∀ v, find es "arguments" = some v → ∃ xs, Lists v xs

section Details

variable {es : List (Value × Value)} {v : Value} {e : Expr} {xs : List Value}

theorem Spells.supported (h : Spells v e) : Supported e := by
  induction h with
  | literal => exact .literal
  | identifier => exact .identifier
  | member _ _ _ _ _ ih => exact .member ih
  | plus _ _ _ _ _ _ _ ihl ihr => exact .plus ihl ihr
  | @call _ _ _ xs _ as _ _ _ _ _ _ hlength _ ihf iha =>
      refine .call ihf fun a ha => ?_
      rw [← List.map_snd_zip hlength.ge] at ha
      obtain ⟨⟨x, _⟩, hmem, rfl⟩ := List.mem_map.mp ha
      exact iha x _ hmem
  | parenthesized _ _ _ ih => exact ih

theorem isA_iff_isText {type : String} : isText (field es "type") type = true ↔ IsA es type := by
  rw [isText_eq_true_iff, field_eq_str_iff, IsA]

/-- The property of a member expression is read as the grammar says. -/
theorem propertyOf_eq_ok_some_iff {name : Value} :
    propertyOf es = .ok (some name) ↔ NamesProperty es name := by
  simp only [propertyOf, Outcome.chain_eq_ok_iff, require_eq_ok_iff, entries_eq_ok_iff]
  constructor
  · rintro ⟨_, hfind, property, rfl, h⟩
    split_ifs at h with hcomputed htype
    · split at h
      · rename_i htype hvalue
        cases h
        exact .bracketed hcomputed hfind (isA_iff_isText.mp htype) (field_eq_str_iff.mp hvalue)
      · cases h
    · obtain ⟨value, hname, h⟩ := Outcome.chain_eq_ok_iff.mp h
      cases h
      exact .dotted (eq_false_of_ne_true hcomputed) hfind (isA_iff_isText.mp htype)
        (require_eq_ok_iff.mp hname)
    · cases h
  · rintro (⟨hcomputed, hfind, htype, hname⟩ | ⟨hcomputed, hfind, htype, hvalue⟩)
    · refine ⟨_, hfind, _, rfl, ?_⟩
      rw [if_neg (ne_true_of_eq_false hcomputed), if_pos (isA_iff_isText.mpr htype),
        require_eq_ok_iff.mpr hname]
      rfl
    · refine ⟨_, hfind, _, rfl, ?_⟩
      rw [if_pos hcomputed, isA_iff_isText.mpr htype, field_eq_str_iff.mpr hvalue]

theorem listed_of_listsArguments (h : ListsArguments es xs) : listed es = .ok xs := by
  cases h with
  | absent hfind => rw [listed, hfind]
  | array hfind hlists =>
      rw [listed, hfind]
      exact argumentsOf_of_lists hlists

/-- The arguments of a well-formed call are read as the grammar says. -/
theorem listed_eq_ok_iff (hformed : WellFormed es) :
    listed es = .ok xs ↔ ListsArguments es xs := by
  constructor
  · intro h
    rw [listed] at h
    cases hfind : find es "arguments" with
    | none =>
        rw [hfind] at h
        cases h
        exact .absent hfind
    | some v =>
        rw [hfind] at h
        obtain ⟨ys, hlists⟩ := hformed.arguments v hfind
        obtain rfl : ys = xs := Except.ok.inj ((argumentsOf_of_lists hlists).symm.trans h)
        exact .array hfind hlists
  · exact listed_of_listsArguments

end Details

/-! ## Conversion -/

section Conversion

variable {v : Value} {e : Expr} {n : Nat}

/-- Supported expressions are read from their spellings only. -/
theorem spells_of_convert (hformed : Throughout WellFormed v)
    (he : convert none n v = .ok e) (hsupported : Supported e) :
    Spells v e := by
  induction n generalizing v e with
  | zero => cases he
  | succ n ih =>
      obtain ⟨_, es, place, hn, rfl, hspan, h⟩ := convert_eq_ok_iff.mp he
      cases hn
      -- without the source the place that is read is the one that the node gives itself
      have hplace : Positioned es place := by
        obtain ⟨place', hplace'⟩ := hformed.here.place
        rw [span_of_positioned hplace', located_none] at hspan
        obtain rfl := Except.ok.inj hspan
        exact hplace'
      cases h with
      | literal htype hregex hbigint => exact .literal hplace htype hregex hbigint
      | identifier htype hname => exact .identifier hplace htype hname
      | parenthesized hchild h =>
          have hinner := ih (hformed.child hchild) h hsupported
          cases hchild with
          | expression htype hfind => exact .parenthesized htype hfind hinner
      | member hproperty hchild ho =>
          cases hsupported with
          | member hobject =>
              have hobject := ih (hformed.child hchild) ho hobject
              cases hchild with
              | object htype _ hfind =>
                  exact .member hplace htype (propertyOf_eq_ok_some_iff.mp hproperty) hfind
                    hobject
      | plus hleft hright hl hr =>
          cases hsupported with
          | plus hsupportedl hsupportedr =>
              have hl := ih (hformed.child hleft) hl hsupportedl
              have hr := ih (hformed.child hright) hr hsupportedr
              cases hleft with
              | left htype hplus hfindLeft =>
                  cases hright with
                  | right _ _ hfindRight =>
                      exact .plus hplace htype hplus hfindLeft hfindRight hl hr
      | @call _ xs _ as hcallee hlisted hf has =>
          cases hsupported with
          | call hsupportedf hsupporteda =>
              have hf := ih (hformed.child hcallee) hf hsupportedf
              obtain ⟨hlength, has⟩ := List.forall₂_iff_zip.mp has
              have harguments : ∀ x a, (x, a) ∈ xs.zip as → Spells x a := by
                intro x a hmem
                obtain ⟨hx, ha⟩ := List.of_mem_zip hmem
                obtain ⟨role, hchild⟩ := hcallee.argument_of_mem hlisted hx
                exact ih (hformed.child hchild) (has hmem) (hsupporteda a ha)
              cases hcallee with
              | callee htype hoptional hfind =>
                  exact .call hplace htype hoptional hfind
                    ((listed_eq_ok_iff hformed.here).mp hlisted) hf hlength harguments
      | unsupported hkind => cases hsupported

/-- Spellings are read as what they spell, if they are not nested too deeply. -/
theorem convert_of_spells (h : Spells v e) (hformed : Throughout WellFormed v)
    (hnested : NestedWithin n v) :
    convert none n v = .ok e := by
  have hspan : ∀ {es : List (Value × Value)} {place : Option Span}, Positioned es place →
      span none es = .ok place := fun hplace => by
    rw [span_of_positioned hplace, located_none]
  induction h generalizing n with
  | literal hplace htype hregex hbigint =>
      obtain ⟨n, rfl⟩ := hnested.pos
      exact convert_dict_eq_ok_iff.mpr ⟨_, hspan hplace, .literal htype hregex hbigint⟩
  | identifier hplace htype hname =>
      obtain ⟨n, rfl⟩ := hnested.pos
      exact convert_dict_eq_ok_iff.mpr ⟨_, hspan hplace, .identifier htype hname⟩
  | member hplace htype hproperty hfind _ ih =>
      obtain ⟨n, rfl⟩ := hnested.pos
      have hproperty := propertyOf_eq_ok_some_iff.mpr hproperty
      have hchild : Child _ .object _ := .object htype hproperty hfind
      exact convert_dict_eq_ok_iff.mpr ⟨_, hspan hplace, .member hproperty hchild
        (ih (hformed.child hchild) (hnested.child hchild))⟩
  | plus hplace htype hplus hfindLeft hfindRight _ _ ihl ihr =>
      obtain ⟨n, rfl⟩ := hnested.pos
      have hleft : Child _ .left _ := .left htype hplus hfindLeft
      have hright : Child _ .right _ := .right htype hplus hfindRight
      exact convert_dict_eq_ok_iff.mpr ⟨_, hspan hplace, .plus hleft hright
        (ihl (hformed.child hleft) (hnested.child hleft))
        (ihr (hformed.child hright) (hnested.child hright))⟩
  | call hplace htype hoptional hfind hlists _ hlength _ ihf iha =>
      obtain ⟨n, rfl⟩ := hnested.pos
      have hcallee : Child _ .callee _ := .callee htype hoptional hfind
      have hlisted := (listed_eq_ok_iff hformed.here).mpr hlists
      refine convert_dict_eq_ok_iff.mpr ⟨_, hspan hplace, .call hcallee hlisted
        (ihf (hformed.child hcallee) (hnested.child hcallee))
        (List.forall₂_iff_zip.mpr ⟨hlength, fun {x a} hmem => ?_⟩)⟩
      obtain ⟨role, hchild⟩ := hcallee.argument_of_mem hlisted (List.of_mem_zip hmem).1
      exact iha x a hmem (hformed.child hchild) (hnested.child hchild)
  | parenthesized htype hfind _ ih =>
      obtain ⟨n, rfl⟩ := hnested.pos
      obtain ⟨place, hplace⟩ := hformed.here.place
      have hchild : Child _ .expression _ := .expression htype hfind
      exact convert_dict_eq_ok_iff.mpr ⟨_, hspan hplace, .parenthesized hchild
        (ih (hformed.child hchild) (hnested.child hchild))⟩

/-- **Conversion accepts exactly the grammar**: an object becomes an expression without
unsupported parts iff it spells that expression. -/
theorem toExpr_supported_iff_spells (hformed : Throughout WellFormed v)
    (hnested : NestedWithin depthLimit v) :
    toExpr v none = .ok e ∧ Supported e ↔ Spells v e := by
  constructor
  · rintro ⟨he, hsupported⟩
    exact spells_of_convert hformed he hsupported
  · intro h
    exact ⟨convert_of_spells h hformed hnested, h.supported⟩

/-- `(path)["join"]()` spells the call of `path.join` without arguments: the
parentheses, the brackets and the missing list of arguments make no difference. -/
theorem bracketed_call_spells :
    let path : List (Value × Value) := [(.str "type", .str "Identifier"),
      (.str "name", .str "path"), (.str "range", .list [.int 1, .int 5])]
    let inside : List (Value × Value) := [(.str "type", .str "ParenthesizedExpression"),
      (.str "expression", .dict path), (.str "range", .list [.int 0, .int 6])]
    let join : List (Value × Value) := [(.str "type", .str "Literal"),
      (.str "value", .str "join")]
    let member : List (Value × Value) := [(.str "type", .str "MemberExpression"),
      (.str "computed", .bool true), (.str "object", .dict inside),
      (.str "property", .dict join), (.str "start", .int 0), (.str "end", .int 14)]
    let call : List (Value × Value) := [(.str "type", .str "CallExpression"),
      (.str "optional", .bool false), (.str "callee", .dict member),
      (.str "range", .list [.int 0, .int 16])]
    let e := Expr.call (.member (.identifier (.str "path") (some ⟨1, 5⟩)) (.str "join")
      (some ⟨0, 14⟩)) [] (some ⟨0, 16⟩)
    Throughout WellFormed (.dict call) ∧ NestedWithin depthLimit (.dict call) ∧
      Spells (.dict call) e ∧ toExpr (.dict call) none = .ok e ∧ Supported e := by
  intro path inside join member call e
  have hpath : ∀ role w, ¬ Child path role w := by
    intro role w hchild
    have htype : role.parent = "Identifier" := hchild.isA.unique rfl
    cases hchild <;> simp [Role.parent] at htype
  have hinside : ∀ role w, Child inside role w → w = .dict path := by
    intro role w hchild
    have htype : role.parent = "ParenthesizedExpression" := hchild.isA.unique rfl
    cases hchild with
    | expression _ hfind => exact (Option.some.inj hfind).symm
    | _ => simp [Role.parent] at htype
  have hmember : ∀ role w, Child member role w → w = .dict inside := by
    intro role w hchild
    have htype : role.parent = "MemberExpression" := hchild.isA.unique rfl
    cases hchild with
    | object _ _ hfind => exact (Option.some.inj hfind).symm
    | _ => simp [Role.parent] at htype
  have hcall : ∀ role w, Child call role w → w = .dict member := by
    intro role w hchild
    have htype : role.parent = "CallExpression" := hchild.isA.unique rfl
    cases hchild with
    | callee _ _ hfind => exact (Option.some.inj hfind).symm
    | argument _ _ hlisted hget =>
        cases hlisted
        cases hget
    | _ => simp [Role.parent] at htype
  have hformed : Throughout WellFormed (.dict call) := by
    refine throughout_dict_iff.mpr ⟨⟨⟨_, .range .list⟩, nofun⟩, fun role w h => ?_⟩
    rw [hcall role w h]
    refine throughout_dict_iff.mpr ⟨⟨⟨_, .ends (.absent rfl) rfl rfl⟩, nofun⟩, fun role w h => ?_⟩
    rw [hmember role w h]
    refine throughout_dict_iff.mpr ⟨⟨⟨_, .range .list⟩, nofun⟩, fun role w h => ?_⟩
    rw [hinside role w h]
    refine throughout_dict_iff.mpr ⟨⟨⟨_, .range .list⟩, nofun⟩, fun role w h => ?_⟩
    exact (hpath role w h).elim
  have hnested : NestedWithin depthLimit (.dict call) := by
    refine nestedWithin_dict_iff.mpr fun role w h => ?_
    rw [hcall role w h]
    refine nestedWithin_dict_iff.mpr fun role w h => ?_
    rw [hmember role w h]
    refine nestedWithin_dict_iff.mpr fun role w h => ?_
    rw [hinside role w h]
    exact nestedWithin_dict_iff.mpr fun role w h => (hpath role w h).elim
  have hspells : Spells (.dict call) e := by
    refine .call (.range .list) rfl rfl rfl (.absent rfl) ?_ rfl nofun
    refine .member (.ends (.absent rfl) rfl rfl) rfl (.bracketed rfl rfl rfl rfl) rfl ?_
    refine .parenthesized rfl rfl ?_
    exact .identifier (.range .list) rfl rfl
  exact ⟨hformed, hnested, hspells, (toExpr_supported_iff_spells hformed hnested).mpr hspells⟩

end Conversion

end ESTree
end BuildTransform
