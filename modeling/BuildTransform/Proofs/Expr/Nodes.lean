import BuildTransform.Proofs.Expr.Folding
import BuildTransform.Proofs.Expr.Ranges

/-!
# Nodes of ESTree objects

Which objects conversion looks at, where they stand, and what each of them becomes.

* `Child` names the objects below a node that conversion looks at, by their roles;
  `Reaches` follows a path of roles.
* `Positioned` reads the place that a node gives itself, in whatever units.
* `Formed` has one rule for each form of node, and `convert_dict_eq_ok_iff` says that
  conversion follows these rules.
* `NodeAt` finds the node that becomes a part of the converted expression:
  parentheses on the way to it leave no trace. `span_of_fill` says that the part has
  the place of that node.
-/

namespace BuildTransform
namespace ESTree

/-! ## Fields -/

section Fields

variable {es : List (Value × Value)} {key s : String} {v : Value}

theorem isText_eq_true_iff : isText v s = true ↔ v = .str s := by
  cases v with
  | str t => simp [isText]
  | _ => simp [isText]

theorem field_eq_str_iff : field es key = .str s ↔ find es key = some (.str s) := by
  unfold field
  cases find es key with
  | none => simp
  | some v => simp

theorem require_eq_ok_iff : require es key = .ok v ↔ find es key = some v := by
  unfold require
  cases find es key with
  | none => simp
  | some w => simp

theorem entries_eq_ok_iff {ds : List (Value × Value)} : entries v = .ok ds ↔ v = .dict ds := by
  cases v with
  | dict es => simp [entries]
  | _ => simp [entries]

/-- The type of a node, as conversion reads it. -/
def typeOf (es : List (Value × Value)) : Value :=
  (find es "type").getD (.str "<unknown>")

theorem IsA.typeOf_eq {type : String} (h : IsA es type) : typeOf es = .str type := by
  have hfind : find es "type" = some (.str type) := h
  rw [typeOf, hfind, Option.getD_some]

/-- A node without a type has none of the types with a rule. -/
theorem isA_of_typeOf_eq {type : String} (hmem : type ∈ converted)
    (h : typeOf es = .str type) : IsA es type := by
  unfold typeOf at h
  unfold IsA
  cases hfind : find es "type" with
  | none =>
      rw [hfind, Option.getD_none] at h
      obtain rfl : "<unknown>" = type := Value.str.inj h
      exact absurd hmem (by decide)
  | some v =>
      rw [hfind, Option.getD_some] at h
      rw [h]

/-- The values that a node lists as its arguments. -/
def listed (es : List (Value × Value)) : Read (List Value) :=
  match find es "arguments" with
  | none => .ok []
  | some v => argumentsOf v

end Fields

/-! ## Nodes below a node -/

/-- What an object is to the node above it. -/
inductive Role
  | expression
  | object
  | left
  | right
  | callee
  | argument (i : Nat)
deriving DecidableEq

/-- The type of the nodes below which an object has a role. -/
def Role.parent : Role → String
  | .expression => "ParenthesizedExpression"
  | .object => "MemberExpression"
  | .left => "BinaryExpression"
  | .right => "BinaryExpression"
  | .callee => "CallExpression"
  | .argument _ => "CallExpression"

/-- A node has an object below it that conversion looks at. -/
inductive Child (es : List (Value × Value)) : Role → Value → Prop
  | expression {v : Value}
      (htype : IsA es "ParenthesizedExpression")
      (hfind : find es "expression" = some v) :
      Child es .expression v
  | object {v property : Value}
      (htype : IsA es "MemberExpression")
      (hproperty : propertyOf es = .ok (some property))
      (hfind : find es "object" = some v) :
      Child es .object v
  | left {v : Value}
      (htype : IsA es "BinaryExpression")
      (hplus : find es "operator" = some (.str "+"))
      (hfind : find es "left" = some v) :
      Child es .left v
  | right {v : Value}
      (htype : IsA es "BinaryExpression")
      (hplus : find es "operator" = some (.str "+"))
      (hfind : find es "right" = some v) :
      Child es .right v
  | callee {v : Value}
      (htype : IsA es "CallExpression")
      (hoptional : (field es "optional").isTruthy = false)
      (hfind : find es "callee" = some v) :
      Child es .callee v
  | argument {i : Nat} {v : Value} {xs : List Value}
      (htype : IsA es "CallExpression")
      (hoptional : (field es "optional").isTruthy = false)
      (hlisted : listed es = .ok xs)
      (hget : xs[i]? = some v) :
      Child es (.argument i) v

/-- From an object a path of roles leads down to a node with these entries. -/
inductive Reaches : Value → List Role → List (Value × Value) → Prop
  | here {es : List (Value × Value)} :
      Reaches (.dict es) [] es
  | down {es ds : List (Value × Value)} {role : Role} {v : Value} {path : List Role}
      (hchild : Child es role v)
      (hrest : Reaches v path ds) :
      Reaches (.dict es) (role :: path) ds

/-- Every node that conversion looks at has a property. -/
def Throughout (P : List (Value × Value) → Prop) (v : Value) : Prop :=
  ∀ path es, Reaches v path es → P es

/-- At most `n` nodes are nested in one another. -/
def NestedWithin (n : Nat) (v : Value) : Prop :=
  ∀ path es, Reaches v path es → path.length < n

section Below

variable {P : List (Value × Value) → Prop} {es : List (Value × Value)} {role : Role}
variable {v : Value} {n : Nat}

theorem Child.isA (h : Child es role v) : IsA es role.parent := by
  cases h with
  | expression htype _ => exact htype
  | object htype _ _ => exact htype
  | left htype _ _ => exact htype
  | right htype _ _ => exact htype
  | callee htype _ _ => exact htype
  | argument htype _ _ _ => exact htype

/-- A property holds throughout an object if it holds of its node and throughout the
objects below. -/
theorem throughout_dict_iff :
    Throughout P (.dict es) ↔ P es ∧ ∀ role v, Child es role v → Throughout P v := by
  constructor
  · intro h
    refine ⟨h [] es .here, fun role v hchild path ds hrest => ?_⟩
    exact h (role :: path) ds (.down hchild hrest)
  · rintro ⟨hhere, hbelow⟩ path ds (_ | ⟨hchild, hrest⟩)
    · exact hhere
    · exact hbelow _ _ hchild _ ds hrest

theorem Throughout.here (h : Throughout P (.dict es)) : P es :=
  (throughout_dict_iff.mp h).1

theorem Throughout.child (h : Throughout P (.dict es)) (hchild : Child es role v) :
    Throughout P v :=
  (throughout_dict_iff.mp h).2 role v hchild

/-- Literals, identifiers and the like have no objects below them. -/
theorem throughout_leaf {type : String} (htype : IsA es type)
    (hleaf : ∀ role : Role, role.parent ≠ type) (h : P es) :
    Throughout P (.dict es) :=
  throughout_dict_iff.mpr
    ⟨h, fun role _ hchild => absurd (hchild.isA.unique htype) (hleaf role)⟩

/-- Each value that a call lists is below it. -/
theorem Child.argument_of_mem {callee : Value} {xs : List Value}
    (hcallee : Child es .callee callee) (hlisted : listed es = .ok xs) (hv : v ∈ xs) :
    ∃ role, Child es role v := by
  obtain ⟨i, hget⟩ := List.mem_iff_getElem?.mp hv
  cases hcallee with
  | callee htype hoptional _ => exact ⟨_, .argument htype hoptional hlisted hget⟩

theorem nestedWithin_dict_iff :
    NestedWithin (n + 1) (.dict es) ↔ ∀ role v, Child es role v → NestedWithin n v := by
  constructor
  · intro h role v hchild path ds hrest
    exact Nat.succ_lt_succ_iff.mp (h (role :: path) ds (.down hchild hrest))
  · rintro hbelow path ds (_ | ⟨hchild, hrest⟩)
    · exact Nat.zero_lt_succ n
    · exact Nat.succ_lt_succ (hbelow _ _ hchild _ ds hrest)

theorem NestedWithin.pos (h : NestedWithin n (.dict es)) : ∃ k, n = k + 1 :=
  Nat.exists_eq_add_one.mpr (h [] es .here)

theorem NestedWithin.child (h : NestedWithin (n + 1) (.dict es)) (hchild : Child es role v) :
    NestedWithin n v :=
  nestedWithin_dict_iff.mp h role v hchild

end Below

/-! ## Places -/

/-- A value is an array of items. -/
inductive Lists : Value → List Value → Prop
  | list {xs : List Value} : Lists (.list xs) xs
  | tuple {xs : List Value} : Lists (.tuple xs) xs

/-- A node has no `range` of two items. -/
inductive Rangeless (es : List (Value × Value)) : Prop
  | absent
      (h : field es "range" = .null)
  | odd {xs : List Value}
      (h : Lists (field es "range") xs)
      (hlength : xs.length ≠ 2)

/-- The place that a node gives itself by integers: its `range` of two items, else
`start` and `end` if both are there. -/
inductive Positioned (es : List (Value × Value)) : Option Span → Prop
  | range {s t : Int}
      (h : Lists (field es "range") [.int s, .int t]) :
      Positioned es (some ⟨s, t⟩)
  | ends {s t : Int}
      (hrange : Rangeless es)
      (hstart : find es "start" = some (.int s))
      (hend : find es "end" = some (.int t)) :
      Positioned es (some ⟨s, t⟩)
  | nowhere
      (hrange : Rangeless es)
      (h : find es "start" = none ∨ find es "end" = none) :
      Positioned es none

section Places

variable {index : SourceIndex} {es : List (Value × Value)} {xs : List Value} {v : Value}

/-- A place is read at both of its ends. -/
def located (index : SourceIndex) : Option Span → Read (Option Span)
  | none => .ok none
  | some ⟨s, t⟩ => spanOf index (.int s) (.int t)

theorem located_none (p : Option Span) : located none p = .ok p := by
  rcases p with _ | ⟨s, t⟩
  · rfl
  · rfl

theorem argumentsOf_of_lists (h : Lists v xs) : argumentsOf v = .ok xs := by
  cases h with
  | list => rfl
  | tuple => rfl

theorem span_of_rangeless (h : Rangeless es) : span index es = spanOfEnds index es := by
  unfold span
  cases h with
  | absent h => rw [h]
  | odd h hlength =>
      generalize field es "range" = r at h
      cases h with
      | list => simp [length, hlength, bind, Except.bind]
      | tuple => simp [length, hlength, bind, Except.bind]

/-- Conversion reads the place that a node gives itself. -/
theorem span_of_positioned {p : Option Span} (h : Positioned es p) :
    span index es = located index p := by
  cases h with
  | range h =>
      unfold span
      generalize field es "range" = r at h
      cases h with
      | list => rfl
      | tuple => rfl
  | ends hrange hstart hend =>
      rw [span_of_rangeless hrange, spanOfEnds, hstart, hend]
      rfl
  | nowhere hrange h =>
      rw [span_of_rangeless hrange, spanOfEnds]
      rcases h with h | h
      · rw [h]
        rfl
      · rw [h]
        cases find es "start" <;> rfl

end Places

/-! ## Forms -/

/-- The node has no rule of conversion, or a detail in it rules its own out: it
becomes unsupported syntax of some kind. -/
inductive Ruleless (es : List (Value × Value)) : Value → Prop
  | literal
      (htype : IsA es "Literal")
      (h : (find es "regex").isSome || (find es "bigint").isSome) :
      Ruleless es (.str "Literal")
  | member
      (htype : IsA es "MemberExpression")
      (hproperty : propertyOf es = .ok none) :
      Ruleless es (.str "MemberExpression")
  | operation {operator : String}
      (htype : IsA es "BinaryExpression")
      (hplus : find es "operator" ≠ some (.str "+"))
      (hkind : kindText (field es "operator") = .ok operator) :
      Ruleless es (.str ("BinaryExpression(" ++ operator ++ ")"))
  | optionalCall
      (htype : IsA es "CallExpression")
      (hoptional : (field es "optional").isTruthy = true) :
      Ruleless es (.str "OptionalCallExpression")
  | other
      (htype : ∀ type, type ∈ converted → ¬ IsA es type) :
      Ruleless es (typeOf es)

/-- What a node at a place becomes when the objects below it are read. -/
inductive Formed (read : Value → Read Expr) (es : List (Value × Value))
    (place : Option Span) : Expr → Prop
  | literal
      (htype : IsA es "Literal")
      (hregex : find es "regex" = none)
      (hbigint : find es "bigint" = none) :
      Formed read es place (.literal (field es "value") place)
  | identifier {name : Value}
      (htype : IsA es "Identifier")
      (hname : find es "name" = some name) :
      Formed read es place (.identifier name place)
  | parenthesized {v : Value} {e : Expr}
      (hchild : Child es .expression v)
      (h : read v = .ok e) :
      Formed read es place e
  | member {v property : Value} {o : Expr}
      (hproperty : propertyOf es = .ok (some property))
      (hchild : Child es .object v)
      (ho : read v = .ok o) :
      Formed read es place (.member o property place)
  | plus {v w : Value} {l r : Expr}
      (hleft : Child es .left v)
      (hright : Child es .right w)
      (hl : read v = .ok l)
      (hr : read w = .ok r) :
      Formed read es place (.plus l r place)
  | call {v : Value} {xs : List Value} {f : Expr} {as : List Expr}
      (hcallee : Child es .callee v)
      (hlisted : listed es = .ok xs)
      (hf : read v = .ok f)
      (has : List.Forall₂ (fun x a => read x = .ok a) xs as) :
      Formed read es place (.call f as place)
  | unsupported {kind : Value}
      (hkind : Ruleless es kind) :
      Formed read es place (.unsupported kind place)

section Forms

variable {read : Value → Read Expr} {es : List (Value × Value)} {place : Option Span}
variable {e : Expr} {index : SourceIndex} {n : Nat}

theorem below_eq_ok_iff {key : String} :
    below read es key = .ok e ↔ ∃ v, find es key = some v ∧ read v = .ok e := by
  simp only [below, Outcome.chain_eq_ok_iff, require_eq_ok_iff]

/-- A call that is not optional reads its callee and then its arguments. -/
theorem node_call_eq_ok_iff (h : (field es "optional").isTruthy = false) :
    node read (.str "CallExpression") es place = .ok e ↔
      ∃ v f xs as, find es "callee" = some v ∧ read v = .ok f ∧ listed es = .ok xs ∧
        List.Forall₂ (fun x a => read x = .ok a) xs as ∧ .call f as place = e := by
  have hnode : node read (.str "CallExpression") es place =
      (do
        let f ← below read es "callee"
        let as ← listed es >>= List.mapM read
        .ok (.call f as place)) := by
    rw [node, if_neg (ne_true_of_eq_false h)]
    congr 1
    funext f
    rw [listed]
    cases find es "arguments" with
    | none => rfl
    | some v => cases hargs : argumentsOf v <;> simp [hargs, bind, Except.bind]
  simp only [hnode, Outcome.chain_eq_ok_iff, below_eq_ok_iff, Outcome.mapM_eq_ok_iff,
    Except.ok.injEq]
  constructor
  · rintro ⟨f, ⟨v, hfind, hf⟩, as, ⟨xs, hxs, has⟩, rfl⟩
    exact ⟨v, f, xs, as, hfind, hf, hxs, has, rfl⟩
  · rintro ⟨v, f, xs, as, hfind, hf, hxs, has, rfl⟩
    exact ⟨f, ⟨v, hfind, hf⟩, as, ⟨xs, hxs, has⟩, rfl⟩

theorem node_plus_eq_ok_iff (h : find es "operator" = some (.str "+")) :
    node read (.str "BinaryExpression") es place = .ok e ↔
      ∃ v w l r, find es "left" = some v ∧ find es "right" = some w ∧ read v = .ok l ∧
        read w = .ok r ∧ .plus l r place = e := by
  have hplus : isText (field es "operator") "+" = true :=
    isText_eq_true_iff.mpr (field_eq_str_iff.mpr h)
  rw [node, if_pos hplus]
  simp only [Outcome.chain_eq_ok_iff, below_eq_ok_iff, Except.ok.injEq]
  constructor
  · rintro ⟨l, ⟨v, hv, hl⟩, r, ⟨w, hw, hr⟩, rfl⟩
    exact ⟨v, w, l, r, hv, hw, hl, hr, rfl⟩
  · rintro ⟨v, w, l, r, hv, hw, hl, hr, rfl⟩
    exact ⟨l, ⟨v, hv, hl⟩, r, ⟨w, hw, hr⟩, rfl⟩

theorem node_operation_eq_ok_iff (h : find es "operator" ≠ some (.str "+")) :
    node read (.str "BinaryExpression") es place = .ok e ↔
      ∃ operator, kindText (field es "operator") = .ok operator ∧
        .unsupported (.str ("BinaryExpression(" ++ operator ++ ")")) place = e := by
  have hplus : ¬ isText (field es "operator") "+" = true := fun hplus =>
    h (field_eq_str_iff.mp (isText_eq_true_iff.mp hplus))
  rw [node, if_neg hplus]
  simp only [Outcome.chain_eq_ok_iff, Except.ok.injEq]

theorem node_member_eq_ok_iff :
    node read (.str "MemberExpression") es place = .ok e ↔
      (propertyOf es = .ok none ∧ .unsupported (.str "MemberExpression") place = e) ∨
      ∃ property v o, propertyOf es = .ok (some property) ∧ find es "object" = some v ∧
        read v = .ok o ∧ .member o property place = e := by
  rw [node, Outcome.chain_eq_ok_iff]
  constructor
  · rintro ⟨_ | property, hproperty, h⟩
    · exact Or.inl ⟨hproperty, Except.ok.inj h⟩
    · obtain ⟨o, ho, h⟩ := Outcome.chain_eq_ok_iff.mp h
      obtain ⟨v, hfind, ho⟩ := below_eq_ok_iff.mp ho
      exact Or.inr ⟨property, v, o, hproperty, hfind, ho, Except.ok.inj h⟩
  · rintro (⟨hproperty, rfl⟩ | ⟨property, v, o, hproperty, hfind, ho, rfl⟩)
    · exact ⟨none, hproperty, rfl⟩
    · refine ⟨some property, hproperty, Outcome.chain_eq_ok_iff.mpr ⟨o, ?_, rfl⟩⟩
      exact below_eq_ok_iff.mpr ⟨v, hfind, ho⟩

theorem node_of_not_converted (h : ∀ type, type ∈ converted → ¬ IsA es type) :
    node read (typeOf es) es place = .ok (.unsupported (typeOf es) place) := by
  have hnot : ∀ {type : String}, type ∈ converted → typeOf es ≠ .str type :=
    fun hmem htype => h _ hmem (isA_of_typeOf_eq hmem htype)
  generalize typeOf es = type at hnot
  rw [node]
  all_goals exact hnot (by decide)

/-- A node of a type with a rule is converted to one of the forms of that type. -/
theorem Formed.of_converted {type : String} (hmem : type ∈ converted) (htype : IsA es type)
    (h : node read (.str type) es place = .ok e) :
    Formed read es place e := by
  -- one case for each type, in the order of `converted`
  simp only [converted, List.mem_cons, List.not_mem_nil, or_false] at hmem
  rcases hmem with rfl | rfl | rfl | rfl | rfl | rfl
  · rw [node] at h
    split_ifs at h with hdetail
    · cases h
      exact .unsupported (.literal htype hdetail)
    · cases h
      simp only [Bool.or_eq_true, not_or, Option.not_isSome_iff_eq_none] at hdetail
      exact .literal htype hdetail.1 hdetail.2
  · obtain ⟨name, hname, h⟩ := Outcome.chain_eq_ok_iff.mp h
    cases h
    exact .identifier htype (require_eq_ok_iff.mp hname)
  · obtain ⟨v, hfind, hv⟩ := below_eq_ok_iff.mp h
    exact .parenthesized (.expression htype hfind) hv
  · rcases node_member_eq_ok_iff.mp h with
      ⟨hproperty, rfl⟩ | ⟨property, v, o, hproperty, hfind, ho, rfl⟩
    · exact .unsupported (.member htype hproperty)
    · exact .member hproperty (.object htype hproperty hfind) ho
  · by_cases hplus : find es "operator" = some (.str "+")
    · obtain ⟨v, w, l, r, hv, hw, hl, hr, rfl⟩ := (node_plus_eq_ok_iff hplus).mp h
      exact .plus (.left htype hplus hv) (.right htype hplus hw) hl hr
    · obtain ⟨operator, hkind, rfl⟩ := (node_operation_eq_ok_iff hplus).mp h
      exact .unsupported (.operation htype hplus hkind)
  · cases hoptional : (field es "optional").isTruthy with
    | true =>
        rw [node, if_pos hoptional] at h
        cases h
        exact .unsupported (.optionalCall htype hoptional)
    | false =>
        obtain ⟨v, f, xs, as, hfind, hf, hxs, has, rfl⟩ := (node_call_eq_ok_iff hoptional).mp h
        exact .call (.callee htype hoptional hfind) hxs hf has

theorem Formed.of_node (h : node read (typeOf es) es place = .ok e) :
    Formed read es place e := by
  by_cases hconverted : ∃ type, type ∈ converted ∧ IsA es type
  · obtain ⟨type, hmem, htype⟩ := hconverted
    rw [htype.typeOf_eq] at h
    exact .of_converted hmem htype h
  · push Not at hconverted
    rw [node_of_not_converted hconverted] at h
    cases h
    exact .unsupported (.other hconverted)

theorem Ruleless.node_eq {kind : Value} (h : Ruleless es kind) :
    node read (typeOf es) es place = .ok (.unsupported kind place) := by
  cases h with
  | literal htype h =>
      rw [htype.typeOf_eq, node, if_pos h]
  | member htype hproperty =>
      rw [htype.typeOf_eq]
      exact node_member_eq_ok_iff.mpr (Or.inl ⟨hproperty, rfl⟩)
  | operation htype hplus hkind =>
      rw [htype.typeOf_eq]
      exact (node_operation_eq_ok_iff hplus).mpr ⟨_, hkind, rfl⟩
  | optionalCall htype hoptional =>
      rw [htype.typeOf_eq, node, if_pos hoptional]
  | other htype => exact node_of_not_converted htype

theorem Formed.node_eq (h : Formed read es place e) :
    node read (typeOf es) es place = .ok e := by
  cases h with
  | literal htype hregex hbigint =>
      rw [htype.typeOf_eq, node, hregex, hbigint]
      rfl
  | identifier htype hname =>
      rw [htype.typeOf_eq, node, require_eq_ok_iff.mpr hname]
      rfl
  | parenthesized hchild h =>
      cases hchild with
      | expression htype hfind =>
          rw [htype.typeOf_eq]
          exact below_eq_ok_iff.mpr ⟨_, hfind, h⟩
  | member hproperty hchild ho =>
      cases hchild with
      | object htype _ hfind =>
          rw [htype.typeOf_eq]
          exact node_member_eq_ok_iff.mpr (Or.inr ⟨_, _, _, hproperty, hfind, ho, rfl⟩)
  | plus hleft hright hl hr =>
      cases hleft with
      | left htype hplus hv =>
          cases hright with
          | right _ _ hw =>
              rw [htype.typeOf_eq]
              exact (node_plus_eq_ok_iff hplus).mpr ⟨_, _, _, _, hv, hw, hl, hr, rfl⟩
  | call hcallee hlisted hf has =>
      cases hcallee with
      | callee htype hoptional hfind =>
          rw [htype.typeOf_eq]
          exact (node_call_eq_ok_iff hoptional).mpr
            ⟨_, _, _, _, hfind, hf, hlisted, has, rfl⟩
  | unsupported hkind => exact hkind.node_eq

/-- An object at a budget is converted as its form says. -/
theorem convert_dict_eq_ok_iff :
    convert index (n + 1) (.dict es) = .ok e ↔
      ∃ place, span index es = .ok place ∧ Formed (convert index n) es place e := by
  have hdict : convert index (n + 1) (.dict es) =
      (do node (convert index n) (typeOf es) es (← span index es)) := rfl
  rw [hdict, Outcome.chain_eq_ok_iff]
  constructor
  · rintro ⟨place, hplace, h⟩
    exact ⟨place, hplace, .of_node h⟩
  · rintro ⟨place, hplace, h⟩
    exact ⟨place, hplace, h.node_eq⟩

/-- What is converted is an object, and is converted as its form says. -/
theorem convert_eq_ok_iff {v : Value} :
    convert index n v = .ok e ↔
      ∃ k es place, n = k + 1 ∧ v = .dict es ∧ span index es = .ok place ∧
        Formed (convert index k) es place e := by
  constructor
  · intro h
    cases n with
    | zero => cases h
    | succ k =>
        obtain ⟨es, hes, -⟩ := Outcome.chain_eq_ok_iff.mp h
        obtain rfl := entries_eq_ok_iff.mp hes
        obtain ⟨place, hplace, hformed⟩ := convert_dict_eq_ok_iff.mp h
        exact ⟨k, es, place, rfl, rfl, hplace, hformed⟩
  · rintro ⟨k, es, place, rfl, rfl, hplace, hformed⟩
    exact convert_dict_eq_ok_iff.mpr ⟨place, hplace, hformed⟩

end Forms

/-! ## Nodes and parts -/

/-- The roles on the way from an expression down to the hole in it. -/
def rolesTo : Expr.Context → List Role
  | .hole => []
  | .inObject inner _ _ => .object :: rolesTo inner
  | .inLeft inner _ _ => .left :: rolesTo inner
  | .inRight _ inner _ => .right :: rolesTo inner
  | .inCallee inner _ _ => .callee :: rolesTo inner
  | .inArgument _ before inner _ _ => .argument before.length :: rolesTo inner

/-- The node of an object that stands where an expression has a hole: the way to it
leads through the same roles and any number of parentheses, and it is not in
parentheses itself. -/
def NodeAt (v : Value) (c : Expr.Context) (es : List (Value × Value)) : Prop :=
  ∃ path, Reaches v path es ∧ path.filter (· ≠ .expression) = rolesTo c ∧
    ¬ IsA es "ParenthesizedExpression"

section Parts

variable {read : Value → Read Expr} {es ds : List (Value × Value)} {place : Option Span}
variable {index : SourceIndex} {c inner : Expr.Context} {e d : Expr} {v : Value}
variable {role : Role}

theorem Throughout.nodeAt {P : List (Value × Value) → Prop} (h : Throughout P v)
    (hnode : NodeAt v c es) : P es := by
  obtain ⟨path, hreaches, -, -⟩ := hnode
  exact h path es hreaches

theorem NodeAt.parenthesized (hchild : Child es .expression v) (h : NodeAt v c ds) :
    NodeAt (.dict es) c ds := by
  obtain ⟨path, hreaches, hroles, hbare⟩ := h
  exact ⟨.expression :: path, .down hchild hreaches, by simpa using hroles, hbare⟩

theorem NodeAt.child (hchild : Child es role v) (hrole : role ≠ .expression)
    (hroles : rolesTo c = role :: rolesTo inner) (h : NodeAt v inner ds) :
    NodeAt (.dict es) c ds := by
  obtain ⟨path, hreaches, hinner, hbare⟩ := h
  refine ⟨role :: path, .down hchild hreaches, ?_, hbare⟩
  rw [List.filter_cons_of_pos (by simpa using hrole), hinner, hroles]

/-- A node in parentheses is the node inside, and any other gives its place to the
expression. -/
theorem Formed.parenthesized_or_span (h : Formed read es place e) :
    (∃ v, Child es .expression v ∧ read v = .ok e) ∨
      (¬ IsA es "ParenthesizedExpression" ∧ e.span = place) := by
  have hother : ∀ {type : String}, IsA es type → type ≠ "ParenthesizedExpression" →
      ¬ IsA es "ParenthesizedExpression" := fun htype hne hparen => hne (htype.unique hparen)
  cases h with
  | literal htype _ _ => exact Or.inr ⟨hother htype (by decide), rfl⟩
  | identifier htype _ => exact Or.inr ⟨hother htype (by decide), rfl⟩
  | parenthesized hchild h => exact Or.inl ⟨_, hchild, h⟩
  | member _ hchild _ => exact Or.inr ⟨hother hchild.isA (by decide), rfl⟩
  | plus hleft _ _ _ => exact Or.inr ⟨hother hleft.isA (by decide), rfl⟩
  | call hcallee _ _ _ => exact Or.inr ⟨hother hcallee.isA (by decide), rfl⟩
  | unsupported hkind =>
      refine Or.inr ⟨?_, rfl⟩
      cases hkind with
      | literal htype _ => exact hother htype (by decide)
      | member htype _ => exact hother htype (by decide)
      | operation htype _ _ => exact hother htype (by decide)
      | optionalCall htype _ => exact hother htype (by decide)
      | other htype => exact htype _ (by decide)

/-- The item that is related to the one behind a list stands behind as many items. -/
theorem forall₂_getElem?_of_append {α β : Type} {R : α → β → Prop} {xs : List α}
    {before after : List β} {b : β} (h : List.Forall₂ R xs (before ++ b :: after)) :
    ∃ x, xs[before.length]? = some x ∧ R x b := by
  have hdrop := List.forall₂_drop_append xs before (b :: after) h
  obtain ⟨x, rest, hx, -, hxs⟩ := List.forall₂_cons_right_iff.mp hdrop
  refine ⟨x, ?_, hx⟩
  rw [← List.head?_drop, hxs]
  rfl

/-- A proper part of an expression is a part of what an object below became. -/
theorem Formed.fill (h : Formed read es place (c.fill d))
    (hbare : ¬ IsA es "ParenthesizedExpression") :
    c = .hole ∨ ∃ role v inner, role ≠ .expression ∧ Child es role v ∧
      rolesTo c = role :: rolesTo inner ∧ read v = .ok (inner.fill d) := by
  have hnot : ∀ {v : Value}, ¬ Child es .expression v := fun hchild => hbare hchild.isA
  cases c with
  | hole => exact Or.inl rfl
  | inObject inner property span =>
      cases h with
      | parenthesized hchild _ => exact absurd hchild hnot
      | member _ hchild ho => exact Or.inr ⟨.object, _, inner, nofun, hchild, rfl, ho⟩
  | inLeft inner right span =>
      cases h with
      | parenthesized hchild _ => exact absurd hchild hnot
      | plus hleft _ hl _ => exact Or.inr ⟨.left, _, inner, nofun, hleft, rfl, hl⟩
  | inRight left inner span =>
      cases h with
      | parenthesized hchild _ => exact absurd hchild hnot
      | plus _ hright _ hr => exact Or.inr ⟨.right, _, inner, nofun, hright, rfl, hr⟩
  | inCallee inner arguments span =>
      cases h with
      | parenthesized hchild _ => exact absurd hchild hnot
      | call hcallee _ hf _ => exact Or.inr ⟨.callee, _, inner, nofun, hcallee, rfl, hf⟩
  | inArgument callee before inner after span =>
      generalize hfill : (Expr.Context.inArgument callee before inner after span).fill d = e at h
      cases h with
      | parenthesized hchild _ => exact absurd hchild hnot
      | call hcallee hlisted _ has =>
          cases hfill
          obtain ⟨x, hget, hx⟩ := forall₂_getElem?_of_append has
          cases hcallee with
          | callee htype hoptional _ =>
              exact Or.inr ⟨.argument before.length, x, inner, nofun,
                .argument htype hoptional hlisted hget, rfl, hx⟩
      | _ => cases hfill

/-- **Every part of a converted expression has the place of its node.** -/
theorem span_of_fill {n : Nat} (h : convert index n v = .ok (c.fill d)) :
    ∃ es, NodeAt v c es ∧ span index es = .ok d.span := by
  induction n generalizing v c with
  | zero => cases h
  | succ n ih =>
      obtain ⟨_, es, place, hn, rfl, hplace, hformed⟩ := convert_eq_ok_iff.mp h
      cases hn
      -- parentheses keep the context, and any other node is the hole or takes a step to it
      rcases hformed.parenthesized_or_span with ⟨v, hchild, hv⟩ | ⟨hbare, hspan⟩
      · obtain ⟨ds, hnode, hds⟩ := ih hv
        exact ⟨ds, .parenthesized hchild hnode, hds⟩
      · rcases hformed.fill hbare with rfl | ⟨role, v, inner, hrole, hchild, hroles, hv⟩
        · refine ⟨es, ⟨[], .here, rfl, hbare⟩, ?_⟩
          rw [hplace, ← hspan]
          rfl
        · obtain ⟨ds, hnode, hds⟩ := ih hv
          exact ⟨ds, .child hchild hrole hroles hnode, hds⟩

end Parts

end ESTree
end BuildTransform
