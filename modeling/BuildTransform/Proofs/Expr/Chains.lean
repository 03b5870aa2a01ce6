import BuildTransform.Proofs.Expr.Joining

/-!
# Chains of sums

One sign stands for adding numbers and for joining texts. In a chain of sums it changes its
meaning with the first text.

* `chain` is `e₁ + e₂ + … + eₙ`, nested to the left.
* `IsSum` adds numbers from left to right, and `ChainValue` says what operands with given values
  come to: up to the first text they are added, from there on each is joined by its own text.
* `Grouped` relates some operands to every way of putting parentheses around their sums.
* `evaluate_chain` says that evaluation finds exactly these values, and that among texts the
  grouping does not matter.
-/

namespace BuildTransform
namespace Evaluation

/-! ## What operands come to -/

/-- The sum of two numbers. Two integers have an exact sum; next to a binary number an integer
counts as the nearest binary number, if there is one. -/
inductive Adds : Scalar → Scalar → Scalar → Prop
  | integers (i j : Int) :
      Adds (.int i) (.int j) (.int (i + j))
  | integer_left {i : Int} {x : Double} (y : Double)
      (hi : Double.ofInt? i = some x) :
      Adds (.int i) (.float y) (.float (x.add y))
  | integer_right (x : Double) {j : Int} {y : Double}
      (hj : Double.ofInt? j = some y) :
      Adds (.float x) (.int j) (.float (x.add y))
  | binary (x y : Double) :
      Adds (.float x) (.float y) (.float (x.add y))

/-- The sum of numbers that are added one after another, from the left. -/
inductive IsSum : List Scalar → Scalar → Prop
  | one {a : Scalar}
      (ha : scalarTy a = .number) :
      IsSum [a] a
  | more {vs : List Scalar} {a b c : Scalar}
      (h : IsSum vs a)
      (hadd : Adds a b c) :
      IsSum (vs ++ [b]) c

/-- The text in front of the first text of a chain: that of the sum of the numbers there. -/
inductive Leads : List Scalar → String → Prop
  | nothing :
      Leads [] ""
  | sum {front : List Scalar} {a : Scalar} {lead : String}
      (h : IsSum front a)
      (htext : a.joinedText? = some lead) :
      Leads front lead

/-- What operands with these values come to, one after another. Numbers alone are added. Behind
the first text nothing is added any more: each value is joined by its own text. -/
inductive ChainValue : List Scalar → Scalar → Prop
  | numbers {vs : List Scalar} {a : Scalar}
      (h : IsSum vs a) :
      ChainValue vs a
  | text {front rest : List Scalar} {lead s : String} {tails : List String}
      (hlead : Leads front lead)
      (htails : List.Forall₂ (fun v t => v.joinedText? = some t) rest tails) :
      ChainValue (front ++ .text s :: rest) (.text (lead ++ s ++ String.join tails))

section Values

variable {a b c : Scalar} {vs : List Scalar} {s t : String}

/-- Numbers are added by `add`. -/
theorem adds_iff :
    Adds a b c ↔ scalarTy a = .number ∧ scalarTy b = .number ∧ add a b = .ok c := by
  constructor
  · intro h
    cases h with
    | integers i j => exact ⟨rfl, rfl, rfl⟩
    | integer_left y hi => exact ⟨rfl, rfl, by simp [add, nearest, hi, Except.map]⟩
    | integer_right x hj => exact ⟨rfl, rfl, by simp [add, nearest, hj, Except.map]⟩
    | binary x y => exact ⟨rfl, rfl, rfl⟩
  · rintro ⟨ha, hb, h⟩
    have hnearest {i : Int} {x : Double} (hx : nearest i = .ok x) : Double.ofInt? i = some x := by
      unfold nearest at hx
      split at hx
      · next hi =>
          cases hx
          exact hi
      · cases hx
    cases a with
    | text s => cases ha
    | int i =>
        cases b with
        | text s => cases hb
        | int j =>
            cases h
            exact .integers i j
        | float y =>
            obtain ⟨x, hx, rfl⟩ := Outcome.map_eq_ok_iff.mp h
            exact .integer_left y (hnearest hx)
    | float x =>
        cases b with
        | text s => cases hb
        | int j =>
            obtain ⟨y, hy, rfl⟩ := Outcome.map_eq_ok_iff.mp h
            exact .integer_right x (hnearest hy)
        | float y =>
            cases h
            exact .binary x y

theorem joinedText_eq_ok_iff : joinedText a = .ok t ↔ a.joinedText? = some t := by
  unfold joinedText
  cases a.joinedText? <;> simp [shown]

/-- Next to a text on either side, values are joined by their texts. -/
theorem add_eq_ok_iff_of_text (h : scalarTy a = .text ∨ scalarTy b = .text) :
    add a b = .ok c ↔
      ∃ s t, a.joinedText? = some s ∧ b.joinedText? = some t ∧ c = .text (s ++ t) := by
  rw [add_of_text h]
  simp only [Outcome.chain_eq_ok_iff, joinedText_eq_ok_iff]
  constructor
  · rintro ⟨s, hs, t, ht, hc⟩
    cases hc
    exact ⟨s, t, hs, ht, rfl⟩
  · rintro ⟨s, t, hs, ht, rfl⟩
    exact ⟨s, hs, t, ht, rfl⟩

theorem IsSum.number (h : IsSum vs a) : scalarTy a = .number := by
  cases h with
  | one ha => exact ha
  | more _ hadd => cases hadd <;> rfl

theorem IsSum.ne_nil (h : IsSum vs a) : vs ≠ [] := by
  cases h <;> simp

theorem isSum_singleton_iff : IsSum [a] b ↔ scalarTy a = .number ∧ b = a := by
  constructor
  · generalize hvs : [a] = vs
    intro h
    cases h with
    | one ha =>
        obtain rfl := List.singleton_inj.mp hvs
        exact ⟨ha, rfl⟩
    | more h =>
        obtain ⟨hnil, -⟩ | ⟨-, hsome⟩ := List.append_eq_singleton_iff.mp hvs.symm
        · exact absurd hnil h.ne_nil
        · cases hsome
  · rintro ⟨ha, rfl⟩
    exact .one ha

theorem isSum_concat_iff (hvs : vs ≠ []) :
    IsSum (vs ++ [b]) c ↔ ∃ a, IsSum vs a ∧ Adds a b c := by
  constructor
  · generalize hconcat : vs ++ [b] = vs'
    intro h
    cases h with
    | one =>
        obtain ⟨hnil, -⟩ | ⟨-, hsome⟩ := List.append_eq_singleton_iff.mp hconcat
        · exact absurd hnil hvs
        · cases hsome
    | more h hadd =>
        obtain ⟨rfl, rfl⟩ := List.append_singleton_inj.mp hconcat
        exact ⟨_, h, hadd⟩
  · rintro ⟨a, h, hadd⟩
    exact .more h hadd

/-- The last items of two lists that correspond do so, and what stands before them. -/
theorem forall₂_concat_iff {α β : Type} {R : α → β → Prop} {xs : List α} {x : α} {ys : List β} :
    List.Forall₂ R (xs ++ [x]) ys ↔ ∃ zs z, ys = zs ++ [z] ∧ List.Forall₂ R xs zs ∧ R x z := by
  rw [← List.forall₂_reverse_iff, List.reverse_append, List.reverse_singleton,
    List.singleton_append, List.forall₂_cons_left_iff]
  constructor
  · rintro ⟨z, zs, hz, hzs, hys⟩
    refine ⟨zs.reverse, z, ?_, ?_, hz⟩
    · rw [← List.reverse_reverse ys, hys, List.reverse_cons]
    · rwa [← List.forall₂_reverse_iff, List.reverse_reverse]
  · rintro ⟨zs, z, rfl, hzs, hz⟩
    exact ⟨z, zs.reverse, hz, List.forall₂_reverse_iff.mpr hzs, by simp⟩

/-- A single operand comes to its own value. -/
theorem chainValue_singleton_iff : ChainValue [a] b ↔ b = a := by
  constructor
  · generalize hvs : [a] = vs
    intro h
    cases h with
    | numbers h =>
        subst hvs
        exact (isSum_singleton_iff.mp h).2
    | @text front rest lead s tails hlead htails =>
        obtain ⟨rfl, hs⟩ | ⟨rfl, hs⟩ := List.append_eq_singleton_iff.mp hvs.symm
        · obtain ⟨rfl, rfl⟩ := List.cons.inj hs
          cases htails
          cases hlead with
          | nothing => simp
          | sum h => exact absurd rfl h.ne_nil
        · cases hs
  · rintro rfl
    cases b with
    | text s => simpa using ChainValue.text (s := s) .nothing .nil
    | int i => exact .numbers (.one rfl)
    | float d => exact .numbers (.one rfl)

/-- **One operand more** is added to what the operands before it come to. -/
theorem chainValue_concat_iff (hvs : vs ≠ []) :
    ChainValue (vs ++ [b]) c ↔ ∃ a, ChainValue vs a ∧ add a b = .ok c := by
  constructor
  · generalize hconcat : vs ++ [b] = vs'
    intro h
    cases h with
    | numbers h =>
        subst hconcat
        obtain ⟨a, h, hadd⟩ := (isSum_concat_iff hvs).mp h
        exact ⟨a, .numbers h, (adds_iff.mp hadd).2.2⟩
    | @text front rest lead s tails hlead htails =>
        rcases List.eq_nil_or_concat' rest with rfl | ⟨rest, d, rfl⟩
        · -- the last operand is the first text, so numbers stand before it
          obtain ⟨rfl, rfl⟩ := List.append_singleton_inj.mp hconcat
          cases htails
          cases hlead with
          | nothing => exact absurd rfl hvs
          | @sum _ a _ h htext =>
              refine ⟨a, .numbers h, (add_eq_ok_iff_of_text (Or.inr rfl)).mpr ?_⟩
              exact ⟨lead, s, htext, rfl, by simp⟩
        · rw [← List.cons_append, ← List.append_assoc] at hconcat
          obtain ⟨rfl, rfl⟩ := List.append_singleton_inj.mp hconcat
          obtain ⟨tails, t, rfl, htails, ht⟩ := forall₂_concat_iff.mp htails
          refine ⟨_, .text hlead htails, (add_eq_ok_iff_of_text (Or.inl rfl)).mpr ?_⟩
          exact ⟨_, t, rfl, ht, by simp [String.append_assoc]⟩
  · rintro ⟨a, h, hadd⟩
    cases h with
    | numbers h =>
        rcases scalarTy_isValue b with hb | hb
        · obtain ⟨lead, t, htext, ht, rfl⟩ := (add_eq_ok_iff_of_text (Or.inr hb)).mp hadd
          obtain ⟨s, hs⟩ := toValue_eq_str_iff.mpr hb
          cases b with
          | text s =>
              cases ht
              simpa using ChainValue.text (s := t) (.sum h htext) .nil
          | _ => cases hs
        · exact .numbers (.more h (adds_iff.mpr ⟨h.number, hb, hadd⟩))
    | @text front rest lead s tails hlead htails =>
        obtain ⟨_, t, hs, ht, rfl⟩ := (add_eq_ok_iff_of_text (Or.inl rfl)).mp hadd
        cases hs
        have hmore := ChainValue.text (s := s) hlead
          (forall₂_concat_iff.mpr ⟨tails, t, rfl, htails, ht⟩)
        simpa [String.append_assoc] using hmore

end Values

/-! ## Chains -/

/-- The sum of some operands, nested to the left. Each sum has a place of its own. -/
def chain (first : Expr) (more : List (Expr × Option Span)) : Expr :=
  more.foldl (fun sum x => .plus sum x.1 x.2) first

/-- The operands of a chain. -/
def operands (first : Expr) (more : List (Expr × Option Span)) : List Expr :=
  first :: more.map Prod.fst

/-- The expression is a sum of the operands, with the sums grouped in any way. -/
inductive Grouped : List Expr → Expr → Prop
  | operand (e : Expr) :
      Grouped [e] e
  | plus {es fs : List Expr} {left right : Expr} (span : Option Span)
      (hleft : Grouped es left)
      (hright : Grouped fs right) :
      Grouped (es ++ fs) (.plus left right span)

section Chains

variable {env : Environment} {first : Expr} {more : List (Expr × Option Span)}
variable {value : Expr → Scalar}

theorem chain_concat (x : Expr × Option Span) :
    chain first (more ++ [x]) = .plus (chain first more) x.1 x.2 := by
  rw [chain, List.foldl_append]
  rfl

theorem operands_concat (x : Expr × Option Span) :
    operands first (more ++ [x]) = operands first more ++ [x.1] := by
  simp [operands]

theorem Denotes.unique {e : Expr} {m m' : Meaning} (h : Denotes env e m)
    (h' : Denotes env e m') : m = m' := by
  have hvisit := (visit_eq_ok_iff e.depth e m).mpr ⟨h, le_rfl⟩
  rw [(visit_eq_ok_iff e.depth e m').mpr ⟨h', le_rfl⟩] at hvisit
  exact (Except.ok.inj hvisit).symm

theorem denotes_plus_iff {left right : Expr} {span : Option Span} {c : Scalar} :
    Denotes env (.plus left right span) (.scalar c) ↔
      ∃ a b, Denotes env left (.scalar a) ∧ Denotes env right (.scalar b) ∧ add a b = .ok c := by
  constructor
  · intro h
    cases h with
    | plus _ hleft hright hsum => exact ⟨_, _, hleft, hright, hsum⟩
  · rintro ⟨a, b, hleft, hright, hsum⟩
    exact .plus span hleft hright hsum

/-- **A chain denotes what its operands come to.** -/
theorem denotes_chain_iff {c : Scalar}
    (hvalue : ∀ e, e ∈ operands first more → Denotes env e (.scalar (value e))) :
    Denotes env (chain first more) (.scalar c) ↔
      ChainValue ((operands first more).map value) c := by
  induction more using List.reverseRecOn generalizing c with
  | nil =>
      have hfirst : Denotes env first (.scalar (value first)) := hvalue first (by simp [operands])
      rw [operands, List.map_nil, List.map_singleton, chainValue_singleton_iff]
      constructor
      · intro h
        exact Meaning.scalar.inj (h.unique hfirst)
      · rintro rfl
        exact hfirst
  | append_singleton more x ih =>
      rw [operands_concat] at hvalue ⊢
      have hlast : Denotes env x.1 (.scalar (value x.1)) := hvalue x.1 (by simp)
      have ih {a : Scalar} := ih (c := a) fun e he => hvalue e (by simp [he])
      rw [List.map_append, List.map_singleton, chainValue_concat_iff (by simp [operands]),
        chain_concat, denotes_plus_iff]
      constructor
      · rintro ⟨a, b, ha, hb, hsum⟩
        obtain rfl := Meaning.scalar.inj (hb.unique hlast)
        exact ⟨a, ih.mp ha, hsum⟩
      · rintro ⟨a, ha, hsum⟩
        exact ⟨a, _, ih.mpr ha, hlast, hsum⟩

/-- A sum of values has the type of values. -/
theorem Ty.IsValue.sum {t u : Ty} (ht : t.IsValue) (hu : u.IsValue) : (t.sum u).IsValue := by
  rcases ht with rfl | rfl <;> rcases hu with rfl | rfl <;> simp [Ty.sum, Ty.IsValue]

/-- A chain of values has the type of values, also if it overruns. -/
theorem hasType_chain
    (hvalue : ∀ e, e ∈ operands first more → Denotes env e (.scalar (value e))) :
    ∃ t, t.IsValue ∧ HasType env (chain first more) t := by
  induction more using List.reverseRecOn with
  | nil =>
      have hfirst := (hvalue first (by simp [operands])).hasType
      exact ⟨_, scalarTy_isValue (value first), hfirst⟩
  | append_singleton more x ih =>
      rw [operands_concat] at hvalue
      have hlast := (hvalue x.1 (by simp)).hasType
      obtain ⟨t, ht, htype⟩ := ih fun e he => hvalue e (by simp [he])
      have hvalue := scalarTy_isValue (value x.1)
      rw [chain_concat]
      refine ⟨_, ?_, .plus x.2 htype hlast ht hvalue⟩
      exact ht.sum hvalue

/-- **Grouped in any way, texts are joined in their order.** -/
theorem Grouped.denotes {es : List Expr} {tree : Expr} {text : Expr → String}
    (h : Grouped es tree) (htext : ∀ e, e ∈ es → Denotes env e (.scalar (.text (text e)))) :
    Denotes env tree (.scalar (.text (String.join (es.map text)))) := by
  induction h with
  | operand e =>
      simpa using htext e (by simp)
  | @plus es fs left right span _ _ ihleft ihright =>
      rw [List.map_append, String.join_append]
      exact .plus span (ihleft fun e he => htext e (by simp [he]))
        (ihright fun e he => htext e (by simp [he])) rfl

/-- An expression has a value iff it denotes one and is not nested too deeply. -/
theorem evaluate_eq_success_iff {e : Expr} {a : Scalar} :
    evaluate e env = .ok (.success a) ↔ Denotes env e (.scalar a) ∧ e.depth ≤ depthLimit := by
  rw [← visit_eq_ok_iff, evaluate_eq_ok_iff]
  constructor
  · rintro (⟨b, hb, h⟩ | ⟨err, -, h⟩)
    · have hvalue : a.toValue = b.toValue := congrArg EvalResult.value h
      have ha : Scalar.ofValue? a.toValue = some a := ofValue?_eq_some_iff.mpr rfl
      obtain rfl := Option.some.inj (ha.symm.trans (ofValue?_eq_some_iff.mpr hvalue))
      exact hb
    · exact absurd (congrArg EvalResult.succeeded h) Bool.noConfusion
  · intro h
    exact Or.inl ⟨a, h, rfl⟩

/-- **The value of a chain.** If the operands of a chain have values and the chain is not nested
too deeply, then evaluation returns exactly what the operands come to: the sum from left to right
as long as there is no text, and from the first text on every value joined by its own text. And if
all operands are texts, every grouping of their sums has the same value, the texts in their
order. -/
theorem evaluate_chain (env : Environment) :
    (∀ (first : Expr) (more : List (Expr × Option Span)) (value : Expr → Scalar),
      (∀ e, e ∈ operands first more → evaluate e env = .ok (.success (value e))) →
      (chain first more).depth ≤ depthLimit →
      ∀ r, evaluate (chain first more) env = .ok r ↔
        ∃ a, ChainValue ((operands first more).map value) a ∧ r = .success a) ∧
    ∀ (es : List Expr) (tree other : Expr) (text : Expr → String),
      Grouped es tree → Grouped es other →
      (∀ e, e ∈ es → evaluate e env = .ok (.success (.text (text e)))) →
      tree.depth ≤ depthLimit → other.depth ≤ depthLimit →
      evaluate tree env = .ok (.success (.text (String.join (es.map text)))) ∧
        evaluate other env = evaluate tree env := by
  constructor
  · intro first more value hvalues hdepth r
    have hdenotes : ∀ e, e ∈ operands first more → Denotes env e (.scalar (value e)) :=
      fun e he => (evaluate_eq_success_iff.mp (hvalues e he)).1
    constructor
    · intro h
      rcases evaluate_eq_ok_iff.mp h with ⟨a, ha, rfl⟩ | ⟨err, herr, -⟩
      · have hchain := ((visit_eq_ok_iff _ _ _).mp ha).1
        exact ⟨a, (denotes_chain_iff hdenotes).mp hchain, rfl⟩
      · obtain ⟨t, ht, htype⟩ := hasType_chain hdenotes
        rw [htype.refusal_eq_none ht hdepth] at herr
        cases herr
    · rintro ⟨a, ha, rfl⟩
      exact evaluate_eq_success_iff.mpr ⟨(denotes_chain_iff hdenotes).mpr ha, hdepth⟩
  · intro es tree other text htree hother htexts hdepth hdepth'
    have hdenotes : ∀ e, e ∈ es → Denotes env e (.scalar (.text (text e))) :=
      fun e he => (evaluate_eq_success_iff.mp (htexts e he)).1
    have hvalue := evaluate_eq_success_iff.mpr ⟨htree.denotes hdenotes, hdepth⟩
    refine ⟨hvalue, ?_⟩
    rw [hvalue]
    exact evaluate_eq_success_iff.mpr ⟨hother.denotes hdenotes, hdepth'⟩

/-- In `1 + 2 + __dirname + 1 + 2.5` only the numbers in front of the text are added. The texts
of `("a" + "b") + __dirname` may be grouped the other way as well. -/
theorem numbers_behind_text_joined :
    let env := Environment.ofPaths "/r/a.js" "/r"
    let x : Double := .finite false 5629499534213120 (-51)
    let one := Expr.literal (.int 1) none
    let dirname := Expr.identifier (.str "__dirname") none
    let more : List (Expr × Option Span) := [(.literal (.int 2) none, none), (dirname, none),
      (one, none), (.literal (.float x) none, some ⟨0, 27⟩)]
    let a := Expr.literal (.str "a") none
    let b := Expr.literal (.str "b") none
    (chain one more).depth ≤ depthLimit ∧
    evaluate (chain one more) env = .ok (.success (.text "3/r12.5")) ∧
    evaluate (.plus (.plus a b none) dirname none) env = .ok (.success (.text "ab/r")) ∧
    evaluate (.plus a (.plus b dirname none) none) env =
      evaluate (.plus (.plus a b none) dirname none) env := by
  intro env x one dirname more a b
  let value (e : Expr) : Scalar := (evaluateOrFail e env).toOption.getD (.text "")
  let text : Expr → String := foundText env depthLimit
  have hdepth : (chain one more).depth ≤ depthLimit := by decide
  have hvalues : ∀ e, e ∈ operands one more → evaluate e env = .ok (.success (value e)) := by
    simp only [operands, more, List.map_cons, List.map_nil, List.forall_mem_cons]
    exact ⟨rfl, rfl, rfl, rfl, rfl, by simp⟩
  have hsum : IsSum ([.int 1] ++ [.int 2]) (.int 3) := .more (.one rfl) (.integers 1 2)
  have hlead : Leads [.int 1, .int 2] "3" := .sum hsum (by decide +kernel)
  have hone : (Scalar.int 1).joinedText? = some "1" := by decide +kernel
  have hx : (Scalar.float x).joinedText? = some "2.5" := by decide +kernel
  have hchain : ChainValue ((operands one more).map value) (.text "3/r12.5") :=
    .text hlead (.cons hone (.cons hx .nil))
  have htexts : ∀ e, e ∈ [a, b, dirname] → evaluate e env = .ok (.success (.text (text e))) := by
    simp only [List.forall_mem_cons]
    exact ⟨rfl, rfl, rfl, by simp⟩
  obtain ⟨hvalue, hgrouping⟩ := evaluate_chain env
  have hleft : Grouped [a, b, dirname] (.plus (.plus a b none) dirname none) :=
    .plus none (.plus none (.operand a) (.operand b)) (.operand dirname)
  have hright : Grouped [a, b, dirname] (.plus a (.plus b dirname none) none) :=
    .plus none (.operand a) (.plus none (.operand b) (.operand dirname))
  exact ⟨hdepth, (hvalue one more value hvalues hdepth _).mpr ⟨_, hchain, rfl⟩,
    hgrouping _ _ _ text hleft hright htexts (by decide) (by decide)⟩

end Chains

end Evaluation
end BuildTransform
