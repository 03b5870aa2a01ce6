import BuildTransform.Expr.Evaluate
import BuildTransform.Proofs.Decimal.Range
import BuildTransform.Proofs.Outcome

/-!
# Meanings of expressions

What an expression stands for in an environment, said without a limit on
nesting and without an order of evaluation.

* `Denotes env e m` says that `e` stands for the meaning `m`.  It has one rule
  for each way in which an expression can get a meaning.
* `visit_eq_ok_iff` ties it to evaluation: evaluating with a budget yields `m`
  exactly if the expression denotes `m` and is no deeper than the budget.
* `evaluate_eq_ok_iff` and `evaluate_eq_error_iff` say what the outcome of a
  whole expression is; only an integer that is too large or too long escapes.
-/

namespace BuildTransform
namespace Evaluation

/-- The meanings of expressions in an environment. -/
inductive Denotes (env : Environment) : Expr → Meaning → Prop
  | literal (a : Scalar) (span : Option Span) :
      Denotes env (.literal a.toValue span) (.scalar a)
  | filename (span : Option Span) :
      Denotes env (.identifier (.str env.filenameName) span)
        (.scalar (.text env.filename))
  | dirname (span : Option Span)
      (hfile : env.dirnameName ≠ env.filenameName) :
      Denotes env (.identifier (.str env.dirnameName) span)
        (.scalar (.text env.dirname))
  | pathNamespace (span : Option Span)
      (hfile : env.joinAlias ≠ env.filenameName)
      (hdir : env.joinAlias ≠ env.dirnameName) :
      Denotes env (.identifier (.str env.joinAlias) span) .pathNamespace
  | member {object : Expr} (span : Option Span)
      (hobject : Denotes env object .pathNamespace) :
      Denotes env (.member object (.str "join") span) .joinFunction
  | plus {left right : Expr} {a b c : Scalar} (span : Option Span)
      (hleft : Denotes env left (.scalar a))
      (hright : Denotes env right (.scalar b))
      (hsum : add a b = .ok c) :
      Denotes env (.plus left right span) (.scalar c)
  | call {callee : Expr} {arguments : List Expr} (span : Option Span)
      (text : Expr → String)
      (hcallee : Denotes env callee .joinFunction)
      (hsome : arguments ≠ [])
      (harguments : ∀ e, e ∈ arguments →
        Denotes env e (.scalar (.text (text e)))) :
      Denotes env (.call callee arguments span)
        (.scalar (.text (Joined.join (arguments.map text))))

section Meaning

variable {env : Environment}

/-! ## Depth -/

theorem one_le_depth (e : Expr) : 1 ≤ e.depth := by
  cases e <;> simp [Expr.depth]

theorem depthAll_le_iff {n : Nat} :
    ∀ es : List Expr,
      Expr.depthAll es ≤ n ↔ ∀ e, e ∈ es → e.depth ≤ n
  | [] => by simp [Expr.depthAll]
  | e :: es => by
      simp [Expr.depthAll, depthAll_le_iff es]

/-! ## Single operations -/

theorem ofValue?_eq_some_iff {v : Value} {a : Scalar} :
    Scalar.ofValue? v = some a ↔ v = a.toValue := by
  cases v <;> cases a <;> simp [Scalar.ofValue?, Scalar.toValue]

theorem refuse_ne_ok {α : Type} (reason : EvalReason) (span : Option Span)
    (a : α) : refuse reason span ≠ .ok a := by
  simp [refuse]

/-- A refusal that has to be worded first is no success either. -/
theorem shown_refuse_ne_ok {α : Type} (s : Option String)
    (reason : String → EvalReason) (span : Option Span) (a : α) :
    (shown s >>= fun t => refuse (reason t) span) ≠ .ok a := by
  rw [Ne, Outcome.chain_eq_ok_iff]
  rintro ⟨t, -, h⟩
  exact refuse_ne_ok _ _ _ h

theorem literal_eq_ok_iff {v : Value} {span : Option Span} {m : Meaning} :
    literal v span = .ok m ↔ ∃ a : Scalar, v = a.toValue ∧ m = .scalar a := by
  simp only [← ofValue?_eq_some_iff]
  unfold literal
  cases Scalar.ofValue? v with
  | some a =>
      simp [eq_comm]
  | none =>
      simp [shown_refuse_ne_ok]

/-- A name is looked up by the rules for names. -/
theorem lookup_eq_ok_iff {name : Value} {span : Option Span} {m : Meaning} :
    lookup env name span = .ok m ↔ Denotes env (.identifier name span) m := by
  constructor
  · intro h
    cases name with
    | str t =>
        simp only [lookup, beq_iff_eq] at h
        split_ifs at h with hfile hdir halias
        · cases h
          subst hfile
          exact .filename span
        · cases h
          subst hdir
          exact .dirname span hfile
        · cases h
          subst halias
          exact .pathNamespace span hfile hdir
        · exact absurd h (shown_refuse_ne_ok _ _ _ _)
    | _ => exact absurd h (shown_refuse_ne_ok _ _ _ _)
  · intro h
    cases h with
    | filename => simp [lookup]
    | dirname _ hfile => simp [lookup, hfile]
    | pathNamespace _ hfile hdir => simp [lookup, hfile, hdir]

theorem member_eq_ok_iff {object m : Meaning} {property : Value}
    {span : Option Span} :
    member object property span = .ok m ↔
      object = .pathNamespace ∧ property = .str "join" ∧ m = .joinFunction := by
  unfold member
  split
  · simp [eq_comm]
  · next hno =>
      simp only [shown_refuse_ne_ok, false_iff]
      rintro ⟨rfl, rfl, -⟩
      exact hno rfl rfl

theorem plus_eq_ok_iff {l r m : Meaning} {span : Option Span} :
    plus l r span = .ok m ↔
      ∃ a b c, l = .scalar a ∧ r = .scalar b ∧ add a b = .ok c ∧
        m = .scalar c := by
  unfold plus
  split
  · next a b =>
      rw [Outcome.map_eq_ok_iff]
      simp [eq_comm]
  · next hno =>
      simp only [refuse_ne_ok, false_iff]
      rintro ⟨a, b, -, rfl, rfl, -⟩
      exact hno a b rfl rfl

theorem calleeOf_eq_ok_iff {callee : Evaluated Meaning} {span : Option Span}
    {u : Unit} :
    calleeOf callee span = .ok u ↔ callee = .ok .joinFunction := by
  unfold calleeOf
  split <;> simp_all [refuse]

theorem segmentOf_eq_ok_iff {m : Meaning} {span : Option Span} {s : String} :
    segmentOf env m span = .ok s ↔ m = .scalar (.text s) := by
  unfold segmentOf
  split
  · simp
  · next hno =>
      simp only [shown_refuse_ne_ok, false_iff]
      rintro rfl
      exact hno s rfl

/-! ## Sums beyond the range of numbers -/

/-- Failures that are no fault of an expression: a number beyond its range. -/
def IsOverrun (f : EvalFailure) : Prop :=
  f = .integerTooLarge ∨ f = .integerTooLong

/-- Sums that fail: an integer too large for a floating-point number is added to
one, or an integer with too many digits is joined to a text. -/
inductive SumExceeds : Scalar → Scalar → EvalFailure → Prop
  | int_float {i : Int} (d : Double)
      (hi : Double.overflowBound ≤ i.natAbs) :
      SumExceeds (.int i) (.float d) .integerTooLarge
  | float_int {i : Int} (d : Double)
      (hi : Double.overflowBound ≤ i.natAbs) :
      SumExceeds (.float d) (.int i) .integerTooLarge
  | int_text {i : Int} (s : String)
      (hi : 10 ^ Numeral.digitLimit ≤ i.natAbs) :
      SumExceeds (.int i) (.text s) .integerTooLong
  | text_int {i : Int} (s : String)
      (hi : 10 ^ Numeral.digitLimit ≤ i.natAbs) :
      SumExceeds (.text s) (.int i) .integerTooLong

theorem SumExceeds.isOverrun {a b : Scalar} {f : EvalFailure}
    (h : SumExceeds a b f) :
    IsOverrun f := by
  cases h with
  | int_float | float_int => exact Or.inl rfl
  | int_text | text_int => exact Or.inr rfl

theorem nearest_eq_error_iff {i : Int} {f : EvalFailure} :
    nearest i = .error f ↔
      Double.overflowBound ≤ i.natAbs ∧ f = .integerTooLarge := by
  rw [← Double.ofInt?_eq_none_iff]
  unfold nearest
  cases Double.ofInt? i <;> simp [eq_comm]

theorem intText?_eq_none_iff {i : Int} :
    Numeral.intText? i = none ↔ 10 ^ Numeral.digitLimit ≤ i.natAbs := by
  simp [Numeral.intText?, Numeral.withinLimit]

theorem shown_eq_error_iff {s : Option String} {f : EvalFailure} :
    shown s = .error f ↔ s = none ∧ f = .integerTooLong := by
  cases s <;> simp [shown, eq_comm]

@[simp] theorem joinedText_text (s : String) : joinedText (.text s) = .ok s :=
  rfl

@[simp] theorem joinedText_float (d : Double) :
    joinedText (.float d) = .ok (Layout.concatenated.text d) :=
  rfl

/-- An integer with too many digits has no text. -/
theorem joinedText_int_eq_error_iff {i : Int} {f : EvalFailure} :
    joinedText (.int i) = .error f ↔
      10 ^ Numeral.digitLimit ≤ i.natAbs ∧ f = .integerTooLong := by
  rw [joinedText, shown_eq_error_iff, Scalar.joinedText?, intText?_eq_none_iff]

/-- Exactly the sums beyond the range of numbers fail. -/
theorem add_eq_error_iff {a b : Scalar} {f : EvalFailure} :
    add a b = .error f ↔ SumExceeds a b f := by
  constructor
  · intro h
    cases a <;> cases b <;>
      simp [add, Outcome.map_eq_error_iff, Outcome.chain_eq_error_iff,
        nearest_eq_error_iff, joinedText_int_eq_error_iff] at h
    case text.int s j =>
      obtain ⟨hj, rfl⟩ := h
      exact .text_int s hj
    case int.text i s =>
      obtain ⟨hi, rfl⟩ := h
      exact .int_text s hi
    case int.float i y =>
      obtain ⟨hi, rfl⟩ := h
      exact .int_float y hi
    case float.int x j =>
      obtain ⟨hj, rfl⟩ := h
      exact .float_int x hj
  · intro h
    cases h with
    | int_float d hi =>
        exact Outcome.map_eq_error_iff.mpr (nearest_eq_error_iff.mpr ⟨hi, rfl⟩)
    | float_int d hi =>
        exact Outcome.map_eq_error_iff.mpr (nearest_eq_error_iff.mpr ⟨hi, rfl⟩)
    | int_text s hi =>
        exact Outcome.chain_eq_error_iff.mpr
          (Or.inl (joinedText_int_eq_error_iff.mpr ⟨hi, rfl⟩))
    | text_int s hi =>
        exact Outcome.chain_eq_error_iff.mpr (Or.inr ⟨s, rfl,
          Outcome.chain_eq_error_iff.mpr
            (Or.inl (joinedText_int_eq_error_iff.mpr ⟨hi, rfl⟩))⟩)

/-! ## Arguments -/

/-- The text of one argument of the join function. -/
def segment (env : Environment) (budget : Nat) (e : Expr) : Evaluated String :=
  visit env budget e >>= fun m => segmentOf env m e.span

theorem segment_eq_ok_iff {n : Nat} {e : Expr} {s : String} :
    segment env n e = .ok s ↔ visit env n e = .ok (.scalar (.text s)) := by
  unfold segment
  rw [Outcome.chain_eq_ok_iff]
  simp only [segmentOf_eq_ok_iff]
  simp

theorem visitSegments_cons {n : Nat} {e : Expr} {es : List Expr} :
    visitSegments env n (e :: es) =
      (segment env n e >>= fun s =>
        visitSegments env n es >>= fun rest => .ok (s :: rest)) := by
  simp only [visitSegments, segment, bind_assoc]

/-- The text that evaluation finds, empty if it finds none. -/
def foundText (env : Environment) (budget : Nat) (e : Expr) : String :=
  match visit env budget e with
  | .ok (.scalar (.text s)) => s
  | _ => ""

/-- Arguments have texts iff each of them stands for a text. -/
theorem visitSegments_eq_ok_iff {n : Nat} {ss : List String} :
    ∀ es : List Expr,
      visitSegments env n es = .ok ss ↔
        ∃ text : Expr → String,
          (∀ e, e ∈ es → visit env n e = .ok (.scalar (.text (text e)))) ∧
          ss = es.map text := by
  intro es
  constructor
  · intro h
    refine ⟨foundText env n, ?_⟩
    induction es generalizing ss with
    | nil =>
        cases h
        simp
    | cons e es ih =>
        rw [visitSegments_cons, Outcome.chain_eq_ok_iff] at h
        obtain ⟨s, hs, h⟩ := h
        rw [Outcome.chain_eq_ok_iff] at h
        obtain ⟨rest, hrest, h⟩ := h
        cases h
        rw [segment_eq_ok_iff] at hs
        obtain ⟨hall, rfl⟩ := ih hrest
        have hfound : foundText env n e = s := by
          simp [foundText, hs]
        refine ⟨?_, by simp [hfound]⟩
        intro x hx
        rcases List.mem_cons.mp hx with rfl | hx
        · rw [hfound, hs]
        · exact hall x hx
  · rintro ⟨text, hall, rfl⟩
    induction es with
    | nil => rfl
    | cons e es ih =>
        have he := hall e (by simp)
        have hes := ih (fun x hx => hall x (by simp [hx]))
        rw [← segment_eq_ok_iff] at he
        rw [visitSegments_cons, he, hes]
        rfl

/-- The first argument without a text decides how the arguments fail. -/
theorem visitSegments_eq_error_iff {n : Nat} {f : EvalFailure} :
    ∀ es : List Expr,
      visitSegments env n es = .error f ↔
        ∃ before e after, es = before ++ e :: after ∧
          (∀ x, x ∈ before → ∃ s, visit env n x = .ok (.scalar (.text s))) ∧
          segment env n e = .error f
  | [] => by
      simp [visitSegments]
  | e :: es => by
      rw [visitSegments_cons, Outcome.chain_eq_error_iff]
      simp only [Outcome.chain_eq_error_iff, visitSegments_eq_error_iff es,
        segment_eq_ok_iff]
      constructor
      · rintro (h | ⟨s, hs, ⟨before, x, after, rfl, hbefore, hx⟩ | ⟨_, _, h⟩⟩)
        · exact ⟨[], e, es, rfl, by simp, h⟩
        · refine ⟨e :: before, x, after, rfl, ?_, hx⟩
          intro y hy
          rcases List.mem_cons.mp hy with rfl | hy
          · exact ⟨s, hs⟩
          · exact hbefore y hy
        · cases h
      · rintro ⟨before, x, after, hes, hbefore, hx⟩
        cases before with
        | nil =>
            cases hes
            exact Or.inl hx
        | cons y before =>
            cases hes
            obtain ⟨s, hs⟩ := hbefore e (by simp)
            exact Or.inr ⟨s, hs, Or.inl ⟨before, x, after, rfl,
              fun z hz => hbefore z (by simp [hz]), hx⟩⟩

/-! ## Calls -/

/-- Calling the join function joins the texts of the arguments. -/
theorem visit_call_of_joinFunction {n : Nat} {callee : Expr}
    {arguments : List Expr} {span : Option Span}
    (hcallee : visit env n callee = .ok .joinFunction)
    (hsome : arguments ≠ []) :
    visit env (n + 1) (.call callee arguments span) =
      (visitSegments env n arguments).map fun ss =>
        .scalar (.text (Joined.join ss)) := by
  have hempty : arguments.isEmpty = false := by
    simpa using hsome
  simp only [visit, hcallee, calleeOf, hempty]
  cases visitSegments env n arguments <;> rfl

/-- A call has a meaning iff the join function is called with texts. -/
theorem visit_call_eq_ok_iff {n : Nat} {callee : Expr} {arguments : List Expr}
    {span : Option Span} {m : Meaning} :
    visit env (n + 1) (.call callee arguments span) = .ok m ↔
      visit env n callee = .ok .joinFunction ∧
      arguments ≠ [] ∧
      ∃ ss, visitSegments env n arguments = .ok ss ∧
        m = .scalar (.text (Joined.join ss)) := by
  simp only [visit, Outcome.chain_eq_ok_iff, calleeOf_eq_ok_iff]
  cases arguments with
  | nil =>
      simp [refuse]
  | cons e es =>
      simp only [List.isEmpty_cons, Bool.false_eq_true, if_false,
        Outcome.chain_eq_ok_iff]
      simp [eq_comm]

/-! ## Evaluation finds the meanings -/

/-- Evaluating with a budget yields exactly the meaning of an expression that
is no deeper than the budget. -/
theorem visit_eq_ok_iff (n : Nat) (e : Expr) (m : Meaning) :
    visit env n e = .ok m ↔ Denotes env e m ∧ e.depth ≤ n := by
  induction n generalizing e m with
  | zero =>
      have := one_le_depth e
      simp only [visit, reduceCtorEq, false_iff, not_and]
      omega
  | succ n ih =>
      cases e with
      | literal v span =>
          rw [visit, literal_eq_ok_iff]
          constructor
          · rintro ⟨a, rfl, rfl⟩
            exact ⟨.literal a span, by simp [Expr.depth]⟩
          · rintro ⟨h, -⟩
            cases h with
            | literal a => exact ⟨a, rfl, rfl⟩
      | identifier name span =>
          rw [visit, lookup_eq_ok_iff]
          simp [Expr.depth]
      | member object property span =>
          simp only [visit, Outcome.chain_eq_ok_iff, member_eq_ok_iff, ih,
            Expr.depth, Nat.add_le_add_iff_right]
          constructor
          · rintro ⟨_, ⟨hobject, hdepth⟩, rfl, rfl, rfl⟩
            exact ⟨.member span hobject, hdepth⟩
          · rintro ⟨h, hdepth⟩
            cases h with
            | member _ hobject => exact ⟨_, ⟨hobject, hdepth⟩, rfl, rfl, rfl⟩
      | plus left right span =>
          simp only [visit, Outcome.chain_eq_ok_iff, plus_eq_ok_iff, ih,
            Expr.depth, Nat.add_le_add_iff_right, Nat.max_le]
          constructor
          · rintro ⟨_, ⟨hleft, hl⟩, _, ⟨hright, hr⟩, a, b, c, rfl, rfl, hsum, rfl⟩
            exact ⟨.plus span hleft hright hsum, hl, hr⟩
          · rintro ⟨h, hl, hr⟩
            cases h with
            | @plus _ _ a b c _ hleft hright hsum =>
                exact ⟨_, ⟨hleft, hl⟩, _, ⟨hright, hr⟩, a, b, c,
                  rfl, rfl, hsum, rfl⟩
      | call callee arguments span =>
          rw [visit_call_eq_ok_iff, ih]
          simp only [Expr.depth, Nat.add_le_add_iff_right, Nat.max_le,
            depthAll_le_iff, visitSegments_eq_ok_iff]
          constructor
          · rintro ⟨⟨hcallee, hc⟩, hsome, _, ⟨text, htext, rfl⟩, rfl⟩
            exact ⟨.call span text hcallee hsome
              (fun e he => ((ih e _).mp (htext e he)).1), hc,
              (fun e he => ((ih e _).mp (htext e he)).2)⟩
          · rintro ⟨h, hc, has⟩
            cases h with
            | call _ text hcallee hsome harguments =>
                refine ⟨⟨hcallee, hc⟩, hsome, _, ⟨text, ?_, rfl⟩, rfl⟩
                intro e he
                exact (ih e _).mpr ⟨harguments e he, has e he⟩
      | unsupported kind span =>
          simp only [visit, shown_refuse_ne_ok, false_iff]
          rintro ⟨h, -⟩
          cases h
      | foreign v =>
          simp only [visit, refuse_ne_ok, false_iff]
          rintro ⟨h, -⟩
          cases h

/-! ## Enough budget -/

/-- Arguments that evaluate alike one by one have the same texts. -/
theorem visitSegments_congr {n k : Nat} {es : List Expr}
    (h : ∀ e, e ∈ es → visit env n e = visit env k e) :
    visitSegments env n es = visitSegments env k es := by
  induction es with
  | nil => rfl
  | cons e es ih =>
      rw [visitSegments_cons, visitSegments_cons, segment, segment, h e (by simp),
        ih fun x hx => h x (by simp [hx])]

/-- All budgets that reach down to every node are alike. -/
theorem visit_eq_of_depth_le {n k : Nat} {e : Expr}
    (hn : e.depth ≤ n)
    (hk : e.depth ≤ k) :
    visit env n e = visit env k e := by
  induction n generalizing k e with
  | zero =>
      have := one_le_depth e
      omega
  | succ n ih =>
      obtain ⟨k, rfl⟩ := Nat.exists_eq_add_of_le' ((one_le_depth e).trans hk)
      cases e with
      | member object property span =>
          simp only [Expr.depth, Nat.add_le_add_iff_right] at hn hk
          simp only [visit, ih hn hk]
      | plus left right span =>
          simp only [Expr.depth, Nat.add_le_add_iff_right, Nat.max_le] at hn hk
          simp only [visit, ih hn.1 hk.1, ih hn.2 hk.2]
      | call callee arguments span =>
          simp only [Expr.depth, Nat.add_le_add_iff_right, Nat.max_le,
            depthAll_le_iff] at hn hk
          have harguments : visitSegments env n arguments = visitSegments env k arguments :=
            visitSegments_congr fun e he => ih (hn.2 e he) (hk.2 e he)
          simp only [visit, ih hn.1 hk.1, harguments]
      | _ => simp only [visit]

/-! ## Whole expressions -/

/-- The error with which a whole expression is refused. -/
def refusal (e : Expr) : Evaluated Meaning → Option EvalError
  | .ok (.scalar _) => none
  | .ok .pathNamespace => some ⟨.notAValue "<path namespace>", e.span⟩
  | .ok .joinFunction => some ⟨.notAValue "<path.join>", e.span⟩
  | .error (.refused err) => some err
  | .error .depthExhausted => some ⟨.tooDeep, e.span⟩
  | .error _ => none

/-- The outcome is a scalar that was found or the error of the refusal. -/
theorem evaluate_eq_ok_iff {e : Expr} {r : EvalResult} :
    evaluate e env = .ok r ↔
      (∃ a, visit env depthLimit e = .ok (.scalar a) ∧ r = .success a) ∨
      ∃ err, refusal e (visit env depthLimit e) = some err ∧
        r = .failure err := by
  unfold evaluate evaluateOrFail
  rcases visit env depthLimit e with f | m
  · cases f <;>
      simp [rooted, refuse, refusal, bind, Except.bind, eq_comm]
  · cases m <;>
      simp [rooted, refuse, refusal, scalarOf, shown, Meaning.display?,
        bind, Except.bind, eq_comm]

/-- Nothing but an overrun escapes. -/
theorem evaluate_eq_error_iff {e : Expr} {f : EvalFailure} :
    evaluate e env = .error f ↔
      visit env depthLimit e = .error f ∧ IsOverrun f := by
  unfold evaluate evaluateOrFail
  rcases visit env depthLimit e with g | m
  · cases g <;> cases f <;>
      simp [rooted, refuse, IsOverrun, bind, Except.bind]
  · cases m <;>
      simp [rooted, refuse, scalarOf, shown, Meaning.display?,
        bind, Except.bind]

end Meaning

end Evaluation
end BuildTransform
