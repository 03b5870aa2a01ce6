import BuildTransform.Proofs.Expr.Meaning

/-!
# Types of expressions

A type tells of what sort the meaning of an expression is, without evaluating
the expression.

* `HasType` gives the rules.  Texts and numbers may be added, the path
  namespace has one member, and only its join function may be called.
* `Denotes.hasType` is soundness: a meaning is of the type of its expression.
* `HasType.denotes_or_overruns` is completeness: only an overrun keeps a typed
  expression from a meaning.
* `succeeds_iff_hasType` joins both: evaluation succeeds exactly on expressions
  whose type is that of a value, and the type tells texts from numbers.
-/

namespace BuildTransform
namespace Evaluation

/-- The sorts of meanings. -/
inductive Ty
  | text
  | number
  | pathNamespace
  | joinFunction
deriving DecidableEq, Repr

namespace Ty

/-- The meanings of the type are values. -/
def IsValue (t : Ty) : Prop :=
  t = .text ∨ t = .number

/-- The type of a sum: numbers are added, anything else is joined as texts. -/
def sum : Ty → Ty → Ty
  | .number, .number => .number
  | _, _ => .text

theorem sum_text_left (t : Ty) : sum .text t = .text := by
  cases t <;> rfl

theorem sum_text_right (t : Ty) : sum t .text = .text := by
  cases t <;> rfl

end Ty

/-- The types of expressions in an environment. -/
inductive HasType (env : Environment) : Expr → Ty → Prop
  | str (s : String) (span : Option Span) :
      HasType env (.literal (.str s) span) .text
  | int (i : Int) (span : Option Span) :
      HasType env (.literal (.int i) span) .number
  | float (d : Double) (span : Option Span) :
      HasType env (.literal (.float d) span) .number
  | filename (span : Option Span) :
      HasType env (.identifier (.str env.filenameName) span) .text
  | dirname (span : Option Span) :
      HasType env (.identifier (.str env.dirnameName) span) .text
  | pathNamespace (span : Option Span)
      (hfile : env.joinAlias ≠ env.filenameName)
      (hdir : env.joinAlias ≠ env.dirnameName) :
      HasType env (.identifier (.str env.joinAlias) span) .pathNamespace
  | member {object : Expr} (span : Option Span)
      (hobject : HasType env object .pathNamespace) :
      HasType env (.member object (.str "join") span) .joinFunction
  | plus {left right : Expr} {s t : Ty} (span : Option Span)
      (hleft : HasType env left s)
      (hright : HasType env right t)
      (hs : s.IsValue)
      (ht : t.IsValue) :
      HasType env (.plus left right span) (s.sum t)
  | call {callee : Expr} {arguments : List Expr} (span : Option Span)
      (hcallee : HasType env callee .joinFunction)
      (hsome : arguments ≠ [])
      (harguments : ∀ e, e ∈ arguments → HasType env e .text) :
      HasType env (.call callee arguments span) .text

/-- The type of a scalar. -/
def scalarTy : Scalar → Ty
  | .text _ => .text
  | .int _ => .number
  | .float _ => .number

/-- The type of a meaning. -/
def meaningTy : Meaning → Ty
  | .scalar a => scalarTy a
  | .pathNamespace => .pathNamespace
  | .joinFunction => .joinFunction

section Typing

variable {env : Environment}

/-- A name with a type is bound to a path or owns the join function. -/
theorem HasType.identifier_cases {n : String} {span : Option Span} {t : Ty}
    (h : HasType env (.identifier (.str n) span) t) :
    (t = .text ∧ (n = env.filenameName ∨ n = env.dirnameName)) ∨
    (t = .pathNamespace ∧ n ≠ env.filenameName ∧ n ≠ env.dirnameName) := by
  cases h with
  | filename => exact Or.inl ⟨rfl, Or.inl rfl⟩
  | dirname => exact Or.inl ⟨rfl, Or.inr rfl⟩
  | pathNamespace _ hfile hdir => exact Or.inr ⟨rfl, hfile, hdir⟩

/-- No expression has two types. -/
theorem HasType.unique {e : Expr} {s t : Ty}
    (hs : HasType env e s)
    (ht : HasType env e t) :
    s = t := by
  induction hs generalizing t with
  | str | int | float | call =>
      cases ht
      rfl
  | filename | dirname =>
      rcases ht.identifier_cases with ⟨rfl, -⟩ | ⟨-, hfile, hdir⟩
      · rfl
      · contradiction
  | pathNamespace span hfile hdir =>
      rcases ht.identifier_cases with ⟨-, h | h⟩ | ⟨rfl, -⟩
      · exact absurd h hfile
      · exact absurd h hdir
      · rfl
  | member =>
      cases ht
      rfl
  | plus span _ _ _ _ ihl ihr =>
      cases ht with
      | plus _ hl hr => rw [ihl hl, ihr hr]

/-- A sum with a text on either side joins two texts. -/
theorem add_of_text {a b : Scalar}
    (h : scalarTy a = .text ∨ scalarTy b = .text) :
    add a b =
      (joinedText a >>= fun s => joinedText b >>= fun t => .ok (.text (s ++ t))) := by
  cases a <;> cases b <;> simp [scalarTy] at h <;> simp only [add]

/-- A sum of numbers is a number. -/
theorem scalarTy_add_of_number {a b c : Scalar}
    (ha : scalarTy a = .number)
    (hb : scalarTy b = .number)
    (h : add a b = .ok c) :
    scalarTy c = .number := by
  cases a with
  | text => simp [scalarTy] at ha
  | int i =>
      cases b with
      | text => simp [scalarTy] at hb
      | int j =>
          cases h
          rfl
      | float y =>
          obtain ⟨x, -, rfl⟩ := Outcome.map_eq_ok_iff.mp h
          rfl
  | float x =>
      cases b with
      | text => simp [scalarTy] at hb
      | int j =>
          obtain ⟨y, -, rfl⟩ := Outcome.map_eq_ok_iff.mp h
          rfl
      | float y =>
          cases h
          rfl

theorem scalarTy_isValue (a : Scalar) : (scalarTy a).IsValue := by
  cases a <;> simp [scalarTy, Ty.IsValue]

/-- The sum of two scalars has the sum of their types. -/
theorem scalarTy_add {a b c : Scalar}
    (h : add a b = .ok c) :
    scalarTy c = (scalarTy a).sum (scalarTy b) := by
  by_cases htext : scalarTy a = .text ∨ scalarTy b = .text
  · rw [add_of_text htext] at h
    simp only [Outcome.chain_eq_ok_iff] at h
    obtain ⟨s, -, t, -, h⟩ := h
    cases h
    rcases htext with ha | hb
    · rw [ha, Ty.sum_text_left]
      rfl
    · rw [hb, Ty.sum_text_right]
      rfl
  · have ha : scalarTy a = .number :=
      (scalarTy_isValue a).resolve_left fun h => htext (Or.inl h)
    have hb : scalarTy b = .number :=
      (scalarTy_isValue b).resolve_left fun h => htext (Or.inr h)
    rw [scalarTy_add_of_number ha hb h, ha, hb]
    rfl

/-- A meaning of the type of values is a scalar. -/
theorem meaningTy_isValue_iff {m : Meaning} :
    (meaningTy m).IsValue ↔ ∃ a, m = .scalar a := by
  cases m with
  | scalar a => simp [meaningTy, scalarTy_isValue]
  | pathNamespace => simp [meaningTy, Ty.IsValue]
  | joinFunction => simp [meaningTy, Ty.IsValue]

theorem meaningTy_eq_text_iff {m : Meaning} :
    meaningTy m = .text ↔ ∃ s, m = .scalar (.text s) := by
  rcases m with (s | i | d) | _ | _ <;> simp [meaningTy, scalarTy]

theorem meaningTy_eq_pathNamespace_iff {m : Meaning} :
    meaningTy m = .pathNamespace ↔ m = .pathNamespace := by
  rcases m with (s | i | d) | _ | _ <;> simp [meaningTy, scalarTy]

theorem meaningTy_eq_joinFunction_iff {m : Meaning} :
    meaningTy m = .joinFunction ↔ m = .joinFunction := by
  rcases m with (s | i | d) | _ | _ <;> simp [meaningTy, scalarTy]

/-- A meaning is of the type of its expression. -/
theorem Denotes.hasType {e : Expr} {m : Meaning}
    (h : Denotes env e m) :
    HasType env e (meaningTy m) := by
  induction h with
  | literal a span =>
      cases a with
      | text s => exact .str s span
      | int i => exact .int i span
      | float d => exact .float d span
  | filename span => exact .filename span
  | dirname span _ => exact .dirname span
  | pathNamespace span hfile hdir => exact .pathNamespace span hfile hdir
  | member span _ ih => exact .member span ih
  | @plus _ _ a b c span _ _ hsum ihl ihr =>
      rw [meaningTy, scalarTy_add hsum]
      exact .plus span ihl ihr (scalarTy_isValue a) (scalarTy_isValue b)
  | call span text _ hsome _ ihc iha =>
      exact .call span ihc hsome iha

/-- Evaluation ends with an overrun whenever the budget suffices. -/
def Overruns (env : Environment) (e : Expr) : Prop :=
  ∀ n, e.depth ≤ n → ∃ f, visit env n e = .error f ∧ IsOverrun f

/-- Some budget is needed for any expression. -/
theorem overruns_of_succ {e : Expr}
    (h : ∀ n, e.depth ≤ n + 1 →
      ∃ f, visit env (n + 1) e = .error f ∧ IsOverrun f) :
    Overruns env e := by
  intro n hn
  cases n with
  | zero =>
      have := one_le_depth e
      omega
  | succ n => exact h n hn

/-- A member of the path namespace overruns only with its object. -/
theorem Overruns.member {object : Expr} {property : Value} {span : Option Span}
    (h : Overruns env object) :
    Overruns env (.member object property span) := by
  refine overruns_of_succ fun n hn => ?_
  simp only [Expr.depth, Nat.add_le_add_iff_right] at hn
  obtain ⟨f, hf, hoverrun⟩ := h n hn
  exact ⟨f, Outcome.chain_eq_error_iff.mpr (Or.inl hf), hoverrun⟩

/-- A left operand that overruns is never added. -/
theorem Overruns.plus_left {left right : Expr} {span : Option Span}
    (h : Overruns env left) :
    Overruns env (.plus left right span) := by
  refine overruns_of_succ fun n hn => ?_
  simp only [Expr.depth, Nat.add_le_add_iff_right, Nat.max_le] at hn
  obtain ⟨f, hf, hoverrun⟩ := h n hn.1
  exact ⟨f, Outcome.chain_eq_error_iff.mpr (Or.inl hf), hoverrun⟩

/-- A right operand that overruns is reached behind a left one with a meaning. -/
theorem Overruns.plus_right {left right : Expr} {span : Option Span} {m : Meaning}
    (hleft : Denotes env left m)
    (h : Overruns env right) :
    Overruns env (.plus left right span) := by
  refine overruns_of_succ fun n hn => ?_
  simp only [Expr.depth, Nat.add_le_add_iff_right, Nat.max_le] at hn
  obtain ⟨f, hf, hoverrun⟩ := h n hn.2
  have hl := (visit_eq_ok_iff n left m).mpr ⟨hleft, hn.1⟩
  refine ⟨f, Outcome.chain_eq_error_iff.mpr (Or.inr ⟨m, hl, ?_⟩), hoverrun⟩
  exact Outcome.chain_eq_error_iff.mpr (Or.inl hf)

/-- Two scalars have a sum, or their sum overruns. -/
theorem denotes_or_overruns_plus {left right : Expr} {a b : Scalar}
    (span : Option Span)
    (hleft : Denotes env left (.scalar a))
    (hright : Denotes env right (.scalar b)) :
    (∃ c, add a b = .ok c ∧ Denotes env (.plus left right span) (.scalar c)) ∨
    Overruns env (.plus left right span) := by
  cases hsum : add a b with
  | ok c =>
      exact Or.inl ⟨c, rfl, .plus span hleft hright hsum⟩
  | error f =>
      refine Or.inr (overruns_of_succ fun n hn => ?_)
      simp only [Expr.depth, Nat.add_le_add_iff_right, Nat.max_le] at hn
      have hl := (visit_eq_ok_iff n left _).mpr ⟨hleft, hn.1⟩
      have hr := (visit_eq_ok_iff n right _).mpr ⟨hright, hn.2⟩
      refine ⟨f, ?_, (add_eq_error_iff.mp hsum).isOverrun⟩
      simp [visit, hl, hr, plus, hsum, bind, Except.bind, Except.map]

/-- A callee that overruns is never called. -/
theorem Overruns.callee {callee : Expr} {arguments : List Expr}
    {span : Option Span}
    (h : Overruns env callee) :
    Overruns env (.call callee arguments span) := by
  refine overruns_of_succ fun n hn => ?_
  simp only [Expr.depth, Nat.add_le_add_iff_right, Nat.max_le] at hn
  obtain ⟨f, hf, hoverrun⟩ := h n hn.1
  refine ⟨f, Outcome.chain_eq_error_iff.mpr (Or.inl ?_), hoverrun⟩
  rw [hf]
  rcases hoverrun with rfl | rfl <;> rfl

/-- The first argument that does not denote a text overruns if every argument
denotes a text or overruns. -/
theorem overruns_call {callee : Expr} {arguments : List Expr}
    (span : Option Span)
    (hcallee : Denotes env callee .joinFunction)
    (harguments : ∀ e, e ∈ arguments →
      (∃ s, Denotes env e (.scalar (.text s))) ∨ Overruns env e)
    (hsome : ¬ ∀ e, e ∈ arguments → ∃ s, Denotes env e (.scalar (.text s))) :
    Overruns env (.call callee arguments span) := by
  refine overruns_of_succ fun n hn => ?_
  simp only [Expr.depth, Nat.add_le_add_iff_right, Nat.max_le,
    depthAll_le_iff] at hn
  have hc := (visit_eq_ok_iff n callee _).mpr ⟨hcallee, hn.1⟩
  have hne : arguments ≠ [] := by
    rintro rfl
    simp at hsome
  rw [visit_call_of_joinFunction hc hne]
  cases hss : visitSegments env n arguments with
  | ok ss =>
      obtain ⟨text, htext, -⟩ := (visitSegments_eq_ok_iff arguments).mp hss
      exact absurd
        (fun e he => ⟨text e, ((visit_eq_ok_iff n e _).mp (htext e he)).1⟩) hsome
  | error f =>
      refine ⟨f, rfl, ?_⟩
      obtain ⟨before, e, after, rfl, -, he⟩ :=
        (visitSegments_eq_error_iff arguments).mp hss
      have hmem : e ∈ before ++ e :: after := by simp
      rcases harguments e hmem with ⟨s, hs⟩ | hover
      · have hok := (visit_eq_ok_iff n e _).mpr ⟨hs, hn.2 e hmem⟩
        rw [segment_eq_ok_iff.mpr hok] at he
        cases he
      · obtain ⟨g, hg, hoverrun⟩ := hover n (hn.2 e hmem)
        rw [segment, hg] at he
        cases he
        exact hoverrun

/-- Only an overrun keeps a typed expression from a meaning of its type. -/
theorem HasType.denotes_or_overruns {e : Expr} {t : Ty}
    (h : HasType env e t) :
    (∃ m, Denotes env e m ∧ meaningTy m = t) ∨ Overruns env e := by
  induction h with
  | str s span => exact Or.inl ⟨_, .literal (.text s) span, rfl⟩
  | int i span => exact Or.inl ⟨_, .literal (.int i) span, rfl⟩
  | float d span => exact Or.inl ⟨_, .literal (.float d) span, rfl⟩
  | filename span => exact Or.inl ⟨_, .filename span, rfl⟩
  | dirname span =>
      by_cases hfile : env.dirnameName = env.filenameName
      · rw [hfile]
        exact Or.inl ⟨_, .filename span, rfl⟩
      · exact Or.inl ⟨_, .dirname span hfile, rfl⟩
  | pathNamespace span hfile hdir =>
      exact Or.inl ⟨_, .pathNamespace span hfile hdir, rfl⟩
  | member span _ ih =>
      rcases ih with ⟨m, hm, hty⟩ | hover
      · rw [meaningTy_eq_pathNamespace_iff] at hty
        subst hty
        exact Or.inl ⟨_, .member span hm, rfl⟩
      · exact Or.inr hover.member
  | plus span _ _ hs ht ihl ihr =>
      rcases ihl with ⟨l, hl, rfl⟩ | hover
      · rcases ihr with ⟨r, hr, rfl⟩ | hover
        · obtain ⟨a, rfl⟩ := meaningTy_isValue_iff.mp hs
          obtain ⟨b, rfl⟩ := meaningTy_isValue_iff.mp ht
          rcases denotes_or_overruns_plus span hl hr with ⟨c, hsum, hc⟩ | hover
          · exact Or.inl ⟨_, hc, scalarTy_add hsum⟩
          · exact Or.inr hover
        · exact Or.inr (.plus_right hl hover)
      · exact Or.inr hover.plus_left
  | @call callee arguments span _ hsome _ ihc iha =>
      rcases ihc with ⟨m, hm, hty⟩ | hover
      · rw [meaningTy_eq_joinFunction_iff] at hty
        subst hty
        have htexts : ∀ e, e ∈ arguments →
            (∃ s, Denotes env e (.scalar (.text s))) ∨ Overruns env e := by
          intro e he
          rcases iha e he with ⟨m, hm, hty⟩ | hover
          · obtain ⟨s, rfl⟩ := meaningTy_eq_text_iff.mp hty
            exact Or.inl ⟨s, hm⟩
          · exact Or.inr hover
        by_cases hall : ∀ e, e ∈ arguments →
            ∃ s, Denotes env e (.scalar (.text s))
        · choose! text htext using hall
          exact Or.inl ⟨_, .call span text hm hsome htext, rfl⟩
        · exact Or.inr (overruns_call span hm htexts hall)
      · exact Or.inr hover.callee

/-- An expression with the type of values is not refused. -/
theorem HasType.refusal_eq_none {e : Expr} {t : Ty}
    (h : HasType env e t)
    (ht : t.IsValue)
    (hdepth : e.depth ≤ depthLimit) :
    refusal e (visit env depthLimit e) = none := by
  rcases h.denotes_or_overruns with ⟨m, hm, rfl⟩ | hover
  · obtain ⟨a, rfl⟩ := meaningTy_isValue_iff.mp ht
    rw [(visit_eq_ok_iff _ _ _).mpr ⟨hm, hdepth⟩]
    rfl
  · obtain ⟨f, hf, rfl | rfl⟩ := hover depthLimit hdepth
    · rw [hf]
      rfl
    · rw [hf]
      rfl

theorem toValue_eq_str_iff {a : Scalar} :
    (∃ s, a.toValue = .str s) ↔ scalarTy a = .text := by
  cases a <;> simp [Scalar.toValue, scalarTy]

/-- **Evaluation succeeds exactly on the expressions that have the type of
values**, and the value is a text exactly if that type is the one of texts. -/
theorem succeeds_iff_hasType {e : Expr} {r : EvalResult}
    (hdepth : e.depth ≤ depthLimit)
    (h : evaluate e env = .ok r) :
    (r.succeeded = true ↔ HasType env e .text ∨ HasType env e .number) ∧
    (r.succeeded = true →
      ((∃ s, r.value = .str s) ↔ HasType env e .text)) := by
  rcases evaluate_eq_ok_iff.mp h with ⟨a, ha, rfl⟩ | ⟨err, herr, rfl⟩
  · have hty : HasType env e (scalarTy a) :=
      ((visit_eq_ok_iff _ _ _).mp ha).1.hasType
    constructor
    · simp only [EvalResult.success, true_iff]
      rcases scalarTy_isValue a with htext | hnumber
      · exact Or.inl (htext ▸ hty)
      · exact Or.inr (hnumber ▸ hty)
    · intro _
      rw [EvalResult.success, toValue_eq_str_iff]
      exact ⟨fun htext => htext ▸ hty, fun htext => hty.unique htext⟩
  · have hno : ∀ t : Ty, t.IsValue → ¬ HasType env e t := by
      intro t ht hty
      rw [hty.refusal_eq_none ht hdepth] at herr
      cases herr
    simp [EvalResult.failure, hno .text (Or.inl rfl), hno .number (Or.inr rfl)]

/-- Evaluation of `path.join(__dirname, "v" + 2)` below `/r`. -/
theorem joined_version_succeeds :
    let env := Environment.ofPaths "/r/a.js" "/r"
    let callee := Expr.member (.identifier (.str "path") none) (.str "join") none
    let version := Expr.plus (.literal (.str "v") none) (.literal (.int 2) none) none
    let e := Expr.call callee [.identifier (.str "__dirname") none, version] none
    let r := EvalResult.success (.text "/r/v2")
    e.depth ≤ depthLimit ∧ evaluate e env = .ok r ∧
      (r.succeeded = true ↔ HasType env e .text ∨ HasType env e .number) ∧
      (r.succeeded = true → ((∃ s, r.value = .str s) ↔ HasType env e .text)) := by
  intro env callee version e r
  have hcallee : Denotes env callee .joinFunction :=
    .member none (.pathNamespace none (by decide) (by decide))
  have htwo : joinedText (.int 2) = .ok "2" := by
    rw [joinedText, show (Scalar.int 2).joinedText? = some "2" by decide +kernel]
    rfl
  have hversion : Denotes env version (.scalar (.text "v2")) :=
    .plus none (.literal (.text "v") none) (.literal (.int 2) none)
      (by rw [add_of_text (Or.inl rfl), htwo]; rfl)
  have hdirname : Denotes env (.identifier (.str "__dirname") none)
      (.scalar (.text "/r")) :=
    .dirname none (by decide)
  have hjoin : Joined.join ["/r", "v2"] = "/r/v2" := by decide
  have he : Denotes env e (.scalar (.text "/r/v2")) := by
    rw [← hjoin]
    refine .call none (fun x => if x.kindName = "Identifier" then "/r" else "v2")
      hcallee (by simp) ?_
    simpa using ⟨hdirname, hversion⟩
  have hdepth : e.depth ≤ depthLimit := by decide
  have hr : evaluate e env = .ok r :=
    evaluate_eq_ok_iff.mpr
      (Or.inl ⟨_, (visit_eq_ok_iff _ _ _).mpr ⟨he, hdepth⟩, rfl⟩)
  exact ⟨hdepth, hr, succeeds_iff_hasType hdepth hr⟩

end Typing

end Evaluation
end BuildTransform
