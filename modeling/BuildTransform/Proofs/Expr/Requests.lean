import BuildTransform.CallSite
import BuildTransform.Config.Standard
import BuildTransform.Proofs.Config.Flat
import BuildTransform.Proofs.Expr.Meaning
import BuildTransform.Proofs.Expr.RawText

/-!
# Requests for arguments

What the two ways of asking for the arguments of a call answer, whatever the call is.

* `Request.HasMode` says whether a request wants values or text, and `Request.UsesEnvironment`
  where its names get their values from.
* `mapM_valueOf_ok` and `mapM_valueOf_error` evaluate the arguments from left to right.
* `shownValues?_eq_none_iff` says which values cannot be recorded. Asking for all arguments
  fails at them, although each has been evaluated.
* `request_answered` puts together what is answered with evaluation on and off.
-/

namespace BuildTransform

/-- The value that unwrapping the outcome of an evaluation gives. -/
def unwrapped (e : Expr) (env : Environment) : Evaluated Value := do
  let r ← evaluate e env
  r.unwrap.mapError .refused

/-- An integer with more digits than can be written. -/
def Scalar.IsOverlong (v : Scalar) : Prop :=
  ∃ i, v = .int i ∧ 10 ^ Numeral.digitLimit ≤ i.natAbs

/-- **Unwrapping** gives the value of the expression or the error that refuses it. -/
theorem unwrapped_eq (e : Expr) (env : Environment) :
    unwrapped e env = (evaluateOrFail e env).map Scalar.toValue := by
  unfold unwrapped evaluate
  rcases evaluateOrFail e env with (err | _ | _ | _) | (s | i | d) <;> rfl

/-! ## Values that are recorded -/

section Shown

theorem Value.displayAll?_eq_none_iff {xs : List Value} :
    Value.displayAll? xs = none ↔ ∃ x, x ∈ xs ∧ x.display? = none := by
  induction xs with
  | nil => simp [Value.displayAll?]
  | cons x xs ih =>
      rw [Value.displayAll?]
      rcases hx : x.display? with _ | s
      · simp [hx]
      rcases hxs : Value.displayAll? xs with _ | ss
      · simpa [hx] using ih.mp hxs
      · simp_all

theorem Scalar.display?_toValue_eq_none_iff {v : Scalar} :
    v.toValue.display? = none ↔ v.IsOverlong := by
  cases v <;> simp [Scalar.toValue, Value.display?, Scalar.IsOverlong,
    Evaluation.intText?_eq_none_iff]

/-- Values are recorded unless one of them is overlong. -/
theorem CallSite.shownValues?_eq_none_iff {vs : List Scalar} :
    CallSite.shownValues? vs = none ↔ ∃ v, v ∈ vs ∧ v.IsOverlong := by
  simp [CallSite.shownValues?, Value.display?, Value.displayAll?_eq_none_iff,
    Scalar.display?_toValue_eq_none_iff]

end Shown

namespace CallSite

/-! ## Modes and environments -/

namespace Request

/-- What a request wants, values or text: its own wish comes before the options. -/
inductive HasMode [Platform] (r : Request) : Bool → Prop
  | wished {b : Bool} (h : r.evaluates = some b) :
      HasMode r b
  | ofOptions {o : Options} (hnone : r.evaluates = none)
      (ho : Options.ofInput r.options = .ok o) :
      HasMode r o.evaluates

/-- The environment of a request: the one that is given, or else that of its file. -/
inductive UsesEnvironment (w : Workspace) (r : Request) : Environment → Prop
  | given {env : Environment} (h : r.environment = some env) :
      UsesEnvironment w r env
  | ofFile {p : Path} (hnone : r.environment = none)
      (hp : w.resolve (Path.ofText r.file) = .ok p) :
      UsesEnvironment w r (Environment.ofPaths p.text p.parent.text)

section Request

variable {w : Workspace} {r : Request}

theorem HasMode.shouldEvaluate_eq [Platform] {b : Bool} (h : r.HasMode b) :
    r.shouldEvaluate = .ok b := by
  cases h with
  | wished h => rw [shouldEvaluate, h]
  | ofOptions hnone ho => simp only [shouldEvaluate, hnone, ho]

theorem UsesEnvironment.environmentIn_eq {env : Environment} (h : r.UsesEnvironment w env) :
    r.environmentIn w = .ok env := by
  cases h with
  | given h => rw [environmentIn, h]
  | ofFile hnone hp =>
      simp only [environmentIn, hnone, environmentFor, hp]
      rfl

end Request

end Request

/-! ## Values -/

section Values

variable {w : Workspace} {r : Request} {env : Environment} {es : List Expr} {vs : List Scalar}

theorem valueOf_eq (e : Expr) :
    valueOf env e = (evaluateOrFail e env).mapError .evaluation := by
  unfold valueOf
  cases evaluateOrFail e env <;> rfl

/-- Arguments that have values are evaluated to these, in their order. -/
theorem mapM_valueOf_ok (h : List.Forall₂ (fun e v => evaluateOrFail e env = .ok v) es vs) :
    es.mapM (valueOf env) = .ok vs :=
  Outcome.mapM_eq_ok_iff.mpr (h.imp fun e v he => by rw [valueOf_eq, he]; rfl)

/-- The first argument that has no value decides how evaluation fails. -/
theorem mapM_valueOf_error {before after : List Expr} {e : Expr} {f : EvalFailure}
    (hbefore : ∀ x, x ∈ before → ∃ v, evaluateOrFail x env = .ok v)
    (he : evaluateOrFail e env = .error f) :
    (before ++ e :: after).mapM (valueOf env) = .error (.evaluation f) := by
  induction before with
  | nil =>
      rw [List.nil_append, List.mapM_cons, valueOf_eq, he]
      rfl
  | cons x before ih =>
      obtain ⟨v, hv⟩ := hbefore x List.mem_cons_self
      have hrest := ih fun y hy => hbefore y (List.mem_cons_of_mem x hy)
      rw [List.cons_append, List.mapM_cons, valueOf_eq, hv, hrest]
      rfl

variable [Platform]

section On

variable (hes : argumentsOf r.form r.source = .ok es) (hmode : r.HasMode true)
  (henv : r.UsesEnvironment w env)

include hes hmode henv

/-- All arguments are evaluated, and then their values are recorded. -/
theorem callArguments_of_mode_true :
    callArguments w r = es.mapM (valueOf env) >>= fun vs =>
      match shownValues? vs with
      | some _ => .ok (.values vs)
      | none => .error (.evaluation .integerTooLong) := by
  simp only [callArguments, hes, hmode.shouldEvaluate_eq, henv.environmentIn_eq]
  rfl

/-- Values of which none is overlong are answered. -/
theorem callArguments_eq_values
    (hall : List.Forall₂ (fun e v => evaluateOrFail e env = .ok v) es vs)
    (hshort : ∀ v, v ∈ vs → ¬ v.IsOverlong) :
    callArguments w r = .ok (.values vs) := by
  rw [callArguments_of_mode_true hes hmode henv, mapM_valueOf_ok hall]
  have hshown : shownValues? vs ≠ none := by
    rw [Ne, shownValues?_eq_none_iff]
    rintro ⟨v, hv, hlong⟩
    exact hshort v hv hlong
  obtain ⟨s, hs⟩ := Option.ne_none_iff_exists'.mp hshown
  show (match shownValues? vs with | some _ => _ | none => _) = _
  rw [hs]

/-- With an overlong value among them nothing is answered. -/
theorem callArguments_of_overlong
    (hall : List.Forall₂ (fun e v => evaluateOrFail e env = .ok v) es vs)
    (hlong : ∃ v, v ∈ vs ∧ v.IsOverlong) :
    callArguments w r = .error (.evaluation .integerTooLong) := by
  rw [callArguments_of_mode_true hes hmode henv, mapM_valueOf_ok hall]
  show (match shownValues? vs with | some _ => _ | none => _) = _
  rw [shownValues?_eq_none_iff.mpr hlong]

/-- The first argument without a value decides how the request fails. -/
theorem callArguments_of_failing {before after : List Expr} {e : Expr} {f : EvalFailure}
    (hsplit : es = before ++ e :: after)
    (hbefore : ∀ x, x ∈ before → ∃ v, evaluateOrFail x env = .ok v)
    (he : evaluateOrFail e env = .error f) :
    callArguments w r = .error (.evaluation f) := by
  rw [callArguments_of_mode_true hes hmode henv, hsplit, mapM_valueOf_error hbefore he]
  rfl

/-- Of the arguments only the first is evaluated. -/
theorem callArgument_of_first {first : Expr} {rest : List Expr} (hsplit : es = first :: rest) :
    callArgument w r =
      ((evaluateOrFail first env).map fun v => .values [v]).mapError .evaluation := by
  subst hsplit
  simp only [callArgument, hes, hmode.shouldEvaluate_eq, henv.environmentIn_eq]
  show (valueOf env first >>= fun v => Except.ok (Arguments.values [v])) = _
  rw [valueOf_eq]
  cases evaluateOrFail first env <;> rfl

omit henv in
theorem callArgument_of_nil (hnil : es = []) : callArgument w r = .error .noArguments := by
  simp only [callArgument, hes, hmode.shouldEvaluate_eq, hnil]
  rfl

end On

/-- **What requests are answered.** With evaluation on, all values or the first failure, unless a
value is overlong, and for the first argument what its own evaluation gives. With evaluation off,
the text of the arguments, whatever the file, the environment and the values are. -/
theorem request_answered (w : Workspace) (r : Request) :
    (∀ es env, argumentsOf r.form r.source = .ok es → r.HasMode true →
      r.UsesEnvironment w env →
      (∀ vs, List.Forall₂ (fun e v => evaluateOrFail e env = .ok v) es vs →
        ((∀ v, v ∈ vs → ¬ v.IsOverlong) → callArguments w r = .ok (.values vs)) ∧
        ((∃ v, v ∈ vs ∧ v.IsOverlong) →
          callArguments w r = .error (.evaluation .integerTooLong))) ∧
      (∀ before e after f, es = before ++ e :: after →
        (∀ x, x ∈ before → ∃ v, evaluateOrFail x env = .ok v) → evaluateOrFail e env = .error f →
        callArguments w r = .error (.evaluation f)) ∧
      (∀ first rest, es = first :: rest →
        callArgument w r =
            ((evaluateOrFail first env).map fun v => .values [v]).mapError .evaluation ∧
          unwrapped first env = (evaluateOrFail first env).map Scalar.toValue) ∧
      (es = [] → callArgument w r = .error .noArguments)) ∧
    (r.HasMode false →
      (∀ source, r.source = some source →
        callArguments w r = (argumentSource r.form source).map .source ∧
        callArgument w r = (argumentSource r.form source).map .source) ∧
      (∀ es, argumentsOf r.form r.source = .ok es → r.source = none →
        callArguments w r = .error .sourceRequired ∧
        callArgument w r = .error .sourceRequired)) := by
  refine ⟨fun es env hes hmode henv => ⟨?values, ?failing, ?first, ?none⟩,
    fun hmode => ⟨?text, ?sourceless⟩⟩
  case values =>
    exact fun vs hall => ⟨callArguments_eq_values hes hmode henv hall,
      callArguments_of_overlong hes hmode henv hall⟩
  case failing => exact fun before e after f => callArguments_of_failing hes hmode henv
  case first =>
    exact fun first rest hsplit => ⟨callArgument_of_first hes hmode henv hsplit,
      unwrapped_eq first env⟩
  case none => exact callArgument_of_nil hes hmode
  case text =>
    exact fun source hsource => ⟨callArguments_eq hsource hmode.shouldEvaluate_eq,
      callArgument_eq hsource hmode.shouldEvaluate_eq⟩
  case sourceless =>
    intro es hes hnone
    have htext : r.rawText es = .error .sourceRequired := by rw [Request.rawText, hnone]
    constructor
    · simp only [callArguments, hes, hmode.shouldEvaluate_eq]
      exact htext
    · simp only [callArgument, hes, hmode.shouldEvaluate_eq]
      exact htext

end Values

section Require

/-- A request for arguments of `require` in a file at the root, with a wish for values or text
or with none. -/
def requestFor (arguments : List Expr) (wish : Option Bool) : Request where
  form := .tree (.call (.identifier (.str "require") none) arguments none)
  file := "/a.js"
  source := some "require(__filename, x)"
  options := .absent
  evaluates := wish
  environment := none

/-- The second argument has no value. That matters only where all arguments are evaluated. -/
theorem second_argument_unbound :
    let w := Workspace.flat []
    let env := Environment.ofPaths "/a.js" "/"
    let file := Expr.identifier (.str "__filename") (some ⟨8, 18⟩)
    let other := Expr.identifier (.str "x") (some ⟨20, 21⟩)
    let unbound : EvalFailure := .refused ⟨.unbound (.str "x") "x", some ⟨20, 21⟩⟩
    (requestFor [file, other] none).HasMode true ∧
      (requestFor [file, other] none).UsesEnvironment w env ∧
      callArguments w (requestFor [file] none) = .ok (.values [.text "/a.js"]) ∧
      callArguments w (requestFor [file, other] none) = .error (.evaluation unbound) ∧
      callArgument w (requestFor [file, other] none) = .ok (.values [.text "/a.js"]) ∧
      (requestFor [file, other] (some false)).HasMode false ∧
      callArguments w (requestFor [file, other] (some false)) = .ok (.source "__filename, x") ∧
      callArgument w (requestFor [file, other] (some false)) = .ok (.source "__filename, x") := by
  intro w env file other unbound
  have hresolve : w.resolve (Path.ofText "/a.js") = .ok ⟨.single, ["a.js"]⟩ := by
    have hpath : Path.ofText "/a.js" = (Manifest.below []).child "a.js" := by decide
    rw [hpath]
    exact Workspace.flat_resolve [] (by decide)
  have hpaths : Environment.ofPaths (Path.text ⟨.single, ["a.js"]⟩)
      (Path.text (Path.parent ⟨.single, ["a.js"]⟩)) = env := by
    decide
  have hon (arguments : List Expr) : (requestFor arguments none).HasMode true :=
    .ofOptions (o := Options.empty) rfl rfl
  have henv (arguments : List Expr) : (requestFor arguments none).UsesEnvironment w env :=
    hpaths ▸ .ofFile rfl hresolve
  have hoff : (requestFor [file, other] (some false)).HasMode false := .wished rfl
  have hfile : evaluateOrFail file env = .ok (.text "/a.js") := rfl
  have hother : evaluateOrFail other env = .error unbound := rfl
  obtain ⟨hvalues, -⟩ :=
    (request_answered w (requestFor [file] none)).1 [file] env rfl (hon _) (henv _)
  obtain ⟨-, hfailing, hfirst, -⟩ :=
    (request_answered w (requestFor [file, other] none)).1 [file, other] env rfl (hon _) (henv _)
  obtain ⟨hall, hone⟩ :=
    ((request_answered w (requestFor [file, other] (some false))).2 hoff).1 _ rfl
  refine ⟨hon _, henv _, ?_, ?_, ?_, hoff, ?_, ?_⟩
  · refine (hvalues _ (.cons hfile .nil)).1 fun v hv => ?_
    obtain rfl := List.mem_singleton.mp hv
    rintro ⟨i, hi, -⟩
    cases hi
  · exact hfailing [file] other [] unbound rfl (by simpa using ⟨_, hfile⟩) hother
  · rw [(hfirst _ _ rfl).1, hfile]
    rfl
  · rw [hall]
    rfl
  · rw [hone]
    rfl

theorem evaluateOrFail_sum {env : Environment} (i j : Int) :
    evaluateOrFail (.plus (.literal (.int i) none) (.literal (.int j) none) none) env =
      .ok (.int (i + j)) :=
  rfl

theorem isOverlong_pow {k : Nat} (hk : Numeral.digitLimit ≤ k) :
    (Scalar.int (10 ^ k)).IsOverlong := by
  refine ⟨_, rfl, ?_⟩
  rw [Int.natAbs_pow]
  exact Nat.pow_le_pow_right (by decide) hk

/-- The argument is a sum with 4301 digits. Asked for alone it is answered, but not when all
arguments are asked for. -/
theorem overlong_sum_not_recorded :
    let w : Workspace := ⟨FileTree.empty, [], none⟩
    let env := Environment.ofPaths "/r/a.js" "/r"
    let e := Expr.plus (.literal (.int (10 ^ 4300 - 1)) none) (.literal (.int 1) none) none
    let r : Request :=
      ⟨.tree (.call (.identifier (.str "require") none) [e] none), "a.js", none, .absent, none,
        some env⟩
    evaluateOrFail e env = .ok (.int (10 ^ 4300)) ∧
      callArgument w r = .ok (.values [.int (10 ^ 4300)]) ∧
      callArguments w r = .error (.evaluation .integerTooLong) := by
  intro w env e r
  have he : evaluateOrFail e env = .ok (.int (10 ^ 4300)) :=
    (evaluateOrFail_sum (10 ^ 4300 - 1) 1).trans (by rw [sub_add_cancel])
  have hmode : r.HasMode true := .ofOptions (o := Options.empty) rfl rfl
  have henv : r.UsesEnvironment w env := .given rfl
  refine ⟨he, ?_, ?_⟩
  · have hfirst : callArgument w r =
        ((evaluateOrFail e env).map fun v => Arguments.values [v]).mapError .evaluation :=
      callArgument_of_first rfl hmode henv rfl
    rw [hfirst, he]
    rfl
  · exact callArguments_of_overlong rfl hmode henv (.cons he .nil)
      ⟨_, List.mem_singleton_self _, isOverlong_pow (by decide)⟩

end Require

end CallSite
end BuildTransform
