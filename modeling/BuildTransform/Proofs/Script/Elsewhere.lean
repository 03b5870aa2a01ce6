import BuildTransform.Proofs.Expr.Alike
import BuildTransform.Proofs.Script.Agreement
import BuildTransform.Proofs.Script.Lexemes

/-!
# Expressions read elsewhere

Every form of expression is read from the same lexemes in the same way, wherever
they stand.

* `Inner` says of two families of readers for nested forms that they agree on all
  ends of some lexemes; `Nested` says so for what follows a lexeme, and `Outer` in
  addition for operands.
* There is one lemma for each form, which follows the way in which it is read.
-/

namespace BuildTransform
namespace Script
namespace Grammar

/-! ## Readers for nested forms -/

/-- The expressions in the templates among the lexemes are read in the same way. -/
def Templates (b b' : Below) (u : List Lexeme) : Prop :=
  ∀ raw body, .quotation (.template raw body) ∈ u → ∀ cs n, cs.length + 2 ≤ body.length →
    embeddedNode b cs = some n → ∃ n', embeddedNode b' cs = some n' ∧ Alike n n'

/-- The readers agree on every end of the lexemes. -/
structure Inner (E : Setting) (b b' : Below) (u : List Lexeme) : Prop where
  expression : ∀ v, v <:+ u → Agree E 0 [] Alike v b.expression b'.expression
  inversion : ∀ v, v <:+ u → Agree E 0 [] Alike v b.inversion b'.inversion
  factor : ∀ v, v <:+ u → Agree E 0 [] Alike v b.factor b'.factor
  templates : Templates b b' u

/-- The readers agree behind each lexeme that a form can hold. -/
structure Nested (E : Setting) (b b' : Below) (u : List Lexeme) : Prop where
  inner : ∀ l v, l :: v <:+ u → 0 < weight l → Inner E b b' v
  templates : Templates b b' u

/-- The readers agree behind each lexeme, and those of operands everywhere. -/
structure Outer (E : Setting) (b b' : Below) (u : List Lexeme) : Prop where
  nested : Nested E b b' u
  factor : ∀ v, v <:+ u → Agree E 0 [] Alike v b.factor b'.factor

section Below

variable {E : Setting} {b b' : Below} {u v : List Lexeme}

theorem Templates.of_suffix (h : Templates b b' u) (hv : v <:+ u) : Templates b b' v :=
  fun raw body hmem => h raw body (hv.subset hmem)

theorem Inner.of_suffix (h : Inner E b b' u) (hv : v <:+ u) : Inner E b b' v where
  expression w hw := h.expression w (hw.trans hv)
  inversion w hw := h.inversion w (hw.trans hv)
  factor w hw := h.factor w (hw.trans hv)
  templates := h.templates.of_suffix hv

theorem Nested.of_suffix (h : Nested E b b' u) (hv : v <:+ u) : Nested E b b' v where
  inner l w hw := h.inner l w (hw.trans hv)
  templates := h.templates.of_suffix hv

theorem Outer.of_suffix (h : Outer E b b' u) (hv : v <:+ u) : Outer E b b' v where
  nested := h.nested.of_suffix hv
  factor w hw := h.factor w (hw.trans hv)

theorem Inner.outer (h : Inner E b b' u) : Outer E b b' u where
  nested := ⟨fun _ _ hv _ => h.of_suffix ((List.suffix_cons _ _).trans hv), h.templates⟩
  factor := h.factor

/-- What follows a lexeme of some suffix. -/
theorem Nested.inner_of_eq {l : Lexeme} {w : List Lexeme} (h : Nested E b b' u)
    (hv : v <:+ u) (hw : v = l :: w) (hl : 0 < weight l) : Inner E b b' w :=
  h.inner l w (hw ▸ hv) hl

end Below

/-! ## Operators -/

section Operators

variable {E : Setting} {b b' : Below} {u : List Lexeme}

/-- The symbols of a level neither bracket a form nor end an argument. -/
theorem operatorIn_eq_some {ops : List (String × Operator)} {l : Lexeme} {o : Operator}
    (hops : ops ∈ levels)
    (hl : operatorIn ops l = some o) :
    IsPlain l ∧ ¬ IsClosing l := by
  have hall : ∀ ops, ops ∈ levels → ∀ q, q ∈ ops →
      IsPlain (.symbol q.1) ∧ q.1 ≠ "," ∧ q.1 ≠ ")" := by
    decide
  cases l with
  | symbol s =>
      obtain ⟨before, after, rfl, -⟩ := List.lookup_eq_some_iff.mp hl
      obtain ⟨hplain, hcomma, hclose⟩ := hall _ hops (s, o) (by simp)
      refine ⟨hplain, ?_⟩
      rintro (h | h | h)
      · cases h
      · exact hcomma (Lexeme.symbol.inj h)
      · exact hclose (Lexeme.symbol.inj h)
  | _ => cases hl

theorem agree_operatorOf {γ δ : Type} {k : Nat} {s : List String} {Q : γ → δ → Prop}
    {ops : List (String × Operator)}
    {f : Option Operator → Parse γ} {f' : Option Operator → Parse δ}
    (hops : ops ∈ levels)
    (hsome : ∀ l o v, u = l :: v → Agree E k s Q v (f (some o)) (f' (some o)))
    (hnone : Agree E k s Q u (f none) (f' none)) :
    Agree E k s Q u (operatorOf ops >>= f) (operatorOf ops >>= f') := by
  have hclosing (l : Lexeme) (hl : IsClosing l) : operatorIn ops l = none :=
    Option.eq_none_iff_forall_ne_some.mpr fun o ho => (operatorIn_eq_some hops ho).2 hl
  unfold operatorOf
  rw [bind_bind, bind_bind]
  refine .peek (fun l v hu => ?_) fun _ => ?_
  · cases hl : operatorIn ops l with
    | none => exact hnone
    | some o =>
        subst hu
        dsimp only
        rw [bind_bind, bind_bind]
        refine .advance (fun y => .plain (operatorIn_eq_some hops hl).1) ?_
        exact hsome l o v rfl
  · rw [hclosing _ E.closing_one, hclosing _ E.closing_other]
    exact hnone

theorem agree_chain {operand operand' : Parse Node} {ops : List (String × Operator)}
    {start start' : Mark} {left left' : Node}
    (hops : ops ∈ levels)
    (hoperand : ∀ v, v <:+ u → Agree E 0 [] Alike v operand operand')
    (hleft : Alike left left')
    (n n' : Nat)
    (hn' : u.length < n') :
    Agree E 0 [] Alike u (chain operand ops start n left)
      (chain operand' ops start' n' left') := by
  induction n' generalizing u n left left' with
  | zero => omega
  | succ n' ih =>
      cases n with
      | zero => exact .failure
      | succ n =>
          refine agree_operatorOf hops (fun l o v hu => ?_) (.pure hleft)
          have hvu : v <:+ u := hu ▸ List.suffix_cons l v
          refine .bind (hoperand v hvu) fun right right' w hw hright => ?_
          refine .place fun e e' => ?_
          have hlength : w.length < n' := by
            have hle := hw.length_le
            rw [hu, List.length_cons] at hn'
            omega
          exact ih (fun z hz => hoperand z (hz.trans (hw.trans hvu)))
            (.binary hleft hright) n hlength

theorem agree_binaryOf {ops : List (List (String × Operator))}
    (hops : ∀ level, level ∈ ops → level ∈ levels)
    (h : ∀ v, v <:+ u → Agree E 0 [] Alike v b.factor b'.factor) :
    Agree E 0 [] Alike u (binaryOf b ops) (binaryOf b' ops) := by
  induction ops generalizing u with
  | nil => exact h u List.suffix_rfl
  | cons level tighter ih =>
      have htighter (v : List Lexeme) (hv : v <:+ u) :
          Agree E 0 [] Alike v (binaryOf b tighter) (binaryOf b' tighter) :=
        ih (fun x hx => hops x (List.mem_cons_of_mem _ hx)) fun w hw => h w (hw.trans hv)
      refine .here fun m m' => .bind (htighter u List.suffix_rfl) fun left left' v hv hleft => ?_
      refine .bound fun n n' hn' => ?_
      exact agree_chain (hops level List.mem_cons_self)
        (fun w hw => htighter w (hw.trans hv)) hleft n n' hn'

theorem agree_binary (h : Outer E b b' u) :
    Agree E 0 [] Alike u (binary b) (binary b') :=
  agree_binaryOf (fun _ hlevel => hlevel) h.factor

theorem agree_comparisonOperator {γ δ : Type} {k : Nat} {s : List String} {Q : γ → δ → Prop}
    {f : Bool → Parse γ} {f' : Bool → Parse δ}
    (htrue : ∀ v, v <:+ u → Agree E k s Q v (f true) (f' true))
    (hfalse : Agree E k s Q u (f false) (f' false)) :
    Agree E k s Q u (comparisonOperator >>= f) (comparisonOperator >>= f') := by
  have hmove : ∀ l y, isRelation l = true → Closes s y → Closes s (l :: y) := by
    intro l y hl hy
    cases l with
    | symbol sym =>
        have hplain : ∀ sym, sym ∈ ["==", "!=", "<=", "<", ">=", ">"] →
            IsPlain (.symbol sym) := by
          decide
        exact .plain (hplain sym (List.contains_iff_mem.mp hl)) hy
    | _ => cases hl
  have hstops : E.Stops isRelation := by
    refine Setting.stops_of_closing ?_
    rintro l (rfl | rfl | rfl) <;> rfl
  unfold comparisonOperator
  simp only [bind_bind, ite_bind, pure_bind']
  refine .acceptOf (fun _ => hstops) hmove
    (fun l v hu _ => htrue v (hu ▸ List.suffix_cons l v)) ?_
  refine .acceptWord (fun v hu => htrue v (hu ▸ List.suffix_cons _ v)) ?_
  refine .acceptWord (fun v hu => ?_) ?_
  · have hvu : v <:+ u := hu ▸ List.suffix_cons _ v
    exact .acceptWord (fun w hw => htrue w ((hw ▸ List.suffix_cons _ w).trans hvu)) (htrue v hvu)
  · refine .next (fun _ => E.stops_word) (fun l v hu hl => ?_) fun _ => hfalse
    subst hu
    have hone : isWord (E.one.headD .finish) "in" = false := E.stops_word.1
    have hother : isWord (E.other.headD .finish) "in" = false := E.stops_word.2
    refine .peekSecond (fun l' w hv => .ite Iff.rfl (fun hin => ?_) fun _ => hfalse) fun _ => ?_
    · subst hv
      obtain rfl := isWord_iff.mp hl
      obtain rfl := isWord_iff.mp hin
      refine .advance (fun y => .plain trivial) (.advance (fun y => .plain trivial) ?_)
      exact htrue w ((List.suffix_cons _ w).trans (List.suffix_cons _ _))
    · rw [hone, hother]
      exact hfalse

theorem takes_comparisonOperator : TakesFor (· = true) comparisonOperator := by
  refine takesFor_acceptOf rfl (takesFor_acceptOf rfl (takesFor_acceptOf rfl ?_))
  refine .behind fun r => .ite (.behind fun l => .ite ?_ ?_) ?_
  · exact takes_advance.then
  · exact takesFor_pure (by simp)
  · exact takesFor_pure (by simp)

theorem agree_comparison (h : Outer E b b' u) :
    Agree E 0 [] Alike u (comparison b) (comparison b') := by
  refine .here fun m m' => .bind (agree_binary h) fun first first' v hv hfirst => ?_
  have hmore : Agree E 0 [] (List.Forall₂ Alike) v (whenever comparisonOperator (binary b))
      (whenever comparisonOperator (binary b')) := by
    refine .whenever (fun w hw => ?_) (Agree.takesFor_of_test takes_comparisonOperator)
    refine agree_comparisonOperator (fun z hz => ?_) (.pure .none)
    refine .bind (agree_binary (h.of_suffix (hz.trans (hw.trans hv)))) ?_
    exact fun a a' _ _ ha => .pure (.some ha)
  refine .bind hmore fun more more' w hw hmore => ?_
  refine .ite (Agree.isEmpty_iff hmore) (fun _ => .pure hfirst) fun _ => .place fun e e' => ?_
  exact .pure (.other (.cons hfirst hmore))

theorem agree_inversion (h : Outer E b b' u) :
    Agree E 0 [] Alike u (inversion b) (inversion b') := by
  refine .here fun m m' => .acceptWord (fun v hv => ?_) (agree_comparison h)
  have hinner := h.nested.inner_of_eq List.suffix_rfl hv (by decide)
  refine .bind (hinner.inversion v List.suffix_rfl) fun operand operand' w hw hoperand => ?_
  exact .place fun e e' => .pure (.unary hoperand)

theorem agree_logical {isOr : Bool} {word : String} {operand operand' : Parse Node}
    (h : ∀ v, v <:+ u → Agree E 0 [] Alike v operand operand') :
    Agree E 0 [] Alike u (logical isOr word operand) (logical isOr word operand') := by
  refine .here fun m m' => .bind (h u List.suffix_rfl) fun first first' v hv hfirst => ?_
  have hmore : Agree E 0 [] (List.Forall₂ Alike) v (whenever (acceptWord word) operand)
      (whenever (acceptWord word) operand') := by
    refine .whenever (fun w hw => ?_) (Agree.takesFor_of_test (takesFor_accepted rfl))
    refine .acceptWord (fun z hz => ?_) (.pure .none)
    refine .bind (h z ((hz ▸ List.suffix_cons _ z).trans (hw.trans hv))) ?_
    exact fun a a' _ _ ha => .pure (.some ha)
  refine .bind hmore fun more more' w hw hmore => ?_
  refine .ite (Agree.isEmpty_iff hmore) (fun _ => .pure hfirst) fun _ => .place fun e e' => ?_
  exact .pure (.logical (.cons hfirst hmore))

theorem agree_disjunction (h : Outer E b b' u) :
    Agree E 0 [] Alike u (disjunction b) (disjunction b') :=
  agree_logical fun _ hv => agree_logical fun _ hw => agree_inversion (h.of_suffix (hw.trans hv))

end Operators

/-! ## Functions and names -/

section Functions

variable {E : Setting} {b b' : Below} {u : List Lexeme}

theorem agree_parameterEnd : Agree E 1 [] (fun _ _ => True) u parameterEnd parameterEnd := by
  refine .of_ne_nil fun hu => ?_
  refine .accept (by decide) (fun h => absurd h hu) (fun _ _ => .pure trivial) ?_
  exact .next (fun h => absurd h hu) (fun _ _ _ _ => .pure trivial) fun _ => .failure

theorem agree_parameterDefault (h : Inner E b b' u) :
    Agree E 0 [] (· = ·) u (parameterDefault b) (parameterDefault b') := by
  refine .accept (by decide) (fun _ => E.stops_symbol (by decide) (by decide)) (fun v hv => ?_)
    (.pure rfl)
  have hvu : v <:+ u := hv ▸ List.suffix_cons _ v
  exact .bind (h.expression v hvu) fun _ _ _ _ _ => .pure rfl

/-- The end of parameters: a colon, which is not taken. -/
theorem agree_colonNext : Agree E 1 [] (fun _ _ => True) u
    (nextIs ":" >>= fun r => if r = true then pure () else failure)
    (nextIs ":" >>= fun r => if r = true then pure () else failure) :=
  .next (fun _ => E.stops_symbol (by decide) (by decide)) (fun _ _ _ _ => .pure trivial)
    fun _ => .failure

theorem agree_parameters (h : Inner E b b' u) (s : ParameterState) (n n' : Nat)
    (hn' : u.length < n') :
    Agree E 1 [] (fun _ _ => True) u (parameters b n s) (parameters b' n' s) := by
  induction n' generalizing u n s with
  | zero => omega
  | succ n' ih =>
      cases n with
      | zero => exact .failure
      | succ n =>
          have hrec {l : Lexeme} {v w : List Lexeme} (hv : u = l :: v) (hw : w <:+ v)
              (s : ParameterState) :
              Agree E 1 [] (fun _ _ => True) w (parameters b n s) (parameters b' n' s) := by
            have hvu : v <:+ u := hv ▸ List.suffix_cons l v
            have hlength := hw.length_le
            rw [hv, List.length_cons] at hn'
            exact ih (h.of_suffix (hw.trans hvu)) s n (by omega)
          have hstops {sym : String} (hcomma : "," ≠ sym) (hclose : ")" ≠ sym) :
              u = [] → E.Stops (isSymbol · sym) :=
            fun _ => E.stops_symbol hcomma hclose
          refine .next (hstops (by decide) (by decide)) (fun _ _ _ _ => ?_) fun _ => ?_
          · exact .of_true (.ite Iff.rfl (fun _ => .failure) fun _ => .pure trivial)
          refine .accept (by decide) (hstops (by decide) (by decide)) (fun v hv => ?_) ?_
          · refine .of_true (.ite Iff.rfl (fun _ => .failure) fun _ => .name fun w z hz => ?_)
            refine .of_ne_nil fun hne => .accept (by decide) (fun h => absurd h hne) ?_ ?_
            · exact fun _ _ => agree_colonNext
            · exact agree_colonNext
          refine .accept (by decide) (hstops (by decide) (by decide)) (fun v hv => ?_) ?_
          · refine .of_true (.ite Iff.rfl (fun _ => .failure) fun _ => ?_)
            refine .of_ne_nil fun hne => .accept (by decide) (fun h => absurd h hne) ?_ ?_
            · intro w hw
              exact hrec hv (hw ▸ List.suffix_cons _ w) _
            · refine .name fun w z hz => .bind agree_parameterEnd fun _ _ y hy _ => ?_
              exact hrec hv (hy.trans (hz ▸ List.suffix_cons _ z)) _
          refine .accept (by decide) (hstops (by decide) (by decide)) (fun v hv => ?_) ?_
          · refine .of_true (.ite Iff.rfl (fun _ => .failure) fun _ => ?_)
            exact .bind agree_parameterEnd fun _ _ y hy _ => hrec hv hy _
          · refine .name fun w v hv => ?_
            have hvu : v <:+ u := hv ▸ List.suffix_cons _ v
            have hdefault := (agree_parameterDefault (h.of_suffix hvu)).mono (Nat.zero_le 1)
            refine .bind hdefault fun r r' z hz hr => ?_
            subst hr
            refine .ite Iff.rfl (fun _ => .failure) fun _ => ?_
            exact .bind agree_parameterEnd fun _ _ y hy _ => hrec hv (hy.trans hz) _

theorem agree_function {m m' : Mark} (h : Inner E b b' u) :
    Agree E 0 [] Alike u (function b m) (function b' m') := by
  refine .bound fun n n' hn' => ?_
  refine .bind_before (agree_parameters h _ n n' hn') (fun _ => (takes_expect _).then) ?_
  intro _ _ v hv _
  refine .expect (by decide) fun w hw => ?_
  have hwu : w <:+ u := (hw ▸ List.suffix_cons _ w).trans hv
  refine .bind (h.expression w hwu) fun _ _ _ _ _ => .place fun e e' => ?_
  exact .pure (.other .nil)

theorem agree_expression (h : Outer E b b' u) :
    Agree E 0 [] Alike u (expression b) (expression b') := by
  refine .here fun m m' => .acceptWord (fun v hv => ?_) ?_
  · exact agree_function (h.nested.inner_of_eq List.suffix_rfl hv (by decide))
  · refine .bind (agree_disjunction h) fun yes yes' v hv hyes => ?_
    refine .acceptWord (fun w hw => ?_) (.pure hyes)
    have hinner := h.nested.inner_of_eq hv hw (by decide)
    refine .bind (agree_disjunction hinner.outer) fun test test' z hz htest => ?_
    refine .expectWord fun y hy => ?_
    have hyw : y <:+ w := (hy ▸ List.suffix_cons _ y).trans hz
    refine .bind (hinner.expression y hyw) fun no no' _ _ hno => ?_
    exact .place fun e e' => .pure (.choice htest hyes hno)

theorem agree_named (h : Inner E b b' u) :
    Agree E 0 [] Alike u (named b) (named b') := by
  refine .nameThen (by decide) (by decide) (fun w v hu => ?_) (h.expression u List.suffix_rfl)
  subst hu
  refine .here fun m m' => .advance (fun y => .plain trivial) ?_
  refine .advance (fun y => .plain (by decide)) ?_
  have hv : v <:+ .word w :: .symbol ":=" :: v :=
    (List.suffix_cons _ v).trans (List.suffix_cons _ _)
  refine .bind (h.expression v hv) fun value value' _ _ hvalue => ?_
  exact .place fun e e' => .pure (.other (.cons hvalue .nil))

theorem agree_starredOr {p p' : Parse Node} (h : Inner E b b' u)
    (hp : Agree E 0 [] Alike u p p') :
    Agree E 0 [] Alike u (starredOr b p) (starredOr b' p') := by
  refine .here fun m m' => .accept (by decide)
    (fun _ => E.stops_symbol (by decide) (by decide)) (fun v hv => ?_) hp
  have hvu : v <:+ u := hv ▸ List.suffix_cons _ v
  refine .bind (agree_binary (h.of_suffix hvu).outer) fun value value' _ _ hvalue => ?_
  exact .place fun e e' => .pure (.starred hvalue)

theorem agree_starNamed (h : Inner E b b' u) :
    Agree E 0 [] Alike u (starNamed b) (starNamed b') :=
  agree_starredOr h (agree_named h)

theorem agree_starExpression (h : Inner E b b' u) :
    Agree E 0 [] Alike u (starExpression b) (starExpression b') :=
  agree_starredOr h (h.expression u List.suffix_rfl)

end Functions

/-! ## Comprehensions -/

section Comprehensions

variable {E : Setting} {b b' : Below} {u : List Lexeme}

theorem agree_target (h : Inner E b b' u) :
    Agree E 0 [] (fun _ _ => True) u (target b) (target b') := by
  have htarget {v : List Lexeme} (hv : v <:+ u) :
      Agree E 0 [] (fun _ _ => True) v
        (b.factor >>= fun n => if assignable n = true then pure () else failure)
        (b'.factor >>= fun n => if assignable n = true then pure () else failure) := by
    refine .bind (h.factor v hv) fun n n' _ _ hn => ?_
    exact .ite (by rw [hn.assignable_eq]) (fun _ => .pure trivial) fun _ => .failure
  refine .accept (by decide) (fun _ => E.stops_symbol (by decide) (by decide)) ?_ ?_
  · exact fun v hv => htarget (hv ▸ List.suffix_cons _ v)
  · exact htarget List.suffix_rfl

theorem agree_targets (h : Inner E b b' u) (n n' : Nat) (hn' : u.length < n') :
    Agree E 1 [] (fun _ _ => True) u (targets b n) (targets b' n') := by
  induction n' generalizing u n with
  | zero => omega
  | succ n' ih =>
      cases n with
      | zero => exact .failure
      | succ n =>
          refine .bind ((agree_target h).mono (Nat.zero_le 1)) fun _ _ v hv _ => ?_
          refine .of_ne_nil fun hne => .accept (by decide) (fun h => absurd h hne) ?_ ?_
          · intro w hw
            have hwu : w <:+ u := (hw ▸ List.suffix_cons _ w).trans hv
            have hlength := hv.length_le
            rw [hw, List.length_cons] at hlength
            refine .of_true (.next (fun _ => E.stops_word) ?_ ?_)
            · exact fun _ _ _ _ => .pure trivial
            · exact fun _ => ih (h.of_suffix hwu) n (by omega)
          · exact .pure trivial

theorem agree_forClause (h : Inner E b b' u) :
    Agree E 0 [] Alike u (forClause b) (forClause b') := by
  refine .expectWord fun v hv => .bound fun n n' hn' => ?_
  have hvu : v <:+ u := hv ▸ List.suffix_cons _ v
  refine .bind_before (agree_targets (h.of_suffix hvu) n n' hn')
    (fun _ => (takes_expectWord _).then) ?_
  intro _ _ w hw _
  refine .expectWord fun z hz => ?_
  have hzu : z <:+ u := (hz ▸ List.suffix_cons _ z).trans (hw.trans hvu)
  refine .bind (agree_disjunction (h.of_suffix hzu).outer) fun source source' y hy hsource => ?_
  have hconditions : Agree E 0 [] (List.Forall₂ Alike) y
      (whenever (acceptWord "if") (disjunction b))
      (whenever (acceptWord "if") (disjunction b')) := by
    refine .whenever (fun x hx => ?_) (Agree.takesFor_of_test (takesFor_accepted rfl))
    refine .acceptWord (fun r hr => ?_) (.pure .none)
    have hru : r <:+ u := (hr ▸ List.suffix_cons _ r).trans (hx.trans (hy.trans hzu))
    refine .bind (agree_disjunction (h.of_suffix hru).outer) ?_
    exact fun a a' _ _ ha => .pure (.some ha)
  exact .bind hconditions fun _ _ _ _ _ => .pure hsource

theorem agree_clause (h : Inner E b b' u) :
    Agree E 0 [] Alike u (clause b) (clause b') := by
  refine .acceptWord (fun v hv => ?_) (agree_forClause h)
  exact agree_forClause (h.of_suffix (hv ▸ List.suffix_cons _ v))

theorem takes_clause : Takes (clause b) :=
  .behind fun _ => (takes_expectWord _).then

theorem agree_clauses (h : Inner E b b' u) :
    Agree E 0 [] Alike u (clauses b) (clauses b') := by
  refine .bind (agree_clause h) fun first first' v hv hfirst => ?_
  have hmore : Agree E 0 [] (List.Forall₂ Alike) v (whenever clauseNext (clause b))
      (whenever clauseNext (clause b')) := by
    refine .whenever (fun w hw => ?_) (Agree.takesFor_of_item takes_clause)
    refine .clauseNext fun r => ?_
    cases r with
    | true =>
        refine .bind (agree_clause (h.of_suffix (hw.trans hv))) ?_
        exact fun a a' _ _ ha => .pure (.some ha)
    | false => exact .pure .none
  exact .bind hmore fun _ _ _ _ _ => .pure hfirst

theorem agree_comprehension {close form : String} {m m' : Mark}
    (hclose : close ∈ brackets.map Prod.snd)
    (h : Inner E b b' u) :
    Agree E 0 [close] Alike u (comprehension b close form m) (comprehension b' close form m') := by
  refine .bind (agree_clauses h) fun source source' v hv hsource => ?_
  refine .expect_closing hclose fun w hw => .place fun e e' => ?_
  exact .pure (.other (.cons hsource .nil))

end Comprehensions

/-! ## Calls and subscripts -/

section Calls

variable {E : Setting} {b b' : Below} {u : List Lexeme}

/-- The arguments are passed in the same way, and their nodes are alike. -/
inductive AlikeArgument : Argument → Argument → Prop
  | positional {n n' : Node} (h : Alike n n') : AlikeArgument (.positional n) (.positional n')
  | unpacked {n n' : Node} (h : Alike n n') : AlikeArgument (.unpacked n) (.unpacked n')
  | keyword {n n' : Node} (h : Alike n n') : AlikeArgument (.keyword n) (.keyword n')
  | mapping {n n' : Node} (h : Alike n n') : AlikeArgument (.mapping n) (.mapping n')

theorem AlikeArgument.alike_node {a a' : Argument} (h : AlikeArgument a a') :
    Alike a.node a'.node := by
  cases h <;> assumption

theorem AlikeArgument.isPositional_eq {a a' : Argument} (h : AlikeArgument a a') :
    (!a.isPositional) = !a'.isPositional := by
  cases h <;> rfl

theorem AlikeArgument.isKeyword_eq {a a' : Argument} (h : AlikeArgument a a') :
    a.isKeyword = a'.isKeyword := by
  cases h <;> rfl

theorem alike_positionals {as as' : List Argument} (h : List.Forall₂ AlikeArgument as as') :
    List.Forall₂ Alike ((as.filter (!·.isKeyword)).map Argument.node)
      ((as'.filter (!·.isKeyword)).map Argument.node) := by
  induction h with
  | nil => exact .nil
  | cons ha _ ih =>
      simp only [List.filter_cons, ha.isKeyword_eq]
      split_ifs
      · exact .cons ha.alike_node ih
      · exact ih

theorem any_isKeyword_eq {as as' : List Argument} (h : List.Forall₂ AlikeArgument as as') :
    as.any Argument.isKeyword = as'.any Argument.isKeyword := by
  induction h with
  | nil => rfl
  | cons ha _ ih => simp only [List.any_cons, ha.isKeyword_eq, ih]

theorem all_eq {f : Argument → Bool} (hf : ∀ a a', AlikeArgument a a' → f a = f a')
    {as as' : List Argument} (h : List.Forall₂ AlikeArgument as as') :
    as.all f = as'.all f := by
  induction h with
  | nil => rfl
  | cons ha _ ih => simp only [List.all_cons, hf _ _ ha, ih]

theorem wellOrdered_eq {as as' : List Argument} (h : List.Forall₂ AlikeArgument as as') :
    wellOrdered as = wellOrdered as' := by
  induction h with
  | nil => rfl
  | cons ha hrest ih =>
      have hkeywords := all_eq (fun _ _ h => h.isKeyword_eq) hrest
      have hpositional := all_eq (fun _ _ h => h.isPositional_eq) hrest
      cases ha <;> simp [wellOrdered, Argument.isMapping, Argument.isKeyword, ih,
        hkeywords, hpositional]

theorem agree_argument (h : Inner E b b' u) :
    Agree E 0 [] AlikeArgument u (argument b) (argument b') := by
  have hstops {sym : String} (hcomma : "," ≠ sym) (hclose : ")" ≠ sym) :
      u = [] → E.Stops (isSymbol · sym) :=
    fun _ => E.stops_symbol hcomma hclose
  refine .here fun m m' => ?_
  refine .accept (by decide) (hstops (by decide) (by decide)) (fun v hv => ?_) ?_
  · have hvu : v <:+ u := hv ▸ List.suffix_cons _ v
    refine .bind (h.expression v hvu) fun n n' _ _ hn => .place fun e e' => ?_
    exact .pure (.unpacked (.starred hn))
  refine .accept (by decide) (hstops (by decide) (by decide)) (fun v hv => ?_) ?_
  · have hvu : v <:+ u := hv ▸ List.suffix_cons _ v
    exact .bind (h.expression v hvu) fun n n' _ _ hn => .pure (.mapping hn)
  refine .nameThen (by decide) (by decide) (fun w v hu => ?_) ?_
  · subst hu
    refine .advance (fun y => .plain trivial) (.advance (fun y => .plain (by decide)) ?_)
    have hv : v <:+ .word w :: .symbol "=" :: v :=
      (List.suffix_cons _ v).trans (List.suffix_cons _ _)
    exact .bind (h.expression v hv) fun n n' _ _ hn => .pure (.keyword hn)
  · exact .bind (agree_named h) fun n n' _ _ hn => .pure (.positional hn)

theorem takes_comprehension {close form : String} {m : Mark} :
    Takes (comprehension b close form m) :=
  .behind fun _ => (takes_expect _).then

theorem takes_callBehind {callee : Node} {start : Mark} {first : Argument} :
    Takes (callBehind b callee start first) :=
  .behind fun _ => (takes_expect _).then

theorem takes_callOf {callee : Node} {start bracket : Mark} :
    Takes (callOf b callee start bracket) := by
  refine takesFor_acceptOf rfl (.behind fun first => .behind fun generates => ?_)
  split
  · exact takes_comprehension.then
  · exact takes_callBehind

theorem agree_callBehind {callee callee' : Node} {start start' : Mark} {first first' : Argument}
    (hcallee : Alike callee callee')
    (hfirst : AlikeArgument first first')
    (h : Inner E b b' u) :
    Agree E 0 [")"] Alike u (callBehind b callee start first)
      (callBehind b' callee' start' first') := by
  have hmore : Agree E 1 [] (List.Forall₂ AlikeArgument) u (moreItems (argument b) ")")
      (moreItems (argument b') ")") :=
    .moreItems fun v hv => (agree_argument (h.of_suffix hv)).mono (Nat.zero_le 1)
  refine .bind_before hmore (fun _ => (takes_expect _).then) fun more more' v hv hmore => ?_
  have hall : List.Forall₂ AlikeArgument (first :: more) (first' :: more') :=
    .cons hfirst hmore
  refine .expect_closing (by decide) fun w hw => ?_
  refine .ite (by rw [wellOrdered_eq hall]) (fun _ => .place fun e e' => ?_) fun _ => .failure
  rw [any_isKeyword_eq hall]
  exact .pure (.call hcallee (alike_positionals hall))

theorem agree_callOf {callee callee' : Node} {start start' bracket bracket' : Mark}
    (hcallee : Alike callee callee')
    (h : Inner E b b' u) :
    Agree E 0 [")"] Alike u (callOf b callee start bracket)
      (callOf b' callee' start' bracket') := by
  refine .of_takes takes_callOf fun hu => ?_
  refine .accept_closing hu (by decide) (fun v hv => .place fun e e' => ?_) ?_
  · exact .pure (.call hcallee .nil)
  refine .bind (agree_argument h) fun first first' v hv hfirst => .clauseNext fun r => ?_
  have hcalled : Agree E 0 [")"] Alike v (callBehind b callee start first)
      (callBehind b' callee' start' first') :=
    agree_callBehind hcallee hfirst (h.of_suffix hv)
  cases hfirst with
  | positional hn =>
      cases r with
      | true =>
          refine .bind_closed (agree_comprehension (by decide) (h.of_suffix hv)) ?_
          intro generator generator' _ _ hgenerator
          exact .place fun e e' => .pure (.call hcallee (.cons hgenerator .nil))
      | false => exact hcalled
  | unpacked hn => exact hcalled
  | keyword hn => exact hcalled
  | mapping hn => exact hcalled

end Calls

end Grammar
end Script
end BuildTransform
