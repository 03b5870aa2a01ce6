import BuildTransform.Proofs.Script.Calls
import BuildTransform.Proofs.Script.Depth

/-!
# Arguments read again

The arguments of a call can be read from the same lexemes as arguments of another call.

* `Listed.agree` reads arguments with commas between them elsewhere.
* `Generates.agree` reads the only generator of a call as a generator in parentheses.
* `run_callOf_of_listed` makes a call of arguments that were read.
-/

namespace BuildTransform
namespace Script
namespace Grammar

/-! ## Cursors and lexemes -/

section Cursors

variable {c d : Cursor} {s : String} {w : List Lexeme}

theorem Cursor.Skips.lexemes (h : c.Skips s d) : c.lexemes = .symbol s :: d.lexemes := by
  obtain ⟨t, hrest, hsym, -⟩ := h
  rw [Cursor.lexemes, hrest, List.map_cons, hsym]
  rfl

theorem Cursor.exists_skips (h : c.lexemes = .symbol s :: w) :
    ∃ d, c.Skips s d ∧ d.lexemes = w := by
  obtain ⟨t, rest, hrest, ht, hw⟩ := Cursor.lexemes_eq_cons h
  exact ⟨⟨rest, t.stop⟩, ⟨t, hrest, ht, rfl⟩, hw⟩

theorem accept_of_skips (h : c.Skips s d) : (accept s).run c = some (true, d) := by
  obtain ⟨t, hrest, hsym, hlast⟩ := h
  exact (run_acceptOf_eq_true_iff rfl).mpr ⟨t, hrest, isSymbol_iff.mpr hsym, hlast⟩

theorem expect_of_skips (h : c.Skips s d) : (expect s).run c = some ((), d) :=
  run_expectOf_eq_some_iff.mpr (accept_of_skips h)

theorem advance_of_skips (h : c.Skips s d) : advance.run c = some ((), d) := by
  obtain ⟨t, hrest, -, hlast⟩ := h
  obtain ⟨rest, last⟩ := c
  obtain ⟨rest', last'⟩ := d
  cases hrest
  cases hlast
  rfl

theorem Cursor.length_lexemes : c.lexemes.length = c.rest.length :=
  List.length_map _

end Cursors

/-! ## Listed arguments -/

section Listed

variable {E : Setting} {b b' : Below} {u : List Lexeme} {c c' d e f : Cursor}
variable {items : List Argument} {callee : Node} {start bracket : Mark} {m : Nat}

/-- **Listed arguments are read elsewhere** in the same way, and they are balanced. -/
theorem Listed.agree (h : Inner E b b' u) (hlisted : Listed (argument b) c items d)
    (hc : c.lexemes = u ++ E.one) (hd : d.lexemes = E.one) (hc' : c'.lexemes = u ++ E.other) :
    Closes [] u ∧ ∃ items' d', Listed (argument b') c' items' d' ∧ d'.lexemes = E.other ∧
      List.Forall₂ AlikeArgument items items' := by
  have hone : E.one.length = d.rest.length := by rw [← hd, Cursor.length_lexemes]
  induction hlisted generalizing u c' with
  | @one c d a hitem =>
      obtain ⟨y, v, a', d', rfl, hy, hdv, hd', hrun, ha⟩ :=
        agree_argument h c c' a d hc hc' hitem (by omega)
      obtain rfl : v = [] := by
        rw [hd] at hdv
        exact List.self_eq_append_left.mp hdv
      rw [List.append_nil]
      exact ⟨hy, [a'], d', .one hrun, hd', .cons ha .nil⟩
  | @more c e f d a rest hitem hcomma hrest ih =>
      have hfd := hrest.reaches.length_le
      have hef := congrArg List.length hcomma.lexemes
      rw [List.length_cons, Cursor.length_lexemes, Cursor.length_lexemes] at hef
      obtain ⟨y, v, a', e', rfl, hy, hev, he', hrun, ha⟩ :=
        agree_argument h c c' a e hc hc' hitem (by omega)
      -- The comma is one of the lexemes, since all of `E.one` is behind it.
      obtain ⟨v, rfl⟩ : ∃ w, v = .symbol "," :: w := by
        cases v with
        | nil =>
            have hlength := congrArg List.length hev
            rw [List.nil_append, Cursor.length_lexemes] at hlength
            omega
        | cons l w =>
            rw [hcomma.lexemes] at hev
            exact ⟨w, by rw [(List.cons.inj hev).1]⟩
      rw [hcomma.lexemes, List.cons_append] at hev
      obtain ⟨f', hcomma', hf'⟩ := Cursor.exists_skips he'
      have hsuffix : v <:+ y ++ .symbol "," :: v :=
        (List.suffix_cons _ v).trans (List.suffix_append _ _)
      obtain ⟨hv, items', d', hitems, hd', halike⟩ :=
        ih (h.of_suffix hsuffix) (List.cons.inj hev).2 hd hf' hone
      exact ⟨hy.append (.plain (by decide) hv), a' :: items', d',
        .more hrun hcomma' hitems, hd', .cons ha halike⟩

/-- Arguments close no bracket that they do not open. -/
theorem Listed.closes (hlisted : Listed (argument (readers m)) c items d)
    (hc : c.lexemes = u ++ d.lexemes) (hclosing : IsClosing d.next) : Closes [] u := by
  rw [d.next_eq] at hclosing
  let E : Setting := ⟨d.lexemes, d.lexemes, hclosing, hclosing⟩
  have hinner : Inner E (readers m) (readers (2 * load u + 2)) u := inner_readers E m le_rfl
  exact (hlisted.agree hinner hc rfl hc).1

/-- No argument starts with a symbol that starts no operand. -/
theorem argument_next {a : Argument} {s : String}
    (hrun : (argument (readers m)).run c = some (a, d))
    (hs : s ∉ ["*", "**", "...", "(", "[", "\x7b", "+", "-", "~"]) :
    isSymbol c.next s = false := by
  have hstar {s' : String} (hs' : s' ∈ ["*", "**"]) (h : c.next = .symbol s) :
      isSymbol c.next s' = false := by
    rw [Bool.eq_false_iff, h]
    intro hsame
    obtain rfl := Lexeme.symbol.inj (isSymbol_iff.mp hsame)
    exact hs (List.mem_of_mem_take (i := 2) hs')
  rw [Bool.eq_false_iff]
  intro hnext
  have h := isSymbol_iff.mp hnext
  rw [argument, run_here_bind, accept, run_acceptOf_bind_of_false (hstar (by simp) h),
    if_neg Bool.false_ne_true, accept, run_acceptOf_bind_of_false (hstar (by simp) h),
    if_neg Bool.false_ne_true, run_bind_of_run run_nameThen, h] at hrun
  obtain ⟨n, e, hnamed, -⟩ := run_bind_eq_some_iff.mp hrun
  have hoperand := not_symbol_of_named (s := s)
    (fun hmem => hs (List.mem_of_mem_drop (i := 2) hmem)) hnamed
  rw [hoperand] at hnext
  cases hnext

/-- Listed arguments are read up to the closing parenthesis behind them. -/
theorem run_commaItems_of_listed {k : Nat} (h : Listed (argument (readers m)) c items d)
    (hclose : d.next = .symbol ")") (hk : c.rest.length < k) :
    (commaItems (argument (readers m)) ")" k).run c = some (items, d) := by
  induction h generalizing k with
  | @one c d a hitem =>
      obtain ⟨k, rfl⟩ : ∃ n, k = n + 1 := ⟨k - 1, by omega⟩
      rw [commaItems, nextIs, run_bind_of_run run_nextOf, argument_next hitem (by decide),
        if_neg Bool.false_ne_true, run_bind_of_run hitem, accept,
        run_acceptOf_bind_of_false (by rw [hclose]; rfl), if_neg Bool.false_ne_true,
        run_bind_of_run run_nextOf, hclose]
      rfl
  | @more c e f d a rest hitem hcomma hrest ih =>
      obtain ⟨k, rfl⟩ : ∃ n, k = n + 1 := ⟨k - 1, by omega⟩
      have hce := ((argument (readers m)).reaches hitem).length_le
      have hef := congrArg List.length hcomma.lexemes
      rw [List.length_cons, Cursor.length_lexemes, Cursor.length_lexemes] at hef
      rw [commaItems, nextIs, run_bind_of_run run_nextOf, argument_next hitem (by decide),
        if_neg Bool.false_ne_true, run_bind_of_run hitem, run_bind_of_run (accept_of_skips hcomma),
        if_pos rfl, run_bind_of_run (ih hclose (by omega))]
      rfl

theorem run_clauseNext_of_symbol {sym : String} (h : c.next = .symbol sym) :
    clauseNext.run c = some (false, c) := by
  rw [clauseNext, nextIsWord, run_bind_of_run run_nextOf, h]
  show (nextOf (isWord · "async") >>= _).run c = _
  rw [run_bind_of_run run_nextOf, h]
  rfl

/-- Behind its first argument a call goes on with the others. -/
theorem run_callBehind_of_run {first : Argument} {more : List Argument}
    (hmore : (moreItems (argument b) ")").run e = some (more, d)) (hclose : d.Skips ")" f)
    (hordered : wellOrdered (first :: more) = true)
    (hunnamed : (first :: more).any Argument.isKeyword = false) :
    (callBehind b callee start first).run e =
      some (.call callee ((first :: more).map Argument.node) false (placeBetween start f.last),
        f) := by
  rw [callBehind, run_bind_of_run hmore, run_bind_of_run (expect_of_skips hclose)]
  dsimp only
  rw [if_pos hordered, hunnamed, positionals_eq hunnamed]
  rfl

/-- **Arguments that are listed make a call.** -/
theorem run_callOf_of_listed (h : Listed (argument (readers m)) c items d)
    (hclose : d.Skips ")" f) (hordered : wellOrdered items = true)
    (hunnamed : items.any Argument.isKeyword = false) :
    (callOf (readers m) callee start bracket).run c =
      some (.call callee (items.map Argument.node) false (placeBetween start f.last), f) := by
  have hcall {first : Argument} {e : Cursor} {sym : String}
      (hfirst : (argument (readers m)).run c = some (first, e)) (hnext : e.next = .symbol sym) :
      (callOf (readers m) callee start bracket).run c =
        (callBehind (readers m) callee start first).run e := by
    rw [callOf, accept, run_acceptOf_bind_of_false (argument_next hfirst (by decide)),
      if_neg Bool.false_ne_true, run_bind_of_run hfirst,
      run_bind_of_run (run_clauseNext_of_symbol hnext)]
    cases first <;> rfl
  cases h with
  | one hitem =>
      rw [hcall hitem hclose.next]
      refine run_callBehind_of_run ?_ hclose hordered hunnamed
      rw [moreItems, accept, run_acceptOf_bind_of_false (by rw [hclose.next]; rfl)]
      rfl
  | more hitem hcomma hrest =>
      rw [hcall hitem hcomma.next]
      refine run_callBehind_of_run ?_ hclose hordered hunnamed
      rw [moreItems, run_bind_of_run (accept_of_skips hcomma), if_pos rfl, bound, run_bind_look]
      exact run_commaItems_of_listed hrest hclose.next (Nat.lt_succ_self _)

end Listed

/-! ## Generators -/

section Generators

variable {E : Setting} {b b' : Below} {u : List Lexeme} {c d e o inner : Cursor} {n source : Node}
variable {m : Nat}

theorem agree_generatorBody (h : Inner E b b' u) :
    Agree E 0 [] Alike u (generatorBody b) (generatorBody b') := by
  refine .bind (agree_named h) fun _ _ v hv _ => .clauseNext fun r => ?_
  exact .ite Iff.rfl (fun _ => agree_clauses (h.of_suffix hv)) fun _ => .failure

theorem isStarred_of_named (hrun : (named (readers m)).run c = some (n, d)) :
    isStarred n = false := by
  have hform := (formed_of_named hrun).form.2
  cases n <;> first | rfl | exact absurd rfl hform

theorem run_starNamed_of_named (hrun : (named (readers m)).run c = some (n, d)) :
    (starNamed (readers m)).run c = some (n, d) := by
  rw [starNamed, starredOr, run_here_bind, accept,
    run_acceptOf_bind_of_false (not_symbol_of_named (by decide) hrun)]
  exact hrun

/-- No symbol stands where a clause follows. -/
theorem not_symbol_of_clauseNext {s : String} (h : clauseNext.run c = some (true, c)) :
    isSymbol c.next s = false := by
  rw [Bool.eq_false_iff]
  intro hs
  rw [run_clauseNext_of_symbol (isSymbol_iff.mp hs)] at h
  cases h

/-- **A generator in parentheses is an operand.** -/
theorem Generates.run_primary (h : Generates (readers m) o inner source e d)
    (hend : Ends d.next) :
    (primary (readers m)).run o =
      some (.other "GeneratorExp" [source] (placeBetween o.start d.last), d) := by
  obtain ⟨x, f, hnamed, hrest⟩ := run_bind_eq_some_iff.mp h.body
  obtain ⟨r, g, hclause, hclauses⟩ := run_bind_eq_some_iff.mp hrest
  obtain rfl := stays_clauseNext _ _ _ hclause
  split_ifs at hclauses with hr
  · subst hr
    have hgroup : (groupRest (readers m) o.start x).run g =
        some (.other "GeneratorExp" [source] (placeBetween o.start d.last), d) := by
      rw [groupRest, accept, run_acceptOf_bind_of_false (not_symbol_of_clauseNext hclause),
        if_neg Bool.false_ne_true, isStarred_of_named hnamed, if_neg Bool.false_ne_true,
        run_bind_of_run hclause, if_pos rfl, comprehension, run_bind_of_run hclauses,
        run_bind_of_run (expect_of_skips h.closing)]
      rfl
    have hatom : (atom (readers m)).run o =
        some (.other "GeneratorExp" [source] (placeBetween o.start d.last), d) := by
      unfold atom peek
      rw [run_here_bind, run_bind_look, h.opening.next]
      show (advance >>= fun _ => parenthesized (readers m) o.start).run o = _
      rw [run_bind_of_run (advance_of_skips h.opening), parenthesized, accept,
        run_acceptOf_bind_of_false (not_symbol_of_named (by decide) hnamed),
        if_neg Bool.false_ne_true, nextIsWord, run_bind_of_run run_nextOf,
        not_yield_of_named hnamed, if_neg Bool.false_ne_true,
        run_bind_of_run (run_starNamed_of_named hnamed)]
      exact hgroup
    rw [primary, run_here_bind, run_bind_of_run hatom, bound, run_bind_look]
    exact run_trailers_of_ends hend
  · cases hclauses

/-- A generator in parentheses is an argument. -/
theorem Generates.run_argument (h : Generates (readers m) o inner source e d)
    (hnext : d.next = .symbol ")") :
    (argument (readers (m + 2))).run o =
      some (.positional (.other "GeneratorExp" [source] (placeBetween o.start d.last)), d) := by
  have hprimary := h.run_primary (Or.inr (Or.inr hnext))
  have hplain : Plain o.next := by
    rw [h.opening.next]
    refine ⟨fun _ _ => rfl, ?_⟩
    rintro s ⟨⟩
    rfl
  refine argument_of_named ?_ hnext
  rw [run_named_of_plain (by rw [h.opening.next]; rfl), run_expression_eq hplain, hprimary]
  intro n' d' hrun
  rw [hprimary] at hrun
  cases hrun
  exact Or.inr (Or.inr hnext)

/-- A generator closes no bracket that it does not open. -/
theorem Generates.closes (h : Generates (readers m) o inner source e d)
    (hc : inner.lexemes = u ++ e.lexemes) : Closes [] u := by
  have hclosing : IsClosing (e.lexemes.headD .finish) := by
    rw [h.closing.lexemes]
    exact Or.inr (Or.inr rfl)
  let E : Setting := ⟨e.lexemes, e.lexemes, hclosing, hclosing⟩
  have hinner : Inner E (readers m) (readers (2 * load u + 2)) u := inner_readers E m le_rfl
  obtain ⟨y, v, -, -, rfl, hy, hv, -⟩ :=
    agree_generatorBody hinner inner inner source e hc hc h.body
      (by rw [Nat.add_zero, Cursor.length_lexemes])
  obtain rfl : v = [] := List.self_eq_append_left.mp hv
  rwa [List.append_nil]

/-- **The only generator of a call is read elsewhere** as a generator in parentheses. -/
theorem Generates.agree {m' : Nat} {o' inner' : Cursor} {w : List Lexeme}
    (h : Generates (readers m) o inner source e d)
    (hinner : Inner E (readers m) (readers m') u) (hone : E.one = e.lexemes)
    (hc : inner.lexemes = u ++ E.one) (hopen : o'.Skips "(" inner')
    (hc' : inner'.lexemes = u ++ E.other) (hother : E.other = .symbol ")" :: .symbol ")" :: w) :
    ∃ n' d', Listed (argument (readers (m' + 2))) o' [.positional n'] d' ∧
      d'.lexemes = .symbol ")" :: w ∧
      Alike (.other "GeneratorExp" [source] (placeBetween o.start d.last)) n' := by
  have hlength : E.one.length = e.rest.length := by rw [hone, Cursor.length_lexemes]
  obtain ⟨y, v, source', e', rfl, -, hev, he', hrun, hsource⟩ :=
    agree_generatorBody hinner inner inner' source e hc hc' h.body (by omega)
  obtain rfl : v = [] := by
    rw [← hone] at hev
    exact List.self_eq_append_left.mp hev
  rw [List.nil_append, hother] at he'
  obtain ⟨d', hclose, hd'⟩ := Cursor.exists_skips he'
  have hnext : d'.next = .symbol ")" := by rw [d'.next_eq, hd']; rfl
  have hgenerates : Generates (readers m') o' inner' source' e' d' := ⟨hopen, hrun, hclose⟩
  exact ⟨_, d', .one (hgenerates.run_argument hnext), hd', .other (.cons hsource .nil)⟩

end Generators

/-! ## Texts that hold a call -/

section Whole

variable {m : Nat} {c d e : Cursor} {n : Node} {w : String} {items : List Argument}

/-- A name with a call behind it is an operand. -/
theorem run_primary_of_listed {t open_ : Token} {rest : List Token} {last : Mark}
    (ht : t.lexeme = .word w) (hw : reserved.contains w = false)
    (hopen : open_.lexeme = .symbol "(")
    (hlisted : Listed (argument (readers m)) ⟨rest, open_.stop⟩ items e)
    (hclose : e.Skips ")" d) (hend : Ends d.next) (hordered : wellOrdered items = true)
    (hunnamed : items.any Argument.isKeyword = false) :
    (primary (readers m)).run ⟨t :: open_ :: rest, last⟩ =
      some (.call (.name w (placeBetween t.start t.stop)) (items.map Argument.node) false
        (placeBetween t.start d.last), d) := by
  have hskips : (⟨open_ :: rest, t.stop⟩ : Cursor).Skips "(" ⟨rest, open_.stop⟩ :=
    ⟨open_, rfl, hopen, rfl⟩
  rw [primary, run_here_bind, run_bind_of_run (run_atom_name ht hw), bound, run_bind_look,
    trailers, run_here_bind, accept,
    run_acceptOf_bind_of_false (by rw [hskips.next]; rfl), if_neg Bool.false_ne_true,
    run_bind_of_run (accept_of_skips hskips), if_pos rfl,
    run_bind_of_run (run_callOf_of_listed hlisted hclose hordered hunnamed)]
  exact run_trailers_of_ends hend

theorem run_wholeExpression_of_expression {b : Below} (hrun : b.expression.run c = some (n, d))
    (hend : d.lexemes = [.newline, .finish]) (hstarred : isStarred n = false) :
    ∃ e, (wholeExpression b).run c = some (n, e) := by
  obtain ⟨t, rest, hrest, ht, hmore⟩ := Cursor.lexemes_eq_cons hend
  obtain ⟨t', _, rfl, ht', hnil⟩ := List.map_eq_cons_iff.mp hmore
  obtain rfl := List.map_eq_nil_iff.mp hnil
  obtain ⟨_, last⟩ := d
  cases hrest
  have htuple : (tupleOf b.expression endsLine).run c = some (n, ⟨[t, t'], last⟩) := by
    rw [tupleOf, run_here_bind, run_bind_of_run hrun, nextIs, run_bind_of_run run_nextOf, next_cons,
      ht, hstarred]
    rfl
  refine ⟨⟨[t'], t.stop⟩, ?_⟩
  obtain ⟨_, start, stop⟩ := t
  obtain ⟨_, start', stop'⟩ := t'
  subst ht
  subst ht'
  rw [wholeExpression, run_bind_of_run htuple]
  rfl

/-- **A name with a call behind it is a whole expression.** -/
theorem run_wholeExpression_of_listed {t open_ : Token} {rest : List Token} {p : Mark}
    (ht : t.lexeme = .word w) (hw : reserved.contains w = false)
    (hopen : open_.lexeme = .symbol "(")
    (hlisted : Listed (argument (readers m)) ⟨rest, open_.stop⟩ items e)
    (he : e.lexemes = [.symbol ")", .newline, .finish]) (hordered : wellOrdered items = true)
    (hunnamed : items.any Argument.isKeyword = false) :
    ∃ stop d, (wholeExpression (readers (m + 2))).run ⟨t :: open_ :: rest, p⟩ =
      some (.call (.name w (placeBetween t.start t.stop)) (items.map Argument.node) false
        (placeBetween t.start stop), d) := by
  obtain ⟨d, hclose, hd⟩ := Cursor.exists_skips he
  have hend : Ends d.next := Or.inl (by rw [d.next_eq, hd]; rfl)
  have hprimary : (primary (readers m)).run ⟨t :: open_ :: rest, p⟩ = _ :=
    run_primary_of_listed ht hw hopen hlisted hclose hend hordered hunnamed
  have hplain : Plain (⟨t :: open_ :: rest, p⟩ : Cursor).next := by
    rw [next_cons, ht]
    exact plain_of_name hw
  have hexpression := run_expression_eq hplain fun n d' hrun => by
    rw [hprimary] at hrun
    cases hrun
    exact hend
  obtain ⟨f, hwhole⟩ :=
    run_wholeExpression_of_expression (hexpression.trans hprimary) hd rfl
  exact ⟨d.last, f, hwhole⟩

end Whole

end Grammar
end Script
end BuildTransform
