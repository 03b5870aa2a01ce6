import BuildTransform.Proofs.Script.Forms

/-!
# Expressions that are one operand

An operand without operators around it is read by the readers of all levels alike.

* `Plain` says that no operator stands in front of an operand, and `Ends` that none follows
  it.
* `run_expression_eq` concludes that an expression is read there iff an operand is.
* `argument_of_named` reads an expression in parentheses as an argument.
-/

namespace BuildTransform
namespace Script
namespace Grammar

/-- The lexeme is no operator that stands in front of its operand. -/
def Plain (l : Lexeme) : Prop :=
  (∀ w, w ∈ ["lambda", "not", "await"] → isWord l w = false) ∧
    ∀ s, l = .symbol s → signs.lookup s = none

/-- No operator and no trailer starts with the lexeme. -/
def Ends (l : Lexeme) : Prop :=
  l = .newline ∨ l = .symbol "=" ∨ l = .symbol ")"

theorem Ends.isWord {l : Lexeme} {w : String} (h : Ends l) : isWord l w = false := by
  rcases h with rfl | rfl | rfl <;> rfl

theorem Ends.isSymbol {l : Lexeme} {s : String} (h : Ends l) (hequals : "=" ≠ s)
    (hclose : ")" ≠ s) : isSymbol l s = false := by
  rcases h with rfl | rfl | rfl
  · rfl
  · simpa [Grammar.isSymbol] using hequals
  · simpa [Grammar.isSymbol] using hclose

theorem Ends.operatorIn {l : Lexeme} {ops : List (String × Operator)} (h : Ends l)
    (hops : ops ∈ levels) : operatorIn ops l = none := by
  have hall : ∀ ops, ops ∈ levels → ops.lookup "=" = none ∧ ops.lookup ")" = none := by
    decide
  rcases h with rfl | rfl | rfl
  · rfl
  · exact (hall ops hops).1
  · exact (hall ops hops).2

/-! ## Readers that go on -/

section Idle

variable {α : Type} {c d : Cursor} {p : Parse Node} {n : Node} {b : Below}

/-- What follows a reader does nothing, if it does nothing behind all that was read. -/
theorem run_bind_idle {p : Parse α} {f : α → Parse α}
    (h : ∀ a d, p.run c = some (a, d) → (f a).run d = some (a, d)) :
    (p >>= f).run c = p.run c := by
  cases hp : p.run c with
  | none =>
      show (p.andThen f).run c = none
      simp only [Parse.andThen, hp]
  | some r => rw [run_bind_of_run hp, h r.1 r.2 hp]

theorem run_here_bind {f : Mark → Parse α} : (here >>= f).run c = (f c.start).run c :=
  rfl

theorem run_acceptOf_bind_of_false {kind : Lexeme → Bool} {f : Bool → Parse α}
    (h : kind c.next = false) : (acceptOf kind >>= f).run c = (f false).run c :=
  run_bind_of_run (run_acceptOf_of_false h)

/-- A repetition is empty if its test fails at once. -/
theorem run_whenever_of_false {test : Parse Bool} {p : Parse α}
    (h : test.run d = some (false, d)) : (whenever test p).run d = some ([], d) := by
  unfold whenever bound
  rw [run_bind_look, repeated]
  have hstep : (test >>= fun r => if r = true then p >>= fun a => pure (some a)
      else pure none).run d = some (none, d) := by
    rw [run_bind_of_run h]
    rfl
  rw [run_bind_of_run hstep]
  rfl

theorem run_chain_of_ends {operand : Parse Node} {ops : List (String × Operator)}
    {start : Mark} {k : Nat} (hops : ops ∈ levels) (hend : Ends d.next) :
    (chain operand ops start (k + 1) n).run d = some (n, d) := by
  have hnone : (operatorOf ops).run d = some (none, d) := by
    unfold operatorOf peek
    rw [run_bind_look, hend.operatorIn hops]
    rfl
  rw [chain, run_bind_of_run hnone]
  rfl

theorem run_binaryOf_eq {ops : List (List (String × Operator))}
    (hops : ∀ level, level ∈ ops → level ∈ levels)
    (hend : ∀ n d, b.factor.run c = some (n, d) → Ends d.next) :
    (binaryOf b ops).run c = b.factor.run c := by
  induction ops with
  | nil => rfl
  | cons level tighter ih =>
      have htighter := ih fun x hx => hops x (List.mem_cons_of_mem _ hx)
      rw [binaryOf, run_here_bind, ← htighter]
      refine run_bind_idle fun n d hrun => ?_
      rw [htighter] at hrun
      exact run_chain_of_ends (hops level List.mem_cons_self) (hend n d hrun)

theorem run_comparisonOperator_of_ends (hend : Ends d.next) :
    comparisonOperator.run d = some (false, d) := by
  have hrelation : isRelation d.next = false := by
    rcases hend with h | h | h <;> rw [h] <;> rfl
  have hnot : (nextIsWord "not").run d = some (false, d) :=
    run_nextOf.trans (by rw [hend.isWord])
  unfold comparisonOperator
  rw [run_acceptOf_bind_of_false hrelation, if_neg Bool.false_ne_true, acceptWord,
    run_acceptOf_bind_of_false hend.isWord, if_neg Bool.false_ne_true, acceptWord,
    run_acceptOf_bind_of_false hend.isWord, if_neg Bool.false_ne_true, run_bind_of_run hnot]
  rfl

/-- Behind its first operand a form is complete, if no other follows. -/
theorem run_alone {test : Parse Bool} {operand : Parse α} {node : List α → Parse Node}
    (h : test.run d = some (false, d)) :
    (whenever test operand >>= fun more =>
      if more.isEmpty = true then pure n else node more).run d = some (n, d) := by
  rw [run_bind_of_run (run_whenever_of_false h)]
  rfl

theorem run_inversion_eq (hplain : Plain c.next)
    (hend : ∀ n d, b.factor.run c = some (n, d) → Ends d.next) :
    (inversion b).run c = b.factor.run c := by
  have hbinary : (binary b).run c = b.factor.run c :=
    run_binaryOf_eq (fun _ hlevel => hlevel) hend
  rw [inversion, run_here_bind, acceptWord,
    run_acceptOf_bind_of_false (hplain.1 "not" (by simp)), if_neg Bool.false_ne_true,
    comparison, run_here_bind, ← hbinary]
  refine run_bind_idle fun n d hrun => ?_
  rw [hbinary] at hrun
  exact run_alone (run_comparisonOperator_of_ends (hend n d hrun))

theorem run_logical_eq {isOr : Bool} {word : String} {operand : Parse Node}
    (hend : ∀ n d, operand.run c = some (n, d) → Ends d.next) :
    (logical isOr word operand).run c = operand.run c :=
  run_bind_idle fun n d hrun => run_alone (run_acceptOf_of_false (hend n d hrun).isWord)

/-- An expression is read like an operand with signs, if no operator follows it. -/
theorem run_expression_of_factor (hplain : Plain c.next)
    (hend : ∀ n d, b.factor.run c = some (n, d) → Ends d.next) :
    (expression b).run c = b.factor.run c := by
  have hinversion := run_inversion_eq hplain hend
  have hand : (logical false "and" (inversion b)).run c = b.factor.run c := by
    rw [run_logical_eq (by rwa [hinversion]), hinversion]
  have hor : (disjunction b).run c = b.factor.run c := by
    rw [disjunction, run_logical_eq (by rwa [hand]), hand]
  rw [expression, run_here_bind, acceptWord,
    run_acceptOf_bind_of_false (hplain.1 "lambda" (by simp)), if_neg Bool.false_ne_true, ← hor]
  refine run_bind_idle fun n d hrun => ?_
  rw [hor] at hrun
  rw [acceptWord, run_acceptOf_bind_of_false (hend n d hrun).isWord]
  rfl

theorem run_factor_eq (hplain : Plain c.next)
    (hend : ∀ n d, (primary b).run c = some (n, d) → Ends d.next) :
    (factor b).run c = (primary b).run c := by
  have hawaited : (awaited b).run c = (primary b).run c := by
    rw [awaited, run_here_bind, acceptWord,
      run_acceptOf_bind_of_false (hplain.1 "await" (by simp))]
    rfl
  have hpower : (power b).run c = (primary b).run c := by
    rw [power, run_here_bind, ← hawaited]
    refine run_bind_idle fun n d hrun => ?_
    rw [hawaited] at hrun
    rw [accept, run_acceptOf_bind_of_false ((hend n d hrun).isSymbol (by decide) (by decide))]
    rfl
  unfold factor peek
  rw [run_here_bind, run_bind_look]
  split
  · rename_i s hs
    rw [hplain.2 s hs]
    exact hpower
  · exact hpower

end Idle

/-- **An expression is read like an operand**, if no operator stands around it. -/
theorem run_expression_eq {m : Nat} {c : Cursor} (hplain : Plain c.next)
    (hend : ∀ n d, (primary (readers m)).run c = some (n, d) → Ends d.next) :
    (readers (m + 2)).expression.run c = (primary (readers m)).run c := by
  have hfactor : (factor (readers m)).run c = (primary (readers m)).run c :=
    run_factor_eq hplain hend
  have hexpression : (expression (readers (m + 1))).run c = (factor (readers m)).run c :=
    run_expression_of_factor hplain fun n d hrun => hend n d (hfactor ▸ hrun)
  exact hexpression.trans hfactor

/-- At any depth, what is read there is an operand. -/
theorem exists_primary {m : Nat} {c d : Cursor} {n : Node} (hplain : Plain c.next)
    (hend : ∀ b n d, (primary b).run c = some (n, d) → Ends d.next)
    (hrun : (readers m).expression.run c = some (n, d)) :
    ∃ b, (primary b).run c = some (n, d) := by
  match m with
  | 0 => cases hrun
  | 1 =>
      have hfailure : (expression (readers 0)).run c = (readers 0).factor.run c :=
        run_expression_of_factor hplain fun n d hrun => by cases hrun
      have hnone := hfailure.symm.trans hrun
      cases hnone
  | m + 2 =>
      rw [run_expression_eq hplain (hend _)] at hrun
      exact ⟨_, hrun⟩

/-! ## Arguments -/

section Arguments

variable {b : Below} {m : Nat} {c d : Cursor} {n : Node}

theorem run_nameThen {s : String} :
    (nameThen s).run c = some (isName c.next && isSymbol c.second s, c) := by
  rw [nameThen, nextIsName, run_bind_of_run run_nextOf]
  cases isName c.next <;> rfl

/-- Without a name to bind, a plain expression is read. -/
theorem run_named_of_plain (h : (isName c.next && isSymbol c.second ":=") = false) :
    (named b).run c = b.expression.run c := by
  rw [named, run_bind_of_run run_nameThen, h]
  rfl

/-- Nothing is read where no operand is. -/
theorem run_named_eq_none (hplain : Plain c.next) (hname : isName c.next = false)
    (hatom : ∀ b, (atom b).run c = none) : (named (readers m)).run c = none := by
  have hprimary (b : Below) (r : Node × Cursor) : (primary b).run c ≠ some r := by
    intro hrun
    obtain ⟨_, _, hhere, hrun⟩ := run_bind_eq_some_iff.mp hrun
    cases hhere
    obtain ⟨a, e, ha, -⟩ := run_bind_eq_some_iff.mp hrun
    rw [hatom] at ha
    cases ha
  rw [run_named_of_plain (by rw [hname]; rfl), Option.eq_none_iff_forall_ne_some]
  intro r hrun
  obtain ⟨b, hb⟩ := exists_primary hplain (fun b n d hrun => absurd hrun (hprimary b _)) hrun
  exact hprimary b _ hb

theorem run_atom_symbol {s : String} (h : c.next = .symbol s)
    (hs : s ∉ ["...", "(", "[", "\x7b"]) : (atom b).run c = none := by
  unfold atom peek
  rw [run_here_bind, run_bind_look, h]
  split
  all_goals simp_all

theorem run_atom_yield (h : c.next = .word "yield") : (atom b).run c = none := by
  have hname : (name >>= fun id => placeFrom c.start >>= fun p => pure (Node.name id p)).run c =
      none := by
    unfold name peek
    rw [bind_bind, run_bind_look, h]
    rfl
  unfold atom peek
  rw [run_here_bind, run_bind_look, h]
  exact hname

theorem not_symbol_of_named {s : String} (hs : s ∉ ["...", "(", "[", "\x7b", "+", "-", "~"])
    (hrun : (named (readers m)).run c = some (n, d)) : isSymbol c.next s = false := by
  rw [Bool.eq_false_iff]
  intro hnext
  have h := isSymbol_iff.mp hnext
  have hplain : Plain c.next := by
    refine ⟨fun w _ => by rw [h]; rfl, ?_⟩
    rintro s' hs'
    rw [h] at hs'
    cases hs'
    rw [List.lookup_eq_none_iff]
    intro pair hpair
    simp only [signs, List.mem_cons, List.not_mem_nil, or_false] at hpair hs
    rcases hpair with rfl | rfl | rfl <;> simp_all
  have hnone := run_named_eq_none (m := m) hplain (by rw [h]; rfl) fun b =>
    run_atom_symbol h fun hmem => hs (by simp_all)
  rw [hnone] at hrun
  cases hrun

theorem not_yield_of_named (hrun : (named (readers m)).run c = some (n, d)) :
    isWord c.next "yield" = false := by
  rw [Bool.eq_false_iff]
  intro hnext
  have h := isWord_iff.mp hnext
  have hplain : Plain c.next := by
    rw [h]
    exact ⟨by decide, fun s hs => by cases hs⟩
  have hnone := run_named_eq_none (m := m) hplain (by rw [h]; decide) fun b => run_atom_yield h
  rw [hnone] at hrun
  cases hrun

/-- No trailer follows the object. -/
theorem run_trailers_of_ends {start : Mark} {k : Nat} (hend : Ends d.next) :
    (trailers b start (k + 1) n).run d = some (n, d) := by
  rw [trailers, run_here_bind, accept,
    run_acceptOf_bind_of_false (hend.isSymbol (by decide) (by decide)),
    if_neg Bool.false_ne_true, accept,
    run_acceptOf_bind_of_false (hend.isSymbol (by decide) (by decide)),
    if_neg Bool.false_ne_true, accept,
    run_acceptOf_bind_of_false (hend.isSymbol (by decide) (by decide))]
  rfl

/-- A name is an operand. -/
theorem run_atom_name {t : Token} {rest : List Token} {last : Mark} {w : String}
    (ht : t.lexeme = .word w) (hw : reserved.contains w = false) :
    (atom b).run ⟨t :: rest, last⟩ =
      some (.name w (placeBetween t.start t.stop), ⟨rest, t.stop⟩) := by
  have hvalue : constantWord? w = none := by
    unfold constantWord?
    split
    · exact absurd hw (by decide)
    · exact absurd hw (by decide)
    · exact absurd hw (by decide)
    · rfl
  unfold atom peek
  rw [run_here_bind, run_bind_look, next_cons, ht]
  dsimp only
  rw [hvalue]
  unfold name peek
  rw [bind_bind, run_bind_look, next_cons, ht]
  dsimp only
  rw [hw]
  rfl

/-- A name without trailers is an operand. -/
theorem run_primary_name {t : Token} {rest : List Token} {last : Mark} {w : String}
    (ht : t.lexeme = .word w) (hw : reserved.contains w = false)
    (hend : Ends (⟨rest, t.stop⟩ : Cursor).next) :
    (primary b).run ⟨t :: rest, last⟩ =
      some (.name w (placeBetween t.start t.stop), ⟨rest, t.stop⟩) := by
  unfold primary bound
  rw [run_here_bind, run_bind_of_run (run_atom_name ht hw), run_bind_look]
  exact run_trailers_of_ends hend

theorem plain_of_name {w : String} (hw : reserved.contains w = false) : Plain (.word w) := by
  refine ⟨fun w' hw' => ?_, fun s hs => by cases hs⟩
  rw [Bool.eq_false_iff]
  intro hsame
  obtain rfl := Lexeme.word.inj (isWord_iff.mp hsame)
  have hreserved : ∀ w', w' ∈ ["lambda", "not", "await"] → reserved.contains w' = true := by
    decide
  rw [hreserved _ hw'] at hw
  cases hw

/-- In front of an equals sign a name is all that is read. -/
theorem next_of_isName (hrun : (named (readers m)).run c = some (n, d))
    (hname : isName c.next = true) (hequals : c.second = .symbol "=") :
    d.next = .symbol "=" := by
  obtain ⟨w, hw, hfree⟩ := isName_iff.mp hname
  have hplain : Plain c.next := hw ▸ plain_of_name hfree
  rw [run_named_of_plain (by rw [hequals]; simp [isSymbol])] at hrun
  obtain ⟨_ | ⟨t, _ | ⟨t', rest⟩⟩, last⟩ := c
  · cases hw
  · cases hequals
  have hend : Ends (⟨t' :: rest, t.stop⟩ : Cursor).next := Or.inr (Or.inl hequals)
  have hprimary (b : Below) : (primary b).run ⟨t :: t' :: rest, last⟩ =
      some (.name w (placeBetween t.start t.stop), ⟨t' :: rest, t.stop⟩) :=
    run_primary_name hw hfree hend
  obtain ⟨b, hb⟩ := exists_primary hplain (fun b n d hrun => by
    rw [hprimary] at hrun
    cases hrun
    exact hend) hrun
  rw [hprimary] at hb
  cases hb
  exact hequals

/-- **An expression in parentheses can be read as an argument.** -/
theorem argument_of_named (hrun : (named (readers m)).run c = some (n, d))
    (hnext : d.next = .symbol ")") : (argument (readers m)).run c = some (.positional n, d) := by
  have hstar {s : String} (hs : s ∉ ["...", "(", "[", "\x7b", "+", "-", "~"]) :
      isSymbol c.next s = false :=
    not_symbol_of_named hs hrun
  have hkeyword : (isName c.next && isSymbol c.second "=") = false := by
    rw [Bool.eq_false_iff]
    intro h
    obtain ⟨hname, hequals⟩ := Bool.and_eq_true_iff.mp h
    rw [next_of_isName hrun hname (isSymbol_iff.mp hequals)] at hnext
    exact absurd (Lexeme.symbol.inj hnext) (by decide)
  rw [argument, run_here_bind, accept, run_acceptOf_bind_of_false (hstar (by decide)),
    if_neg Bool.false_ne_true, accept, run_acceptOf_bind_of_false (hstar (by decide)),
    if_neg Bool.false_ne_true, run_bind_of_run run_nameThen, hkeyword,
    if_neg Bool.false_ne_true, run_bind_of_run hrun]
  rfl

end Arguments

end Grammar
end Script
end BuildTransform
