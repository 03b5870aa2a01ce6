import BuildTransform.Proofs.Script.Arguments
import BuildTransform.Proofs.Script.Excerpts

/-!
# Arguments parsed again

The text of the arguments of a call, put between other parentheses, is parsed as the same
arguments.

* `SelfContained` says when the text from the first argument to the last one is the whole
  list.
* `exists_reread` is the result for syntax trees.
-/

namespace BuildTransform
namespace Script

open Grammar

/-! ## Places of arguments -/

/-- The place is that of all between an opening and a closing parenthesis of the source. -/
def Parenthesized (source : String) (p : Place) : Prop :=
  ∃ ts, tokens source = .ok ts ∧ (⟨ts, ⟨1, 0⟩⟩ : Cursor).Encloses p

/-- The text from the first argument to the last one is the whole list: with several
arguments, neither of these two stands in parentheses of its own; one argument alone is no
yield; and if it is a generator, there is room for the parentheses around it. -/
structure SelfContained (source : String) (arguments : List Node) : Prop where
  bare : 2 ≤ arguments.length → ∀ n, arguments.head? = some n ∨ arguments.getLast? = some n →
    ¬ Parenthesized source n.place
  unyielded : ∀ n, arguments = [n] → n.formName ≠ "Yield" ∧ n.formName ≠ "YieldFrom"
  shallow : ∀ n, arguments = [n] → n.formName = "GeneratorExp" → Shallow source

/-- The arguments stand between two positions of the source, and the text there is parsed as
arguments that are alike. -/
structure Reread (source : String) (arguments : List Node) (i j : Nat) : Prop where
  le : i ≤ j
  le_length : j ≤ source.toList.length
  start : ∀ n, arguments.head? = some n → ∃ e, n.place = placeBetween (markAt source i) e
  stop : ∀ n, arguments.getLast? = some n → ∃ s, n.place = placeBetween s (markAt source j)
  parsed : ∃ callee arguments' m e m' e',
    parseExpression ("g(" ++ between source i j ++ ")") =
      .ok (.root (.call (.name callee (placeBetween m e)) arguments' false (placeBetween m' e'))
        ⟨none, none, none, none⟩) ∧
    List.Forall₂ Alike arguments arguments'

/-! ### Parentheses around places -/

theorem mem_zip_tail {α : Type} (pre : List α) (a b : α) (post : List α) :
    (a, b) ∈ (pre ++ a :: b :: post).zip (pre ++ a :: b :: post).tail := by
  induction pre with
  | nil => simp
  | cons x pre ih =>
      cases pre with
      | nil => simp
      | cons y pre => exact List.mem_cons_of_mem _ ih

theorem exists_last (t : Token) (y : List Token) :
    ∃ before x, t :: y = before ++ [x] ∧ x.stop = endOf t.stop y := by
  induction y generalizing t with
  | nil => exact ⟨[], t, rfl, rfl⟩
  | cons t' y ih =>
      obtain ⟨before, x, hlast, hstop⟩ := ih t'
      exact ⟨t :: before, x, congrArg (t :: ·) hlast, hstop⟩

theorem eq_of_placeBetween {m e m' e' : Mark} (h : placeBetween m e = placeBetween m' e') :
    m = m' ∧ e = e' := by
  cases m
  cases e
  cases m'
  cases e'
  simpa [placeBetween, and_assoc] using h

/-- What parentheses hold starts behind the opening one and ends in front of the closing one. -/
theorem Grammar.Cursor.Encloses.exists_tokens {ts : List Token} {m : Mark} {p : Place}
    (h : (⟨ts, m⟩ : Cursor).Encloses p) :
    (∃ o t stop, (o, t) ∈ ts.zip ts.tail ∧ isSymbol o.lexeme "(" = true ∧
      p = placeBetween t.start stop) ∧
    (∃ t k start, (t, k) ∈ ts.zip ts.tail ∧ isSymbol k.lexeme ")" = true ∧
      p = placeBetween start t.stop) := by
  obtain ⟨inner, e, ⟨o, d, hreach, ⟨t, hrest, hopen, hlast⟩, hinner, ⟨k, hk, hclose, -⟩⟩, rfl⟩ := h
  obtain ⟨pre, hpre, -⟩ := hreach.split
  obtain ⟨y, hy, hstop⟩ := hinner.split
  have hts : ts = pre ++ t :: (y ++ k :: d.rest) := by rw [← hk, ← hy, ← hrest]; exact hpre
  constructor
  · obtain ⟨x, rest, hx, hstart⟩ : ∃ x rest, y ++ k :: d.rest = x :: rest ∧
        inner.start = x.start := by
      rw [Cursor.start, hy, hk]
      cases y with
      | nil => exact ⟨k, d.rest, rfl, rfl⟩
      | cons x y => exact ⟨x, y ++ k :: d.rest, rfl, rfl⟩
    rw [hx] at hts
    exact ⟨t, x, e.last, hts ▸ mem_zip_tail pre t x rest, isSymbol_iff.mpr hopen, by rw [hstart]⟩
  · obtain ⟨before, x, hx, hxstop⟩ := exists_last t y
    have hts' : ts = (pre ++ before) ++ x :: k :: d.rest := by
      rw [hts, ← List.cons_append, hx]
      simp
    refine ⟨x, k, inner.start, hts' ▸ mem_zip_tail _ x k d.rest, isSymbol_iff.mpr hclose, ?_⟩
    rw [hxstop, ← hlast, ← hstop]

/-- Something in front of which no opening parenthesis stands is not parenthesized. -/
theorem not_parenthesized_of_start {source : String} {ts : List Token} {m e : Mark}
    (htokens : tokens source = .ok ts)
    (h : ∀ q, q ∈ ts.zip ts.tail → q.2.start = m → isSymbol q.1.lexeme "(" = false) :
    ¬ Parenthesized source (placeBetween m e) := by
  rintro ⟨_, hts, hencloses⟩
  cases htokens.symm.trans hts
  obtain ⟨⟨o, t, stop, hmem, hopen, hplace⟩, -⟩ := hencloses.exists_tokens
  rw [h _ hmem (eq_of_placeBetween hplace).1.symm] at hopen
  cases hopen

/-- Something behind which no closing parenthesis stands is not parenthesized. -/
theorem not_parenthesized_of_stop {source : String} {ts : List Token} {m e : Mark}
    (htokens : tokens source = .ok ts)
    (h : ∀ q, q ∈ ts.zip ts.tail → q.1.stop = e → isSymbol q.2.lexeme ")" = false) :
    ¬ Parenthesized source (placeBetween m e) := by
  rintro ⟨_, hts, hencloses⟩
  cases htokens.symm.trans hts
  obtain ⟨-, t, k, start, hmem, hclose, hplace⟩ := hencloses.exists_tokens
  rw [h _ hmem (eq_of_placeBetween hplace).2.symm] at hclose
  cases hclose

section Reparsing

variable {source : String} {arguments : List Node} {i j : Nat} {u : List Lexeme}

/-- A call is parsed from the tokens of its text. -/
theorem parseExpression_of_listed {text w : String} {g o : Token} {rest : List Token}
    {items : List Argument} {e : Cursor} {m : Nat}
    (htokens : tokens text = .ok (g :: o :: rest)) (hg : g.lexeme = .word w)
    (hw : reserved.contains w = false) (ho : o.lexeme = .symbol "(")
    (hm : m + 2 = depthBound text.toList.length)
    (hlisted : Listed (argument (readers m)) ⟨rest, o.stop⟩ items e)
    (he : e.lexemes = [.symbol ")", .newline, .finish]) (hordered : wellOrdered items = true)
    (hunnamed : items.any Argument.isKeyword = false) :
    ∃ stop, parseExpression text =
      .ok (.root (.call (.name w (placeBetween g.start g.stop)) (items.map Argument.node) false
        (placeBetween g.start stop)) ⟨none, none, none, none⟩) := by
  obtain ⟨stop, d, hrun⟩ := run_wholeExpression_of_listed (p := ⟨1, 0⟩) hg hw ho hlisted he
    hordered hunnamed
  refine ⟨stop, ?_⟩
  rw [hm] at hrun
  simp only [parseExpression, htokens, bind, Except.bind, hrun]

/-- A whole expression is a tuple without parentheses, or it was read by itself. -/
theorem wholeExpression_cases {b : Below} {c d : Cursor} {n : Node}
    (h : (wholeExpression b).run c = some (n, d)) :
    (∃ items p, n = .display .tuple items p) ∨ ∃ e, b.expression.run c = some (n, e) := by
  obtain ⟨n', e, htuple, hrest⟩ := run_bind_eq_some_iff.mp h
  obtain ⟨_, _, -, hend⟩ := run_bind_eq_some_iff.mp hrest
  obtain ⟨_, f, -, hend⟩ := run_bind_eq_some_iff.mp hend
  obtain ⟨l, _, hpeek, hend⟩ := run_bind_eq_some_iff.mp hend
  cases hpeek
  obtain rfl : n' = n := by
    split at hend
    · cases hend
      rfl
    · cases hend
  obtain ⟨_, _, hhere, htuple⟩ := run_bind_eq_some_iff.mp htuple
  cases hhere
  obtain ⟨first, g, hfirst, htuple⟩ := run_bind_eq_some_iff.mp htuple
  rw [nextIs, run_bind_of_run run_nextOf] at htuple
  split_ifs at htuple
  · obtain ⟨_, _, -, hdisplay⟩ := run_bind_eq_some_iff.mp htuple
    obtain ⟨_, _, -, hdisplay⟩ := run_bind_eq_some_iff.mp hdisplay
    obtain ⟨_, _, -, hpure⟩ := run_bind_eq_some_iff.mp hdisplay
    cases hpure
    exact Or.inl ⟨_, _, rfl⟩
  · cases htuple
  · cases htuple
    exact Or.inr ⟨_, hfirst⟩

/-- What a text is parsed as: a tuple without parentheses, or an expression that was read from
its tokens. -/
theorem parseExpression_cases {n : Node} (h : parseExpression source = .ok n) :
    ∃ body, n = .root body ⟨none, none, none, none⟩ ∧
      ((∃ items p, body = .display .tuple items p) ∨
        ∃ ts d, tokens source = .ok ts ∧ Formed ⟨ts, ⟨1, 0⟩⟩ body d) := by
  unfold parseExpression at h
  obtain ⟨ts, hts, hread⟩ := Outcome.chain_eq_ok_iff.mp h
  dsimp only at hread
  split at hread
  · rename_i body d hrun
    cases hread
    refine ⟨body, rfl, ?_⟩
    rcases wholeExpression_cases hrun with htuple | ⟨e, hexpression⟩
    · exact Or.inl htuple
    · exact Or.inr ⟨ts, e, hts, (formed_readers _).1 _ _ _ hexpression⟩
  · cases hread

/-! ## Excerpts of arguments -/

theorem exists_rest_of_next {c : Cursor} {sym : String} (h : c.next = .symbol sym) :
    ∃ t rest, c.rest = t :: rest ∧ t.lexeme = .symbol sym := by
  obtain ⟨_ | ⟨t, rest⟩, last⟩ := c
  · cases h
  · exact ⟨t, rest, rfl, h⟩

/-- Between an argument and what ends it there are tokens. -/
theorem Grammar.Listed.ne_nil {m : Nat} {c d : Cursor} {items : List Argument} {y : List Token}
    (h : Listed (argument (readers m)) c items d)
    (hnext : d.next = .symbol "," ∨ d.next = .symbol ")") (hy : c.rest = y ++ d.rest) :
    y ≠ [] := by
  rintro rfl
  obtain ⟨first, e, -, hrun⟩ := h.head
  have hsame : c.next = d.next := by
    rw [Cursor.next_eq, Cursor.next_eq, Cursor.lexemes, Cursor.lexemes, hy]
    rfl
  rcases hnext with hnext | hnext
  · have hstart := argument_next (s := ",") hrun (by decide)
    rw [hsame, hnext] at hstart
    cases hstart
  · have hstart := argument_next (s := ")") hrun (by decide)
    rw [hsame, hnext] at hstart
    cases hstart

/-- What the tokens of an excerpt weigh is bounded by its text. -/
theorem load_le_of_tokens {text : String} {g o : Token} {rest : List Token} {y : List Lexeme}
    (htokens : tokens text = .ok (g :: o :: rest)) (hrest : rest.map Token.lexeme = u ++ y) :
    load u ≤ text.toList.length := by
  have hweight := weight_le_length htokens
  have hload : load u ≤ (rest.map fun t => weight t.lexeme).sum := by
    have hall : (rest.map fun t => weight t.lexeme).sum = load (u ++ y) := by
      rw [load, ← hrest, List.map_map]
      rfl
    rw [hall, load, load, List.map_append, List.sum_append]
    exact Nat.le_add_right _ _
  simp only [List.map_cons, List.sum_cons] at hweight
  omega

/-- The tokens behind an opening parenthesis of a source. -/
theorem tokens_of_skips {ts : List Token} {o inner : Cursor}
    (hreach : (⟨ts, ⟨1, 0⟩⟩ : Cursor).Reaches o) (hopen : o.Skips "(" inner) :
    ∃ pre t, ts = pre ++ [t] ++ inner.rest ∧ t.lexeme = .symbol "(" ∧ o.start = t.start ∧
      inner.last = t.stop := by
  obtain ⟨pre, hpre, -⟩ := hreach.split
  obtain ⟨t, hrest, hsym, hlast⟩ := hopen
  refine ⟨pre, t, ?_, hsym, ?_, hlast⟩
  · rw [List.append_assoc, List.singleton_append, ← hrest]
    exact hpre
  · rw [Cursor.start, hrest]

/-- **Listed arguments are an excerpt of the source.** -/
theorem Grammar.Passed.excerpt {ts : List Token} {m : Nat} {o inner e : Cursor}
    {items : List Argument} (htokens : tokens source = .ok ts)
    (hreach : (⟨ts, ⟨1, 0⟩⟩ : Cursor).Reaches o) (hopen : o.Skips "(" inner)
    (h : Passed m inner items e) :
    ∃ i j u, i ≤ j ∧ j ≤ source.toList.length ∧ markAt source i = inner.start ∧
      markAt source j = e.last ∧ inner.lexemes = u ++ e.lexemes ∧ Excerpt source i j u := by
  obtain ⟨pre, t, hts, ht, -, hlast⟩ := tokens_of_skips hreach hopen
  obtain ⟨y, hy, hstop⟩ := h.listed.reaches.split
  have hu : inner.lexemes = y.map Token.lexeme ++ e.lexemes := by
    rw [Cursor.lexemes, hy, List.map_append]
    rfl
  have hclosing : IsClosing e.next := h.closing.elim (fun h => .inr (.inl h)) fun h => .inr (.inr h)
  have hcloses := h.listed.closes hu hclosing
  obtain ⟨k, post, hk, hlexeme⟩ : ∃ k post, e.rest = k :: post ∧
      (k.lexeme = .symbol "," ∨ k.lexeme = .symbol ")") := by
    rcases h.closing with hnext | hnext
    · obtain ⟨k, post, hk, hsym⟩ := exists_rest_of_next hnext
      exact ⟨k, post, hk, Or.inl hsym⟩
    · obtain ⟨k, post, hk, hsym⟩ := exists_rest_of_next hnext
      exact ⟨k, post, hk, Or.inr hsym⟩
  obtain ⟨first, more, rfl⟩ := List.exists_cons_of_ne_nil (h.listed.ne_nil h.closing hy)
  rw [hts, hy, hk, ← List.append_assoc] at htokens
  obtain ⟨i, j, hij, hj, hi, hj', hexcerpt⟩ :=
    exists_excerpt htokens ht hlexeme hcloses
  refine ⟨i, j, _, hij, hj, ?_, ?_, hu, hexcerpt⟩
  · rw [hi, Cursor.start, hy]
    rfl
  · rw [hj', hstop]
    rfl

/-- **A generator in parentheses is an excerpt of the source.** -/
theorem Grammar.Generates.excerpt {ts : List Token} {m : Nat} {o inner e d : Cursor} {n : Node}
    (htokens : tokens source = .ok ts) (hreach : (⟨ts, ⟨1, 0⟩⟩ : Cursor).Reaches o)
    (h : Generates (readers m) o inner n e d) (hshallow : Shallow source) :
    ∃ i j u, i ≤ j ∧ j ≤ source.toList.length ∧ markAt source i = o.start ∧
      markAt source j = d.last ∧ inner.lexemes = u ++ e.lexemes ∧
      Excerpt source i j (.symbol "(" :: (u ++ [.symbol ")"])) := by
  obtain ⟨pre, t, hts, ht, hstart, -⟩ := tokens_of_skips hreach h.opening
  obtain ⟨y, hy, -⟩ := ((generatorBody _).reaches h.body).split
  have hu : inner.lexemes = y.map Token.lexeme ++ e.lexemes := by
    rw [Cursor.lexemes, hy, List.map_append]
    rfl
  obtain ⟨k, hk, hsym, hlast⟩ := h.closing
  rw [hts, hy, hk, ← List.append_assoc, List.append_assoc pre] at htokens
  obtain ⟨i, j, hij, hj, hi, hj', hexcerpt⟩ :=
    exists_excerpt_of_parentheses htokens ht hsym (h.closes hu) hshallow
  exact ⟨i, j, _, hij, hj, hi.trans hstart.symm, hj'.trans hlast.symm, hu, hexcerpt⟩

/-! ## Excerpts parsed -/

/-- The readers of an excerpt are deep enough for it. -/
theorem exists_depth {text : String} {g o : Token} {rest : List Token} {y : List Lexeme}
    (htokens : tokens text = .ok (g :: o :: rest)) (hrest : rest.map Token.lexeme = u ++ y) :
    ∃ m, m + 4 = depthBound text.toList.length ∧ 2 * load u + 2 ≤ m := by
  have hload := load_le_of_tokens htokens hrest
  exact ⟨2 * text.toList.length + 4, rfl, by omega⟩

/-- The arguments of an excerpt are parsed as arguments that are alike. -/
theorem Grammar.Passed.parsed {m : Nat} {inner e : Cursor} {items : List Argument}
    (h : Passed m inner items e) (hu : inner.lexemes = u ++ e.lexemes)
    (hexcerpt : Excerpt source i j u) :
    ∃ arguments' a b a' b',
      parseExpression ("g(" ++ between source i j ++ ")") =
        .ok (.root (.call (.name "g" (placeBetween a b)) arguments' false (placeBetween a' b'))
          ⟨none, none, none, none⟩) ∧
      List.Forall₂ Alike (items.map Argument.node) arguments' := by
  obtain ⟨g, o, rest, htokens, hg, ho, hrest⟩ := hexcerpt
  obtain ⟨k, hk, hdepth⟩ := exists_depth htokens hrest
  have hone : IsClosing (e.lexemes.headD .finish) := by
    rw [← Cursor.next_eq]
    exact h.closing.elim (fun h => .inr (.inl h)) fun h => .inr (.inr h)
  let E : Setting := ⟨e.lexemes, [.symbol ")", .newline, .finish], hone, Or.inr (Or.inr rfl)⟩
  have hinner : Inner E (readers m) (readers (k + 2)) u := inner_readers E m (by omega)
  have hother : (⟨rest, o.stop⟩ : Cursor).lexemes = u ++ E.other := hrest
  obtain ⟨-, items', d, hlisted, hd, halike⟩ := h.listed.agree hinner hu rfl hother
  obtain ⟨stop, hparse⟩ := parseExpression_of_listed htokens hg (by decide) ho hk hlisted hd
    ((wellOrdered_eq halike).symm.trans h.ordered)
    ((any_isKeyword_eq halike).symm.trans h.unnamed)
  refine ⟨_, _, _, _, _, hparse, ?_⟩
  rw [List.forall₂_map_left_iff, List.forall₂_map_right_iff]
  exact halike.imp fun _ _ ha => ha.alike_node

/-- The generator of an excerpt is parsed as a generator that is alike. -/
theorem Grammar.Generates.parsed {m : Nat} {o inner e d : Cursor} {n : Node}
    (h : Generates (readers m) o inner n e d) (hu : inner.lexemes = u ++ e.lexemes)
    (hexcerpt : Excerpt source i j (.symbol "(" :: (u ++ [.symbol ")"]))) :
    ∃ arguments' a b a' b',
      parseExpression ("g(" ++ between source i j ++ ")") =
        .ok (.root (.call (.name "g" (placeBetween a b)) arguments' false (placeBetween a' b'))
          ⟨none, none, none, none⟩) ∧
      List.Forall₂ Alike [.other "GeneratorExp" [n] (placeBetween o.start d.last)] arguments' := by
  obtain ⟨g, o', rest, htokens, hg, ho, hrest⟩ := hexcerpt
  obtain ⟨k, hk, hdepth⟩ := exists_depth htokens hrest
  have hload : load u ≤ load (.symbol "(" :: (u ++ [.symbol ")"])) := by
    rw [load_cons, load, load, List.map_append, List.sum_append]
    omega
  have hone : IsClosing (e.lexemes.headD .finish) := by
    rw [h.closing.lexemes]
    exact Or.inr (Or.inr rfl)
  let E : Setting := ⟨e.lexemes, [.symbol ")", .symbol ")", .newline, .finish], hone,
    Or.inr (Or.inr rfl)⟩
  have hinner : Inner E (readers m) (readers k) u := inner_readers E m (by omega)
  obtain ⟨inner', hopen, hinner'⟩ :=
    Cursor.exists_skips (c := ⟨rest, o'.stop⟩) (s := "(") (hrest.trans List.cons_append)
  rw [List.append_assoc] at hinner'
  obtain ⟨n', d', hlisted, hd', halike⟩ := h.agree hinner rfl hu hopen hinner' rfl
  obtain ⟨stop, hparse⟩ :=
    parseExpression_of_listed htokens hg (by decide) ho hk hlisted hd' rfl rfl
  exact ⟨_, _, _, _, _, hparse, .cons halike .nil⟩

/-- **The text of arguments that are self-contained is parsed again** as arguments that are
alike. -/
theorem exists_reread {callee : Node} {p q : Place}
    (h : parseExpression source = .ok (.root (.call callee arguments false p) q))
    (hsome : arguments ≠ []) (hself : SelfContained source arguments) :
    ∃ i j, Reread source arguments i j := by
  obtain ⟨body, hbody, hcases⟩ := parseExpression_cases h
  cases hbody
  obtain ⟨_, _, htuple⟩ | ⟨ts, d, htokens, hformed⟩ := hcases
  · cases htuple
  have hends : 2 ≤ arguments.length → ∀ n, arguments.head? = some n ∨
      arguments.getLast? = some n → ¬ (⟨ts, ⟨1, 0⟩⟩ : Cursor).Encloses n.place :=
    fun hmany n hn hin => hself.bare hmany n hn ⟨ts, htokens, hin⟩
  rcases exists_passed hformed hsome hends hself.unyielded with
    ⟨m, o, inner, items, e, hreach, hopen, hpassed, hbounds, rfl⟩ |
    ⟨m, o, inner, n, e, d', hreach, hgenerates, rfl⟩
  · obtain ⟨i, j, u, hij, hj, hi, hj', hu, hexcerpt⟩ :=
      hpassed.excerpt htokens hreach hopen
    obtain ⟨arguments', a, b, a', b', hparse, halike⟩ := hpassed.parsed hu hexcerpt
    exact ⟨i, j, hij, hj, hi ▸ hbounds.start, hj' ▸ hbounds.stop,
      ⟨_, arguments', a, b, a', b', hparse, halike⟩⟩
  · have hshallow : Shallow source := hself.shallow _ rfl rfl
    obtain ⟨i, j, u, hij, hj, hi, hj', hu, hexcerpt⟩ :=
      hgenerates.excerpt htokens hreach hshallow
    obtain ⟨arguments', a, b, a', b', hparse, halike⟩ := hgenerates.parsed hu hexcerpt
    refine ⟨i, j, hij, hj, ?_, ?_, ⟨_, arguments', a, b, a', b', hparse, halike⟩⟩
    · rintro x ⟨⟩
      exact ⟨d'.last, by rw [hi]; rfl⟩
    · rintro x ⟨⟩
      exact ⟨o.start, by rw [hj']; rfl⟩

end Reparsing

end Script
end BuildTransform
