import BuildTransform.Proofs.Script.Primaries

/-!
# Arguments of calls

How the arguments of a call are read, and where they stand.

* `Listed` says of a reader that it reads items with commas between them.
* `callOf_cases` takes the reader of a call apart: either the arguments are listed, or a
  generator stands alone.
* `Formed.place_or_encloses` says where an argument stands: where it was read, or where it
  was read inside parentheses.
-/

namespace BuildTransform
namespace Script
namespace Grammar

/-! ## Items with commas between them -/

/-- A reader reads items with commas between them, at least one. -/
inductive Listed {α : Type} (p : Parse α) : Cursor → List α → Cursor → Prop
  | one {c d : Cursor} {a : α}
      (hitem : p.run c = some (a, d)) :
      Listed p c [a] d
  | more {c e f d : Cursor} {a : α} {rest : List α}
      (hitem : p.run c = some (a, e))
      (hcomma : e.Skips "," f)
      (hrest : Listed p f rest d) :
      Listed p c (a :: rest) d

section Listed

variable {α : Type} {p : Parse α} {close : String} {c d e : Cursor} {a : α} {items : List α}

theorem Listed.reaches (h : Listed p c items d) : c.Reaches d := by
  induction h with
  | one hitem => exact p.reaches hitem
  | more hitem hcomma _ ih => exact (p.reaches hitem).trans (hcomma.reaches.trans ih)

theorem Listed.head (h : Listed p c items d) :
    ∃ first e, items.head? = some first ∧ p.run c = some (first, e) := by
  cases h with
  | one hitem => exact ⟨_, _, rfl, hitem⟩
  | more hitem _ _ => exact ⟨_, _, rfl, hitem⟩

theorem Listed.last (h : Listed p c items d) :
    ∃ last e, items.getLast? = some last ∧ c.Reaches e ∧ p.run e = some (last, d) := by
  induction h with
  | one hitem => exact ⟨_, _, rfl, .refl _, hitem⟩
  | @more c e f d a rest hitem hcomma hrest ih =>
      obtain ⟨last, e', hlast, hreach, hrun⟩ := ih
      refine ⟨last, e', ?_, (p.reaches hitem).trans (hcomma.reaches.trans hreach), hrun⟩
      rw [List.getLast?_cons, hlast]
      rfl

/-- Items up to a closing symbol: there are none, or they are listed, and a comma may follow
the last one. -/
theorem listed_of_commaItems {k : Nat} (h : (commaItems p close k).run c = some (items, d)) :
    d.next = .symbol close ∧
      ((items = [] ∧ d = c) ∨ ∃ e, Listed p c items e ∧ (e = d ∨ e.Skips "," d)) := by
  induction k generalizing c items with
  | zero => cases h
  | succ k ih =>
      rw [commaItems, nextIs, run_bind_of_run run_nextOf] at h
      split_ifs at h with hstop
      · cases h
        exact ⟨isSymbol_iff.mp hstop, Or.inl ⟨rfl, rfl⟩⟩
      · obtain ⟨a, e, hitem, hrest⟩ := run_bind_eq_some_iff.mp h
        rcases run_acceptOf_cases hrest with ⟨f, hcomma, htail⟩ | hlast
        · obtain ⟨rest, f', hmore, hpure⟩ := run_bind_eq_some_iff.mp htail
          cases hpure
          obtain ⟨hnext, hitems⟩ := ih hmore
          refine ⟨hnext, Or.inr ?_⟩
          rcases hitems with ⟨rfl, rfl⟩ | ⟨e', hlisted, hend⟩
          · exact ⟨e, .one hitem, Or.inr (skips_of_accept hcomma)⟩
          · exact ⟨e', .more hitem (skips_of_accept hcomma) hlisted, hend⟩
        · rw [if_neg Bool.false_ne_true, run_bind_of_run run_nextOf] at hlast
          split_ifs at hlast with hstop
          · cases hlast
            exact ⟨isSymbol_iff.mp hstop, Or.inr ⟨_, .one hitem, Or.inl rfl⟩⟩
          · cases hlast

end Listed

/-! ## Calls -/

section Calls

variable {b : Below} {c d e : Cursor} {callee n : Node} {start bracket : Mark}

/-- An argument without a name is an unpacked expression or one that may bind a name. -/
theorem argument_cases {a : Argument} (hrun : (argument b).run c = some (a, d))
    (hkeyword : a.isKeyword = false) :
    (c.next = .symbol "*" ∧ ∃ v, a = .unpacked (.starred v (placeBetween c.start d.last))) ∨
      ∃ n, a = .positional n ∧ (named b).run c = some (n, d) := by
  obtain ⟨_, _, hhere, hrun⟩ := run_bind_eq_some_iff.mp hrun
  cases hhere
  rcases run_acceptOf_cases hrun with ⟨e, hstar, hrest⟩ | hrest
  · obtain ⟨v, e, -, hpure⟩ := run_bind_eq_some_iff.mp hrest
    cases hpure
    exact Or.inl ⟨(skips_of_accept hstar).next, v, rfl⟩
  rw [if_neg Bool.false_ne_true] at hrest
  rcases run_acceptOf_cases hrest with ⟨e, -, hrest⟩ | hrest
  · obtain ⟨v, e, -, hpure⟩ := run_bind_eq_some_iff.mp hrest
    cases hpure
    cases hkeyword
  rw [if_neg Bool.false_ne_true, run_bind_of_run run_nameThen] at hrest
  split_ifs at hrest
  · obtain ⟨_, e, -, hrest⟩ := run_bind_eq_some_iff.mp hrest
    obtain ⟨_, e, -, hrest⟩ := run_bind_eq_some_iff.mp hrest
    obtain ⟨v, e, -, hpure⟩ := run_bind_eq_some_iff.mp hrest
    cases hpure
    cases hkeyword
  · obtain ⟨v, e, hnamed, hpure⟩ := run_bind_eq_some_iff.mp hrest
    cases hpure
    exact Or.inr ⟨v, rfl, hnamed⟩

theorem named_of_argument (hrun : (argument b).run c = some (.positional n, d)) :
    (named b).run c = some (n, d) := by
  rcases argument_cases hrun rfl with ⟨-, v, h⟩ | ⟨n', h, hnamed⟩
  · cases h
  · cases h
    exact hnamed

theorem callBehind_cases {first : Argument} (hfirst : (argument b).run c = some (first, e))
    (hrun : (callBehind b callee start first).run e = some (n, d)) :
    ∃ items f, Listed (argument b) c items f ∧ (f.next = .symbol "," ∨ f.next = .symbol ")") ∧
      wellOrdered items = true ∧
      n = .call callee ((items.filter (!·.isKeyword)).map Argument.node)
        (items.any Argument.isKeyword) (placeBetween start d.last) := by
  obtain ⟨more, e', hmore, hrest⟩ := run_bind_eq_some_iff.mp hrun
  obtain ⟨_, f, hclose, hrest⟩ := run_bind_eq_some_iff.mp hrest
  dsimp only at hrest
  split_ifs at hrest with hordered
  · cases hrest
    have hskips := skips_of_expect hclose
    suffices hlisted : ∃ f, Listed (argument b) c (first :: more) f ∧
        (f.next = .symbol "," ∨ f.next = .symbol ")") by
      obtain ⟨f, hlisted, hnext⟩ := hlisted
      exact ⟨_, f, hlisted, hnext, hordered, rfl⟩
    rcases run_acceptOf_cases hmore with ⟨f, hcomma, hitems⟩ | hnone
    · obtain ⟨k, _, hbound, hitems⟩ := run_bind_eq_some_iff.mp hitems
      cases hbound
      have hcomma := skips_of_accept hcomma
      rcases (listed_of_commaItems hitems).2 with ⟨rfl, rfl⟩ | ⟨g, hlisted, hend⟩
      · exact ⟨e, .one hfirst, Or.inl hcomma.next⟩
      · refine ⟨g, .more hfirst hcomma hlisted, ?_⟩
        rcases hend with rfl | hend
        · exact Or.inr hskips.next
        · exact Or.inl hend.next
    · cases hnone
      exact ⟨e, .one hfirst, Or.inr hskips.next⟩
  · cases hrest

/-- **The arguments of a call** are listed, or a generator stands alone, or there are
none. -/
theorem callOf_cases (hrun : (callOf b callee start bracket).run c = some (n, d)) :
    n = .call callee [] false (placeBetween start d.last) ∨
    (∃ x e generator, (named b).run c = some (x, e) ∧ clauseNext.run e = some (true, e) ∧
      (comprehension b ")" "GeneratorExp" bracket).run e = some (generator, d) ∧
      n = .call callee [generator] false (placeBetween start d.last)) ∨
    ∃ items f, Listed (argument b) c items f ∧ (f.next = .symbol "," ∨ f.next = .symbol ")") ∧
      wellOrdered items = true ∧
      n = .call callee ((items.filter (!·.isKeyword)).map Argument.node)
        (items.any Argument.isKeyword) (placeBetween start d.last) := by
  rcases run_acceptOf_cases hrun with ⟨e, -, hrest⟩ | hrest
  · cases hrest
    exact Or.inl rfl
  · obtain ⟨first, e, hfirst, hrest⟩ := run_bind_eq_some_iff.mp hrest
    obtain ⟨generates, f, hclause, hargs⟩ := run_bind_eq_some_iff.mp hrest
    obtain rfl := stays_clauseNext _ _ _ hclause
    split at hargs
    · obtain ⟨generator, e', hgenerator, hpure⟩ := run_bind_eq_some_iff.mp hargs
      cases hpure
      exact Or.inr (Or.inl ⟨_, _, _, named_of_argument hfirst, hclause, hgenerator, rfl⟩)
    · exact Or.inr (Or.inr (callBehind_cases hfirst hargs))

theorem callOf_place (hrun : (callOf b callee start bracket).run c = some (n, d)) :
    n.place = placeBetween start d.last ∧ n.formName = "Call" := by
  rcases callOf_cases hrun with rfl | ⟨_, _, _, -, -, -, rfl⟩ | ⟨_, _, -, -, -, rfl⟩ <;>
    exact ⟨rfl, rfl⟩

end Calls

/-! ## Places -/

section Places

variable {b : Below} {c d o inner : Cursor} {n : Node}

/-- The tokens from one cursor to another are all between an opening and a closing
parenthesis. -/
def Cursor.Within (c inner e : Cursor) : Prop :=
  ∃ o d, c.Reaches o ∧ o.Skips "(" inner ∧ inner.Reaches e ∧ e.Skips ")" d

/-- A place is that of all between an opening and a closing parenthesis. -/
def Cursor.Encloses (c : Cursor) (p : Place) : Prop :=
  ∃ inner e, c.Within inner e ∧ p = placeBetween inner.start e.last

theorem Cursor.Within.of_reaches {e : Cursor} (hreach : c.Reaches d) (h : d.Within inner e) :
    c.Within inner e := by
  obtain ⟨o, f, ho, hopen, he, hclose⟩ := h
  exact ⟨o, f, hreach.trans ho, hopen, he, hclose⟩

theorem Cursor.Encloses.of_reaches {p : Place} (hreach : c.Reaches d) (h : d.Encloses p) :
    c.Encloses p := by
  obtain ⟨inner, e, hwithin, hplace⟩ := h
  exact ⟨inner, e, hwithin.of_reaches hreach, hplace⟩

/-- An expression starts where reading starts and ends where it ends, or it is all that
some parentheses hold. -/
theorem Formed.place_or_encloses (h : Formed c n d) :
    n.place = placeBetween c.start d.last ∨ c.Encloses n.place := by
  induction h with
  | built h => exact Or.inl h.place
  | called _ _ hrun => exact Or.inl (callOf_place hrun).1
  | @wrapped m n c inner e d hopen hrun hinner hclose ih =>
      refine Or.inr ?_
      have hreach := hopen.reaches
      rcases ih with hplace | ⟨i, e', hwithin, hplace⟩
      · exact ⟨inner, e, ⟨c, d, .refl c, hopen, (named _).reaches hrun, hclose⟩, hplace⟩
      · exact ⟨i, e', hwithin.of_reaches hreach, hplace⟩
  | @yielded n c inner e d hopen hform hplace hreach hclose =>
      exact Or.inr ⟨inner, e, ⟨c, d, .refl c, hopen, hreach, hclose⟩, hplace⟩

/-- An expression that is no yield is read by itself at its place. -/
theorem Formed.exists_named (h : Formed c n d)
    (hyield : n.formName ≠ "Yield" ∧ n.formName ≠ "YieldFrom") :
    (n.place = placeBetween c.start d.last) ∨
      ∃ m inner e, c.Within inner e ∧ (named (readers m)).run inner = some (n, e) ∧
        n.place = placeBetween inner.start e.last := by
  induction h with
  | built h => exact Or.inl h.place
  | called _ _ hrun => exact Or.inl (callOf_place hrun).1
  | @wrapped m n c inner e d hopen hrun hinner hclose ih =>
      refine Or.inr ?_
      rcases ih hyield with hplace | ⟨k, i, e', hwithin, hk, hplace⟩
      · exact ⟨m, inner, e, ⟨c, d, .refl c, hopen, (named _).reaches hrun, hclose⟩, hrun, hplace⟩
      · exact ⟨k, i, e', hwithin.of_reaches hopen.reaches, hk, hplace⟩
  | yielded _ hform _ _ _ =>
      rcases hform with hform | hform
      · exact absurd hform hyield.1
      · exact absurd hform hyield.2

theorem Formed.form (h : Formed c n d) : n.formName ≠ "Expression" ∧ n.formName ≠ "Starred" := by
  induction h with
  | built h =>
      have hform := h.form
      simp only [special, List.mem_cons, not_or] at hform
      exact ⟨hform.1, hform.2.2.1⟩
  | called _ _ hrun => simp [(callOf_place hrun).2]
  | wrapped _ _ _ _ ih => exact ih
  | yielded _ hform _ _ _ => rcases hform with h | h <;> simp [h]

/-- A call is read behind an opening parenthesis. -/
theorem Formed.exists_callOf (h : Formed c n d) (hcall : n.formName = "Call") :
    ∃ m callee start o inner d', c.Reaches o ∧ o.Skips "(" inner ∧
      (callOf (readers m) callee start o.start).run inner = some (n, d') := by
  induction h with
  | built h =>
      have hform := h.form
      rw [hcall] at hform
      simp [special] at hform
  | called hreach hopen hrun => exact ⟨_, _, _, _, _, _, hreach, hopen, hrun⟩
  | @wrapped m n c inner e d hopen _ _ _ ih =>
      obtain ⟨m, callee, start, o, i, d', hreach, ho, hrun⟩ := ih hcall
      exact ⟨m, callee, start, o, i, d', hopen.reaches.trans hreach, ho, hrun⟩
  | yielded _ hform _ _ _ => rcases hform with h | h <;> simp [h] at hcall

theorem argument_place {m : Nat} {a : Argument}
    (hrun : (argument (readers m)).run c = some (a, d)) (hkeyword : a.isKeyword = false) :
    a.node.place = placeBetween c.start d.last ∨ c.Encloses a.node.place := by
  rcases argument_cases hrun hkeyword with ⟨-, v, rfl⟩ | ⟨n, rfl, hnamed⟩
  · exact Or.inl rfl
  · exact (formed_of_named hnamed).place_or_encloses

end Places

/-! ## Arguments passed by position -/

/-- Arguments that are all passed by position are read, and their list may end there. -/
structure Passed (m : Nat) (c : Cursor) (items : List Argument) (d : Cursor) : Prop where
  listed : Listed (argument (readers m)) c items d
  closing : d.next = .symbol "," ∨ d.next = .symbol ")"
  ordered : wellOrdered items = true
  unnamed : items.any Argument.isKeyword = false

/-- The first node starts where reading starts, and the last one ends where it ends. -/
structure Bounds (c : Cursor) (nodes : List Node) (d : Cursor) : Prop where
  start : ∀ n, nodes.head? = some n → ∃ e, n.place = placeBetween c.start e
  stop : ∀ n, nodes.getLast? = some n → ∃ s, n.place = placeBetween s d.last

/-- A generator without its parentheses; it yields what the first clause runs over. -/
def generatorBody (b : Below) : Parse Node := do
  let _ ← named b
  if ← clauseNext then clauses b else failure

/-- A generator is read between parentheses. -/
structure Generates (b : Below) (o inner : Cursor) (source : Node) (e d : Cursor) : Prop where
  opening : o.Skips "(" inner
  body : (generatorBody b).run inner = some (source, e)
  closing : e.Skips ")" d

section Passed

variable {c d : Cursor} {n : Node} {nodes : List Node}

theorem not_isKeyword_of_mem {items : List Argument} {a : Argument}
    (h : items.any Argument.isKeyword = false) (ha : a ∈ items) : a.isKeyword = false := by
  simpa using List.any_eq_false.mp h a ha

theorem positionals_eq {items : List Argument} (h : items.any Argument.isKeyword = false) :
    (items.filter (!·.isKeyword)).map Argument.node = items.map Argument.node := by
  rw [List.filter_eq_self.mpr]
  intro a ha
  simp [not_isKeyword_of_mem h ha]

/-- Arguments of which neither the first nor the last one stands in parentheses. -/
theorem Passed.bounds {m : Nat} {items : List Argument} (h : Passed m c items d)
    (hends : ∀ n, (items.map Argument.node).head? = some n ∨
      (items.map Argument.node).getLast? = some n → ¬ c.Encloses n.place) :
    Bounds c (items.map Argument.node) d := by
  refine ⟨fun n hn => ?_, fun n hn => ?_⟩
  · have hout := hends n (Or.inl hn)
    obtain ⟨a, e, ha, hread⟩ := h.listed.head
    rw [List.head?_map, ha] at hn
    cases hn
    rcases argument_place hread (not_isKeyword_of_mem h.unnamed (List.mem_of_head? ha)) with
      hplace | hin
    · exact ⟨e.last, hplace⟩
    · exact absurd hin hout
  · have hout := hends n (Or.inr hn)
    obtain ⟨a, e, ha, hreach, hread⟩ := h.listed.last
    rw [List.getLast?_map, ha] at hn
    cases hn
    rcases argument_place hread (not_isKeyword_of_mem h.unnamed (List.mem_of_getLast? ha)) with
      hplace | hin
    · exact ⟨e.start, hplace⟩
    · exact absurd (hin.of_reaches hreach) hout

/-- An argument that stands alone can be read by itself, also if it stands in
parentheses. -/
theorem Passed.exists_alone {m : Nat} {o inner : Cursor} {a : Argument}
    (h : Passed m inner [a] d) (hopen : o.Skips "(" inner)
    (hyield : a.node.formName ≠ "Yield" ∧ a.node.formName ≠ "YieldFrom") :
    ∃ m o' inner items e, o.Reaches o' ∧ o'.Skips "(" inner ∧ Passed m inner items e ∧
      Bounds inner [a.node] e ∧ items.map Argument.node = [a.node] := by
  have hbounds {c e : Cursor} (hplace : a.node.place = placeBetween c.start e.last) :
      Bounds c [a.node] e := by
    constructor
    · rintro n ⟨⟩
      exact ⟨e.last, hplace⟩
    · rintro n ⟨⟩
      exact ⟨c.start, hplace⟩
  have hkeyword : a.isKeyword = false := not_isKeyword_of_mem h.unnamed List.mem_cons_self
  cases h.listed with
  | one hitem =>
      rcases argument_cases hitem hkeyword with ⟨-, v, rfl⟩ | ⟨n, rfl, hnamed⟩
      · exact ⟨m, o, inner, _, d, .refl o, hopen, h, hbounds rfl, rfl⟩
      · rcases (formed_of_named hnamed).exists_named hyield with
          hplace | ⟨k, i, e, ⟨o', f, ho', hopen', -, hclose⟩, hread, hplace⟩
        · exact ⟨m, o, inner, _, d, .refl o, hopen, h, hbounds hplace, rfl⟩
        · refine ⟨k, o', i, [.positional n], e, hopen.reaches.trans ho', hopen', ?_,
            hbounds hplace, rfl⟩
          exact ⟨.one (argument_of_named hread hclose.next), Or.inr hclose.next, rfl, rfl⟩
  | more _ _ hrest => cases hrest

/-- **The arguments of a call**: at least one is read, and between the places of the first
and of the last one stands all that was read; or they are a generator. -/
theorem exists_passed {c : Cursor} {callee : Node} {p : Place}
    (h : Formed c (.call callee nodes false p) d) (hsome : nodes ≠ [])
    (hends : 2 ≤ nodes.length → ∀ n, nodes.head? = some n ∨ nodes.getLast? = some n →
      ¬ c.Encloses n.place)
    (hyield : ∀ n, nodes = [n] → n.formName ≠ "Yield" ∧ n.formName ≠ "YieldFrom") :
    (∃ m o inner items e, c.Reaches o ∧ o.Skips "(" inner ∧ Passed m inner items e ∧
      Bounds inner nodes e ∧ items.map Argument.node = nodes) ∨
    ∃ m o inner source e d', c.Reaches o ∧ Generates (readers m) o inner source e d' ∧
      nodes = [.other "GeneratorExp" [source] (placeBetween o.start d'.last)] := by
  obtain ⟨m, callee', start, o, inner, d', hreach, hopen, hrun⟩ := h.exists_callOf rfl
  have hinner : c.Reaches inner := hreach.trans hopen.reaches
  rcases callOf_cases hrun with hnone | ⟨x, e, generator, hx, hclause, hgenerator, hcall⟩ |
    ⟨items, e, hlisted, hclosing, hordered, hcall⟩
  · cases hnone
    exact absurd rfl hsome
  · cases hcall
    obtain ⟨source, e', hsource, hrest⟩ := run_bind_eq_some_iff.mp hgenerator
    obtain ⟨_, e'', hclose, hpure⟩ := run_bind_eq_some_iff.mp hrest
    cases hpure
    refine Or.inr ⟨m, o, inner, source, e', d', hreach, ⟨hopen, ?_, skips_of_expect hclose⟩, rfl⟩
    rw [generatorBody, run_bind_of_run hx, run_bind_of_run hclause]
    exact hsource
  · obtain ⟨-, rfl, hunnamed, -⟩ := Node.call.inj hcall
    have hunnamed := hunnamed.symm
    have hpassed : Passed m inner items e := ⟨hlisted, hclosing, hordered, hunnamed⟩
    rw [positionals_eq hunnamed] at hsome hends hyield ⊢
    refine Or.inl ?_
    match items with
    | [] => exact absurd rfl hsome
    | [a] =>
        obtain ⟨k, o', i, items, f, ho', hread⟩ :=
          hpassed.exists_alone hopen (hyield a.node rfl)
        exact ⟨k, o', i, items, f, hreach.trans ho', hread⟩
    | a :: a' :: items =>
        refine ⟨m, o, inner, _, e, hreach, hopen, hpassed, hpassed.bounds fun n hn hin => ?_, rfl⟩
        exact hends (by simp) n hn (hin.of_reaches hinner)

end Passed

end Grammar
end Script
end BuildTransform
