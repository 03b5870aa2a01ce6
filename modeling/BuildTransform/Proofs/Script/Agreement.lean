import BuildTransform.Proofs.Script.Reading

/-!
# Reading the same lexemes elsewhere

When two readers that are run on the same lexemes, at different places and in front
of different texts, yield the same.

* `Closes` says which brackets some lexemes close that were open in front of them;
  lexemes that close none are balanced.
* A `Setting` is a pair of texts that end a form: neither starts with something
  that continues an expression.
* `Agree` says of two readers that whatever the one reads in front of the one text,
  the other reads in front of the other, with related results.
* The rules `Agree.bind`, `Agree.accept` and so on follow the ways in which readers
  are put together.
-/

namespace BuildTransform
namespace Script
namespace Grammar

/-! ## Brackets -/

/-- Opening symbols with the symbols that close them. -/
def brackets : List (String × String) :=
  [("(", ")"), ("[", "]"), ("\x7b", "\x7d")]

/-- The lexeme belongs to a form and is no bracket. -/
def IsPlain : Lexeme → Prop
  | .symbol s => s ∉ brackets.map Prod.fst ∧ s ∉ brackets.map Prod.snd
  | .newline => False
  | .finish => False
  | _ => True

instance : DecidablePred IsPlain := fun l =>
  match l with
  | .symbol _ => inferInstanceAs (Decidable (_ ∧ _))
  | .newline => inferInstanceAs (Decidable False)
  | .finish => inferInstanceAs (Decidable False)
  | .word _ => inferInstanceAs (Decidable True)
  | .number _ => inferInstanceAs (Decidable True)
  | .quotation _ => inferInstanceAs (Decidable True)

/-- The lexemes are balanced except that they close some brackets, the innermost one
first, that were opened in front of them. -/
inductive Closes : List String → List Lexeme → Prop
  | nil : Closes [] []
  | plain {s : List String} {l : Lexeme} {y : List Lexeme}
      (hl : IsPlain l)
      (h : Closes s y) :
      Closes s (l :: y)
  | opening {s : List String} {o c : String} {y : List Lexeme}
      (hpair : (o, c) ∈ brackets)
      (h : Closes (c :: s) y) :
      Closes s (.symbol o :: y)
  | closing {s : List String} {c : String} {y : List Lexeme}
      (hc : c ∈ brackets.map Prod.snd)
      (h : Closes s y) :
      Closes (c :: s) (.symbol c :: y)

theorem Closes.append {s s' : List String} {y y' : List Lexeme}
    (h : Closes s y)
    (h' : Closes s' y') :
    Closes (s ++ s') (y ++ y') := by
  induction h with
  | nil => exact h'
  | plain hl _ ih => exact .plain hl ih
  | opening hpair _ ih => exact .opening hpair ih
  | closing hc _ ih => exact .closing hc ih

/-! ## Settings -/

/-- The lexeme ends an argument, or the text does. -/
def IsClosing (l : Lexeme) : Prop :=
  l = .finish ∨ l = .symbol "," ∨ l = .symbol ")"

/-- Two texts that may follow a form. -/
structure Setting where
  one : List Lexeme
  other : List Lexeme
  closing_one : IsClosing (one.headD .finish)
  closing_other : IsClosing (other.headD .finish)

/-- What ends the one text and what ends the other are not of the kind. -/
def Setting.Stops (E : Setting) (kind : Lexeme → Bool) : Prop :=
  kind (E.one.headD .finish) = false ∧ kind (E.other.headD .finish) = false

theorem Setting.stops_of_closing {E : Setting} {kind : Lexeme → Bool}
    (h : ∀ l, IsClosing l → kind l = false) : E.Stops kind :=
  ⟨h _ E.closing_one, h _ E.closing_other⟩

theorem Setting.stops_symbol (E : Setting) {s : String} (hcomma : "," ≠ s)
    (hclose : ")" ≠ s) : E.Stops (isSymbol · s) := by
  refine Setting.stops_of_closing ?_
  rintro l (rfl | rfl | rfl)
  · rfl
  · simpa [isSymbol] using hcomma
  · simpa [isSymbol] using hclose

theorem Setting.stops_word (E : Setting) {w : String} : E.Stops (isWord · w) := by
  refine Setting.stops_of_closing ?_
  rintro l (rfl | rfl | rfl) <;> rfl

theorem Setting.stops_name (E : Setting) : E.Stops isName := by
  refine Setting.stops_of_closing ?_
  rintro l (rfl | rfl | rfl) <;> rfl

/-- The lexemes to be read. -/
def Cursor.lexemes (c : Cursor) : List Lexeme :=
  c.rest.map Token.lexeme

theorem Cursor.next_eq (c : Cursor) : c.next = c.lexemes.headD .finish := by
  obtain ⟨_ | ⟨t, rest⟩, m⟩ := c <;> rfl

theorem Cursor.second_eq (c : Cursor) : c.second = c.lexemes.tail.headD .finish := by
  obtain ⟨_ | ⟨t, _ | ⟨t', rest⟩⟩, m⟩ := c <;> rfl

theorem Cursor.lexemes_eq_cons {c : Cursor} {l : Lexeme} {w : List Lexeme}
    (h : c.lexemes = l :: w) :
    ∃ t rest, c.rest = t :: rest ∧ t.lexeme = l ∧ rest.map Token.lexeme = w := by
  obtain ⟨_ | ⟨t, rest⟩, m⟩ := c
  · cases h
  · exact ⟨t, rest, rfl, (List.cons.inj h).1, (List.cons.inj h).2⟩

/-- What the one reader takes of lexemes in front of the one text, leaving at least
`k` of them, the other takes in front of the other text; it closes the brackets `s`,
and the results are related. -/
def Agree {α β : Type} (E : Setting) (k : Nat) (s : List String) (R : α → β → Prop)
    (u : List Lexeme) (p : Parse α) (p' : Parse β) : Prop :=
  ∀ c c' a d, c.lexemes = u ++ E.one → c'.lexemes = u ++ E.other →
    p.run c = some (a, d) → E.one.length + k ≤ d.rest.length →
    ∃ y v a' d', u = y ++ v ∧ Closes s y ∧ d.lexemes = v ++ E.one ∧
      d'.lexemes = v ++ E.other ∧ p'.run c' = some (a', d') ∧ R a a'

namespace Agree

section Rules

variable {α β γ δ : Type}
variable {E : Setting} {k : Nat} {s : List String} {u : List Lexeme}
variable {R : α → β → Prop} {Q : γ → δ → Prop}
variable {p : Parse α} {p' : Parse β} {f : α → Parse γ} {f' : β → Parse δ}

/-- A cursor that a reader reached and that is far enough from the end is still in
front of the one text. -/
theorem split_of_reaches {c d : Cursor}
    (hreach : c.Reaches d)
    (hc : c.lexemes = u ++ E.one)
    (hlength : E.one.length + k ≤ d.rest.length) :
    ∃ y v, u = y ++ v ∧ d.lexemes = v ++ E.one ∧ k ≤ v.length := by
  obtain ⟨y, hy, -⟩ := hreach.split
  have hlexemes : u ++ E.one = y.map Token.lexeme ++ d.lexemes := by
    rw [← hc, Cursor.lexemes, Cursor.lexemes, hy, List.map_append]
  have hd : d.lexemes.length = d.rest.length := List.length_map _
  rcases List.append_eq_append_iff.mp hlexemes with ⟨v, hy, hone⟩ | ⟨v, hu, hd'⟩
  · -- The reader went beyond `u`, so too little is left unless it stopped there.
    have hcount := congrArg List.length hone
    rw [List.length_append] at hcount
    have hnil : v = [] := List.eq_nil_of_length_eq_zero (by omega)
    rw [hnil] at hone
    exact ⟨u, [], (List.append_nil u).symm, hone.symm, by omega⟩
  · have hcount := congrArg List.length hd'
    rw [List.length_append] at hcount
    exact ⟨y.map Token.lexeme, v, hu, hd', by omega⟩

theorem mono {k' : Nat} (h : Agree E k s R u p p') (hk : k ≤ k') : Agree E k' s R u p p' :=
  fun c c' a d hc hc' hrun hlength => h c c' a d hc hc' hrun (by omega)

theorem failure : Agree E k s R u failure p' := by
  intro c c' a d _ _ hrun
  cases hrun

theorem pure {a : α} {a' : β} (h : R a a') : Agree E k [] R u (pure a) (pure a') := by
  intro c c' a₁ d hc hc' hrun hlength
  cases hrun
  exact ⟨[], u, a', c', rfl, .nil, hc, hc', rfl, h⟩

/-- If something has to be left, the lexemes are not empty. -/
theorem of_ne_nil (h : u ≠ [] → Agree E 1 s R u p p') : Agree E 1 s R u p p' := by
  intro c c' a d hc hc' hrun hlength
  obtain ⟨y, v, hu, -, hv⟩ := split_of_reaches (p.reaches hrun) hc hlength
  have hne : u ≠ [] := by
    rintro rfl
    have hnil : v = [] := (List.append_eq_nil_iff.mp hu.symm).2
    simp [hnil] at hv
  exact h hne c c' a d hc hc' hrun hlength

/-- If the reader takes something, the lexemes are not empty. -/
theorem of_takes (htakes : Takes p) (h : u ≠ [] → Agree E k s R u p p') :
    Agree E k s R u p p' := by
  intro c c' a d hc hc' hrun hlength
  have hne : u ≠ [] := by
    rintro rfl
    have hcount := congrArg List.length hc
    have hshorter := htakes c a d trivial hrun
    rw [Cursor.lexemes, List.length_map, List.nil_append] at hcount
    omega
  exact h hne c c' a d hc hc' hrun hlength

theorem bind_append {j : Nat} {s' : List String}
    (hp : Agree E j s R u p p')
    (hj : ∀ a e b d, (f a).run e = some (b, d) → d.rest.length + j ≤ e.rest.length + k)
    (h : ∀ a a' v, v <:+ u → R a a' →
      (∃ c e, p.run c = some (a, e) ∧ e.rest.length + u.length = c.rest.length + v.length) →
      Agree E k s' Q v (f a) (f' a')) :
    Agree E k (s ++ s') Q u (p >>= f) (p' >>= f') := by
  intro c c' b d hc hc' hrun hlength
  obtain ⟨a, e, hrunp, hrunf⟩ := run_bind_eq_some_iff.mp hrun
  have hleft := hj a e b d hrunf
  obtain ⟨y, v, a', e', hu, hy, he, he', hrunp', hR⟩ := hp c c' a e hc hc' hrunp (by omega)
  have hcount : e.rest.length + u.length = c.rest.length + v.length := by
    have hcountc := congrArg List.length hc
    have hcounte := congrArg List.length he
    rw [Cursor.lexemes, List.length_map, List.length_append] at hcountc hcounte
    omega
  obtain ⟨z, w, b', d', hv, hz, hd, hd', hrunf', hQ⟩ :=
    h a a' v ⟨y, hu.symm⟩ hR ⟨c, e, hrunp, hcount⟩ e e' b d he he' hrunf hlength
  refine ⟨y ++ z, w, b', d', ?_, hy.append hz, hd, hd', ?_, hQ⟩
  · rw [hu, hv, List.append_assoc]
  · rw [run_bind_of_run hrunp', hrunf']

theorem length_le_of_run {b : γ} {a : α} {e d : Cursor} (hrun : (f a).run e = some (b, d)) :
    d.rest.length + k ≤ e.rest.length + k := by
  have hlater := ((f a).reaches hrun).length_le
  omega

theorem bind
    (hp : Agree E k [] R u p p')
    (h : ∀ a a' v, v <:+ u → R a a' → Agree E k s Q v (f a) (f' a')) :
    Agree E k s Q u (p >>= f) (p' >>= f') :=
  bind_append hp (fun _ _ _ _ => length_le_of_run) fun a a' v hv hR _ => h a a' v hv hR

/-- A first reader that takes something for some results leaves less. -/
theorem bind_shorter {P : α → Prop}
    (hp : Agree E k [] R u p p')
    (htakes : TakesFor P p)
    (h : ∀ a a' v, v <:+ u → R a a' → (P a → v.length < u.length) →
      Agree E k s Q v (f a) (f' a')) :
    Agree E k s Q u (p >>= f) (p' >>= f') := by
  refine bind_append hp (fun _ _ _ _ => length_le_of_run) fun a a' v hv hR htook => ?_
  refine h a a' v hv hR fun hP => ?_
  obtain ⟨c, e, hrun, hcount⟩ := htook
  have hless := htakes c a e hP hrun
  omega

/-- The brackets may also be closed by the first of two readers. -/
theorem bind_closed
    (hp : Agree E k s R u p p')
    (h : ∀ a a' v, v <:+ u → R a a' → Agree E k [] Q v (f a) (f' a')) :
    Agree E k s Q u (p >>= f) (p' >>= f') := by
  rw [← List.append_nil s]
  exact bind_append hp (fun _ _ _ _ => length_le_of_run) fun a a' v hv hR _ => h a a' v hv hR

/-- In front of a reader that takes something, something is left. -/
theorem bind_before
    (hp : Agree E 1 [] R u p p')
    (htakes : ∀ a, Takes (f a))
    (h : ∀ a a' v, v <:+ u → R a a' → Agree E k s Q v (f a) (f' a')) :
    Agree E k s Q u (p >>= f) (p' >>= f') := by
  refine bind_append hp ?_ fun a a' v hv hR _ => h a a' v hv hR
  intro a e b d hrun
  have hlater := htakes a e b d trivial hrun
  omega

theorem of_true {q : Parse α} {q' : Parse β} (h : Agree E k s R u p p') :
    Agree E k s R u (if true = true then p else q) (if true = true then p' else q') :=
  h

theorem of_false {q : Parse α} {q' : Parse β} (h : Agree E k s R u q q') :
    Agree E k s R u (if false = true then p else q) (if false = true then p' else q') :=
  h

theorem ite {P P' : Prop} [Decidable P] [Decidable P'] {q : Parse α} {q' : Parse β}
    (hP : P ↔ P')
    (hp : P → Agree E k s R u p p')
    (hq : ¬ P → Agree E k s R u q q') :
    Agree E k s R u (if P then p else q) (if P' then p' else q') := by
  by_cases h : P
  · rw [if_pos h, if_pos (hP.mp h)]
    exact hp h
  · rw [if_neg h, if_neg (fun h' => h (hP.mpr h'))]
    exact hq h

end Rules

/-! ## Rules for single lexemes -/

section Lexemes

variable {α β γ δ : Type}
variable {E : Setting} {k : Nat} {s s' : List String} {u : List Lexeme}
variable {Q : γ → δ → Prop}
variable {kind : Lexeme → Bool}

theorem look {g : Cursor → α} {g' : Cursor → β} {f : α → Parse γ} {f' : β → Parse δ}
    (h : ∀ c c', c.lexemes = u ++ E.one → c'.lexemes = u ++ E.other →
      Agree E k s Q u (f (g c)) (f' (g' c'))) :
    Agree E k s Q u (look g >>= f) (look g' >>= f') := by
  intro c c' b d hc hc' hrun hlength
  exact h c c' hc hc' c c' b d hc hc' hrun hlength

theorem here {f : Mark → Parse γ} {f' : Mark → Parse δ}
    (h : ∀ m m', Agree E k s Q u (f m) (f' m')) :
    Agree E k s Q u (here >>= f) (here >>= f') :=
  look fun _ _ _ _ => h _ _

theorem place {m m' : Mark} {f : Place → Parse γ} {f' : Place → Parse δ}
    (h : ∀ e e', Agree E k s Q u (f (placeBetween m e)) (f' (placeBetween m' e'))) :
    Agree E k s Q u (placeFrom m >>= f) (placeFrom m' >>= f') :=
  look fun _ _ _ _ => h _ _

theorem bound {f : Nat → Parse γ} {f' : Nat → Parse δ}
    (h : ∀ n n', u.length < n' → Agree E k s Q u (f n) (f' n')) :
    Agree E k s Q u (bound >>= f) (bound >>= f') := by
  refine look fun c c' _ hc' => h _ _ ?_
  have hcount := congrArg List.length hc'
  rw [Cursor.lexemes, List.length_map, List.length_append] at hcount
  omega

/-- The next lexeme is the same one, or both texts end. -/
theorem next_cases {c c' : Cursor}
    (hc : c.lexemes = u ++ E.one)
    (hc' : c'.lexemes = u ++ E.other) :
    (∃ l v, u = l :: v ∧ c.next = l ∧ c'.next = l) ∨
    (u = [] ∧ c.next = E.one.headD .finish ∧ c'.next = E.other.headD .finish) := by
  rw [c.next_eq, c'.next_eq, hc, hc']
  cases u with
  | nil => exact Or.inr ⟨rfl, rfl, rfl⟩
  | cons l v => exact Or.inl ⟨l, v, rfl, rfl, rfl⟩

theorem peek {f : Lexeme → Parse γ} {f' : Lexeme → Parse δ}
    (hcons : ∀ l v, u = l :: v → Agree E k s Q u (f l) (f' l))
    (hnil : u = [] →
      Agree E k s Q u (f (E.one.headD .finish)) (f' (E.other.headD .finish))) :
    Agree E k s Q u (peek >>= f) (peek >>= f') := by
  refine look fun c c' hc hc' => ?_
  rcases next_cases hc hc' with ⟨l, v, hu, hl, hl'⟩ | ⟨hu, hl, hl'⟩
  · rw [hl, hl']
    exact hcons l v hu
  · rw [hl, hl']
    exact hnil hu

theorem next {f : Bool → Parse γ} {f' : Bool → Parse δ}
    (hkind : u = [] → E.Stops kind)
    (htrue : ∀ l v, u = l :: v → kind l = true → Agree E k s Q u (f true) (f' true))
    (hfalse : (∀ l v, u = l :: v → kind l = false) →
      Agree E k s Q u (f false) (f' false)) :
    Agree E k s Q u (nextOf kind >>= f) (nextOf kind >>= f') := by
  show Agree E k s Q u (Grammar.look (fun c => kind c.next) >>= f)
    (Grammar.look (fun c => kind c.next) >>= f')
  refine look fun c c' hc hc' => ?_
  rcases next_cases hc hc' with ⟨l, v, hu, hl, hl'⟩ | ⟨hu, hl, hl'⟩
  · rw [hl, hl']
    cases hkindl : kind l with
    | true => exact htrue l v hu hkindl
    | false =>
        refine hfalse fun l' v' hu' => ?_
        rw [hu] at hu'
        obtain ⟨rfl, -⟩ := List.cons.inj hu'
        exact hkindl
  · rw [hl, hl', (hkind hu).1, (hkind hu).2]
    refine hfalse fun l' v' hu' => ?_
    rw [hu] at hu'
    cases hu'

theorem advance {l : Lexeme} {v : List Lexeme} {f : Unit → Parse γ} {f' : Unit → Parse δ}
    (hmove : ∀ y, Closes s' y → Closes s (l :: y))
    (h : Agree E k s' Q v (f ()) (f' ())) :
    Agree E k s Q (l :: v) (advance >>= f) (advance >>= f') := by
  intro c c' b d hc hc' hrun hlength
  obtain ⟨t, rest, hrest, -, hv⟩ := Cursor.lexemes_eq_cons hc
  obtain ⟨t', rest', hrest', -, hv'⟩ := Cursor.lexemes_eq_cons hc'
  obtain ⟨_, m⟩ := c
  obtain ⟨_, m'⟩ := c'
  cases hrest
  cases hrest'
  obtain ⟨y, w, b', d', hu, hy, hd, hd', hrun', hQ⟩ :=
    h ⟨rest, t.stop⟩ ⟨rest', t'.stop⟩ b d hv hv' hrun hlength
  exact ⟨l :: y, w, b', d', congrArg (l :: ·) hu, hmove y hy, hd, hd', hrun', hQ⟩

theorem acceptOf {f : Bool → Parse γ} {f' : Bool → Parse δ}
    (hkind : u = [] → E.Stops kind)
    (hmove : ∀ l y, kind l = true → Closes s' y → Closes s (l :: y))
    (htake : ∀ l v, u = l :: v → kind l = true → Agree E k s' Q v (f true) (f' true))
    (hskip : Agree E k s Q u (f false) (f' false)) :
    Agree E k s Q u (acceptOf kind >>= f) (acceptOf kind >>= f') := by
  rw [acceptOf_bind, acceptOf_bind]
  refine next hkind (fun l v hu hl => ?_) fun _ => hskip
  subst hu
  exact advance (fun y => hmove l y hl) (htake l v rfl hl)

theorem expectOf {f : Unit → Parse γ} {f' : Unit → Parse δ}
    (hmove : ∀ l y, kind l = true → Closes s' y → Closes s (l :: y))
    (hfinish : kind .finish = false)
    (htake : ∀ l v, u = l :: v → kind l = true → Agree E k s' Q v (f ()) (f' ())) :
    Agree E k s Q u (expectOf kind >>= f) (expectOf kind >>= f') := by
  refine of_takes (takes_expectOf hfinish).then fun hu => ?_
  rw [expectOf_bind, expectOf_bind]
  exact acceptOf (fun h => absurd h hu) hmove htake failure

end Lexemes

/-! ## Rules for symbols and words -/

section Symbols

variable {γ δ : Type} {E : Setting} {k : Nat} {s : List String} {u : List Lexeme}
variable {Q : γ → δ → Prop}
variable {f : Unit → Parse γ} {f' : Unit → Parse δ} {sym w o c : String}

theorem moves_plain (hsym : IsPlain (.symbol sym)) :
    ∀ l y, isSymbol l sym = true → Closes s y → Closes s (l :: y) := by
  intro l y hl hy
  rw [isSymbol_iff] at hl
  subst hl
  exact .plain hsym hy

theorem moves_word : ∀ l y, isWord l w = true → Closes s y → Closes s (l :: y) := by
  intro l y hl hy
  rw [isWord_iff] at hl
  subst hl
  exact .plain trivial hy

theorem moves_opening (hpair : (o, c) ∈ brackets) :
    ∀ l y, isSymbol l o = true → Closes (c :: s) y → Closes s (l :: y) := by
  intro l y hl hy
  rw [isSymbol_iff] at hl
  subst hl
  exact .opening hpair hy

theorem moves_closing (hc : c ∈ brackets.map Prod.snd) :
    ∀ l y, isSymbol l c = true → Closes s y → Closes (c :: s) (l :: y) := by
  intro l y hl hy
  rw [isSymbol_iff] at hl
  subst hl
  exact .closing hc hy

theorem accept {f : Bool → Parse γ} {f' : Bool → Parse δ}
    (hsym : IsPlain (.symbol sym))
    (hstops : u = [] → E.Stops (isSymbol · sym))
    (htake : ∀ v, u = .symbol sym :: v → Agree E k s Q v (f true) (f' true))
    (hskip : Agree E k s Q u (f false) (f' false)) :
    Agree E k s Q u (accept sym >>= f) (accept sym >>= f') := by
  refine acceptOf hstops (moves_plain hsym) (fun l v hu hl => ?_) hskip
  rw [isSymbol_iff] at hl
  subst hl
  exact htake v hu

theorem acceptWord {f : Bool → Parse γ} {f' : Bool → Parse δ}
    (htake : ∀ v, u = .word w :: v → Agree E k s Q v (f true) (f' true))
    (hskip : Agree E k s Q u (f false) (f' false)) :
    Agree E k s Q u (acceptWord w >>= f) (acceptWord w >>= f') := by
  refine acceptOf (fun _ => E.stops_word) moves_word (fun l v hu hl => ?_) hskip
  rw [isWord_iff] at hl
  subst hl
  exact htake v hu

theorem accept_opening {f : Bool → Parse γ} {f' : Bool → Parse δ}
    (hpair : (o, c) ∈ brackets)
    (htake : ∀ v, u = .symbol o :: v → Agree E k (c :: s) Q v (f true) (f' true))
    (hskip : Agree E k s Q u (f false) (f' false)) :
    Agree E k s Q u (Grammar.accept o >>= f) (Grammar.accept o >>= f') := by
  refine acceptOf (fun _ => E.stops_symbol ?_ ?_) (moves_opening hpair)
    (fun l v hu hl => ?_) hskip
  · rintro rfl
    simp [brackets] at hpair
  · rintro rfl
    simp [brackets] at hpair
  · rw [isSymbol_iff] at hl
    subst hl
    exact htake v hu

theorem accept_closing {f : Bool → Parse γ} {f' : Bool → Parse δ}
    (hu : u ≠ [])
    (hc : c ∈ brackets.map Prod.snd)
    (htake : ∀ v, u = .symbol c :: v → Agree E k s Q v (f true) (f' true))
    (hskip : Agree E k (c :: s) Q u (f false) (f' false)) :
    Agree E k (c :: s) Q u (Grammar.accept c >>= f) (Grammar.accept c >>= f') := by
  refine acceptOf (fun h => absurd h hu) (moves_closing hc) (fun l v hu hl => ?_) hskip
  rw [isSymbol_iff] at hl
  subst hl
  exact htake v hu

theorem expect
    (hsym : IsPlain (.symbol sym))
    (htake : ∀ v, u = .symbol sym :: v → Agree E k s Q v (f ()) (f' ())) :
    Agree E k s Q u (expect sym >>= f) (expect sym >>= f') := by
  refine expectOf (moves_plain hsym) rfl ?_
  intro l v hu hl
  rw [isSymbol_iff] at hl
  subst hl
  exact htake v hu

theorem expectWord
    (htake : ∀ v, u = .word w :: v → Agree E k s Q v (f ()) (f' ())) :
    Agree E k s Q u (expectWord w >>= f) (expectWord w >>= f') := by
  refine expectOf moves_word rfl ?_
  intro l v hu hl
  rw [isWord_iff] at hl
  subst hl
  exact htake v hu

theorem expect_closing
    (hc : c ∈ brackets.map Prod.snd)
    (htake : ∀ v, u = .symbol c :: v → Agree E k s Q v (f ()) (f' ())) :
    Agree E k (c :: s) Q u (Grammar.expect c >>= f) (Grammar.expect c >>= f') := by
  refine expectOf (moves_closing hc) rfl ?_
  intro l v hu hl
  rw [isSymbol_iff] at hl
  subst hl
  exact htake v hu

end Symbols

/-! ## Rules for names -/

section Names

variable {γ δ : Type} {E : Setting} {k : Nat} {s : List String} {u : List Lexeme}
variable {Q : γ → δ → Prop}

theorem name {f : String → Parse γ} {f' : String → Parse δ}
    (h : ∀ w v, u = .word w :: v → Agree E k s Q v (f w) (f' w)) :
    Agree E k s Q u (name >>= f) (name >>= f') := by
  unfold Grammar.name
  rw [bind_bind, bind_bind]
  refine peek (fun l v hu => ?_) fun _ => ?_
  · subst hu
    cases l with
    | word w =>
        simp only [ite_bind, bind_bind]
        refine ite Iff.rfl (fun _ => failure) fun _ => ?_
        exact advance (fun y => .plain trivial) (h w v rfl)
    | _ => exact failure
  · rcases E.closing_one with h | h | h <;>
      simp only [h] <;>
      exact failure

/-- The second lexeme is the same one, or both texts end in front of it. -/
theorem second_cases {c c' : Cursor} {l : Lexeme} {v : List Lexeme}
    (hc : c.lexemes = l :: v ++ E.one)
    (hc' : c'.lexemes = l :: v ++ E.other) :
    (∃ l' w, v = l' :: w ∧ c.second = l' ∧ c'.second = l') ∨
    (v = [] ∧ c.second = E.one.headD .finish ∧ c'.second = E.other.headD .finish) := by
  rw [c.second_eq, c'.second_eq, hc, hc']
  cases v with
  | nil => exact Or.inr ⟨rfl, rfl, rfl⟩
  | cons l' w => exact Or.inl ⟨l', w, rfl, rfl, rfl⟩

theorem peekSecond {l : Lexeme} {v : List Lexeme}
    {f : Lexeme → Parse γ} {f' : Lexeme → Parse δ}
    (hcons : ∀ l' w, v = l' :: w → Agree E k s Q (l :: v) (f l') (f' l'))
    (hnil : v = [] →
      Agree E k s Q (l :: v) (f (E.one.headD .finish)) (f' (E.other.headD .finish))) :
    Agree E k s Q (l :: v) (peekSecond >>= f) (peekSecond >>= f') := by
  refine look fun c c' hc hc' => ?_
  rcases second_cases hc hc' with ⟨l', w, hv, hl, hl'⟩ | ⟨hv, hl, hl'⟩
  · rw [hl, hl']
    exact hcons l' w hv
  · rw [hl, hl']
    exact hnil hv

theorem nameThen {sym : String} {f : Bool → Parse γ} {f' : Bool → Parse δ}
    (hcomma : "," ≠ sym)
    (hclose : ")" ≠ sym)
    (htrue : ∀ w v, u = .word w :: .symbol sym :: v → Agree E k s Q u (f true) (f' true))
    (hfalse : Agree E k s Q u (f false) (f' false)) :
    Agree E k s Q u (nameThen sym >>= f) (nameThen sym >>= f') := by
  unfold Grammar.nameThen nextIsName
  simp only [bind_bind, ite_bind, pure_bind']
  refine next (fun _ => E.stops_name) (fun l v hu hl => ?_) fun _ => hfalse
  subst hu
  obtain ⟨w, rfl, -⟩ := isName_iff.mp hl
  refine peekSecond (fun l' v' hv => ?_) fun _ => ?_
  · cases hl' : isSymbol l' sym with
    | true =>
        rw [isSymbol_iff] at hl'
        subst hl'
        subst hv
        exact htrue w v' rfl
    | false => exact hfalse
  · have hone : isSymbol (E.one.headD .finish) sym = false :=
      (E.stops_symbol hcomma hclose).1
    have hother : isSymbol (E.other.headD .finish) sym = false :=
      (E.stops_symbol hcomma hclose).2
    rw [hone, hother]
    exact hfalse

theorem clauseNext {f : Bool → Parse γ} {f' : Bool → Parse δ}
    (h : ∀ b, Agree E k s Q u (f b) (f' b)) :
    Agree E k s Q u (clauseNext >>= f) (clauseNext >>= f') := by
  unfold Grammar.clauseNext nextIsWord
  simp only [bind_bind, ite_bind, pure_bind']
  refine next (fun _ => E.stops_word) (fun _ _ _ _ => h true) fun _ => ?_
  refine next (fun _ => E.stops_word) (fun l v hu _ => ?_) fun _ => h false
  subst hu
  have hone : isWord (E.one.headD .finish) "for" = false := E.stops_word.1
  have hother : isWord (E.other.headD .finish) "for" = false := E.stops_word.2
  refine peekSecond (fun l' _ _ => h (isWord l' "for")) fun _ => ?_
  rw [hone, hother]
  exact h false

end Names

/-! ## Repetitions -/

section Repetitions

theorem isEmpty_iff {α β : Type} {R : α → β → Prop} {as : List α} {as' : List β}
    (h : List.Forall₂ R as as') : as.isEmpty = true ↔ as'.isEmpty = true := by
  cases h <;> simp

variable {α β : Type} {E : Setting} {k : Nat} {u : List Lexeme} {R : α → β → Prop}

theorem repeated {p : Parse (Option α)} {p' : Parse (Option β)}
    (hstep : ∀ v, v <:+ u → Agree E k [] (Option.Rel R) v p p')
    (htakes : TakesFor (fun o => o ≠ none) p)
    (n n' : Nat)
    (hn' : u.length < n') :
    Agree E k [] (List.Forall₂ R) u (repeated p n) (repeated p' n') := by
  induction n' generalizing u n with
  | zero => omega
  | succ n' ih =>
      cases n with
      | zero => exact failure
      | succ n =>
          refine bind_shorter (hstep u List.suffix_rfl) htakes fun o o' v hv ho hshorter => ?_
          cases ho with
          | none => exact pure .nil
          | some ha =>
              have hlength := hshorter (by simp)
              refine bind (ih (fun w hw => hstep w (hw.trans hv)) n (by omega)) ?_
              exact fun rest rest' w _ hrest => pure (.cons ha hrest)

/-- A repeated reader takes something if its test does. -/
theorem takesFor_of_test {test : Parse Bool} {p : Parse α}
    (h : TakesFor (· = true) test) :
    TakesFor (fun o => o ≠ none)
      (test >>= fun r =>
        if r = true then p >>= fun a => Pure.pure (some a) else Pure.pure none) := by
  intro c o d ho hrun
  obtain ⟨r, e, htest, hrest⟩ := run_bind_eq_some_iff.mp hrun
  cases r with
  | false =>
      cases hrest
      exact absurd rfl ho
  | true =>
      obtain ⟨a, e', hp, hpure⟩ := run_bind_eq_some_iff.mp hrest
      cases hpure
      exact (p.reaches hp).length_le.trans_lt (h c true e rfl htest)

/-- A repeated reader takes something if what it reads behind its test does. -/
theorem takesFor_of_item {test : Parse Bool} {p : Parse α}
    (h : Takes p) :
    TakesFor (fun o => o ≠ none)
      (test >>= fun r => if r = true then p >>= fun a => Pure.pure (some a) else Pure.pure none) :=
  .behind fun _ => .ite h.then (takesFor_pure (by simp))

/-- A reader that takes something each time after a test succeeded. -/
theorem whenever {test : Parse Bool} {p : Parse α} {p' : Parse β}
    (hstep : ∀ v, v <:+ u → Agree E k [] (Option.Rel R) v
      (test >>= fun r => if r = true then p >>= fun a => Pure.pure (some a) else Pure.pure none)
      (test >>= fun r => if r = true then p' >>= fun a => Pure.pure (some a) else Pure.pure none))
    (htakes : TakesFor (fun o => o ≠ none)
      (test >>= fun r => if r = true then p >>= fun a => Pure.pure (some a) else Pure.pure none)) :
    Agree E k [] (List.Forall₂ R) u (whenever test p) (whenever test p') :=
  bound fun n n' hn' => repeated hstep htakes n n' hn'

theorem commaItems {item : Parse α} {item' : Parse β} {close : String}
    (hitem : ∀ v, v <:+ u → Agree E 1 [] R v item item')
    (n n' : Nat)
    (hn' : u.length < n') :
    Agree E 1 [] (List.Forall₂ R) u (commaItems item close n) (commaItems item' close n') := by
  induction n' generalizing u n with
  | zero => omega
  | succ n' ih =>
      cases n with
      | zero => exact failure
      | succ n =>
          refine of_ne_nil fun hu => ?_
          refine next (fun h => absurd h hu) (fun _ _ _ _ => pure .nil) fun _ => ?_
          refine bind (hitem u List.suffix_rfl) fun a a' v hv ha => ?_
          refine of_ne_nil fun hv' => ?_
          refine accept (by decide) (fun h => absurd h hv') (fun w hw => ?_) ?_
          · have hwu : w <:+ u := (hw ▸ List.suffix_cons _ w).trans hv
            have hlength : w.length < u.length := by
              have hle := hv.length_le
              rw [hw, List.length_cons] at hle
              omega
            refine bind (ih (fun z hz => hitem z (hz.trans hwu)) n (by omega)) ?_
            exact fun rest rest' z _ hrest => pure (.cons ha hrest)
          · exact next (fun h => absurd h hv') (fun _ _ _ _ => pure (.cons ha .nil))
              fun _ => failure

theorem moreItems {item : Parse α} {item' : Parse β} {close : String}
    (hitem : ∀ v, v <:+ u → Agree E 1 [] R v item item') :
    Agree E 1 [] (List.Forall₂ R) u (moreItems item close) (moreItems item' close) := by
  refine of_ne_nil fun hu => ?_
  refine accept (by decide) (fun h => absurd h hu) (fun v hv => ?_) (pure .nil)
  have hvu : v <:+ u := hv ▸ List.suffix_cons _ v
  exact bound fun n n' hn' => commaItems (fun w hw => hitem w (hw.trans hvu)) n n' hn'

end Repetitions

end Agree

end Grammar
end Script
end BuildTransform
