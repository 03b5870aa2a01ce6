import BuildTransform.Proofs.Script.Reading

/-!
# Where forms stand

Which tokens a node was read from.

* `Formed` says how an expression came about: it was built from all the tokens that were
  read, it is a call, or it is another expression in parentheses.
* `Builds`, `Keeps` and `Forms` follow the ways in which readers are put together.
* `formed_named` is the result for the readers of all depths.
-/

namespace BuildTransform
namespace Script
namespace Grammar

/-! ## How expressions come about -/

/-- A certain symbol stands between two cursors. -/
def Cursor.Skips (c : Cursor) (sym : String) (d : Cursor) : Prop :=
  ∃ t, c.rest = t :: d.rest ∧ t.lexeme = .symbol sym ∧ d.last = t.stop

/-- The forms that are not read between their first and their last token, or that stand
only in certain places. -/
def special : List String :=
  ["Expression", "Call", "Starred", "Yield", "YieldFrom"]

/-- The node has a new form, and it stands between a mark and the last token read. -/
structure Built (start : Mark) (n : Node) (d : Cursor) : Prop where
  place : n.place = placeBetween start d.last
  form : n.formName ∉ special

/-- How an expression between two cursors came about. -/
inductive Formed : Cursor → Node → Cursor → Prop
  | built {c d : Cursor} {n : Node}
      (h : Built c.start n d) :
      Formed c n d
  | called {m : Nat} {callee n : Node} {c e inner d : Cursor}
      (hreach : c.Reaches e)
      (hopen : e.Skips "(" inner)
      (hrun : (callOf (readers m) callee c.start e.start).run inner = some (n, d)) :
      Formed c n d
  | wrapped {m : Nat} {n : Node} {c inner e d : Cursor}
      (hopen : c.Skips "(" inner)
      (hrun : (named (readers m)).run inner = some (n, e))
      (hinner : Formed inner n e)
      (hclose : e.Skips ")" d) :
      Formed c n d
  | yielded {n : Node} {c inner e d : Cursor}
      (hopen : c.Skips "(" inner)
      (hform : n.formName = "Yield" ∨ n.formName = "YieldFrom")
      (hplace : n.place = placeBetween inner.start e.last)
      (hreach : inner.Reaches e)
      (hclose : e.Skips ")" d) :
      Formed c n d

/-- Whatever the reader yields is formed. -/
def FormedBy (p : Parse Node) : Prop :=
  ∀ c n d, p.run c = some (n, d) → Formed c n d

/-! ## Rules -/

/-- The reader takes nothing. -/
def Stays {α : Type} (p : Parse α) : Prop :=
  ∀ c a d, p.run c = some (a, d) → d = c

/-- Whatever the reader yields is built from a mark on. -/
def Builds (start : Mark) (p : Parse Node) : Prop :=
  ∀ c n d, p.run c = some (n, d) → Built start n d

/-- Behind a node that was read, the reader yields that node and takes nothing, or it
builds another from a mark on. -/
def Keeps (a : Node) (start : Mark) (p : Parse Node) : Prop :=
  ∀ c n d, p.run c = some (n, d) → (n = a ∧ d = c) ∨ Built start n d

/-- Whatever the reader yields is formed, where a mark is the start of the next token. -/
def Forms (start : Mark) (p : Parse Node) : Prop :=
  ∀ c n d, c.start = start → p.run c = some (n, d) → Formed c n d

section Rules

variable {α : Type} {start : Mark} {a : Node} {p q : Parse Node} {r : Parse α}
variable {f : α → Parse Node} {kind : Lexeme → Bool}

theorem stays_look {g : Cursor → α} : Stays (look g) := by
  intro c a d h
  cases h
  rfl

theorem stays_nextOf : Stays (nextOf kind) := by
  intro c r d h
  rw [run_nextOf] at h
  cases h
  rfl

theorem Stays.bind {β : Type} {g : α → Parse β} (h : Stays r) (hg : ∀ a, Stays (g a)) :
    Stays (r >>= g) := by
  intro c b d hrun
  obtain ⟨a, e, hr, hnext⟩ := run_bind_eq_some_iff.mp hrun
  rw [hg a e b d hnext, h c a e hr]

theorem Stays.ite {C : Prop} [Decidable C] {r' : Parse α} (h : Stays r) (h' : Stays r') :
    Stays (if C then r else r') := by
  split_ifs
  · exact h
  · exact h'

theorem stays_clauseNext : Stays clauseNext :=
  .bind stays_nextOf fun _ => .ite stays_look (.bind stays_nextOf fun _ =>
    .ite (.bind stays_look fun _ => stays_look) stays_look)

theorem Builds.behind (h : ∀ x, Builds start (f x)) : Builds start (r >>= f) := by
  intro c n d hrun
  obtain ⟨x, e, -, hnext⟩ := run_bind_eq_some_iff.mp hrun
  exact h x e n d hnext

theorem Builds.ite {C : Prop} [Decidable C] (hp : Builds start p) (hq : Builds start q) :
    Builds start (if C then p else q) := by
  split_ifs
  · exact hp
  · exact hq

theorem builds_failure : Builds start failure := by
  intro c n d h
  cases h

/-- A node that is given the place up to here. -/
theorem builds_node {node : Place → Node} (hplace : ∀ p, (node p).place = p)
    (hform : ∀ p, (node p).formName ∉ special) :
    Builds start (placeFrom start >>= fun p => pure (node p)) := by
  intro c n d h
  cases h
  exact ⟨hplace _, hform _⟩

theorem keeps_pure : Keeps a start (pure a) := by
  intro c n d h
  cases h
  exact Or.inl ⟨rfl, rfl⟩

theorem Builds.keeps (h : Builds start p) : Keeps a start p :=
  fun c n d hrun => Or.inr (h c n d hrun)

theorem Keeps.stays (h : Stays r) (hf : ∀ x, Keeps a start (f x)) :
    Keeps a start (r >>= f) := by
  intro c n d hrun
  obtain ⟨x, e, hr, hnext⟩ := run_bind_eq_some_iff.mp hrun
  obtain rfl := h c x e hr
  exact hf x e n d hnext

theorem run_acceptOf_eq_false {c d : Cursor} (h : (acceptOf kind).run c = some (false, d)) :
    d = c := by
  unfold acceptOf at h
  rw [run_bind_of_run run_nextOf] at h
  split_ifs at h
  · obtain ⟨_, e, -, hpure⟩ := run_bind_eq_some_iff.mp h
    cases hpure
  · cases h
    rfl

/-- Either a lexeme was accepted, or reading went on at the same place. -/
theorem run_acceptOf_cases {β : Type} {g : Bool → Parse β} {x : β} {c d : Cursor}
    (h : (acceptOf kind >>= g).run c = some (x, d)) :
    (∃ e, (acceptOf kind).run c = some (true, e) ∧ (g true).run e = some (x, d)) ∨
      (g false).run c = some (x, d) := by
  obtain ⟨taken, e, haccept, hnext⟩ := run_bind_eq_some_iff.mp h
  cases taken with
  | true => exact Or.inl ⟨e, haccept, hnext⟩
  | false =>
      obtain rfl := run_acceptOf_eq_false haccept
      exact Or.inr hnext

theorem Keeps.acceptOf {g : Bool → Parse Node} (htake : Builds start (g true))
    (hskip : Keeps a start (g false)) : Keeps a start (acceptOf kind >>= g) := by
  intro c n d hrun
  rcases run_acceptOf_cases hrun with ⟨e, -, hnext⟩ | hnext
  · exact Or.inr (htake e n d hnext)
  · exact hskip c n d hnext

theorem Builds.forms (h : Builds start p) : Forms start p := by
  rintro c n d rfl hrun
  exact .built (h c n d hrun)

theorem FormedBy.forms (h : FormedBy p) : Forms start p :=
  fun c n d _ hrun => h c n d hrun

theorem Forms.stays (h : Stays r) (hf : ∀ x, Forms start (f x)) :
    Forms start (r >>= f) := by
  intro c n d hstart hrun
  obtain ⟨x, e, hr, hnext⟩ := run_bind_eq_some_iff.mp hrun
  obtain rfl := h c x e hr
  exact hf x e n d hstart hnext

theorem Forms.acceptOf {g : Bool → Parse Node} (htake : Builds start (g true))
    (hskip : Forms start (g false)) : Forms start (acceptOf kind >>= g) := by
  intro c n d hstart hrun
  rcases run_acceptOf_cases hrun with ⟨e, -, hnext⟩ | hnext
  · subst hstart
    exact .built (htake e n d hnext)
  · exact hskip c n d hstart hnext

theorem Forms.bind {f : Node → Parse Node} (h : FormedBy p) (hf : ∀ a, Keeps a start (f a)) :
    Forms start (p >>= f) := by
  intro c n d hstart hrun
  obtain ⟨a, e, hp, hnext⟩ := run_bind_eq_some_iff.mp hrun
  rcases hf a e n d hnext with ⟨rfl, rfl⟩ | hbuilt
  · exact h c n d hp
  · subst hstart
    exact .built hbuilt

theorem formedBy_here {f : Mark → Parse Node} (h : ∀ start, Forms start (f start)) :
    FormedBy (here >>= f) :=
  fun c n d hrun => h c.start c n d rfl hrun

/-- The reader never says no. -/
def Affirms (p : Parse Bool) : Prop :=
  ∀ c d, p.run c ≠ some (false, d)

/-- The reader takes nothing if it says no. -/
def Declines (p : Parse Bool) : Prop :=
  ∀ c d, p.run c = some (false, d) → d = c

theorem affirms_pure : Affirms (pure true) := by
  rintro c d ⟨⟩

theorem affirms_behind {α : Type} {r : Parse α} : Affirms (r >>= fun _ => pure true) := by
  intro c d h
  obtain ⟨_, e, -, hpure⟩ := run_bind_eq_some_iff.mp h
  cases hpure

theorem Affirms.declines {p : Parse Bool} (h : Affirms p) : Declines p :=
  fun c d hrun => absurd hrun (h c d)

theorem declines_acceptOf {kind : Lexeme → Bool} {g : Bool → Parse Bool}
    (htake : Affirms (g true)) (hskip : Declines (g false)) :
    Declines (acceptOf kind >>= g) := by
  intro c d h
  rcases run_acceptOf_cases h with ⟨e, -, hnext⟩ | hnext
  · exact absurd hnext (htake e d)
  · exact hskip c d hnext

theorem Declines.look {α : Type} {g : Cursor → α} {f : α → Parse Bool}
    (h : ∀ a, Declines (f a)) : Declines (Grammar.look g >>= f) :=
  fun c d hrun => h (g c) c d hrun

theorem Declines.ite {C : Prop} [Decidable C] {p q : Parse Bool}
    (hp : Declines p) (hq : Declines q) : Declines (if C then p else q) := by
  split_ifs
  · exact hp
  · exact hq

theorem declines_acceptWord {word : String} : Declines (acceptWord word) :=
  fun _ _ => run_acceptOf_eq_false

/-- Repeating a reader takes nothing if its test fails at once. -/
theorem keeps_whenever {test : Parse Bool} {operand : Parse Node}
    (node : List Node → Place → Node)
    (htest : Declines test)
    (hplace : ∀ ns p, (node ns p).place = p)
    (hform : ∀ ns p, (node ns p).formName ∉ special) :
    Keeps a start (whenever test operand >>= fun more =>
      if more.isEmpty = true then pure a else placeFrom start >>= fun p => pure (node more p)) := by
  intro c n d hrun
  obtain ⟨more, e, hmore, hnext⟩ := run_bind_eq_some_iff.mp hrun
  split_ifs at hnext with hempty
  · cases hnext
    obtain rfl := List.isEmpty_iff.mp hempty
    refine Or.inl ⟨rfl, ?_⟩
    unfold whenever bound at hmore
    rw [run_bind_look, repeated] at hmore
    obtain ⟨step, e', hstep, hrest⟩ := run_bind_eq_some_iff.mp hmore
    obtain ⟨yes, e'', hyes, hitem⟩ := run_bind_eq_some_iff.mp hstep
    cases yes with
    | true =>
        obtain ⟨x, _, -, hpure⟩ := run_bind_eq_some_iff.mp hitem
        cases hpure
        obtain ⟨xs, _, -, hpure⟩ := run_bind_eq_some_iff.mp hrest
        cases hpure
    | false =>
        cases hitem
        cases hrest
        exact htest _ _ hyes
  · exact Or.inr (builds_node (hplace more) (hform more) e n d hnext)

end Rules

/-! ## Operators -/

section Operators

variable {b : Below} {start : Mark}

theorem operatorOf_eq_none {ops : List (String × Operator)} {c d : Cursor}
    (h : (operatorOf ops).run c = some (none, d)) : d = c := by
  unfold operatorOf peek at h
  rw [run_bind_look] at h
  split at h
  · obtain ⟨_, e, -, hpure⟩ := run_bind_eq_some_iff.mp h
    cases hpure
  · cases h
    rfl

theorem keeps_chain {operand : Parse Node} {ops : List (String × Operator)} {left : Node}
    (n : Nat) : Keeps left start (chain operand ops start n left) := by
  induction n generalizing left with
  | zero => exact builds_failure.keeps
  | succ n ih =>
      intro c node d hrun
      obtain ⟨o, e, ho, hnext⟩ := run_bind_eq_some_iff.mp hrun
      cases o with
      | none =>
          cases hnext
          exact Or.inl ⟨rfl, operatorOf_eq_none ho⟩
      | some o =>
          obtain ⟨right, e', -, hchain⟩ := run_bind_eq_some_iff.mp hnext
          rcases ih e' node d hchain with ⟨rfl, rfl⟩ | hbuilt
          · exact Or.inr ⟨rfl, by simp [Node.formName, special]⟩
          · exact Or.inr hbuilt

theorem formed_binaryOf (h : FormedBy b.factor) (ops : List (List (String × Operator))) :
    FormedBy (binaryOf b ops) := by
  induction ops with
  | nil => exact h
  | cons level tighter ih =>
      refine formedBy_here fun start => .bind ih fun left => ?_
      exact .stays stays_look fun n => keeps_chain n

theorem declines_comparisonOperator : Declines comparisonOperator := by
  have hno : Declines (pure false) := by
    rintro c d ⟨⟩
    rfl
  have hnot : Declines (nextIsWord "not" >>= fun r =>
      if r = true then peekSecond >>= fun l =>
        if isWord l "in" = true then advance >>= fun _ => advance >>= fun _ => pure true
        else pure false
      else pure false) :=
    .look fun _ => .ite (.look fun _ => .ite (Affirms.declines fun c d h => by
      obtain ⟨_, e, -, hrest⟩ := run_bind_eq_some_iff.mp h
      exact affirms_behind e d hrest) hno) hno
  refine declines_acceptOf affirms_pure (.ite affirms_pure.declines ?_)
  refine declines_acceptOf affirms_pure (.ite affirms_pure.declines ?_)
  exact declines_acceptOf affirms_behind (.ite affirms_behind.declines hnot)

theorem formed_comparison (h : FormedBy b.factor) : FormedBy (comparison b) := by
  refine formedBy_here fun start => .bind (formed_binaryOf h levels) fun first => ?_
  exact keeps_whenever (fun more p => .other "Compare" (first :: more) p)
    declines_comparisonOperator (fun _ _ => rfl) (fun _ _ => by
      simp [Node.formName, special])

theorem formed_inversion (h : FormedBy b.factor) : FormedBy (inversion b) := by
  refine formedBy_here fun start => .acceptOf ?_ (formed_comparison h).forms
  exact .behind fun operand => builds_node (fun _ => rfl) (fun _ => by
    simp [Node.formName, special])

theorem formed_logical {isOr : Bool} {word : String} {operand : Parse Node}
    (h : FormedBy operand) : FormedBy (logical isOr word operand) := by
  refine formedBy_here fun start => .bind h fun first => ?_
  exact keeps_whenever (fun more p => .logical isOr (first :: more) p)
    declines_acceptWord (fun _ _ => rfl) (fun _ _ => by
      simp [Node.formName, special])

theorem formed_expression (h : FormedBy b.factor) : FormedBy (expression b) := by
  have hnode {form : String} {parts : List Node} (hform : form ∉ special) {start : Mark} :
      Builds start (placeFrom start >>= fun p => pure (.other form parts p)) :=
    builds_node (fun _ => rfl) fun _ => hform
  have hdisjunction : FormedBy (disjunction b) :=
    formed_logical (formed_logical (formed_inversion h))
  refine formedBy_here fun start => .acceptOf ?_ ?_
  · exact .behind fun _ => .behind fun _ => .behind fun _ => .behind fun _ =>
      hnode (by simp [special])
  · refine .bind hdisjunction fun yes => .acceptOf ?_ keeps_pure
    exact .behind fun test => .behind fun _ => .behind fun no => builds_node (fun _ => rfl)
      fun _ => by simp [Node.formName, special]

theorem formed_named (h : FormedBy b.expression) : FormedBy (named b) := by
  intro c n d hrun
  obtain ⟨binds, e, hbinds, hnext⟩ := run_bind_eq_some_iff.mp hrun
  have hstays : Stays (nameThen ":=") :=
    .bind stays_nextOf fun _ => .ite (.bind stays_look fun _ => stays_look) stays_look
  obtain rfl := hstays _ _ _ hbinds
  cases binds with
  | true =>
      refine formedBy_here (fun start => Builds.forms ?_) e n d hnext
      exact .behind fun _ => .behind fun _ => .behind fun _ => builds_node (fun _ => rfl)
        fun _ => by simp [Node.formName, special]
  | false => exact h e n d hnext

end Operators

/-! ## Operands -/

section Operands

variable {b : Below} {m : Nat} {start : Mark}

theorem skips_of_accept {sym : String} {c d : Cursor} (h : (accept sym).run c = some (true, d)) :
    c.Skips sym d := by
  obtain ⟨t, hrest, hsym, hlast⟩ := (run_acceptOf_eq_true_iff rfl).mp h
  exact ⟨t, hrest, isSymbol_iff.mp hsym, hlast⟩

theorem skips_of_expect {sym : String} {c d : Cursor} {u : Unit}
    (h : (expect sym).run c = some (u, d)) : c.Skips sym d :=
  skips_of_accept (run_expectOf_eq_some_iff.mp h)

theorem Cursor.Skips.reaches {sym : String} {c d : Cursor} (h : c.Skips sym d) :
    c.Reaches d := by
  obtain ⟨t, hrest, -, hlast⟩ := h
  obtain ⟨rest, last⟩ := c
  obtain ⟨rest', last'⟩ := d
  simp only at hrest hlast
  subst hrest
  subst hlast
  exact .take (.refl _)

theorem Cursor.Skips.next {sym : String} {c d : Cursor} (h : c.Skips sym d) :
    c.next = .symbol sym := by
  obtain ⟨t, hrest, hsym, -⟩ := h
  obtain ⟨rest, last⟩ := c
  cases hrest
  exact hsym

theorem builds_other {form : String} {parts : List Node} (hform : form ∉ special) :
    Builds start (placeFrom start >>= fun p => pure (.other form parts p)) :=
  builds_node (fun _ => rfl) fun _ => hform

theorem builds_display {shape : Display} {items : List Node} :
    Builds start (placeFrom start >>= fun p => pure (.display shape items p)) :=
  builds_node (fun _ => rfl) fun _ => by cases shape <;> simp [Node.formName, special]

theorem builds_comprehension {close form : String} (hform : form ∉ special) :
    Builds start (comprehension b close form start) :=
  .behind fun _ => .behind fun _ => builds_other hform

theorem builds_subscriptOf {object : Node} : Builds start (subscriptOf b object start) :=
  .behind fun _ => .behind fun _ => builds_node (fun _ => rfl) fun _ => by
    simp [Node.formName, special]

theorem builds_displayRest {shape : Display} {close form : String} {first : Node}
    (hform : form ∉ special) : Builds start (displayRest b shape close form start first) :=
  .behind fun _ => .ite (.ite builds_failure (builds_comprehension hform))
    (.behind fun _ => .behind fun _ => builds_display)

theorem builds_listOf : Builds start (listOf b start) :=
  .behind fun _ => .ite builds_display
    (.behind fun _ => builds_displayRest (by simp [special]))

theorem builds_dict {entries : List (Option Node × Node)} :
    Builds start (placeFrom start >>= fun p => pure (dictOf entries p)) := by
  refine builds_node (fun p => ?_) fun p => ?_
  · unfold dictOf
    split <;> rfl
  · unfold dictOf
    split <;> simp [Node.formName, special]

theorem builds_dictRest {first : Option Node × Node} : Builds start (dictRest b start first) :=
  .behind fun _ => .ite (.ite builds_failure (builds_comprehension (by simp [special])))
    (.behind fun _ => .behind fun _ => builds_dict)

theorem builds_setOrDict : Builds start (setOrDict b start) := by
  refine .behind fun _ => .ite ?_ (.behind fun _ => .ite ?_ ?_)
  · exact builds_node (fun _ => rfl) fun _ => by simp [Node.formName, special]
  · exact .behind fun _ => builds_dictRest
  · refine .behind fun _ => .behind fun _ => .behind fun _ => .ite ?_ ?_
    · exact .behind fun _ => .behind fun _ => builds_dictRest
    · exact builds_displayRest (by simp [special])

theorem builds_constant {v : Value} :
    Builds start (placeFrom start >>= fun p => pure (.constant v p)) :=
  builds_node (fun _ => rfl) fun _ => by simp [Node.formName, special]

theorem forms_quoted : Forms start (quoted b) := by
  refine FormedBy.forms (formedBy_here fun start => .stays stays_look fun n => ?_)
  refine Builds.forms (.behind fun qs => ?_)
  intro c node d hrun
  unfold placeFrom at hrun
  rw [run_bind_look] at hrun
  split at hrun
  · exact builds_constant c node d hrun
  · exact builds_constant c node d hrun
  · split_ifs at hrun
    · cases hrun
    · split at hrun
      · exact builds_other (by simp [special]) c node d hrun
      · cases hrun

theorem yieldOf_place {c d : Cursor} {n : Node} (hrun : (yieldOf b).run c = some (n, d)) :
    (n.formName = "Yield" ∨ n.formName = "YieldFrom") ∧
      n.place = placeBetween c.start d.last := by
  obtain ⟨_, _, hhere, hrun⟩ := run_bind_eq_some_iff.mp hrun
  cases hhere
  obtain ⟨_, e, -, hrun⟩ := run_bind_eq_some_iff.mp hrun
  obtain ⟨delegates, e, -, hrun⟩ := run_bind_eq_some_iff.mp hrun
  cases delegates with
  | true =>
      obtain ⟨v, e, -, hrun⟩ := run_bind_eq_some_iff.mp hrun
      cases hrun
      exact ⟨Or.inr rfl, rfl⟩
  | false =>
      obtain ⟨vs, e, -, hrun⟩ := run_bind_eq_some_iff.mp hrun
      cases hrun
      exact ⟨Or.inl rfl, rfl⟩

/-- Behind its first item, something in round brackets is built from the opening bracket on,
unless it is that item. -/
theorem groupRest_cases {first n : Node} {c d : Cursor}
    (hrun : (groupRest b start first).run c = some (n, d)) :
    Built start n d ∨ (n = first ∧ isStarred first = false ∧ c.Skips ")" d) := by
  rcases run_acceptOf_cases hrun with ⟨e, -, hrest⟩ | hrest
  · refine Or.inl ?_
    obtain ⟨_, e, -, hrest⟩ := run_bind_eq_some_iff.mp hrest
    obtain ⟨more, e, -, hrest⟩ := run_bind_eq_some_iff.mp hrest
    obtain ⟨_, e, -, hrest⟩ := run_bind_eq_some_iff.mp hrest
    exact builds_display e n d hrest
  · rw [if_neg Bool.false_ne_true] at hrest
    split_ifs at hrest with hstarred
    · cases hrest
    · obtain ⟨generates, e, hnext, hrest⟩ := run_bind_eq_some_iff.mp hrest
      obtain rfl := stays_clauseNext _ _ _ hnext
      cases generates with
      | true => exact Or.inl (builds_comprehension (by simp [special]) e n d hrest)
      | false =>
          obtain ⟨_, e', hclose, hpure⟩ := run_bind_eq_some_iff.mp hrest
          cases hpure
          exact Or.inr ⟨rfl, by simpa using hstarred, skips_of_expect hclose⟩

/-- An item in brackets that unpacks nothing is an expression that may bind a name. -/
theorem run_named_of_starNamed {first : Node} {c d : Cursor}
    (hrun : (starNamed b).run c = some (first, d)) (hstarred : isStarred first = false) :
    (named b).run c = some (first, d) := by
  obtain ⟨_, _, hhere, hrun⟩ := run_bind_eq_some_iff.mp hrun
  cases hhere
  rcases run_acceptOf_cases hrun with ⟨e, -, hrest⟩ | hrest
  · obtain ⟨v, e', -, hpure⟩ := run_bind_eq_some_iff.mp hrest
    cases hpure
    cases hstarred
  · exact hrest

/-- What stands in parentheses is a tuple or a generator, which they belong to, or it is
formed by itself. -/
theorem formed_parenthesized {c inner d : Cursor} {n : Node}
    (hexpression : FormedBy (readers m).expression)
    (hopen : c.Skips "(" inner)
    (hrun : (parenthesized (readers m) c.start).run inner = some (n, d)) : Formed c n d := by
  rcases run_acceptOf_cases hrun with ⟨e, -, hrest⟩ | hrest
  · exact .built (builds_display e n d hrest)
  · rw [if_neg Bool.false_ne_true] at hrest
    obtain ⟨yields, e, hyields, hitem⟩ := run_bind_eq_some_iff.mp hrest
    obtain rfl := stays_nextOf _ _ _ hyields
    cases yields with
    | true =>
        obtain ⟨y, e', hy, hend⟩ := run_bind_eq_some_iff.mp hitem
        obtain ⟨_, e'', hclose, hpure⟩ := run_bind_eq_some_iff.mp hend
        cases hpure
        obtain ⟨hform, hplace⟩ := yieldOf_place hy
        exact .yielded hopen hform hplace ((yieldOf _).reaches hy) (skips_of_expect hclose)
    | false =>
        obtain ⟨first, e', hfirst, hgroup⟩ := run_bind_eq_some_iff.mp hitem
        rcases groupRest_cases hgroup with hbuilt | ⟨rfl, hstarred, hclose⟩
        · exact .built hbuilt
        · have hnamed := run_named_of_starNamed hfirst hstarred
          exact .wrapped hopen hnamed (formed_named hexpression _ _ _ hnamed) hclose

theorem formed_trailers {c e d : Cursor} {object n : Node} (k : Nat)
    (hreach : c.Reaches e)
    (hobject : Formed c object e)
    (hrun : (trailers (readers m) c.start k object).run e = some (n, d)) : Formed c n d := by
  induction k generalizing e object with
  | zero => cases hrun
  | succ k ih =>
      obtain ⟨_, _, hhere, hrun⟩ := run_bind_eq_some_iff.mp hrun
      cases hhere
      rcases run_acceptOf_cases hrun with ⟨e₁, hdot, hrest⟩ | hrest
      · obtain ⟨field, e₂, hname, hrest⟩ := run_bind_eq_some_iff.mp hrest
        obtain ⟨p, e₃, hplace, hrest⟩ := run_bind_eq_some_iff.mp hrest
        cases hplace
        refine ih ((hreach.trans ((accept ".").reaches hdot)).trans (name.reaches hname))
          (.built ⟨rfl, ?_⟩) hrest
        simp [Node.formName, special]
      rw [if_neg Bool.false_ne_true] at hrest
      rcases run_acceptOf_cases hrest with ⟨e₁, hround, hrest⟩ | hrest
      · obtain ⟨call, e₂, hcall, hrest⟩ := run_bind_eq_some_iff.mp hrest
        exact ih ((hreach.trans ((accept "(").reaches hround)).trans
          ((callOf _ _ _ _).reaches hcall)) (.called hreach (skips_of_accept hround) hcall) hrest
      rw [if_neg Bool.false_ne_true] at hrest
      rcases run_acceptOf_cases hrest with ⟨e₁, hsquare, hrest⟩ | hrest
      · obtain ⟨sub, e₂, hsub, hrest⟩ := run_bind_eq_some_iff.mp hrest
        exact ih ((hreach.trans ((accept "[").reaches hsquare)).trans
          ((subscriptOf _ _ _).reaches hsub)) (.built (builds_subscriptOf _ _ _ hsub)) hrest
      · cases hrest
        exact hobject

theorem skips_of_advance {sym : String} {c d : Cursor} {u : Unit}
    (hnext : c.next = .symbol sym) (hrun : advance.run c = some (u, d)) : c.Skips sym d := by
  obtain ⟨_ | ⟨t, rest⟩, last⟩ := c
  · cases hrun
  · cases hrun
    exact ⟨t, rfl, hnext, rfl⟩

theorem formed_atom (hexpression : FormedBy (readers m).expression) :
    FormedBy (atom (readers m)) := by
  intro c n d hrun
  obtain ⟨_, _, hhere, hrun⟩ := run_bind_eq_some_iff.mp hrun
  cases hhere
  obtain ⟨l, _, hpeek, hread⟩ := run_bind_eq_some_iff.mp hrun
  cases hpeek
  split at hread
  · exact .built (Builds.behind (fun _ => builds_constant) c n d hread)
  · exact forms_quoted c n d rfl hread
  · split at hread
    · exact .built (Builds.behind (fun _ => builds_constant) c n d hread)
    · refine .built (Builds.behind (fun id => ?_) c n d hread)
      exact builds_node (fun _ => rfl) fun _ => by simp [Node.formName, special]
  · exact .built (Builds.behind (fun _ => builds_constant) c n d hread)
  · rename_i hsymbol
    obtain ⟨_, inner, hopen, hread⟩ := run_bind_eq_some_iff.mp hread
    exact formed_parenthesized hexpression (skips_of_advance hsymbol hopen) hread
  · exact .built (Builds.behind (fun _ => builds_listOf) c n d hread)
  · exact .built (Builds.behind (fun _ => builds_setOrDict) c n d hread)
  · cases hread

theorem formed_primary (hexpression : FormedBy (readers m).expression) :
    FormedBy (primary (readers m)) := by
  intro c n d hrun
  obtain ⟨_, _, hhere, hrun⟩ := run_bind_eq_some_iff.mp hrun
  cases hhere
  obtain ⟨a, e, ha, hrun⟩ := run_bind_eq_some_iff.mp hrun
  obtain ⟨k, _, hbound, hrun⟩ := run_bind_eq_some_iff.mp hrun
  cases hbound
  exact formed_trailers _ ((atom _).reaches ha) (formed_atom hexpression c a _ ha) hrun

theorem formed_factor (hexpression : FormedBy (readers m).expression) :
    FormedBy (factor (readers m)) := by
  have hawaited : FormedBy (awaited (readers m)) := by
    refine formedBy_here fun start => .acceptOf ?_ (formed_primary hexpression).forms
    exact .behind fun _ => builds_other (by simp [special])
  have hpower : FormedBy (power (readers m)) := by
    refine formedBy_here fun start => .bind hawaited fun base => .acceptOf ?_ keeps_pure
    exact .behind fun _ => builds_node (fun _ => rfl) fun _ => by
      simp [Node.formName, special]
  refine formedBy_here fun start => .stays stays_look fun l => ?_
  split
  · split
    · refine Builds.forms (.behind fun _ => .behind fun _ => builds_node (fun _ => rfl) fun _ => ?_)
      simp [Node.formName, special]
    · exact hpower.forms
  · exact hpower.forms

end Operands

/-- The readers of all depths yield expressions that are formed. -/
theorem formed_readers (m : Nat) :
    FormedBy (readers m).expression ∧ FormedBy (readers m).factor := by
  induction m with
  | zero =>
      refine ⟨?_, ?_⟩ <;>
      · rintro c n d ⟨⟩
  | succ m ih => exact ⟨formed_expression ih.2, formed_factor ih.1⟩

/-- **Every expression that may bind a name is formed.** -/
theorem formed_of_named {m : Nat} {c d : Cursor} {n : Node}
    (h : (named (readers m)).run c = some (n, d)) : Formed c n d :=
  formed_named (formed_readers m).1 c n d h

end Grammar
end Script
end BuildTransform
