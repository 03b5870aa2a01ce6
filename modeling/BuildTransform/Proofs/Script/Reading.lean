import BuildTransform.Script.Grammar
import Mathlib.Tactic

/-!
# Running readers

How readers of tokens run, one after another.

* `run_bind_eq_some_iff` takes a chain of readers apart.
* `endOf` is the end of the last of some tokens; `Cursor.Reaches.split` says which
  tokens a reader took.
* A reader `Takes` something if it never succeeds without taking a token.
-/

namespace BuildTransform
namespace Script
namespace Grammar

section Runs

variable {α β : Type} {p : Parse α} {c d : Cursor}

@[simp] theorem run_pure (a : α) : (pure a : Parse α).run c = some (a, c) :=
  rfl

@[simp] theorem run_look (f : Cursor → α) : (look f).run c = some (f c, c) :=
  rfl

@[simp] theorem run_failure : (failure : Parse α).run c = none :=
  rfl

theorem run_bind_eq_some_iff
    {next : α → Parse β}
    {b : β} :
    (p >>= next).run c = some (b, d) ↔
      ∃ a e, p.run c = some (a, e) ∧ (next a).run e = some (b, d) := by
  show (p.andThen next).run c = some (b, d) ↔ _
  simp only [Parse.andThen]
  cases h : p.run c with
  | none => simp
  | some r =>
      obtain ⟨a, e⟩ := r
      simp

theorem run_bind_of_run
    {next : α → Parse β}
    {a : α}
    (h : p.run c = some (a, d)) :
    (p >>= next).run c = (next a).run d := by
  show (p.andThen next).run c = _
  simp only [Parse.andThen, h]

@[simp] theorem run_bind_look
    {f : Cursor → α}
    {next : α → Parse β} :
    (look f >>= next).run c = (next (f c)).run c :=
  rfl

theorem Parse.eq_of_run
    {q : Parse α}
    (h : ∀ c, p.run c = q.run c) :
    p = q := by
  obtain ⟨run, _⟩ := p
  obtain ⟨run', _⟩ := q
  obtain rfl : run = run' := funext h
  rfl

/-- Chains of readers may be grouped in any way. -/
theorem bind_bind
    {γ : Type}
    {next : α → Parse β}
    {more : β → Parse γ} :
    (p >>= next) >>= more = p >>= fun a => next a >>= more := by
  refine Parse.eq_of_run fun c => ?_
  show ((p.andThen next).andThen more).run c = (p.andThen fun a => (next a).andThen more).run c
  simp only [Parse.andThen]
  cases p.run c <;> rfl

@[simp] theorem pure_bind'
    {a : α}
    {next : α → Parse β} :
    (pure a : Parse α) >>= next = next a :=
  rfl

theorem ite_bind
    {P : Prop} [Decidable P]
    {q : Parse α}
    {next : α → Parse β} :
    (if P then p else q) >>= next = if P then p >>= next else q >>= next := by
  split_ifs <;> rfl

end Runs

/-! ## Tokens taken -/

/-- The end of the last of some tokens that follow a mark. -/
def endOf (m : Mark) : List Token → Mark
  | [] => m
  | t :: rest => endOf t.stop rest

section Reaches

variable {α β : Type} {p : Parse α} {c d : Cursor}

theorem Cursor.Reaches.split (h : c.Reaches d) :
    ∃ y, c.rest = y ++ d.rest ∧ d.last = endOf c.last y := by
  induction h with
  | refl c => exact ⟨[], rfl, rfl⟩
  | @take t rest m d _ ih =>
      obtain ⟨y, hy, hlast⟩ := ih
      exact ⟨t :: y, congrArg (t :: ·) hy, hlast⟩

theorem Cursor.Reaches.length_le (h : c.Reaches d) : d.rest.length ≤ c.rest.length := by
  obtain ⟨y, hy, -⟩ := h.split
  simp [hy]

/-- A reader never yields one of some results without taking a token. -/
def TakesFor (P : α → Prop) (p : Parse α) : Prop :=
  ∀ c a d, P a → p.run c = some (a, d) → d.rest.length < c.rest.length

/-- A reader never succeeds without taking a token. -/
abbrev Takes (p : Parse α) : Prop :=
  TakesFor (fun _ => True) p

variable {P : α → Prop} {Q : β → Prop} {next : α → Parse β}

theorem Takes.then (h : Takes p) : TakesFor Q (p >>= next) := by
  intro c b d _ hrun
  obtain ⟨a, e, hp, hnext⟩ := run_bind_eq_some_iff.mp hrun
  exact ((next a).reaches hnext).length_le.trans_lt (h c a e trivial hp)

theorem TakesFor.behind (h : ∀ a, TakesFor Q (next a)) : TakesFor Q (p >>= next) := by
  intro c b d hQ hrun
  obtain ⟨a, e, hp, hnext⟩ := run_bind_eq_some_iff.mp hrun
  exact (h a e b d hQ hnext).trans_le (p.reaches hp).length_le

theorem TakesFor.ite
    {q : Parse α}
    {C : Prop} [Decidable C]
    (hp : TakesFor P p)
    (hq : TakesFor P q) :
    TakesFor P (if C then p else q) := by
  split_ifs
  · exact hp
  · exact hq

theorem takesFor_pure {a : α} (h : ¬ P a) : TakesFor P (pure a) := by
  intro c a' d hP hrun
  cases hrun
  exact absurd hP h

theorem takesFor_failure : TakesFor P failure := by
  intro c a d _ h
  cases h

theorem takes_advance : Takes advance := by
  rintro ⟨_ | ⟨t, rest⟩, m⟩ a d - h
  · cases h
  · cases h
    simp

end Reaches

/-! ## Tests -/

section Tests

variable {kind : Lexeme → Bool} {t : Token} {rest : List Token} {m : Mark} {c d : Cursor}

theorem isSymbol_iff {l : Lexeme} {s : String} : isSymbol l s = true ↔ l = .symbol s := by
  cases l <;> simp [isSymbol]

theorem isWord_iff {l : Lexeme} {w : String} : isWord l w = true ↔ l = .word w := by
  cases l <;> simp [isWord]

theorem isName_iff {l : Lexeme} :
    isName l = true ↔ ∃ w, l = .word w ∧ reserved.contains w = false := by
  cases l <;> simp [isName]

@[simp] theorem next_cons : (⟨t :: rest, m⟩ : Cursor).next = t.lexeme :=
  rfl

@[simp] theorem next_nil : (⟨[], m⟩ : Cursor).next = .finish :=
  rfl

@[simp] theorem run_advance : advance.run ⟨t :: rest, m⟩ = some ((), ⟨rest, t.stop⟩) :=
  rfl

theorem run_nextOf : (nextOf kind).run c = some (kind c.next, c) :=
  rfl

/-- Accepting a lexeme is looking at it and then taking it. -/
theorem acceptOf_bind
    {α : Type}
    {f : Bool → Parse α} :
    acceptOf kind >>= f =
      nextOf kind >>= fun r => if r = true then advance >>= fun _ => f true else f false := by
  unfold acceptOf
  simp only [bind_bind, ite_bind]
  rfl

theorem expectOf_bind
    {α : Type}
    {f : Unit → Parse α} :
    expectOf kind >>= f =
      acceptOf kind >>= fun r => if r = true then f () else failure := by
  unfold expectOf
  simp only [bind_bind, ite_bind]
  rfl

theorem run_acceptOf_cons :
    (acceptOf kind).run ⟨t :: rest, m⟩ =
      if kind t.lexeme = true then some (true, ⟨rest, t.stop⟩)
      else some (false, ⟨t :: rest, m⟩) := by
  unfold acceptOf
  rw [run_bind_of_run run_nextOf, next_cons]
  split_ifs <;> rfl

theorem run_acceptOf_of_false
    (h : kind c.next = false) :
    (acceptOf kind).run c = some (false, c) := by
  unfold acceptOf
  rw [run_bind_of_run run_nextOf, h]
  rfl

theorem run_expectOf_eq_some_iff {u : Unit} :
    (expectOf kind).run c = some (u, d) ↔ (acceptOf kind).run c = some (true, d) := by
  unfold expectOf
  rw [run_bind_eq_some_iff]
  constructor
  · rintro ⟨taken, e, haccept, hrest⟩
    cases taken with
    | true =>
        cases hrest
        exact haccept
    | false => cases hrest
  · intro haccept
    exact ⟨true, d, haccept, rfl⟩

/-- A lexeme is accepted iff it is next. -/
theorem run_acceptOf_eq_true_iff
    (hfinish : kind .finish = false) :
    (acceptOf kind).run c = some (true, d) ↔
      ∃ t, c.rest = t :: d.rest ∧ kind t.lexeme = true ∧ d.last = t.stop := by
  obtain ⟨_ | ⟨t, rest⟩, m⟩ := c
  · rw [run_acceptOf_of_false hfinish]
    simp
  · rw [run_acceptOf_cons]
    obtain ⟨rest', m'⟩ := d
    split_ifs with h
    · simp only [Option.some.injEq, Prod.mk.injEq, true_and, Cursor.mk.injEq]
      constructor
      · rintro ⟨rfl, rfl⟩
        exact ⟨t, rfl, h, rfl⟩
      · rintro ⟨t', hcons, -, hlast⟩
        cases hcons
        exact ⟨rfl, hlast.symm⟩
    · simp only [Option.some.injEq, Prod.mk.injEq, Bool.false_eq_true, false_and, false_iff]
      rintro ⟨t', hcons, hkind, -⟩
      cases hcons
      exact h hkind

theorem takes_expectOf
    (hfinish : kind .finish = false) :
    Takes (expectOf kind) := by
  intro c u d _ h
  rw [run_expectOf_eq_some_iff, run_acceptOf_eq_true_iff hfinish] at h
  obtain ⟨t, hrest, -, -⟩ := h
  rw [hrest]
  simp

/-- Nothing is taken only if the lexeme is not accepted. -/
theorem takesFor_acceptOf
    {α : Type}
    {P : α → Prop}
    {f : Bool → Parse α}
    (hfinish : kind .finish = false)
    (h : TakesFor P (f false)) :
    TakesFor P (acceptOf kind >>= f) := by
  intro c a d hP hrun
  obtain ⟨r, e, haccept, hrest⟩ := run_bind_eq_some_iff.mp hrun
  cases r with
  | true =>
      obtain ⟨t, hc, -, -⟩ := (run_acceptOf_eq_true_iff hfinish).mp haccept
      have hlater := ((f true).reaches hrest).length_le
      rw [hc, List.length_cons]
      omega
  | false =>
      have hlater := ((acceptOf kind).reaches haccept).length_le
      exact (h e a d hP hrest).trans_le hlater

theorem takesFor_accepted
    (hfinish : kind .finish = false) :
    TakesFor (· = true) (acceptOf kind) := by
  intro c r d hr hrun
  subst hr
  obtain ⟨t, hc, -, -⟩ := (run_acceptOf_eq_true_iff hfinish).mp hrun
  simp [hc]

theorem takes_expect (s : String) : Takes (expect s) :=
  takes_expectOf rfl

theorem takes_expectWord (s : String) : Takes (expectWord s) :=
  takes_expectOf rfl

end Tests

end Grammar
end Script
end BuildTransform
