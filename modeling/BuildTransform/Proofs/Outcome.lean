import Mathlib.Tactic

/-!
# Outcomes

An operation that may fail yields an `Except`.  Operations are run one after
another with `>>=`, and the first failure is the failure of the whole.

The lemmas of this module say when such a chain succeeds and when it fails, so
that later proofs take chains apart without unfolding them.  `Corresponds`
compares two outcomes: both fail alike, or both succeed with related results.
-/

namespace BuildTransform
namespace Outcome

section Outcome

variable {ε α β : Type}
variable {x : Except ε α}

/-- A chain succeeds iff both of its operations do. -/
theorem chain_eq_ok_iff
    {next : α → Except ε β}
    {b : β} :
    (x >>= next) = .ok b ↔
      ∃ a, x = .ok a ∧ next a = .ok b := by
  rcases x with failure | a <;>
    simp [bind, Except.bind]

/-- A chain fails with the first failure. -/
theorem chain_eq_error_iff
    {next : α → Except ε β}
    {failure : ε} :
    (x >>= next) = .error failure ↔
      x = .error failure ∨
        ∃ a, x = .ok a ∧ next a = .error failure := by
  rcases x with failure' | a <;>
    simp [bind, Except.bind]

/-- Mapping a result keeps success. -/
theorem map_eq_ok_iff
    {f : α → β}
    {b : β} :
    x.map f = .ok b ↔
      ∃ a, x = .ok a ∧ f a = b := by
  rcases x with failure | a <;>
    simp [Except.map]

/-- Mapping a result keeps failure. -/
theorem map_eq_error_iff
    {f : α → β}
    {failure : ε} :
    x.map f = .error failure ↔ x = .error failure := by
  rcases x with failure' | a <;>
    simp [Except.map]

/-- Renaming failures keeps success. -/
theorem mapError_eq_ok_iff
    {g : ε → β}
    {a : α} :
    x.mapError g = .ok a ↔ x = .ok a := by
  rcases x with failure | a <;>
    simp [Except.mapError]

/-- A renamed failure comes from a failure. -/
theorem mapError_eq_error_iff
    {g : ε → β}
    {failure : β} :
    x.mapError g = .error failure ↔
      ∃ cause, x = .error cause ∧ g cause = failure := by
  rcases x with cause | a <;>
    simp [Except.mapError]

/-- An outcome that is optional has a result iff it is a success. -/
theorem toOption_eq_some_iff
    {a : α} :
    x.toOption = some a ↔ x = .ok a := by
  rcases x with failure | a <;>
    simp [Except.toOption]

/-- Failures of a chain are renamed in both of its operations. -/
theorem mapError_chain
    {g : ε → β}
    {γ : Type}
    {next : α → Except ε γ} :
    (x >>= next).mapError g = x.mapError g >>= fun a => (next a).mapError g := by
  rcases x with failure | a <;> rfl

/-- Running an operation for every item succeeds iff it does for each of them. -/
theorem mapM_eq_ok_iff
    {f : α → Except ε β}
    {as : List α}
    {bs : List β} :
    as.mapM f = .ok bs ↔
      List.Forall₂ (fun a b => f a = .ok b) as bs := by
  induction as generalizing bs with
  | nil =>
      simp [pure, Except.pure, eq_comm]
  | cons a as ih =>
      simp only [List.mapM_cons, chain_eq_ok_iff, ih, List.forall₂_cons_left_iff]
      constructor
      · rintro ⟨b, hb, bs', hbs, h⟩
        cases h
        exact ⟨b, bs', hb, hbs, rfl⟩
      · rintro ⟨b, bs', hb, hbs, rfl⟩
        exact ⟨b, hb, bs', hbs, rfl⟩

end Outcome

/-! ## Two outcomes -/

/-- Two outcomes fail alike, or both succeed and their results are related. -/
inductive Corresponds {ε α β : Type} (R : α → β → Prop) :
    Except ε α → Except ε β → Prop
  | ok {a : α} {b : β} (h : R a b) :
      Corresponds R (.ok a) (.ok b)
  | error (failure : ε) :
      Corresponds R (.error failure) (.error failure)

namespace Corresponds

section Corresponds

variable {ε α β α' β' : Type}
variable {R : α → β → Prop} {S : α' → β' → Prop}
variable {x : Except ε α} {y : Except ε β}

theorem refl {R : α → α → Prop}
    (h : ∀ a, R a a)
    (x : Except ε α) :
    Corresponds R x x := by
  cases x with
  | ok a => exact .ok (h a)
  | error failure => exact .error failure

/-- Chains correspond if their first operations do, and the next ones do on
related results. -/
theorem chain
    {next : α → Except ε α'}
    {next' : β → Except ε β'}
    (h : Corresponds R x y)
    (hnext : ∀ a b, R a b → Corresponds S (next a) (next' b)) :
    Corresponds S (x >>= next) (y >>= next') := by
  cases h with
  | ok h => exact hnext _ _ h
  | error failure => exact .error failure

theorem map
    {f : α → α'}
    {g : β → β'}
    (h : Corresponds R x y)
    (hfg : ∀ a b, R a b → S (f a) (g b)) :
    Corresponds S (x.map f) (y.map g) := by
  cases h with
  | ok h => exact .ok (hfg _ _ h)
  | error failure => exact .error failure

end Corresponds

end Corresponds

end Outcome
end BuildTransform
