import BuildTransform.Decimal.Double
import Mathlib.Tactic

/-!
# The range of floating-point numbers

Which integers have a nearest finite floating-point number.

* `roundQuotient_eq_iff` says when rounding a quotient carries it up to an even
  bound.
* `ofInt?_eq_none_iff` derives the range: an integer has no nearest number
  exactly if its size is at least `overflowBound`, half a unit in the last place
  above the greatest finite number.
-/

namespace BuildTransform
namespace Double

/-- The least size of integers that round beyond the greatest finite number. -/
def overflowBound : Nat :=
  2 ^ 1024 - 2 ^ 970

/-- A quotient below an even bound is rounded up to it from half a unit on. -/
theorem roundQuotient_eq_iff {n d bound : Nat}
    (hd : 0 < d)
    (heven : bound % 2 = 0)
    (hn : n < bound * d) :
    roundQuotient n d = bound ↔ (2 * bound - 1) * d ≤ 2 * n := by
  have hdiv : d * (n / d) + n % d = n := Nat.div_add_mod n d
  have hmod : n % d < d := Nat.mod_lt n hd
  have hq : n / d < bound := (Nat.div_lt_iff_lt_mul hd).mpr hn
  simp only [roundQuotient]
  generalize n / d = q at *
  generalize n % d = r at *
  by_cases hlast : q + 1 = bound
  · have hbound : (2 * bound - 1) * d = 2 * (d * q) + d := by
      have : 2 * bound - 1 = 2 * q + 1 := by omega
      rw [this]
      ring
    rw [hbound]
    split_ifs <;> omega
  · have hbelow : (q + 2) * d ≤ bound * d := Nat.mul_le_mul_right d (by omega)
    have hbound : (2 * bound - 1) * d = 2 * (bound * d) - d := by
      rw [Nat.sub_mul, Nat.mul_assoc, Nat.one_mul]
    have hexpand : (q + 2) * d = d * q + 2 * d := by ring
    rw [hbound]
    split_ifs <;> omega

/-- A rounded quotient is infinite iff its exponent is too large, where a carry
counts. -/
theorem renormalized_eq_infinite_iff {s : Bool} {m : Nat} {q : Int} :
    (∃ b, renormalized s m q = .infinite b) ↔
      maxExponent < if m = significandBound then q + 1 else q := by
  have houter : ∀ (m : Nat) (q : Int),
      (∃ b, (if maxExponent < q then infinite s else .finite s m q) = .infinite b) ↔
        maxExponent < q := by
    intro m q
    by_cases hq : maxExponent < q
    · simp only [hq, if_true, iff_true]
      exact ⟨s, rfl⟩
    · simp [hq]
  by_cases hm : m = significandBound
  · simp only [renormalized, hm, if_true]
    exact houter _ _
  · simp only [renormalized, hm, if_false]
    exact houter _ _

theorem scaled_natCast (num den k : Nat) :
    scaled num den (k : Int) = (num, den * Nat.pow 2 k) := by
  simp [scaled]

/-- The exponent of a natural number leaves 53 bits in front of the point. -/
theorem exponentFor_one {n : Nat}
    (hn : n ≠ 0) :
    exponentFor n 1 = (n.log2 : Int) - 52 := by
  have hlow : 2 ^ n.log2 ≤ n := Nat.log2_self_le hn
  have hquotient : ∀ x, scaled n 1 ((n.log2 : Int) - 53) = x →
      significandBound ≤ x.1 / x.2 := by
    rintro x rfl
    unfold scaled significandBound
    simp only [Nat.pow_eq]
    split_ifs with hsign
    · have hsplit : 2 ^ n.log2 = 2 ^ 53 * 2 ^ ((n.log2 : Int) - 53).toNat := by
        rw [← pow_add]
        congr 1
        omega
      rw [Nat.one_mul, Nat.le_div_iff_mul_le (by positivity)]
      omega
    · have hsplit : 2 ^ 53 = 2 ^ n.log2 * 2 ^ (-((n.log2 : Int) - 53)).toNat := by
        rw [← pow_add]
        congr 1
        omega
      rw [Nat.div_one, hsplit]
      exact Nat.mul_le_mul_right _ hlow
  have hone : Nat.log2 1 = 0 := by decide
  have hguess := hquotient _ rfl
  simp only [exponentFor, hone, minExponent]
  rw [if_neg]
  · omega
  · simpa using hguess

/-- A number of `k + 54` bits loses `k + 1` of them in rounding; it is carried up
from half a unit below the next power of two on. -/
theorem roundQuotient_scaled_eq_iff {n k : Nat}
    (hlog : n.log2 = k + 53) :
    roundQuotient (scaled n 1 ((n.log2 : Int) - 52)).1
        (scaled n 1 ((n.log2 : Int) - 52)).2 = significandBound ↔
      (2 ^ 54 - 1) * 2 ^ k ≤ n := by
  have hexponent : (n.log2 : Int) - 52 = (k + 1 : Nat) := by omega
  have hunit : 1 * Nat.pow 2 (k + 1) = 2 * 2 ^ k := by
    rw [Nat.one_mul, Nat.pow_eq, pow_succ']
  have hpow : (2 : Nat) ^ (n.log2 + 1) = 2 ^ 54 * 2 ^ k := by
    rw [hlog, ← pow_add]
    congr 1
    omega
  have hbelow : n < significandBound * (2 * 2 ^ k) := by
    have := Nat.lt_log2_self (n := n)
    simp only [significandBound, Nat.pow_eq]
    omega
  rw [hexponent, scaled_natCast, hunit,
    roundQuotient_eq_iff (by positivity) (by decide) hbelow]
  simp only [significandBound, Nat.pow_eq]
  omega

/-- The powers of two around the bound in units of half a last place. -/
theorem overflowBound_split :
    overflowBound = (2 ^ 54 - 1) * 2 ^ 970 ∧
      (2 : Nat) ^ 1023 = 2 ^ 53 * 2 ^ 970 ∧
      (2 : Nat) ^ 1024 = 2 ^ 54 * 2 ^ 970 := by
  have hfirst : (2 : Nat) ^ 1024 = 2 ^ 54 * 2 ^ 970 := by
    rw [← pow_add]
  refine ⟨?_, ?_, hfirst⟩
  · rw [overflowBound, hfirst, Nat.sub_mul, Nat.one_mul]
  · rw [← pow_add]

/-- A natural number is rounded to infinity from the bound on. -/
theorem ofRatio_one_eq_infinite_iff {s : Bool} {n : Nat} :
    (∃ b, ofRatio s n 1 = .infinite b) ↔ overflowBound ≤ n := by
  obtain ⟨hbound, htop, hunit⟩ := overflowBound_split
  have hpos : 0 < 2 ^ 970 := by positivity
  by_cases hn : n = 0
  · have hfinite : ¬ overflowBound ≤ 0 := by omega
    simp [ofRatio, hn, zero, hfinite]
  have hlow : 2 ^ n.log2 ≤ n := Nat.log2_self_le hn
  have hhigh : n < 2 ^ (n.log2 + 1) := Nat.lt_log2_self
  have hround : ofRatio s n 1 =
      renormalized s
        (roundQuotient (scaled n 1 ((n.log2 : Int) - 52)).1
          (scaled n 1 ((n.log2 : Int) - 52)).2)
        ((n.log2 : Int) - 52) := by
    simp only [ofRatio, hn, if_false, exponentFor_one hn]
  rw [hround, renormalized_eq_infinite_iff]
  -- Only between the two greatest powers of two does the carry matter.
  rcases lt_trichotomy n.log2 (970 + 53) with hsmall | hlast | hlarge
  · have hpow : 2 ^ (n.log2 + 1) ≤ 2 ^ 1023 :=
      pow_le_pow_right₀ (by decide) (by omega)
    have hbelow : ¬ overflowBound ≤ n := by omega
    simp only [hbelow, iff_false, maxExponent]
    split_ifs <;> omega
  · have hcarry := roundQuotient_scaled_eq_iff hlast
    rw [hbound, ← hcarry]
    split_ifs with h <;>
      simp only [h, iff_true, iff_false, maxExponent] <;>
      omega
  · have hpow : 2 ^ 1024 ≤ 2 ^ n.log2 :=
      pow_le_pow_right₀ (by decide) (by omega)
    have habove : overflowBound ≤ n := by omega
    simp only [habove, iff_true, maxExponent]
    split_ifs <;> omega

/-- **The range of integers**: an integer has no nearest number iff its size is
at least the bound. -/
theorem ofInt?_eq_none_iff {i : Int} :
    ofInt? i = none ↔ overflowBound ≤ i.natAbs := by
  rw [← ofRatio_one_eq_infinite_iff (s := decide (i < 0))]
  unfold ofInt?
  cases ofRatio (decide (i < 0)) i.natAbs 1 <;> simp

end Double
end BuildTransform
