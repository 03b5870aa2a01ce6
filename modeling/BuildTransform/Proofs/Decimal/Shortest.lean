import BuildTransform.Proofs.Decimal.Digits

/-!
# The search for the shortest decimal

That the search for the shortest decimal of a binary number succeeds with at most 17 digits.

* `pointOf_spec` finds the power of ten above a quotient: a guess from the number of bits is
  close enough, since `10 ^ 3` lies below `2 ^ 10` and `2 ^ 93` below `10 ^ 28`.
* `contains_iff` says what an interval contains, and `nearestWithin_cases` which of the two
  neighbours on a grid is taken.
* `exists_nearestWithin` is the reason for 17 digits: there the steps of the grid are shorter
  than the interval.
* `shortest_spec` concludes that the decimal is normal and has few enough digits.
-/

namespace BuildTransform

/-! ## Powers of two and of ten -/

section Powers

variable {a b : Int}

/-- A power of ten lies below a power of two if the exponents say so by both estimates. -/
theorem ten_zpow_le_two_zpow (hup : 10 * a ≤ 3 * b) (hdown : 93 * a ≤ 28 * b) :
    (10 : ℚ) ^ a ≤ 2 ^ b := by
  rcases le_total 0 a with ha | ha
  · refine (zpow_le_zpow_iff_left₀ (by positivity) (by positivity) (n := 3) (by decide)).mp ?_
    calc ((10 : ℚ) ^ a) ^ (3 : Int) = (10 ^ (3 : Int)) ^ a := by
          rw [← zpow_mul, ← zpow_mul, mul_comm]
      _ ≤ (2 ^ (10 : Int)) ^ a := zpow_le_zpow_left₀ ha (by norm_num) (by norm_num)
      _ = 2 ^ (10 * a) := by rw [← zpow_mul]
      _ ≤ 2 ^ (3 * b) := zpow_le_zpow_right₀ (by norm_num) hup
      _ = (2 ^ b) ^ (3 : Int) := by rw [← zpow_mul, mul_comm]
  · refine (zpow_le_zpow_iff_left₀ (by positivity) (by positivity) (n := 28) (by decide)).mp ?_
    have hbase : ((2 : ℚ) ^ (93 : Int)) ^ (-a) ≤ (10 ^ (28 : Int)) ^ (-a) :=
      zpow_le_zpow_left₀ (by omega) (by positivity) (by norm_num)
    calc ((10 : ℚ) ^ a) ^ (28 : Int) = ((10 ^ (28 : Int)) ^ (-a))⁻¹ := by
          rw [zpow_neg, inv_inv, ← zpow_mul, ← zpow_mul, mul_comm]
      _ ≤ ((2 ^ (93 : Int)) ^ (-a))⁻¹ := inv_anti₀ (by positivity) hbase
      _ = 2 ^ (93 * a) := by rw [zpow_neg, inv_inv, ← zpow_mul]
      _ ≤ 2 ^ (28 * b) := zpow_le_zpow_right₀ (by norm_num) hdown
      _ = (2 ^ b) ^ (28 : Int) := by rw [← zpow_mul, mul_comm]

/-- A power of two lies below a power of ten if the exponents say so by both estimates. -/
theorem two_zpow_le_ten_zpow (hdown : 3 * b ≤ 10 * a) (hup : 28 * b ≤ 93 * a) :
    (2 : ℚ) ^ b ≤ 10 ^ a := by
  have h := ten_zpow_le_two_zpow (a := -a) (b := -b) (by omega) (by omega)
  rw [zpow_neg, zpow_neg] at h
  exact (inv_le_inv₀ (by positivity) (by positivity)).mp h

end Powers

/-! ## Quotients -/

section Quotients

variable {num den : Nat} {k : Int}

theorem Decimal.ratio_pos (n : Nat) (k : Int) : 0 < (Decimal.ratio n k).2 := by
  unfold Decimal.ratio
  split_ifs
  · exact Nat.one_pos
  · exact Nat.pow_pos (by decide)

/-- A scaled number as a quotient. -/
theorem Decimal.ratio_eq (n : Nat) (k : Int) :
    ((Decimal.ratio n k).1 : ℚ) / (Decimal.ratio n k).2 = n * 10 ^ k := by
  unfold Decimal.ratio
  split_ifs with hk
  · obtain ⟨j, rfl⟩ := Int.eq_ofNat_of_zero_le hk
    simp
  · obtain ⟨j, rfl⟩ := Int.exists_eq_neg_ofNat (not_le.mp hk).le
    simp [div_eq_mul_inv]

theorem Double.scaled_pos (hden : 0 < den) (q : Int) : 0 < (Double.scaled num den q).2 := by
  unfold Double.scaled
  split_ifs
  · exact Nat.mul_pos hden (Nat.pow_pos (by decide))
  · exact hden

/-- A quotient in units of a power of two. -/
theorem Double.scaled_eq (num den : Nat) (q : Int) :
    ((Double.scaled num den q).1 : ℚ) / (Double.scaled num den q).2 = num / den / 2 ^ q := by
  unfold Double.scaled
  split_ifs with hq
  · obtain ⟨j, rfl⟩ := Int.eq_ofNat_of_zero_le hq
    simp [div_div]
  · obtain ⟨j, rfl⟩ := Int.exists_eq_neg_ofNat (not_le.mp hq).le
    simp [div_eq_mul_inv, mul_right_comm]

/-- Quotients are compared by multiplying crosswise. -/
theorem div_lt_div_iff_cross {a b c d : Nat} (hb : 0 < b) (hd : 0 < d) :
    (a : ℚ) / b < c / d ↔ a * d < b * c := by
  rw [div_lt_div_iff₀ (by exact_mod_cast hb) (by exact_mod_cast hd), mul_comm (c : ℚ)]
  exact_mod_cast Iff.rfl

end Quotients

namespace Decimal

/-! ## The point -/

section Point

variable {num den : Nat} {p : Int} {fuel : Nat}

/-- The search upwards stops at the power of ten above the quotient. -/
theorem pointFrom_spec (hden : 0 < den) (hlow : (10 : ℚ) ^ (p - 1) ≤ num / den)
    (hhigh : (num : ℚ) / den < 10 ^ (p + fuel)) :
    (10 : ℚ) ^ (pointFrom num den p fuel - 1) ≤ num / den ∧
      (num : ℚ) / den < 10 ^ pointFrom num den p fuel := by
  induction fuel generalizing p with
  | zero =>
      rw [Nat.cast_zero, add_zero] at hhigh
      exact ⟨hlow, hhigh⟩
  | succ fuel ih =>
      have hcross : num * (ratio 1 p).2 < den * (ratio 1 p).1 ↔ (num : ℚ) / den < 10 ^ p := by
        rw [← div_lt_div_iff_cross hden (ratio_pos 1 p), ratio_eq, Nat.cast_one, one_mul]
      simp only [pointFrom, hcross]
      split_ifs with hp
      · exact ⟨hlow, hp⟩
      · refine ih ?_ ?_
        · rw [add_sub_cancel_right]
          exact not_lt.mp hp
        · rwa [show p + 1 + (fuel : Int) = p + ((fuel + 1 : Nat) : Int) by push_cast; ring]

/-- A quotient lies within a factor of two of the power that its bits tell. -/
theorem log2_bounds (hnum : 0 < num) (hden : 0 < den) :
    (2 : ℚ) ^ ((num.log2 : Int) - den.log2 - 1) ≤ num / den ∧
      (num : ℚ) / den < 2 ^ ((num.log2 : Int) - den.log2 + 1) := by
  have hlow {n : Nat} (hn : 0 < n) : (2 : ℚ) ^ (n.log2 : Int) ≤ n := by
    rw [zpow_natCast]
    exact_mod_cast Nat.log2_self_le (Nat.pos_iff_ne_zero.mp hn)
  have hhigh (n : Nat) : (n : ℚ) < 2 ^ ((n.log2 : Int) + 1) := by
    rw [← Nat.cast_succ, zpow_natCast]
    exact_mod_cast Nat.lt_log2_self
  have hdenq : (0 : ℚ) < den := by exact_mod_cast hden
  constructor
  · rw [le_div_iff₀ hdenq]
    calc (2 : ℚ) ^ ((num.log2 : Int) - den.log2 - 1) * den
        ≤ 2 ^ ((num.log2 : Int) - den.log2 - 1) * 2 ^ ((den.log2 : Int) + 1) :=
          mul_le_mul_of_nonneg_left (hhigh den).le (by positivity)
      _ = 2 ^ (num.log2 : Int) := by
          rw [← zpow_add₀ (by norm_num)]
          congr 1
          ring
      _ ≤ num := hlow hnum
  · rw [div_lt_iff₀ hdenq]
    calc (num : ℚ) < 2 ^ ((num.log2 : Int) + 1) := hhigh num
      _ = 2 ^ ((num.log2 : Int) - den.log2 + 1) * 2 ^ (den.log2 : Int) := by
          rw [← zpow_add₀ (by norm_num)]
          congr 1
          ring
      _ ≤ 2 ^ ((num.log2 : Int) - den.log2 + 1) * den :=
          mul_le_mul_of_nonneg_left (hlow hden) (by positivity)

/-- **The point is found**, if the number of bits is not beyond the range of binary numbers. -/
theorem pointOf_spec (hnum : 0 < num) (hden : 0 < den)
    (hbits : |(num.log2 : Int) - den.log2| ≤ 1100) :
    (10 : ℚ) ^ (pointOf num den - 1) ≤ num / den ∧ (num : ℚ) / den < 10 ^ pointOf num den := by
  obtain ⟨hlow, hhigh⟩ := log2_bounds hnum hden
  obtain ⟨hleast, hgreatest⟩ := abs_le.mp hbits
  simp only [pointOf, Int.fdiv_eq_ediv_of_nonneg _ (show (0 : Int) ≤ 100000 by decide)]
  generalize (num.log2 : Int) - den.log2 = bits at *
  refine pointFrom_spec hden ?_ ?_
  · exact (ten_zpow_le_two_zpow (by omega) (by omega)).trans hlow
  · exact hhigh.trans_le (two_zpow_le_ten_zpow (by omega) (by omega))

end Point

/-! ## Grids -/

section Grids

variable {i : Interval} {num den n : Nat} {k : Int}

/-- An interval contains the quotients between its ends, with the ends if it is closed. -/
theorem contains_iff (hden : 0 < den) :
    i.contains num den = true ↔
      if i.closed then i.low * 2 ^ i.unit ≤ (num : ℚ) / den ∧ (num : ℚ) / den ≤ i.high * 2 ^ i.unit
      else i.low * 2 ^ i.unit < (num : ℚ) / den ∧ (num : ℚ) / den < i.high * 2 ^ i.unit := by
  have hunit : (0 : ℚ) < 2 ^ i.unit := by positivity
  have hpos : (0 : ℚ) < (Double.scaled num den i.unit).2 := by
    exact_mod_cast Double.scaled_pos hden i.unit
  have hscaled := Double.scaled_eq num den i.unit
  have hle (a : Nat) : a * (Double.scaled num den i.unit).2 ≤ (Double.scaled num den i.unit).1 ↔
      (a : ℚ) * 2 ^ i.unit ≤ num / den := by
    rw [← le_div_iff₀ hunit, ← hscaled, le_div_iff₀ hpos]
    exact_mod_cast Iff.rfl
  have hge (a : Nat) : (Double.scaled num den i.unit).1 ≤ a * (Double.scaled num den i.unit).2 ↔
      (num : ℚ) / den ≤ a * 2 ^ i.unit := by
    rw [← div_le_iff₀ hunit, ← hscaled, div_le_iff₀ hpos]
    exact_mod_cast Iff.rfl
  simp only [Interval.contains]
  split_ifs
  · simp only [Bool.and_eq_true, decide_eq_true_eq, hle, hge]
  · simp only [Bool.and_eq_true, decide_eq_true_eq, ← not_le, hle, hge]

/-- What an interval contains lies between its ends. -/
theorem bounds_of_contains (hden : 0 < den) (h : i.contains num den = true) :
    i.low * 2 ^ i.unit ≤ (num : ℚ) / den ∧ (num : ℚ) / den ≤ i.high * 2 ^ i.unit := by
  rw [contains_iff hden] at h
  split_ifs at h
  · exact h
  · exact ⟨h.1.le, h.2.le⟩

/-- What lies strictly between its ends is in an interval. -/
theorem contains_of_bounds (hden : 0 < den) (hlow : i.low * 2 ^ i.unit < (num : ℚ) / den)
    (hhigh : (num : ℚ) / den < i.high * 2 ^ i.unit) : i.contains num den = true := by
  rw [contains_iff hden]
  split_ifs
  · exact ⟨hlow.le, hhigh.le⟩
  · exact ⟨hlow, hhigh⟩

/-- The lower neighbour on a grid. -/
def below (num den : Nat) (k : Int) : Nat :=
  num * (ratio 1 k).2 / (den * (ratio 1 k).1)

theorem below_spec (num : Nat) (hden : 0 < den) (k : Int) :
    (below num den k : ℚ) * 10 ^ k ≤ num / den ∧
      (num : ℚ) / den < (below num den k + 1 : Nat) * 10 ^ k := by
  have hstep : (0 : ℚ) < 10 ^ k := by positivity
  have hratio := ratio_eq 1 k
  rw [Nat.cast_one, one_mul] at hratio
  have hone : 0 < (ratio 1 k).1 := by
    by_contra hzero
    rw [Nat.eq_zero_of_not_pos hzero, Nat.cast_zero, zero_div] at hratio
    exact hstep.ne hratio
  have hpos : 0 < den * (ratio 1 k).1 := Nat.mul_pos hden hone
  have hquotient : (num : ℚ) / den / 10 ^ k =
      ((num * (ratio 1 k).2 : Nat) : ℚ) / (den * (ratio 1 k).1 : Nat) := by
    rw [← hratio, div_div_div_eq]
    push_cast
    rfl
  rw [← le_div_iff₀ hstep, ← div_lt_iff₀ hstep, hquotient]
  have hposq : (0 : ℚ) < (den * (ratio 1 k).1 : Nat) := by exact_mod_cast hpos
  rw [le_div_iff₀ hposq, div_lt_iff₀ hposq]
  constructor
  · exact_mod_cast Nat.div_mul_le_self _ _
  · exact_mod_cast Nat.lt_mul_of_div_lt (Nat.lt_succ_self _) hpos

/-- **One of the two neighbours is taken if it is in the interval**, and none if neither is. -/
theorem nearestWithin_cases (i : Interval) (num den : Nat) (k : Int) :
    (∃ n, nearestWithin i num den k = some n ∧
      (n = below num den k ∨ n = below num den k + 1) ∧
      i.contains (ratio n k).1 (ratio n k).2 = true) ∨
    (nearestWithin i num den k = none ∧
      i.contains (ratio (below num den k) k).1 (ratio (below num den k) k).2 = false ∧
      i.contains (ratio (below num den k + 1) k).1 (ratio (below num den k + 1) k).2 = false) := by
  have hquotient : num * (ratio 1 k).2 / (den * (ratio 1 k).1) = below num den k := rfl
  cases hbelow : i.contains (ratio (below num den k) k).1 (ratio (below num den k) k).2 <;>
    cases habove : i.contains (ratio (below num den k + 1) k).1
      (ratio (below num den k + 1) k).2 <;>
    simp only [nearestWithin, hquotient, hbelow, habove]
  · exact Or.inr ⟨trivial, trivial, trivial⟩
  · exact Or.inl ⟨_, rfl, Or.inr rfl, habove⟩
  · exact Or.inl ⟨_, rfl, Or.inl rfl, hbelow⟩
  · split_ifs
    · exact Or.inl ⟨_, rfl, Or.inl rfl, hbelow⟩
    · exact Or.inl ⟨_, rfl, Or.inr rfl, habove⟩
    · exact Or.inl ⟨_, rfl, Or.inl rfl, hbelow⟩
    · exact Or.inl ⟨_, rfl, Or.inr rfl, habove⟩

/-- What is taken on a grid is one of the two neighbours, and in the interval. -/
theorem contains_of_nearestWithin (h : nearestWithin i num den k = some n) :
    (n = below num den k ∨ n = below num den k + 1) ∧
      i.contains (ratio n k).1 (ratio n k).2 = true := by
  rcases nearestWithin_cases i num den k with ⟨n', hn', hcases⟩ | ⟨hnone, -⟩
  · rw [h] at hn'
    cases hn'
    exact hcases
  · rw [h] at hnone
    cases hnone

/-- **A grid has a number in an interval that is longer than a step of it.** -/
theorem exists_nearestWithin (hden : 0 < den) (hlow : i.low * 2 ^ i.unit < (num : ℚ) / den)
    (hhigh : (num : ℚ) / den < i.high * 2 ^ i.unit)
    (hstep : (10 : ℚ) ^ k < i.high * 2 ^ i.unit - i.low * 2 ^ i.unit) :
    ∃ n, nearestWithin i num den k = some n := by
  obtain ⟨hle, hlt⟩ := below_spec num hden k
  rcases nearestWithin_cases i num den k with ⟨n, hn, -⟩ | ⟨-, hbelow, habove⟩
  · exact ⟨n, hn⟩
  · -- Otherwise the neighbours would lie on either side of the whole interval.
    have hunder : (below num den k : ℚ) * 10 ^ k ≤ i.low * 2 ^ i.unit := by
      by_contra hin
      have hcontains := contains_of_bounds (i := i) (ratio_pos (below num den k) k)
        (by rw [ratio_eq]; exact not_le.mp hin) (by rw [ratio_eq]; exact hle.trans_lt hhigh)
      rw [hbelow] at hcontains
      cases hcontains
    have hover : i.high * 2 ^ i.unit ≤ ((below num den k + 1 : Nat) : ℚ) * 10 ^ k := by
      by_contra hin
      have hcontains := contains_of_bounds (i := i) (ratio_pos (below num den k + 1) k)
        (by rw [ratio_eq]; exact hlow.trans hlt) (by rw [ratio_eq]; exact not_le.mp hin)
      rw [habove] at hcontains
      cases hcontains
    push_cast at hover
    linarith

end Grids

/-! ## The search -/

section Search

variable {i : Interval} {num den : Nat} {point : Int}

/-- The search ends at the first grid with a number in the interval. -/
theorem search_spec {last fuel count : Nat} (hcount : count ≤ last) (hfuel : last < count + fuel)
    (hlast : ∃ n, nearestWithin i num den (point - last) = some n) :
    ∃ c n, c ≤ last ∧ nearestWithin i num den (point - c) = some n ∧
      search i num den point fuel count = ofScaled n (point - c) := by
  induction fuel generalizing count with
  | zero => omega
  | succ fuel ih =>
      simp only [search]
      cases hnearest : nearestWithin i num den (point - count) with
      | some n => exact ⟨count, n, hcount, hnearest, rfl⟩
      | none =>
          have hnext : count ≠ last := by
            rintro rfl
            obtain ⟨n, hn⟩ := hlast
            rw [hnearest] at hn
            cases hn
          exact ih (by omega) (by omega)

end Search

/-! ## Binary numbers -/

section Shortest

variable {m : Nat} {q : Int}

/-- The lower end of an interval is nearer only below a power of two; there the significand is
small. -/
theorem exists_around_eq (hm : 0 < m) (hbound : m < Double.significandBound) (q : Int) :
    ∃ a : Nat, 0 < a ∧ a < 4 * m ∧ 4 * m < (a + 2) * 10 ^ 16 ∧
      Interval.around m q = ⟨4 * m - a, 4 * m + 2, q - 2, m % 2 == 0⟩ := by
  have hsmall : m < 2 ^ 53 := hbound
  by_cases hpower : m = Nat.pow 2 52 ∧ Double.minExponent < q
  · have hm : m = 2 ^ 52 := hpower.1
    refine ⟨1, by decide, by omega, by omega, ?_⟩
    rw [Interval.around, if_pos hpower]
  · refine ⟨2, by decide, by omega, by omega, ?_⟩
    rw [Interval.around, if_neg hpower]

/-- The interval of a number reaches to both of its sides, and is longer than a step of the grid
with 17 digits. -/
theorem around_spec (hm : 0 < m) (hbound : m < Double.significandBound) :
    0 < (Interval.around m q).low ∧
    (Interval.around m q).low * 2 ^ (Interval.around m q).unit < (m : ℚ) * 2 ^ q ∧
    (m : ℚ) * 2 ^ q < (Interval.around m q).high * 2 ^ (Interval.around m q).unit ∧
    (m : ℚ) * 2 ^ q / 10 ^ 16 < (Interval.around m q).high * 2 ^ (Interval.around m q).unit -
      (Interval.around m q).low * 2 ^ (Interval.around m q).unit := by
  obtain ⟨a, ha, hlt, hlong, haround⟩ := exists_around_eq hm hbound q
  have hvalue : (m : ℚ) * 2 ^ q = 4 * m * 2 ^ (q - 2) := by
    rw [zpow_sub₀ (by norm_num)]
    norm_num
    ring
  have hunit : (0 : ℚ) < 2 ^ (q - 2) := by positivity
  have hapos : (0 : ℚ) < a := by exact_mod_cast ha
  have hlong : (4 * m : ℚ) < (a + 2) * 10 ^ 16 := by exact_mod_cast hlong
  have hlow : ((4 * m - a : Nat) : ℚ) = 4 * m - a := by
    rw [Nat.cast_sub hlt.le]
    push_cast
    ring
  have hhigh : ((4 * m + 2 : Nat) : ℚ) = 4 * m + 2 := by push_cast; ring
  rw [haround, hvalue]
  dsimp only
  rw [hlow, hhigh, ← sub_mul, mul_div_right_comm]
  refine ⟨by omega, mul_lt_mul_of_pos_right (by linarith) hunit,
    mul_lt_mul_of_pos_right (by linarith) hunit, mul_lt_mul_of_pos_right ?_ hunit⟩
  rw [div_lt_iff₀ (by norm_num)]
  linarith

/-- The search starts from the number as a quotient of two numbers with few enough bits. -/
theorem exists_shortest_eq (hm : 0 < m) (hbound : m < Double.significandBound)
    (hleast : Double.minExponent ≤ q) (hgreatest : q ≤ Double.maxExponent) :
    ∃ num den : Nat, 0 < num ∧ 0 < den ∧ (num : ℚ) / den = m * 2 ^ q ∧
      |(num.log2 : Int) - den.log2| ≤ 1100 ∧
      shortest m q = search (Interval.around m q) num den (pointOf num den) 17 1 := by
  simp only [Double.significandBound, Double.minExponent, Double.maxExponent, Nat.pow_eq]
    at hbound hleast hgreatest
  rcases le_or_gt 0 q with hq | hq
  · obtain ⟨j, rfl⟩ := Int.eq_ofNat_of_zero_le hq
    have hpos : 0 < m * 2 ^ j := Nat.mul_pos hm (Nat.pow_pos (by decide))
    refine ⟨m * 2 ^ j, 1, hpos, Nat.one_pos, by push_cast; simp, ?_, by simp [shortest]⟩
    have hlog : (m * 2 ^ j).log2 < 53 + j := by
      refine (Nat.log2_lt hpos.ne').mpr ?_
      rw [pow_add]
      exact Nat.mul_lt_mul_of_pos_right hbound (Nat.pow_pos (by decide))
    have hone : Nat.log2 1 = 0 := by decide
    rw [hone, abs_le]
    omega
  · obtain ⟨j, rfl⟩ := Int.exists_eq_neg_ofNat hq.le
    have hneg : ¬ (0 : Int) ≤ -(j : Int) := by omega
    refine ⟨m, 2 ^ j, hm, Nat.pow_pos (by decide), ?_, ?_, ?_⟩
    · push_cast
      rw [zpow_neg, zpow_natCast, div_eq_mul_inv]
    · have hlog : m.log2 < 53 := (Nat.log2_lt hm.ne').mpr hbound
      rw [Nat.log2_two_pow, abs_le]
      omega
    · simp only [shortest, if_neg hneg, neg_neg, Int.toNat_natCast, Nat.pow_eq]

/-- The search finds a number of at most 17 digits, or the next one, and scales it. -/
theorem exists_shortest_eq_ofScaled (hm : 0 < m) (hbound : m < Double.significandBound)
    (hleast : Double.minExponent ≤ q) (hgreatest : q ≤ Double.maxExponent) :
    ∃ n k, n ≠ 0 ∧ n ≤ 10 ^ 17 ∧ shortest m q = ofScaled n k := by
  obtain ⟨num, den, hnum, hden, hvalue, hbits, hshortest⟩ :=
    exists_shortest_eq hm hbound hleast hgreatest
  obtain ⟨hlowest, hlow, hhigh, hlong⟩ := around_spec (q := q) hm hbound
  obtain ⟨hpower, hpoint⟩ := pointOf_spec hnum hden hbits
  rw [← hvalue] at hlow hhigh hlong
  have hstep : (10 : ℚ) ^ (pointOf num den - (17 : Nat)) ≤ num / den / 10 ^ 16 := by
    rw [le_div_iff₀ (by norm_num)]
    calc (10 : ℚ) ^ (pointOf num den - (17 : Nat)) * 10 ^ 16
        = 10 ^ (pointOf num den - (17 : Nat)) * 10 ^ (16 : Int) := by norm_num
      _ = 10 ^ (pointOf num den - 1) := by
          rw [← zpow_add₀ (by norm_num)]
          congr 1
          push_cast
          ring
      _ ≤ num / den := hpower
  have hlast := exists_nearestWithin hden hlow hhigh (hstep.trans_lt hlong)
  obtain ⟨c, n, hc, hnearest, hsearch⟩ :=
    search_spec (show 1 ≤ 17 by decide) (show 17 < 1 + 17 by decide) hlast
  obtain ⟨hneighbour, hcontains⟩ := contains_of_nearestWithin hnearest
  refine ⟨n, _, ?_, ?_, hshortest.trans hsearch⟩
  · -- The interval lies above zero.
    have hin := (bounds_of_contains (ratio_pos n _) hcontains).1
    rw [ratio_eq] at hin
    have hpos : (0 : ℚ) < (Interval.around m q).low * 2 ^ (Interval.around m q).unit :=
      mul_pos (by exact_mod_cast hlowest) (by positivity)
    rintro rfl
    rw [Nat.cast_zero, zero_mul] at hin
    exact absurd hpos (not_lt.mpr hin)
  · -- The lower neighbour has at most as many digits as the grid, so the upper one is no
    -- greater than the next power of ten.
    have hbelow : below num den (pointOf num den - c) < 10 ^ c := by
      have hle := (below_spec num hden (pointOf num den - c)).1
      have hsplit : (10 : ℚ) ^ pointOf num den = 10 ^ c * 10 ^ (pointOf num den - c) := by
        rw [← zpow_natCast, ← zpow_add₀ (by norm_num)]
        congr 1
        ring
      have hlt := hle.trans_lt hpoint
      rw [hsplit] at hlt
      have := lt_of_mul_lt_mul_right hlt (by positivity)
      exact_mod_cast this
    have hgrid : 10 ^ c ≤ 10 ^ 17 := Nat.pow_le_pow_right (by decide) hc
    omega

/-- **The shortest decimal of a binary number is normal** and has at most 17 digits. -/
theorem shortest_spec (hm : 0 < m) (hbound : m < Double.significandBound)
    (hleast : Double.minExponent ≤ q) (hgreatest : q ≤ Double.maxExponent) :
    (shortest m q).Normal ∧
      ∃ (n : Nat) (k : Int), n < 10 ^ 17 ∧ (shortest m q).value = n * 10 ^ k := by
  obtain ⟨n, k, hn, hle, hshortest⟩ := exists_shortest_eq_ofScaled hm hbound hleast hgreatest
  rw [hshortest]
  refine ⟨normal_ofScaled hn k, ?_⟩
  rcases hle.lt_or_eq with hlt | rfl
  · exact ⟨n, k, hlt, value_ofScaled n k⟩
  · refine ⟨1, k + 17, by norm_num, ?_⟩
    rw [value_ofScaled, zpow_add₀ (by norm_num)]
    push_cast
    norm_num
    ring

end Shortest

end Decimal
end BuildTransform
