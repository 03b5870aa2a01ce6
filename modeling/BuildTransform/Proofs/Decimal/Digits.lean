import BuildTransform.Decimal.Shortest
import Mathlib.Data.Nat.Digits.Lemmas
import Mathlib.Data.List.DropRight
import Mathlib.Tactic

/-!
# Decimal digits

What lists of decimal digits denote.

* `ofDigits_append` and its companions read a list of digits from its parts; `ofDigits_digits`
  says that the digits of a number denote it.
* `Decimal.value` is the rational number that a decimal denotes.
* `Decimal.Normal` holds for decimals without superfluous zeros: the point of such a decimal is
  determined by its value (`Normal.point_le_iff`), and so is the decimal (`Normal.eq_of_value_eq`).
* `normal_ofScaled` says that dropping zeros at the end leads to one.
-/

namespace BuildTransform

namespace Numeral

section Digits

variable {b n x : Nat} {as bs ds : List Nat}

theorem ofDigits_concat : ofDigits b (ds ++ [x]) = ofDigits b ds * b + x := by
  rw [ofDigits, List.foldl_append]
  rfl

/-- Digits are read from the front here, and from the end in the library. -/
theorem ofDigits_eq : ofDigits b ds = Nat.ofDigits b ds.reverse := by
  induction ds using List.reverseRecOn with
  | nil => rfl
  | append_singleton ds x ih =>
      rw [ofDigits_concat, ih, List.reverse_append, List.reverse_singleton,
        List.singleton_append, Nat.ofDigits_cons]
      ring

theorem ofDigits_append :
    ofDigits b (as ++ bs) = ofDigits b as * b ^ bs.length + ofDigits b bs := by
  rw [ofDigits_eq, ofDigits_eq, ofDigits_eq, List.reverse_append, Nat.ofDigits_append,
    List.length_reverse]
  ring

theorem ofDigits_cons : ofDigits b (x :: ds) = x * b ^ ds.length + ofDigits b ds := by
  have h : ofDigits b ([x] ++ ds) = ofDigits b [x] * b ^ ds.length + ofDigits b ds :=
    ofDigits_append
  rwa [show ofDigits b [x] = x by simp [ofDigits]] at h

@[simp] theorem ofDigits_zeros (b k : Nat) : ofDigits b (List.replicate k 0) = 0 := by
  induction k with
  | zero => rfl
  | succ k ih => rw [List.replicate_succ, ofDigits_cons, ih, Nat.zero_mul]

theorem ofDigits_lt (hds : ∀ d, d ∈ ds → d < 10) : ofDigits 10 ds < 10 ^ ds.length := by
  rw [ofDigits_eq, ← List.length_reverse]
  exact Nat.ofDigits_lt_base_pow_length (by decide) fun d hd => hds d (List.mem_reverse.mp hd)

theorem digitsOnto_eq (hn : n ≠ 0) (rest : List Nat) :
    digitsOnto n rest = (Nat.digits 10 n).reverse ++ rest := by
  fun_induction digitsOnto n rest with
  | case1 n rest hlt => simp [Nat.digits_of_lt 10 n hn hlt]
  | case2 n rest hlt ih =>
      have hdiv : n / 10 ≠ 0 := by omega
      rw [ih hdiv, Nat.digits_def' (b := 10) (n := n) (by decide) (by omega)]
      simp

theorem digits_eq (hn : n ≠ 0) : digits n = (Nat.digits 10 n).reverse := by
  rw [digits, digitsOnto_eq hn, List.append_nil]

theorem digits_zero : digits 0 = [0] := by
  rw [digits, digitsOnto]
  rfl

/-- **The digits of a number denote it.** -/
@[simp] theorem ofDigits_digits (n : Nat) : ofDigits 10 (digits n) = n := by
  by_cases hn : n = 0
  · rw [hn, digits_zero]
    rfl
  · rw [digits_eq hn, ofDigits_eq, List.reverse_reverse, Nat.ofDigits_digits]

theorem lt_ten_of_mem_digits (hx : x ∈ digits n) : x < 10 := by
  by_cases hn : n = 0
  · rw [hn, digits_zero, List.mem_singleton] at hx
    omega
  · rw [digits_eq hn, List.mem_reverse] at hx
    exact Nat.digits_lt_base (by decide) hx

theorem digits_ne_nil (n : Nat) : digits n ≠ [] := by
  by_cases hn : n = 0
  · simp [hn, digits_zero]
  · simpa [digits_eq hn, Nat.digits_ne_nil_iff_ne_zero] using hn

/-- A number other than zero has no zero in front. -/
theorem head?_digits (hn : n ≠ 0) : ∃ x, (digits n).head? = some x ∧ x ≠ 0 := by
  have hnil : Nat.digits 10 n ≠ [] := Nat.digits_ne_nil_iff_ne_zero.mpr hn
  refine ⟨_, ?_, Nat.getLast_digit_ne_zero 10 hn⟩
  rw [digits_eq hn, List.head?_reverse, List.getLast?_eq_some_getLast hnil]

end Digits

end Numeral

namespace Decimal

/-! ## Values -/

/-- The number that a decimal denotes. -/
def value (d : Decimal) : ℚ :=
  Numeral.ofDigits 10 d.digits * 10 ^ (d.point - d.digits.length)

/-- The decimal has digits, and no zero stands at either end of them. -/
structure Normal (d : Decimal) : Prop where
  digit : ∀ x, x ∈ d.digits → x < 10
  first : ∃ x, d.digits.head? = some x ∧ x ≠ 0
  last : ∃ x, d.digits.getLast? = some x ∧ x ≠ 0

namespace Normal

section Normal

variable {d d' : Decimal} {p : Int}

theorem exists_cons (h : d.Normal) : ∃ x rest, d.digits = x :: rest ∧ x ≠ 0 := by
  obtain ⟨x, hx, hpos⟩ := h.first
  obtain ⟨rest, hrest⟩ := List.head?_eq_some_iff.mp hx
  exact ⟨x, rest, hrest, hpos⟩

theorem digits_ne_nil (h : d.Normal) : d.digits ≠ [] := by
  obtain ⟨x, rest, hdigits, -⟩ := h.exists_cons
  exact hdigits ▸ List.cons_ne_nil x rest

theorem length_pos (h : d.Normal) : 0 < d.digits.length :=
  List.length_pos_iff.mpr h.digits_ne_nil

theorem pow_le_ofDigits (h : d.Normal) :
    10 ^ (d.digits.length - 1) ≤ Numeral.ofDigits 10 d.digits := by
  obtain ⟨x, rest, hdigits, hpos⟩ := h.exists_cons
  rw [hdigits, Numeral.ofDigits_cons, List.length_cons, Nat.add_sub_cancel]
  exact le_add_right (Nat.le_mul_of_pos_left _ (Nat.pos_of_ne_zero hpos))

/-- The point stands directly behind the power of ten above the value. -/
theorem value_lt (h : d.Normal) : d.value < 10 ^ d.point := by
  have hlt : (Numeral.ofDigits 10 d.digits : ℚ) < 10 ^ (d.digits.length : Int) := by
    rw [zpow_natCast]
    exact_mod_cast Numeral.ofDigits_lt h.digit
  calc d.value < 10 ^ (d.digits.length : Int) * 10 ^ (d.point - d.digits.length) :=
        mul_lt_mul_of_pos_right hlt (by positivity)
    _ = 10 ^ d.point := by
        rw [← zpow_add₀ (by norm_num)]
        congr 1
        omega

theorem pow_le_value (h : d.Normal) : 10 ^ (d.point - 1) ≤ d.value := by
  have hle : (10 : ℚ) ^ ((d.digits.length : Int) - 1) ≤ Numeral.ofDigits 10 d.digits := by
    have hlength : (d.digits.length : Int) - 1 = ((d.digits.length - 1 : Nat) : Int) := by
      have := h.length_pos
      omega
    rw [hlength, zpow_natCast]
    exact_mod_cast h.pow_le_ofDigits
  calc (10 : ℚ) ^ (d.point - 1)
      = 10 ^ ((d.digits.length : Int) - 1) * 10 ^ (d.point - d.digits.length) := by
        rw [← zpow_add₀ (by norm_num)]
        congr 1
        omega
    _ ≤ d.value := mul_le_mul_of_nonneg_right hle (by positivity)

theorem value_pos (h : d.Normal) : 0 < d.value :=
  lt_of_lt_of_le (by positivity) h.pow_le_value

/-- **The value tells where the point stands.** -/
theorem point_le_iff (h : d.Normal) : d.point ≤ p ↔ d.value < 10 ^ p := by
  constructor
  · intro hp
    exact h.value_lt.trans_le (zpow_le_zpow_right₀ (by norm_num) hp)
  · intro hp
    have := (zpow_lt_zpow_iff_right₀ (by norm_num : (1 : ℚ) < 10)).mp
      (h.pow_le_value.trans_lt hp)
    omega

/-- The number that the digits denote is no multiple of ten. -/
theorem ofDigits_mod_ne_zero (h : d.Normal) : Numeral.ofDigits 10 d.digits % 10 ≠ 0 := by
  obtain ⟨x, hx, hpos⟩ := h.last
  obtain ⟨front, hfront⟩ := List.getLast?_eq_some_iff.mp hx
  have hlt : x < 10 := h.digit x (by simp [hfront])
  rw [hfront, Numeral.ofDigits_concat]
  omega

/-- No normal decimal has more digits than another decimal with its value and its point. -/
theorem length_le_of_value_eq (h' : d'.Normal) (hpoint : d.point = d'.point)
    (hvalue : d.value = d'.value) : d'.digits.length ≤ d.digits.length := by
  by_contra hlength
  obtain ⟨j, hj⟩ : ∃ j, d'.digits.length = d.digits.length + (j + 1) :=
    ⟨d'.digits.length - d.digits.length - 1, by omega⟩
  have hshift : (Numeral.ofDigits 10 d'.digits : ℚ) =
      Numeral.ofDigits 10 d.digits * 10 ^ (j + 1) := by
    have hscale : (10 : ℚ) ^ (d.point - d.digits.length) =
        10 ^ (j + 1) * 10 ^ (d'.point - d'.digits.length) := by
      rw [← zpow_natCast, ← zpow_add₀ (by norm_num), ← hpoint, hj]
      congr 1
      push_cast
      ring
    have hne : (10 : ℚ) ^ (d'.point - d'.digits.length) ≠ 0 := by positivity
    refine mul_right_cancel₀ hne ?_
    rw [mul_assoc, ← hscale]
    exact hvalue.symm
  have hdigits : Numeral.ofDigits 10 d'.digits = Numeral.ofDigits 10 d.digits * 10 ^ (j + 1) := by
    exact_mod_cast hshift
  refine h'.ofDigits_mod_ne_zero ?_
  rw [hdigits, pow_succ, ← mul_assoc, Nat.mul_mod_left]

/-- **A number has at most one normal decimal.** -/
theorem eq_of_value_eq (h : d.Normal) (h' : d'.Normal) (hvalue : d.value = d'.value) :
    d = d' := by
  have hpoint : d.point = d'.point := by
    refine le_antisymm (h.point_le_iff.mpr ?_) (h'.point_le_iff.mpr ?_)
    · exact hvalue ▸ h'.value_lt
    · exact hvalue ▸ h.value_lt
  have hlength : d.digits.length = d'.digits.length :=
    le_antisymm (length_le_of_value_eq h hpoint.symm hvalue.symm)
      (length_le_of_value_eq h' hpoint hvalue)
  have hnumber : Numeral.ofDigits 10 d.digits = Numeral.ofDigits 10 d'.digits := by
    have hne : (10 : ℚ) ^ (d.point - d.digits.length) ≠ 0 := by positivity
    have hsame := hvalue
    simp only [value, ← hpoint, ← hlength] at hsame
    exact_mod_cast mul_right_cancel₀ hne hsame
  have hreverse : d.digits.reverse = d'.digits.reverse := by
    refine Nat.ofDigits_inj_of_len_eq (b := 10) (by decide) (by simpa using hlength)
      (fun x hx => h.digit x (List.mem_reverse.mp hx))
      (fun x hx => h'.digit x (List.mem_reverse.mp hx)) ?_
    rw [← Numeral.ofDigits_eq, ← Numeral.ofDigits_eq, hnumber]
  obtain ⟨digits, point⟩ := d
  cases List.reverse_injective hreverse
  cases hpoint
  rfl

end Normal

end Normal

/-! ## Dropping zeros -/

section Trimmed

variable {ds : List Nat} {n : Nat} {k : Int}

/-- Only zeros are dropped. -/
theorem exists_trimmed_append (ds : List Nat) :
    ∃ j, trimmed ds ++ List.replicate j 0 = ds := by
  refine ⟨(ds.rtakeWhile (· == 0)).length, ?_⟩
  have hzeros : ds.rtakeWhile (· == 0) = List.replicate (ds.rtakeWhile (· == 0)).length 0 :=
    List.eq_replicate_of_mem fun x hx => by simpa using List.mem_rtakeWhile_imp hx
  rw [← hzeros]
  exact List.rdropWhile_append_rtakeWhile

theorem trimmed_ne_nil (hn : n ≠ 0) : trimmed (Numeral.digits n) ≠ [] := by
  intro hnil
  obtain ⟨j, hj⟩ := exists_trimmed_append (Numeral.digits n)
  have hzero := Numeral.ofDigits_digits n
  rw [← hj, hnil, List.nil_append, Numeral.ofDigits_zeros] at hzero
  exact hn hzero.symm

/-- **Scaling a number by a power of ten gives a normal decimal** of that value. -/
theorem normal_ofScaled (hn : n ≠ 0) (k : Int) : (ofScaled n k).Normal := by
  have hne := trimmed_ne_nil hn
  obtain ⟨j, hj⟩ := exists_trimmed_append (Numeral.digits n)
  constructor
  · intro x hx
    refine Numeral.lt_ten_of_mem_digits (n := n) ?_
    rw [← hj]
    exact List.mem_append_left _ hx
  · obtain ⟨x, hx, hpos⟩ := Numeral.head?_digits hn
    refine ⟨x, ?_, hpos⟩
    rwa [← hj, List.head?_append_of_ne_nil _ hne] at hx
  · have hlast : ¬ ((trimmed (Numeral.digits n)).getLast hne == 0) = true :=
      List.rdropWhile_last_not _ _ hne
    exact ⟨_, List.getLast?_eq_some_getLast hne, by simpa using hlast⟩

theorem value_ofScaled (n : Nat) (k : Int) : (ofScaled n k).value = n * 10 ^ k := by
  obtain ⟨j, hj⟩ := exists_trimmed_append (Numeral.digits n)
  have hlength : ((Numeral.digits n).length : Int) = (trimmed (Numeral.digits n)).length + j := by
    have h := congrArg List.length hj
    rw [List.length_append, List.length_replicate] at h
    omega
  have hnumber : (n : ℚ) = Numeral.ofDigits 10 (trimmed (Numeral.digits n)) * 10 ^ (j : Int) := by
    have h := Numeral.ofDigits_digits n
    rw [← hj, Numeral.ofDigits_append, Numeral.ofDigits_zeros, List.length_replicate,
      Nat.add_zero] at h
    rw [zpow_natCast]
    exact_mod_cast h.symm
  rw [hnumber, mul_assoc, ← zpow_add₀ (by norm_num), value, ofScaled]
  congr 2
  rw [hlength]
  ring

end Trimmed

end Decimal
end BuildTransform
