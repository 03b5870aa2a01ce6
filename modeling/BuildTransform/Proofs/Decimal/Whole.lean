import BuildTransform.Proofs.Decimal.Rendering

/-!
# Texts of whole numbers

When a binary number is joined to a text as an integer is.

* `Double.IsFinite` holds for the finite numbers, each in its only form.
* `Decimal.shortest_value_of_whole` says that the shortest decimal of a whole number is exact as
  long as the steps between numbers are not greater than one.
* `Numeral.rational?_intText` reads the text of an integer back, and
  `Layout.positive_eq_natChars` writes a decimal whose value is whole as that integer is written.
* `Layout.text_eq_intText_iff` concludes: the texts are the same iff the integer is small enough
  to be positional and is what is displayed for the binary number. For small numbers it is
  (`Layout.displayed_of_small`).
-/

namespace BuildTransform

/-! ## Whole binary numbers -/

/-- A finite number, in the form with the greatest significand in its range. -/
def Double.IsFinite : Double → Prop
  | .finite _ m q =>
      m < Double.significandBound ∧ Double.minExponent ≤ q ∧ q ≤ Double.maxExponent ∧
        (2 ^ 52 ≤ m ∨ q = Double.minExponent)
  | _ => False

namespace Decimal

section Whole

variable {m n num den : Nat} {q k : Int}

/-- What is near enough to a number to be rounded to it differs by half a step at most. -/
theorem abs_sub_le_of_contains (hden : 0 < den)
    (h : (Interval.around m q).contains num den = true) :
    |(num : ℚ) / den - m * 2 ^ q| ≤ 2 ^ (q - 1) := by
  obtain ⟨hlow, hhigh⟩ := bounds_of_contains hden h
  have hunit : (0 : ℚ) < 2 ^ (q - 2) := by positivity
  have hvalue : (m : ℚ) * 2 ^ q = 4 * m * 2 ^ (q - 2) := by
    rw [zpow_sub₀ (by norm_num)]
    norm_num
    ring
  have hstep : (2 : ℚ) ^ (q - 1) = 2 * 2 ^ (q - 2) := by
    rw [← zpow_one_add₀ (by norm_num)]
    congr 1
    ring
  have hleast : (4 * m : ℚ) - 2 ≤ (Interval.around m q).low := by
    have hnat : 4 * m ≤ (Interval.around m q).low + 2 := by
      simp only [Interval.around]
      split_ifs <;> omega
    have hcast : (4 * m : ℚ) ≤ (Interval.around m q).low + 2 := by exact_mod_cast hnat
    linarith
  have hends : ((Interval.around m q).high : ℚ) = 4 * m + 2 ∧
      (Interval.around m q).unit = q - 2 := ⟨by simp [Interval.around], rfl⟩
  rw [hends.1, hends.2] at hhigh
  rw [hends.2] at hlow
  have hlowest := mul_le_mul_of_nonneg_right hleast hunit.le
  rw [abs_le, hvalue, hstep]
  constructor <;> linarith

/-- On the grid of whole numbers a whole number is found. -/
theorem exists_nearestWithin_of_whole (hm : 0 < m) (hbound : m < Double.significandBound)
    (hden : 0 < den) (hvalue : (num : ℚ) / den = m * 2 ^ q) (hn : (m : ℚ) * 2 ^ q = n) :
    ∃ c, nearestWithin (Interval.around m q) num den 0 = some c := by
  have hbelow : below num den 0 = n := by
    obtain ⟨hle, hlt⟩ := below_spec num hden 0
    rw [hvalue, hn, zpow_zero, mul_one] at hle hlt
    have hle' : below num den 0 ≤ n := by exact_mod_cast hle
    have hlt' : n < below num den 0 + 1 := by exact_mod_cast hlt
    omega
  obtain ⟨-, hlow, hhigh, -⟩ := around_spec (q := q) hm hbound
  have hinside : (Interval.around m q).contains (ratio n 0).1 (ratio n 0).2 = true := by
    refine contains_of_bounds (ratio_pos n 0) ?_ ?_ <;>
      rwa [ratio_eq, zpow_zero, mul_one, ← hn]
  rcases nearestWithin_cases (Interval.around m q) num den 0 with ⟨c, hc, -⟩ | ⟨-, hnone, -⟩
  · exact ⟨c, hc⟩
  · rw [hbelow, hinside] at hnone
    cases hnone

/-- Below `2 ^ 53` the steps between numbers are not greater than one. -/
theorem exponent_nonpos_of_small (hform : 2 ^ 52 ≤ m ∨ q = Double.minExponent)
    (hn : (m : ℚ) * 2 ^ q = n) (hsmall : n < 2 ^ 53) : q ≤ 0 := by
  by_contra hpos
  rcases hform with hlarge | rfl
  · have htwo : (2 : ℚ) ^ (1 : Int) ≤ 2 ^ q := zpow_le_zpow_right₀ (by norm_num) (by omega)
    have hlarge : (2 ^ 52 : ℚ) ≤ m := by exact_mod_cast hlarge
    have hprod := mul_le_mul hlarge htwo (by positivity) (by positivity)
    have hsmall : (n : ℚ) < 2 ^ 53 := by exact_mod_cast hsmall
    rw [hn] at hprod
    norm_num at hprod hsmall
    linarith
  · exact hpos (by decide)

/-- The point of a whole number stands behind its last digit, and there are 17 digits at most
below `2 ^ 53`. -/
theorem exists_point_of_whole {point : Int} (hone : 1 ≤ n) (hsmall : n < 2 ^ 53)
    (hpower : (10 : ℚ) ^ (point - 1) ≤ n) (hpoint : (n : ℚ) < 10 ^ point) :
    ∃ last : Nat, point = last ∧ 1 ≤ last ∧ last ≤ 17 := by
  have hlow : 0 < point := by
    by_contra hnonpos
    have hle := hpoint.trans_le (zpow_le_zpow_right₀ (by norm_num) (not_lt.mp hnonpos))
    rw [zpow_zero] at hle
    have : n < 1 := by exact_mod_cast hle
    omega
  have hhigh : point - 1 < 17 := by
    by_contra hover
    have hle := (zpow_le_zpow_right₀ (by norm_num : (1 : ℚ) ≤ 10) (not_lt.mp hover)).trans hpower
    have hsmall : (n : ℚ) < 2 ^ 53 := by exact_mod_cast hsmall
    norm_num at hle hsmall
    linarith
  exact ⟨point.toNat, by omega, by omega, by omega⟩

/-- Whole numbers that differ by half at most are the same. -/
theorem eq_of_abs_sub_le_half {k : Nat} (h : |(k : ℚ) - n| ≤ 1 / 2) : k = n := by
  have hclose : |((k : Nat) : Int) - (n : Int)| < 1 := by
    have hq : |(k : ℚ) - n| < 1 := h.trans_lt (by norm_num)
    exact_mod_cast hq
  rw [abs_lt] at hclose
  omega

/-- **The shortest decimal of a whole number is exact** below the range where the steps between
numbers are greater than one. -/
theorem shortest_value_of_whole (hm : 0 < m) (hbound : m < Double.significandBound)
    (hleast : Double.minExponent ≤ q) (hgreatest : q ≤ Double.maxExponent)
    (hform : 2 ^ 52 ≤ m ∨ q = Double.minExponent) (hn : (m : ℚ) * 2 ^ q = n)
    (hsmall : n < 2 ^ 53) :
    (shortest m q).value = n := by
  obtain ⟨num, den, hnum, hden, hvalue, hbits, hshortest⟩ :=
    exists_shortest_eq hm hbound hleast hgreatest
  obtain ⟨hpower, hpoint⟩ := pointOf_spec hnum hden hbits
  have hgrid := exists_nearestWithin_of_whole hm hbound hden hvalue hn
  rw [hvalue, hn] at hpower hpoint
  have hone : 1 ≤ n := by
    have hpos : (0 : ℚ) < n := by
      rw [← hn]
      exact mul_pos (by exact_mod_cast hm) (by positivity)
    exact_mod_cast hpos
  obtain ⟨last, hlast, hfirst, hmost⟩ := exists_point_of_whole hone hsmall hpower hpoint
  -- All grids up to the point are whole, so the one that is found is.
  have hwhole : ∃ a, nearestWithin (Interval.around m q) num den (pointOf num den - last) =
      some a := by
    rwa [hlast, sub_self]
  obtain ⟨c, a, hc, hnearest, hsearch⟩ := search_spec hfirst (show last < 1 + 17 by omega) hwhole
  rw [hshortest, hsearch, value_ofScaled]
  obtain ⟨-, hcontains⟩ := contains_of_nearestWithin hnearest
  have hnear := abs_sub_le_of_contains (ratio_pos a _) hcontains
  obtain ⟨j, hj⟩ : ∃ j : Nat, pointOf num den - (c : Int) = j := ⟨last - c, by omega⟩
  rw [ratio_eq, hn, hj, zpow_natCast] at hnear
  rw [hj, zpow_natCast]
  have hhalf : (2 : ℚ) ^ (q - 1) ≤ 1 / 2 := by
    have hq := exponent_nonpos_of_small hform hn hsmall
    calc (2 : ℚ) ^ (q - 1) ≤ 2 ^ (-1 : Int) := zpow_le_zpow_right₀ (by norm_num) (by omega)
      _ = 1 / 2 := by norm_num
  have hsame : a * 10 ^ j = n := by
    refine eq_of_abs_sub_le_half ?_
    push_cast
    exact hnear.trans hhalf
  exact_mod_cast hsame

end Whole

end Decimal

/-! ## Texts of integers -/

namespace Numeral

section Texts

variable {n : Nat} {i : Int}

theorem natChars_eq_pointed (n : Nat) : natChars n = Reading.pointed (digits n) [] := by
  rw [Reading.pointed, if_pos rfl, List.append_nil]
  rfl

theorem toList_intText (i : Int) :
    (intText i).toList =
      if decide (i < 0) then '-' :: natChars i.natAbs else natChars i.natAbs := by
  unfold intText natText
  by_cases hi : i < 0 <;> simp [hi]

theorem cast_eq_signed (i : Int) :
    (i : ℚ) = if decide (i < 0) then -((i.natAbs : Int) : ℚ) else ((i.natAbs : Int) : ℚ) := by
  by_cases hi : i < 0
  · rw [if_pos (decide_eq_true hi), ← Int.cast_neg]
    exact congrArg Int.cast (by omega)
  · rw [decide_eq_false hi, if_neg Bool.false_ne_true]
    exact congrArg Int.cast (by omega)

/-- **The text of an integer denotes it.** -/
theorem rational?_intText (i : Int) : Reading.rational? (intText i).toList = some (i : ℚ) := by
  have hdigits : ∀ x, x ∈ digits i.natAbs → x < 10 := fun _ => lt_ten_of_mem_digits
  have hparts : Reading.parts? (natChars i.natAbs) = some (i.natAbs, 0) := by
    have h : Reading.parts? (Reading.pointed (digits i.natAbs) [] ++ []) =
        some (ofDigits 10 (digits i.natAbs ++ []), (0 : Int) - ([] : List Nat).length) :=
      Reading.parts?_pointed hdigits (fun x hx => by cases hx) (digits_ne_nil i.natAbs)
        (Or.inl ⟨rfl, rfl⟩)
    rw [List.append_nil, List.append_nil, ofDigits_digits] at h
    rw [natChars_eq_pointed, h]
    rfl
  have hsign : Reading.sign (natChars i.natAbs) = (false, natChars i.natAbs) := by
    obtain ⟨x, rest, hx⟩ := List.exists_cons_of_ne_nil (digits_ne_nil i.natAbs)
    refine Reading.sign_of_digit (hdigits x (hx ▸ List.mem_cons_self))
      ⟨rest.map digitChar, ?_⟩
    rw [natChars, hx, List.map_cons]
  rw [toList_intText, Reading.rational?_signed hsign hparts]
  rw [zpow_zero, mul_one, cast_eq_signed i, Int.cast_natCast]

/-- The text of an integer has no exponent. -/
theorem not_mem_intText (i : Int) : 'e' ∉ (intText i).toList := by
  have hnone : 'e' ∉ natChars i.natAbs :=
    Reading.not_mem_map_digitChar (fun _ => lt_ten_of_mem_digits) (by decide)
  rw [toList_intText]
  split_ifs <;> simp [hnone]

end Texts

end Numeral

namespace Layout

section Whole

variable {d : Decimal} {n : Nat} {x : Double} {i : Int}

theorem Scientific.mem_exponent {cs : List Char} (h : Scientific cs) : 'e' ∈ cs := by
  cases h <;> simp

/-- A decimal that denotes a whole number is written as that number, unless it is too great. -/
theorem positive_eq_natChars (h : d.Normal) (hvalue : d.value = n) (hsmall : n < 10 ^ 21) :
    concatenated.positive d = Numeral.natChars n := by
  have hn : n ≠ 0 := by
    rintro rfl
    have hpos := h.value_pos
    rw [hvalue] at hpos
    exact lt_irrefl _ hpos
  obtain rfl : d = Decimal.ofScaled n 0 := by
    refine h.eq_of_value_eq (Decimal.normal_ofScaled hn 0) ?_
    rw [hvalue, Decimal.value_ofScaled, zpow_zero, mul_one]
  obtain ⟨j, hj⟩ := Decimal.exists_trimmed_append (Numeral.digits n)
  have hpoint : (Decimal.ofScaled n 0).point = ((Numeral.digits n).length : Int) := zero_add _
  have hdigits : (Decimal.ofScaled n 0).digits = Decimal.trimmed (Numeral.digits n) := rfl
  have hlength : (Numeral.digits n).length = (Decimal.trimmed (Numeral.digits n)).length + j := by
    have hsum := congrArg List.length hj
    rw [List.length_append, List.length_replicate] at hsum
    exact hsum.symm
  have hfew : (Numeral.digits n).length ≤ 21 := by
    have hgreatest : (Decimal.ofScaled n 0).point ≤ 21 := by
      rw [h.point_le_iff, hvalue]
      exact_mod_cast hsmall
    rw [hpoint] at hgreatest
    exact_mod_cast hgreatest
  have hsome := List.length_pos_iff.mpr (Numeral.digits_ne_nil n)
  -- The zeros at the end that the decimal dropped are written again.
  have hin : ¬ ((Decimal.ofScaled n 0).point < concatenated.leastPoint ∨
      concatenated.greatestPoint < (Decimal.ofScaled n 0).point) := by
    rw [hpoint]
    simp only [concatenated]
    omega
  have hback : (Decimal.ofScaled n 0).point.toNat -
      ((Decimal.ofScaled n 0).digits.map Numeral.digitChar).length = j := by
    rw [hpoint, hdigits, List.length_map]
    omega
  simp only [positive, if_neg hin]
  rw [if_neg (by omega), if_pos (by rw [hpoint, hdigits, List.length_map]; omega)]
  rw [whole, hback, ← map_digitChar_zeros, hdigits, ← List.map_append, hj]
  exact List.append_nil _

/-- A finite number is a zero, or it has a decimal. -/
theorem zero_or_nonzero (hx : x.IsFinite) : (∃ s, x = Double.zero s) ∨ x.IsFiniteNonzero := by
  cases x with
  | nan | infinite => exact hx.elim
  | finite s m q =>
      obtain ⟨hbound, hleast, hgreatest, hform⟩ := hx
      rcases Nat.eq_zero_or_pos m with rfl | hm
      · rcases hform with hlarge | rfl
        · omega
        · exact Or.inl ⟨s, rfl⟩
      · exact Or.inr ⟨hm, hbound, hleast, hgreatest⟩

/-- A zero is joined without a sign and a fraction, and displayed with both. -/
theorem zero_text_spec (s : Bool) :
    concatenated.text (Double.zero s) = Numeral.intText 0 ∧
      Reading.rational? (displayed.text (Double.zero s)).toList = some 0 := by
  have hparts : Reading.parts? "0.0".toList = some (0, -1) := by decide
  have hread (s : Bool) : Reading.rational? (if s then '-' :: "0.0".toList else "0.0".toList) =
      some 0 := by
    rw [Reading.rational?_signed rfl hparts]
    cases s <;> simp
  refine ⟨by cases s <;> decide +kernel, ?_⟩
  rw [← hread s]
  cases s <;> rfl

/-- A positive number with a sign that equals an integer has the size of the integer, and its
sign is that of the integer. -/
theorem sign_and_size {r : ℚ} {negative : Bool} (hr : 0 < r)
    (h : (if negative then -r else r) = i) : decide (i < 0) = negative ∧ r = i.natAbs := by
  have hcast := Numeral.cast_eq_signed i
  cases negative with
  | true =>
      have hi : i < 0 := by
        have hneg : (i : ℚ) < 0 := by
          rw [← h]
          simpa using hr
        exact_mod_cast hneg
      refine ⟨decide_eq_true hi, ?_⟩
      rw [decide_eq_true hi, if_pos rfl, ← h] at hcast
      simpa using hcast
  | false =>
      have hi : ¬ i < 0 := by
        have hpos : (0 : ℚ) < i := by
          rw [← h]
          simpa using hr
        have hpos : 0 < i := by exact_mod_cast hpos
        omega
      refine ⟨decide_eq_false hi, ?_⟩
      rw [decide_eq_false hi, if_neg Bool.false_ne_true, ← h] at hcast
      simpa using hcast

/-- A decimal with a sign is written as an integer is iff it denotes the integer and is not too
great to be positional. -/
theorem signed_eq_intText_iff (h : d.Normal) (negative : Bool) :
    (if negative then '-' :: concatenated.positive d else concatenated.positive d) =
        (Numeral.intText i).toList ↔
      |i| < 10 ^ 21 ∧ (if negative then -d.value else d.value) = i := by
  have hcast := Int.natCast_natAbs i
  constructor
  · intro htext
    have hvalue : (if negative then -d.value else d.value) = i := by
      have hread := concatenated.rational?_positive h negative
      rw [htext, Numeral.rational?_intText] at hread
      exact (Option.some.inj hread).symm
    refine ⟨?_, hvalue⟩
    -- Beyond the range there would be an exponent.
    by_contra hlarge
    have hrange : ¬ ((10 : ℚ) ^ (-6 : Int) ≤ d.value ∧ d.value < 10 ^ (21 : Int)) := by
      rintro ⟨-, hlt⟩
      rw [(sign_and_size h.value_pos hvalue).2] at hlt
      have hfew : i.natAbs < 10 ^ 21 := by exact_mod_cast hlt
      omega
    have hmem := ((form_iff h).2.mpr hrange).mem_exponent
    refine Numeral.not_mem_intText i ?_
    rw [← htext]
    split_ifs
    · exact List.mem_cons_of_mem _ hmem
    · exact hmem
  · rintro ⟨hsmall, hvalue⟩
    obtain ⟨hsign, hsize⟩ := sign_and_size h.value_pos hvalue
    rw [Numeral.toList_intText, hsign, positive_eq_natChars h hsize (by omega)]

/-- **A binary number is joined as an integer is** iff it is displayed as that integer and is not
too great to be positional. -/
theorem text_eq_intText_iff (hx : x.IsFinite) :
    concatenated.text x = Numeral.intText i ↔
      |i| < 10 ^ 21 ∧ Reading.rational? (displayed.text x).toList = some (i : ℚ) := by
  rcases zero_or_nonzero hx with ⟨s, rfl⟩ | hx
  · obtain ⟨hjoined, hdisplayed⟩ := zero_text_spec s
    rw [hjoined, hdisplayed]
    constructor
    · intro htext
      have hread := Numeral.rational?_intText 0
      rw [htext, Numeral.rational?_intText] at hread
      have hzero : (i : ℚ) = (0 : Int) := Option.some.inj hread
      obtain rfl : i = 0 := by exact_mod_cast hzero
      exact ⟨by decide, rfl⟩
    · rintro ⟨-, hread⟩
      have hzero : (0 : ℚ) = i := Option.some.inj hread
      obtain rfl : i = 0 := by exact_mod_cast hzero.symm
      rfl
  · obtain ⟨d, hd, -, htexts⟩ := exists_decimal hx
    rw [(htexts displayed).2, displayed.rational?_positive hd, Option.some.injEq,
      ← signed_eq_intText_iff hd, ← (htexts concatenated).2, String.toList_inj]

/-- The integer that a number equals is its value with its sign. -/
theorem value_of_integer? {s : Bool} {m : Nat} {q : Int}
    (h : (Double.finite s m q).integer? = some i) :
    ∃ n : Nat, (m : ℚ) * 2 ^ q = n ∧ i = if s then -(n : Int) else n := by
  have hsigned {k : Nat} (hk : some (Double.signed s k) = some i) :
      i = if s then -(k : Int) else k := (Option.some.inj hk).symm
  simp only [Double.integer?, Nat.pow_eq] at h
  split_ifs at h with hq hwhole
  · obtain ⟨j, rfl⟩ := Int.eq_ofNat_of_zero_le hq
    exact ⟨_, by push_cast; simp, hsigned h⟩
  · obtain ⟨j, rfl⟩ := Int.exists_eq_neg_ofNat (not_le.mp hq).le
    rw [neg_neg, Int.toNat_natCast] at h hwhole
    obtain ⟨n, rfl⟩ := Nat.dvd_of_mod_eq_zero hwhole
    rw [Nat.mul_div_cancel_left n (Nat.pow_pos (by decide))] at h
    refine ⟨n, ?_, hsigned h⟩
    push_cast
    rw [zpow_neg, zpow_natCast]
    field_simp

/-- A whole number whose neighbours are not farther than the next whole numbers is displayed as
itself. -/
theorem displayed_of_small (hx : x.IsFinite) (hinteger : x.integer? = some i)
    (hsmall : |i| < 2 ^ 53) :
    Reading.rational? (displayed.text x).toList = some (i : ℚ) := by
  rcases zero_or_nonzero hx with ⟨s, rfl⟩ | hnonzero
  · obtain ⟨n, hn, rfl⟩ := value_of_integer? hinteger
    obtain rfl : n = 0 := by
      rw [Nat.cast_zero, zero_mul] at hn
      exact_mod_cast hn.symm
    rw [(zero_text_spec s).2]
    cases s <;> simp
  · cases x with
    | nan | infinite => exact hx.elim
    | finite s m q =>
        obtain ⟨hm, hbound, hleast, hgreatest⟩ := hnonzero
        obtain ⟨n, hn, rfl⟩ := value_of_integer? hinteger
        have hfew : n < 2 ^ 53 := by
          cases s <;> simp at hsmall <;> omega
        have hvalue := Decimal.shortest_value_of_whole hm hbound hleast hgreatest hx.2.2.2 hn hfew
        have hnormal := (Decimal.shortest_spec hm hbound hleast hgreatest).1
        have htext : (displayed.text (.finite s m q)).toList =
            if s then '-' :: displayed.positive (Decimal.shortest m q)
            else displayed.positive (Decimal.shortest m q) := by
          rw [text, if_neg hm.ne', String.toList_ofList]
        rw [htext, displayed.rational?_positive hnormal, hvalue]
        cases s <;> simp

end Whole

end Layout
end BuildTransform
