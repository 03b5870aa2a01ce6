import BuildTransform.Proofs.Decimal.Reading
import BuildTransform.Proofs.Decimal.Shortest

/-!
# Texts of binary numbers

What the text of a number looks like where it is joined to another text.

* `Positional` and `Scientific` are the two forms of a text without superfluous zeros; a text has
  at most one of them.
* `form_iff` says which of them a decimal has: that depends on its value only.
* `exists_decimal` takes the decimal of a binary number, which every layout writes.
* `text_concatenated_spec` concludes: the text denotes the same number as the text that is
  displayed, the size of this number decides which form it has, and numbers that are displayed
  differently have different texts.
-/

namespace BuildTransform
namespace Layout

/-! ## Two forms of texts -/

/-- Digits in front of a point: no zero stands in front of others. -/
structure IsWhole (ds : List Nat) : Prop where
  digit : ∀ x, x ∈ ds → x < 10
  nonempty : ds ≠ []
  first : ds.head? = some 0 → ds = [0]

/-- Digits behind a point: there are some, and no zero stands at their end. -/
structure IsFraction (ds : List Nat) : Prop where
  digit : ∀ x, x ∈ ds → x < 10
  last : ∃ x, ds.getLast? = some x ∧ x ≠ 0

/-- Digits of an exponent: there are some, and no zero stands in front of them. -/
structure IsExponent (ds : List Nat) : Prop where
  digit : ∀ x, x ∈ ds → x < 10
  first : ∃ x, ds.head? = some x ∧ x ≠ 0

/-- The sign of an exponent, which is never left out. -/
def exponentSign (negative : Bool) : Char :=
  if negative then '-' else '+'

/-- A text without an exponent and without superfluous zeros. -/
inductive Positional : List Char → Prop
  | whole {ds : List Nat}
      (hwhole : IsWhole ds) :
      Positional (ds.map Numeral.digitChar)
  | fraction {ds fs : List Nat}
      (hwhole : IsWhole ds)
      (hfraction : IsFraction fs) :
      Positional (ds.map Numeral.digitChar ++ '.' :: fs.map Numeral.digitChar)

/-- A text of one digit other than zero, perhaps a fraction, and an exponent, without superfluous
zeros. -/
inductive Scientific : List Char → Prop
  | whole {x : Nat} {es : List Nat} (negative : Bool)
      (hfirst : x ≠ 0 ∧ x < 10)
      (hexponent : IsExponent es) :
      Scientific (Numeral.digitChar x :: 'e' :: exponentSign negative ::
        es.map Numeral.digitChar)
  | fraction {x : Nat} {fs es : List Nat} (negative : Bool)
      (hfirst : x ≠ 0 ∧ x < 10)
      (hfraction : IsFraction fs)
      (hexponent : IsExponent es) :
      Scientific (Numeral.digitChar x :: '.' :: fs.map Numeral.digitChar ++
        'e' :: exponentSign negative :: es.map Numeral.digitChar)

section Forms

variable {d : Decimal} {cs : List Char}

/-- A text has at most one of the two forms. -/
theorem Positional.not_scientific (h : Positional cs) : ¬ Scientific cs := by
  have hdigit {ds : List Nat} (hds : ∀ x, x ∈ ds → x < 10) :
      'e' ∉ ds.map Numeral.digitChar :=
    Reading.not_mem_map_digitChar hds (by decide)
  have hnone : 'e' ∉ cs := by
    cases h with
    | whole hwhole => exact hdigit hwhole.digit
    | fraction hwhole hfraction =>
        rw [List.mem_append, List.mem_cons, not_or, not_or]
        exact ⟨hdigit hwhole.digit, by decide, hdigit hfraction.digit⟩
  intro hscientific
  cases hscientific <;> simp at hnone

/-- A decimal with its point in the range is written positionally. -/
theorem positional_of_point (h : d.Normal) (hleast : -5 ≤ d.point) (hgreatest : d.point ≤ 21) :
    Positional (concatenated.positive d) := by
  have hne := h.digits_ne_nil
  obtain ⟨hwhole, hfraction, hsome⟩ := concatenated.written_digits h
  have hin : ¬ (d.point < concatenated.leastPoint ∨ concatenated.greatestPoint < d.point) := by
    simp only [concatenated]
    omega
  obtain ⟨x, rest, hrest, hpos⟩ := h.exists_cons
  -- Neither part has a superfluous zero: the digits of the decimal end the one or begin the other.
  have hforms : ((concatenated.written d).1.head? = some 0 → (concatenated.written d).1 = [0]) ∧
      (concatenated.written d).2.2 = none ∧ ((concatenated.written d).2.1 ≠ [] →
        (concatenated.written d).2.1.getLast? = d.digits.getLast?) := by
    unfold written
    rw [if_neg hin]
    split_ifs with hsmall hlong hkeep
    · refine ⟨fun _ => rfl, rfl, fun _ => ?_⟩
      rw [List.getLast?_append_of_ne_nil _ hne]
    · cases hkeep
    · refine ⟨fun hzero => ?_, rfl, fun hnil => absurd rfl hnil⟩
      simp only [hrest, List.cons_append, List.head?_cons, Option.some.injEq] at hzero
      exact absurd hzero hpos
    · obtain ⟨k, hk⟩ : ∃ k, d.point.toNat = k + 1 := ⟨d.point.toNat - 1, by omega⟩
      refine ⟨fun hzero => ?_, rfl, fun hnil => ?_⟩
      · simp only [hrest, hk, List.take_succ_cons, List.head?_cons, Option.some.injEq] at hzero
        exact absurd hzero hpos
      · have hlast := List.getLast?_append_of_ne_nil (d.digits.take d.point.toNat) hnil
        rw [List.take_append_drop] at hlast
        exact hlast.symm
  obtain ⟨hzero, hexponent, hlast⟩ := hforms
  rw [concatenated.positive_eq h, hexponent, exponentTail, List.append_nil, Reading.pointed]
  split_ifs with hnil
  · rw [List.append_nil]
    exact .whole ⟨hwhole, hsome, hzero⟩
  · exact .fraction ⟨hwhole, hsome, hzero⟩ ⟨hfraction, hlast hnil ▸ h.last⟩

/-- A decimal with its point beyond the range is written with an exponent. -/
theorem scientific_of_point (h : d.Normal) (hout : d.point < -5 ∨ 21 < d.point) :
    Scientific (concatenated.positive d) := by
  obtain ⟨x, rest, hrest, hpos⟩ := h.exists_cons
  have hwritten : concatenated.written d = ([x], rest, some (d.point - 1)) := by
    have hbeyond : d.point < concatenated.leastPoint ∨ concatenated.greatestPoint < d.point := hout
    unfold written
    rw [if_pos hbeyond, hrest]
    rfl
  have hfirst : x ≠ 0 ∧ x < 10 := ⟨hpos, h.digit x (by simp [hrest])⟩
  have hexponent : IsExponent (Numeral.digits (d.point - 1).natAbs) :=
    ⟨fun _ => Numeral.lt_ten_of_mem_digits, Numeral.head?_digits (by omega)⟩
  have htail : concatenated.exponentTail (some (d.point - 1)) =
      'e' :: exponentSign (decide (d.point - 1 < 0)) ::
        (Numeral.digits (d.point - 1).natAbs).map Numeral.digitChar := by
    have hlength : 1 ≤ (Numeral.natChars (d.point - 1).natAbs).length := by
      rw [Numeral.natChars, List.length_map]
      exact List.length_pos_iff.mpr (Numeral.digits_ne_nil _)
    have hzeros : concatenated.exponentWidth - (Numeral.natChars (d.point - 1).natAbs).length = 0 :=
      Nat.sub_eq_zero_of_le hlength
    simp only [exponentTail, exponentChars, exponentSign, hzeros, decide_eq_true_eq]
    rfl
  rw [concatenated.positive_eq h, hwritten]
  dsimp only
  rw [htail, Reading.pointed]
  split_ifs with hnil
  · exact .whole _ hfirst hexponent
  · refine .fraction _ hfirst ⟨fun y hy => h.digit y (by simp [hrest, hy]), ?_⟩ hexponent
    obtain ⟨y, hy, hlast⟩ := h.last
    refine ⟨y, ?_, hlast⟩
    rwa [hrest, List.getLast?_cons_of_ne_nil hnil] at hy

/-- The value of a decimal tells whether its point is in the range. -/
theorem point_range_iff (h : d.Normal) :
    (-5 ≤ d.point ∧ d.point ≤ 21) ↔
      (10 : ℚ) ^ (-6 : Int) ≤ d.value ∧ d.value < 10 ^ (21 : Int) := by
  have hleast : -5 ≤ d.point ↔ (10 : ℚ) ^ (-6 : Int) ≤ d.value := by
    rw [← not_lt (a := d.value), ← h.point_le_iff]
    omega
  rw [hleast, h.point_le_iff]

/-- **The value of a decimal decides which form its text has.** -/
theorem form_iff (h : d.Normal) :
    (Positional (concatenated.positive d) ↔
      (10 : ℚ) ^ (-6 : Int) ≤ d.value ∧ d.value < 10 ^ (21 : Int)) ∧
    (Scientific (concatenated.positive d) ↔
      ¬ ((10 : ℚ) ^ (-6 : Int) ≤ d.value ∧ d.value < 10 ^ (21 : Int))) := by
  rw [← point_range_iff h]
  by_cases hin : -5 ≤ d.point ∧ d.point ≤ 21
  · have hpositional := positional_of_point h hin.1 hin.2
    exact ⟨iff_of_true hpositional hin, iff_of_false hpositional.not_scientific (not_not.mpr hin)⟩
  · have hscientific := scientific_of_point h (by omega)
    exact ⟨iff_of_false (fun hpositional => hpositional.not_scientific hscientific) hin,
      iff_of_true hscientific hin⟩

end Forms

end Layout

/-! ## Binary numbers -/

/-- A finite number other than zero: its significand and its exponent lie in their ranges. -/
def Double.IsFiniteNonzero : Double → Prop
  | .finite _ m q =>
      0 < m ∧ m < Double.significandBound ∧ Double.minExponent ≤ q ∧ q ≤ Double.maxExponent
  | _ => False

namespace Layout

variable {x y : Double}

/-- A finite number other than zero is written as a sign and a normal decimal, in every layout;
the decimal belongs to the number without its sign. -/
theorem exists_decimal (hx : x.IsFiniteNonzero) :
    ∃ d : Decimal, d.Normal ∧ (∃ (n : Nat) (k : Int), n < 10 ^ 17 ∧ d.value = n * 10 ^ k) ∧
      ∀ l : Layout, (l.text x.abs).toList = l.positive d ∧
        (l.text x).toList = if x.isNegative then '-' :: l.positive d else l.positive d := by
  cases x with
  | nan | infinite => exact hx.elim
  | finite negative m q =>
      obtain ⟨hm, hbound, hleast, hgreatest⟩ := hx
      obtain ⟨hnormal, hdigits⟩ := Decimal.shortest_spec hm hbound hleast hgreatest
      have htext (l : Layout) (s : Bool) : (l.text (.finite s m q)).toList =
          if s then '-' :: l.positive (Decimal.shortest m q)
          else l.positive (Decimal.shortest m q) := by
        rw [text, if_neg hm.ne', String.toList_ofList]
      exact ⟨_, hnormal, hdigits, fun l => ⟨htext l false, htext l negative⟩⟩

/-- Numbers with one text have one decimal and one sign, so that they are displayed alike. -/
theorem displayed_eq_of_concatenated_eq (hx : x.IsFiniteNonzero) (hy : y.IsFiniteNonzero)
    (htext : concatenated.text x = concatenated.text y) : displayed.text x = displayed.text y := by
  obtain ⟨d, hd, -, hdtexts⟩ := exists_decimal hx
  obtain ⟨e, he, -, hetexts⟩ := exists_decimal hy
  have hread : (if x.isNegative then -d.value else d.value) =
      (if y.isNegative then -e.value else e.value) := by
    refine Option.some.inj ?_
    rw [← concatenated.rational?_positive hd, ← concatenated.rational?_positive he,
      ← (hdtexts concatenated).2, ← (hetexts concatenated).2, htext]
  -- The values are positive, so the signs are the same, and hence the values.
  have hdpos := hd.value_pos
  have hepos := he.value_pos
  obtain ⟨hsign, hvalue⟩ : x.isNegative = y.isNegative ∧ d.value = e.value := by
    cases hxs : x.isNegative <;> cases hys : y.isNegative <;>
      simp only [hxs, hys, if_true, Bool.false_eq_true, if_false] at hread
    · exact ⟨rfl, hread⟩
    · linarith
    · linarith
    · exact ⟨rfl, neg_injective hread⟩
  obtain rfl := hd.eq_of_value_eq he hvalue
  refine String.toList_injective ?_
  rw [(hdtexts displayed).2, (hetexts displayed).2, hsign]

/-- **A number is joined to a text as the number that it is displayed as**, in the form that goes
with the size of this number. What is displayed differently is joined differently. -/
theorem text_concatenated_spec (hx : x.IsFiniteNonzero) :
    ∃ r : ℚ, 0 < r ∧ (∃ (n : Nat) (k : Int), n < 10 ^ 17 ∧ r = n * 10 ^ k) ∧
      Reading.rational? (displayed.text x.abs).toList = some r ∧
      Reading.rational? (concatenated.text x).toList = some (if x.isNegative then -r else r) ∧
      (∃ body, (concatenated.text x).toList = (if x.isNegative then '-' :: body else body) ∧
        (Positional body ↔ (10 : ℚ) ^ (-6 : Int) ≤ r ∧ r < 10 ^ (21 : Int)) ∧
        (Scientific body ↔ ¬ ((10 : ℚ) ^ (-6 : Int) ≤ r ∧ r < 10 ^ (21 : Int)))) ∧
      ∀ y : Double, y.IsFiniteNonzero → displayed.text x ≠ displayed.text y →
        concatenated.text x ≠ concatenated.text y := by
  obtain ⟨d, hd, hdigits, htexts⟩ := exists_decimal hx
  refine ⟨d.value, hd.value_pos, hdigits, ?_, ?_,
    ⟨_, (htexts concatenated).2, form_iff hd⟩, ?_⟩
  · rw [(htexts displayed).1]
    exact displayed.rational?_positive hd false
  · rw [(htexts concatenated).2]
    exact concatenated.rational?_positive hd x.isNegative
  · exact fun y hy => mt (displayed_eq_of_concatenated_eq hx hy)

/-- A negative number beyond the range of positional texts: the exponent that is displayed has two
digits as well, so both texts are alike. -/
theorem text_of_large_negative :
    let x : Double := .finite true 5960464477539062 22
    x.IsFiniteNonzero ∧ displayed.text x.abs = "2.5e+22" ∧ concatenated.text x = "-2.5e+22" ∧
      Reading.rational? "-2.5e+22".toList = some (-(25 * 10 ^ (21 : Int))) ∧
      Scientific "2.5e+22".toList ∧ ¬ Positional "2.5e+22".toList := by
  intro x
  have hx : x.IsFiniteNonzero := by
    simp only [x, Double.IsFiniteNonzero]
    decide
  have htexts : displayed.text x.abs = "2.5e+22" ∧ concatenated.text x = "-2.5e+22" := by
    decide +kernel
  have hread : Reading.rational? "2.5e+22".toList = some (25 * 10 ^ (21 : Int)) := by
    have hparts : Reading.sign "2.5e+22".toList = (false, "2.5e+22".toList) ∧
        Reading.parts? "2.5e+22".toList = some (25, 21) := by
      decide
    simp only [Reading.rational?, hparts, Option.map_some, Bool.false_eq_true, if_false]
    norm_num
  obtain ⟨r, -, -, hdisplayed, hjoined, ⟨body, hbody, hpositional, hscientific⟩, -⟩ :=
    text_concatenated_spec hx
  rw [htexts.1, hread] at hdisplayed
  obtain rfl := Option.some.inj hdisplayed
  rw [htexts.2] at hjoined hbody
  have hlarge : ¬ ((10 : ℚ) ^ (-6 : Int) ≤ 25 * 10 ^ (21 : Int) ∧
      (25 : ℚ) * 10 ^ (21 : Int) < 10 ^ (21 : Int)) := by
    norm_num
  obtain rfl : body = "2.5e+22".toList := (List.cons.inj hbody.symm).2
  exact ⟨hx, htexts.1, htexts.2, hjoined, hscientific.mpr hlarge, mt hpositional.mp hlarge⟩

end Layout
end BuildTransform
