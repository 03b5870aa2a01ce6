import BuildTransform.Proofs.Decimal.Whole
import BuildTransform.Proofs.Expr.Typing

/-!
# Numbers joined to texts

Whether it matters, where a number is joined to a text, that the number is held as an integer or
as a binary number.

* `Evaluation.add_text_right_iff` and `add_text_left_iff` say that numbers are joined alike to any
  text iff their own texts are alike.
* `Evaluation.joined_alike_iff` concludes: an integer and a binary number that equals it are joined
  alike iff the integer is displayed as it is and stays below the numbers with an exponent.
-/

namespace BuildTransform
namespace Evaluation

section Joining

variable {i : Int} {x : Double}

/-- The text of a binary number is an integer's text iff the latter is not too long. -/
theorem joinedText?_eq_iff :
    (Scalar.int i).joinedText? = (Scalar.float x).joinedText? ↔
      Numeral.withinLimit i.natAbs = true ∧ Layout.concatenated.text x = Numeral.intText i := by
  simp only [Scalar.joinedText?, Numeral.intText?]
  split_ifs with hlimit
  · simp [hlimit, eq_comm]
  · simp [hlimit]

/-- Scalars are joined alike iff their texts are alike, also if one of them has none. -/
theorem joinedText_eq_iff (a b : Scalar) :
    joinedText a = joinedText b ↔ a.joinedText? = b.joinedText? := by
  unfold joinedText
  generalize a.joinedText? = t
  generalize b.joinedText? = u
  cases t <;> cases u <;> simp [shown]

/-- Joined to a text in front of them, scalars are alike iff their texts are. -/
theorem add_text_left_iff (a b : Scalar) (s : String) :
    add (.text s) a = add (.text s) b ↔ a.joinedText? = b.joinedText? := by
  rw [add_of_text (Or.inl rfl), add_of_text (Or.inl rfl), joinedText_text, ← joinedText_eq_iff]
  rcases joinedText a with f | t <;> rcases joinedText b with g | u <;>
    simp [bind, Except.bind]

/-- Joined to a text behind them, scalars are alike iff their texts are. -/
theorem add_text_right_iff (a b : Scalar) (s : String) :
    add a (.text s) = add b (.text s) ↔ a.joinedText? = b.joinedText? := by
  rw [add_of_text (Or.inr rfl), add_of_text (Or.inr rfl), joinedText_text, ← joinedText_eq_iff]
  rcases joinedText a with f | t <;> rcases joinedText b with g | u <;>
    simp [bind, Except.bind]

/-- An integer of so few digits is never too long. -/
theorem withinLimit_of_lt (h : |i| < 10 ^ 21) : Numeral.withinLimit i.natAbs = true := by
  have hcast := Int.natCast_natAbs i
  have hfew : i.natAbs < 10 ^ 21 := by omega
  have hlimit : 21 ≤ Numeral.digitLimit := by decide
  rw [Numeral.withinLimit, decide_eq_true_eq, Nat.pow_eq]
  generalize Numeral.digitLimit = limit at hlimit ⊢
  exact hfew.trans_le (Nat.pow_le_pow_right (by decide) hlimit)

theorem integer?_of_sameNumber (h : Value.sameNumber (.int i) (.float x) = true) :
    x.integer? = some i := by
  simp only [Value.sameNumber, Value.integer?] at h
  cases hx : x.integer? with
  | none =>
      rw [hx] at h
      cases h
  | some j =>
      rw [hx] at h
      rw [beq_iff_eq.mp h]

/-- **An integer and a binary number that equals it are joined alike** iff the integer is what is
displayed for the binary number and small enough to be written without an exponent. So it is below
`2 ^ 53`, where every integer is a binary number. -/
theorem joined_alike_iff (hx : x.IsFinite)
    (hsame : Value.sameNumber (.int i) (.float x) = true) :
    ((Scalar.int i).joinedText? = (Scalar.float x).joinedText? ↔
      |i| < 10 ^ 21 ∧ Reading.rational? (Layout.displayed.text x).toList = some (i : ℚ)) ∧
    (|i| < 2 ^ 53 → (Scalar.int i).joinedText? = (Scalar.float x).joinedText?) ∧
    ∀ s : String,
      (add (.int i) (.text s) = add (.float x) (.text s) ↔
        (Scalar.int i).joinedText? = (Scalar.float x).joinedText?) ∧
      (add (.text s) (.int i) = add (.text s) (.float x) ↔
        (Scalar.int i).joinedText? = (Scalar.float x).joinedText?) := by
  have hiff : (Scalar.int i).joinedText? = (Scalar.float x).joinedText? ↔
      |i| < 10 ^ 21 ∧ Reading.rational? (Layout.displayed.text x).toList = some (i : ℚ) := by
    rw [joinedText?_eq_iff, Layout.text_eq_intText_iff hx]
    exact ⟨fun h => h.2, fun h => ⟨withinLimit_of_lt h.1, h⟩⟩
  refine ⟨hiff, fun hsmall => hiff.mpr ⟨hsmall.trans (by norm_num), ?_⟩,
    fun s => ⟨add_text_right_iff _ _ s, add_text_left_iff _ _ s⟩⟩
  exact Layout.displayed_of_small hx (integer?_of_sameNumber hsame) hsmall

/-- A negative number of sixteen digits with only even numbers around it: it is displayed as it is,
so both forms have one text. -/
theorem sixteen_digits_joined_alike :
    let i : Int := -9007199254740994
    let x : Double := .finite true 4503599627370497 1
    x.IsFinite ∧ Value.sameNumber (.int i) (.float x) = true ∧
    Layout.displayed.text x = "-9007199254740994.0" ∧
    (Scalar.int i).joinedText? = (Scalar.float x).joinedText? ∧
    add (.text "v") (.int i) = add (.text "v") (.float x) := by
  intro i x
  have hx : x.IsFinite := by
    simp only [x, Double.IsFinite]
    decide
  have hsame : Value.sameNumber (.int i) (.float x) = true := by decide
  have htext : Layout.displayed.text x = "-9007199254740994.0" := by decide +kernel
  have hread : Reading.rational? (Layout.displayed.text x).toList = some (i : ℚ) := by
    have hparts : Reading.parts? "9007199254740994.0".toList = some (90071992547409940, -1) := by
      decide
    have hsigned := Reading.rational?_signed rfl hparts true
    rw [htext]
    refine Eq.trans hsigned (congrArg some ?_)
    simp only [i]
    norm_num
  obtain ⟨hiff, -, hjoined⟩ := joined_alike_iff hx hsame
  have halike := hiff.mpr ⟨by decide, hread⟩
  exact ⟨hx, hsame, htext, halike, (hjoined "v").2.mpr halike⟩

/-- Greater integers keep all their digits, while a binary number has an exponent from `1e21` on
and zeros behind its shortest digits below. -/
theorem great_integers_joined_differently :
    let x : Double := .finite false 7629394531250000 17
    let y : Double := .finite false 4503599627370496 8
    (x.IsFinite ∧ Value.sameNumber (.int (10 ^ 21)) (.float x) = true ∧
      (Scalar.int (10 ^ 21)).joinedText? = some "1000000000000000000000" ∧
      (Scalar.float x).joinedText? = some "1e+21") ∧
    y.IsFinite ∧ Value.sameNumber (.int (2 ^ 60)) (.float y) = true ∧
    (Scalar.int (2 ^ 60)).joinedText? = some "1152921504606846976" ∧
    (Scalar.float y).joinedText? = some "1152921504606847000" := by
  intro x y
  have hx : x.IsFinite ∧ y.IsFinite := by
    simp only [x, y, Double.IsFinite]
    decide
  refine ⟨⟨hx.1, ?_, ?_, ?_⟩, hx.2, ?_, ?_, ?_⟩ <;> decide +kernel

end Joining

end Evaluation
end BuildTransform
