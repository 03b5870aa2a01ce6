import BuildTransform.Decimal.Layout
import BuildTransform.Decimal.Reading
import BuildTransform.Proofs.Decimal.Digits

/-!
# Reading decimal texts back

What the text of a decimal says, whatever its layout is.

* `Reading.parts?` reads a text as a whole number scaled by a power of ten, and `rational?` as the
  number that it denotes. Nothing is rounded; `unsigned?_eq` says that a binary number is read in
  this way first.
* `Reading.parts?_pointed` reads digits with a point among them and an exponent behind them.
* `Layout.written` says which digits a layout writes in front of the point and behind it.
* `Layout.rational?_positive` concludes: every layout writes a decimal so that its text denotes it.
-/

namespace BuildTransform

/-! ## Reading without rounding -/

namespace Reading

/-- The exponent behind its letter; without the letter it is zero. -/
def exponentOf? : Option (List Char) → Option Int
  | none => some 0
  | some ds => exponent? ds

/-- A text of digits, a point and an exponent as a whole number and the power of ten by which it
is scaled. -/
def parts? (cs : List Char) : Option (Nat × Int) :=
  let (mantissa, tail) := cutAt (fun c => c == 'e' || c == 'E') cs
  let (before, fraction) := cutAt (· == '.') mantissa
  let after := fraction.getD []
  (exponentOf? tail).bind fun e =>
    (Numeral.digitValues? 10 (before ++ after)).bind fun ds =>
      if ds.isEmpty then none else some (Numeral.ofDigits 10 ds, e - after.length)

/-- The number that a text with an optional sign denotes. -/
def rational? (cs : List Char) : Option ℚ :=
  let (negative, body) := sign cs
  (parts? body).map fun (n, e) => if negative then -(n * 10 ^ e) else n * 10 ^ e

section Reading

variable {p : Char → Bool} {cs ds : List Char} {c : Char} {x : Nat} {xs whole fraction : List Nat}

/-- A binary number is read as what its text denotes, and then rounded. -/
theorem unsigned?_eq (negative : Bool) (cs : List Char) :
    unsigned? negative cs = (parts? cs).map fun (n, e) => Double.ofDecimal negative n e := by
  unfold unsigned? parts?
  rcases cutAt (fun c => c == 'e' || c == 'E') cs with ⟨mantissa, tail⟩
  dsimp only
  rcases cutAt (· == '.') mantissa with ⟨before, fraction⟩
  dsimp only
  -- Both stop where a part of the text cannot be read.
  have hrest (e : Int) :
      (Numeral.digitValues? 10 (before ++ fraction.getD [])).bind (fun ds =>
        if ds.isEmpty then none
        else some (Double.ofDecimal negative (Numeral.ofDigits 10 ds)
          (e - (fraction.getD []).length))) =
      ((Numeral.digitValues? 10 (before ++ fraction.getD [])).bind fun ds =>
        if ds.isEmpty then none
        else some (Numeral.ofDigits 10 ds, e - ((fraction.getD []).length : Int))).map
          fun (n, e) => Double.ofDecimal negative n e := by
    rw [Option.map_bind]
    congr 1
    funext ds
    simp only [Function.comp]
    split_ifs <;> rfl
  cases tail with
  | none => exact hrest 0
  | some ds =>
      cases he : exponent? ds with
      | none => simp [exponentOf?, he]
      | some e => simpa [exponentOf?, he] using hrest e

theorem cutAt_of_forall (h : ∀ c, c ∈ cs → p c = false) : cutAt p cs = (cs, none) := by
  have hall : ∀ c, c ∈ cs → (!p c) = true := fun c hc => by rw [h c hc]; rfl
  simp only [cutAt, List.dropWhile_eq_nil_iff.mpr hall, List.takeWhile_eq_self_iff.mpr hall]

theorem cutAt_append_cons (h : ∀ c, c ∈ cs → p c = false) (hc : p c = true) :
    cutAt p (cs ++ c :: ds) = (cs, some ds) := by
  have hall : ∀ c, c ∈ cs → (!p c) = true := fun c hc => by rw [h c hc]; rfl
  simp [cutAt, List.dropWhile_append_of_pos hall, List.takeWhile_append_of_pos hall, hc]

/-- The character of a digit is read as that digit, and is none of the other characters of a
number. -/
theorem digitChar_spec (hx : x < 10) :
    Numeral.digitValue? 10 (Numeral.digitChar x) = some x ∧
      Numeral.digitChar x ∉ ['.', 'e', 'E', '-', '+'] := by
  revert x
  decide

theorem not_mem_map_digitChar (h : ∀ x, x ∈ xs → x < 10) (hc : c ∈ ['.', 'e', 'E', '-', '+']) :
    c ∉ xs.map Numeral.digitChar := by
  intro hmem
  obtain ⟨x, hx, rfl⟩ := List.mem_map.mp hmem
  exact (digitChar_spec (h x hx)).2 hc

theorem digitValues?_map (h : ∀ x, x ∈ xs → x < 10) :
    Numeral.digitValues? 10 (xs.map Numeral.digitChar) = some xs := by
  induction xs with
  | nil => rfl
  | cons x xs ih =>
      obtain ⟨hx, hxs⟩ := List.forall_mem_cons.mp h
      have hrest : (xs.map Numeral.digitChar).mapM (Numeral.digitValue? 10) = some xs := ih hxs
      rw [Numeral.digitValues?, List.map_cons, List.mapM_cons, (digitChar_spec hx).1, hrest]
      rfl

/-- Digits in front of a point and behind it; without digits behind it there is no point. -/
def pointed (whole fraction : List Nat) : List Char :=
  whole.map Numeral.digitChar ++
    if fraction = [] then [] else '.' :: fraction.map Numeral.digitChar

/-- No other character of a number stands in front of its exponent. -/
theorem not_mem_pointed (hwhole : ∀ x, x ∈ whole → x < 10) (hfraction : ∀ x, x ∈ fraction → x < 10)
    (hc : c ∈ ['e', 'E', '-', '+']) : c ∉ pointed whole fraction := by
  have hother := List.mem_cons_of_mem '.' hc
  have hpoint : c ≠ '.' := by
    rintro rfl
    exact absurd hc (by decide)
  unfold pointed
  split_ifs
  · rw [List.append_nil]
    exact not_mem_map_digitChar hwhole hother
  · rw [List.mem_append, List.mem_cons, not_or, not_or]
    exact ⟨not_mem_map_digitChar hwhole hother, hpoint, not_mem_map_digitChar hfraction hother⟩

/-- Digits with a point among them are read together. -/
theorem cutAt_pointed (hwhole : ∀ x, x ∈ whole → x < 10) :
    cutAt (· == '.') (pointed whole fraction) =
      (whole.map Numeral.digitChar,
        if fraction = [] then none else some (fraction.map Numeral.digitChar)) := by
  have hnone : ∀ c, c ∈ whole.map Numeral.digitChar → (c == '.') = false := fun c hc =>
    beq_eq_false_iff_ne.mpr fun h =>
      not_mem_map_digitChar hwhole List.mem_cons_self (h ▸ hc)
  unfold pointed
  split_ifs
  · rw [List.append_nil, cutAt_of_forall hnone]
  · exact cutAt_append_cons hnone rfl

/-- A number with a point is read as all its digits, scaled by the number of those behind it; an
exponent is added. -/
theorem parts?_pointed {e : Int} {tail : List Char} (hwhole : ∀ x, x ∈ whole → x < 10)
    (hfraction : ∀ x, x ∈ fraction → x < 10) (hne : whole ≠ [])
    (htail : (tail = [] ∧ e = 0) ∨ ∃ ds, tail = 'e' :: ds ∧ exponent? ds = some e) :
    parts? (pointed whole fraction ++ tail) =
      some (Numeral.ofDigits 10 (whole ++ fraction), e - fraction.length) := by
  have hmantissa : ∀ c, c ∈ pointed whole fraction → (c == 'e' || c == 'E') = false := by
    intro c hc
    simp only [Bool.or_eq_false_iff, beq_eq_false_iff_ne]
    exact ⟨fun h => not_mem_pointed hwhole hfraction (by decide) (h ▸ hc),
      fun h => not_mem_pointed hwhole hfraction (by decide) (h ▸ hc)⟩
  have hcut : cutAt (fun c => c == 'e' || c == 'E') (pointed whole fraction ++ tail) =
      (pointed whole fraction, tail.tail?) ∧ exponentOf? tail.tail? = some e := by
    rcases htail with ⟨rfl, rfl⟩ | ⟨ds, rfl, hds⟩
    · exact ⟨by rw [List.append_nil, cutAt_of_forall hmantissa]; rfl, rfl⟩
    · exact ⟨cutAt_append_cons hmantissa rfl, hds⟩
  have hdigits : Numeral.digitValues? 10 (whole.map Numeral.digitChar ++
      (if fraction = [] then none else some (fraction.map Numeral.digitChar)).getD []) =
        some (whole ++ fraction) := by
    have hboth : ∀ x, x ∈ whole ++ fraction → x < 10 := fun x hx =>
      (List.mem_append.mp hx).elim (hwhole x) (hfraction x)
    rw [← digitValues?_map hboth, List.map_append]
    congr 2
    split_ifs with hnil
    · rw [hnil]
      rfl
    · rfl
  have hlength : ((if fraction = [] then none
      else some (fraction.map Numeral.digitChar)).getD []).length = fraction.length := by
    split_ifs with hnil
    · rw [hnil]
      rfl
    · simp
  have hsome : (whole ++ fraction).isEmpty = false := by simp [hne]
  simp only [parts?, hcut.1, hcut.2, cutAt_pointed hwhole, hlength, hdigits,
    Option.bind_some, hsome]
  rfl

/-- A text that starts with a digit has no sign. -/
theorem sign_of_digit (hx : x < 10) (hfirst : ∃ ds, cs = Numeral.digitChar x :: ds) :
    sign cs = (false, cs) := by
  obtain ⟨ds, rfl⟩ := hfirst
  have hother := (digitChar_spec hx).2
  unfold sign
  split
  · rename_i hminus
    rw [(List.cons.inj hminus).1] at hother
    simp at hother
  · rename_i hplus
    rw [(List.cons.inj hplus).1] at hother
    simp at hother
  · rfl

/-- A minus sign in front of a text without a sign is read as the sign of the number. -/
theorem rational?_signed {n : Nat} {e : Int} (hsign : sign cs = (false, cs))
    (hparts : parts? cs = some (n, e)) (negative : Bool) :
    rational? (if negative then '-' :: cs else cs) =
      some (if negative then -((n : ℚ) * 10 ^ e) else n * 10 ^ e) := by
  cases negative with
  | true => simp only [rational?, if_true, sign, hparts, Option.map_some]
  | false => simp only [rational?, Bool.false_eq_true, if_false, hsign, hparts, Option.map_some]

/-- A sign and an exponent, with zeros in front of it or not. -/
theorem exponent?_exponentChars (l : Layout) (e : Int) :
    exponent? (l.exponentChars e) = some e := by
  have hzeros (n : Nat) : Layout.zeros n = (List.replicate n 0).map Numeral.digitChar := by
    rw [List.map_replicate]
    rfl
  have hdigits (n : Nat) : ∀ x, x ∈ List.replicate n 0 ++ Numeral.digits e.natAbs → x < 10 := by
    intro x hx
    rcases List.mem_append.mp hx with hx | hx
    · rw [List.eq_of_mem_replicate hx]
      decide
    · exact Numeral.lt_ten_of_mem_digits hx
  have hread (n : Nat) : Numeral.digitValues? 10 (Layout.zeros n ++ Numeral.natChars e.natAbs) =
      some (List.replicate n 0 ++ Numeral.digits e.natAbs) := by
    rw [hzeros, Numeral.natChars, ← List.map_append, digitValues?_map (hdigits n)]
  have hvalue (n : Nat) :
      Numeral.ofDigits 10 (List.replicate n 0 ++ Numeral.digits e.natAbs) = e.natAbs := by
    rw [Numeral.ofDigits_append, Numeral.ofDigits_zeros, Nat.zero_mul, Nat.zero_add,
      Numeral.ofDigits_digits]
  have hsome (n : Nat) : (Layout.zeros n ++ Numeral.natChars e.natAbs).isEmpty = false := by
    simp [Numeral.natChars, Numeral.digits_ne_nil]
  unfold Layout.exponentChars
  split_ifs with he
  · simp only [exponent?, sign, hsome, hread, hvalue, Option.map_some, Double.signed, if_true]
    exact congrArg some (by omega)
  · simp only [exponent?, sign, hsome, hread, hvalue, Option.map_some, Double.signed]
    exact congrArg some (by simpa using abs_of_nonneg (not_lt.mp he))

end Reading

end Reading

/-! ## Layouts -/

namespace Layout

/-- The digits that a layout writes in front of the point and behind it, and the exponent if it
writes one. -/
def written (l : Layout) (d : Decimal) : List Nat × List Nat × Option Int :=
  if d.point < l.leastPoint ∨ l.greatestPoint < d.point then
    (d.digits.take 1, d.digits.drop 1, some (d.point - 1))
  else if d.point ≤ 0 then ([0], List.replicate (-d.point).toNat 0 ++ d.digits, none)
  else if (d.digits.length : Int) ≤ d.point then
    (d.digits ++ List.replicate (d.point.toNat - d.digits.length) 0,
      if l.keepsFraction then [0] else [], none)
  else (d.digits.take d.point.toNat, d.digits.drop d.point.toNat, none)

/-- An exponent with its letter. -/
def exponentTail (l : Layout) : Option Int → List Char
  | none => []
  | some e => 'e' :: l.exponentChars e

open Reading (pointed rational?)

section Layout

variable {d : Decimal} {x : Nat}

theorem map_digitChar_zeros (n : Nat) :
    (List.replicate n 0).map Numeral.digitChar = zeros n := by
  rw [List.map_replicate]
  rfl

/-- A positive decimal is written as digits, a point if there are any behind it, and an
exponent. -/
theorem positive_eq (l : Layout) (h : d.Normal) :
    l.positive d =
      pointed (l.written d).1 (l.written d).2.1 ++ l.exponentTail (l.written d).2.2 := by
  have hne := h.digits_ne_nil
  simp only [positive, written, List.length_map]
  split_ifs with hout hsmall hwhole hkeep
  · obtain ⟨x, rest, hdigits⟩ := List.exists_cons_of_ne_nil hne
    cases rest <;> simp [hdigits, scientific, pointed, exponentTail]
  · simp only [pointed, exponentTail, List.append_eq_nil_iff, hne, and_false, if_false,
      List.map_append, map_digitChar_zeros, List.append_nil]
    rfl
  · simp only [whole, hkeep, pointed, exponentTail, List.map_append, map_digitChar_zeros,
      List.length_map, List.append_nil]
    rfl
  · simp only [whole, hkeep, pointed, exponentTail, List.map_append, map_digitChar_zeros,
      List.length_map, List.append_nil, if_true, Bool.false_eq_true, if_false]
  · have hrest : d.digits.drop d.point.toNat ≠ [] := by
      rw [ne_eq, List.drop_eq_nil_iff]
      omega
    simp only [pointed, exponentTail, hrest, if_false, List.map_take, List.map_drop,
      List.append_nil]

/-- What is written are digits, and some of them stand in front of the point. -/
theorem written_digits (l : Layout) (h : d.Normal) :
    (∀ x, x ∈ (l.written d).1 → x < 10) ∧ (∀ x, x ∈ (l.written d).2.1 → x < 10) ∧
      (l.written d).1 ≠ [] := by
  have hne := h.digits_ne_nil
  have hpos := h.length_pos
  have hzero : ∀ n x, x ∈ List.replicate n 0 → x < 10 := by
    intro n x hx
    rw [List.eq_of_mem_replicate hx]
    decide
  have htake : ∀ n x, x ∈ d.digits.take n → x < 10 := fun n x hx =>
    h.digit x (List.mem_of_mem_take hx)
  have hdrop : ∀ n x, x ∈ d.digits.drop n → x < 10 := fun n x hx =>
    h.digit x (List.mem_of_mem_drop hx)
  have happend : ∀ {as bs : List Nat}, (∀ x, x ∈ as → x < 10) → (∀ x, x ∈ bs → x < 10) →
      ∀ x, x ∈ as ++ bs → x < 10 := fun has hbs x hx =>
    (List.mem_append.mp hx).elim (has x) (hbs x)
  unfold written
  split_ifs with hout hsmall hwhole hkeep
  · refine ⟨htake 1, hdrop 1, ?_⟩
    simp [hne]
  · exact ⟨hzero 1, happend (hzero _) h.digit, by simp⟩
  · exact ⟨happend h.digit (hzero _), hzero 1, by simp [hne]⟩
  · exact ⟨happend h.digit (hzero _), by simp, by simp [hne]⟩
  · refine ⟨htake _, hdrop _, ?_⟩
    rw [ne_eq, List.take_eq_nil_iff]
    rintro (hpoint | hnil)
    · omega
    · exact hne hnil

/-- **What is written denotes the decimal**, wherever the point is put. -/
theorem written_value (l : Layout) (h : d.Normal) :
    (Numeral.ofDigits 10 ((l.written d).1 ++ (l.written d).2.1) : ℚ) *
      10 ^ ((l.written d).2.2.getD 0 - (l.written d).2.1.length) = d.value := by
  have hpos := h.length_pos
  unfold written Decimal.value
  split_ifs with hout hsmall hwhole hkeep
  · simp only [List.take_append_drop, Option.getD_some, List.length_drop]
    congr 2
    omega
  · rw [Numeral.ofDigits_append, Numeral.ofDigits_append, Numeral.ofDigits_zeros]
    simp only [List.length_append, List.length_replicate, Option.getD_none]
    rw [show Numeral.ofDigits 10 [0] = 0 from rfl, Nat.zero_mul, Nat.zero_mul, Nat.zero_add,
      Nat.zero_add]
    congr 2
    push_cast
    omega
  · obtain ⟨j, hj⟩ : ∃ j : Nat, d.point = d.digits.length + j :=
      ⟨(d.point - d.digits.length).toNat, by omega⟩
    have hcount : d.point.toNat - d.digits.length = j := by omega
    simp only [Option.getD_none, List.length_singleton]
    rw [hcount, Numeral.ofDigits_append, Numeral.ofDigits_append, Numeral.ofDigits_zeros,
      List.length_replicate, hj]
    rw [show Numeral.ofDigits 10 [0] = 0 from rfl]
    push_cast
    rw [add_sub_cancel_left, zpow_natCast, List.length_singleton]
    norm_num
    ring
  · obtain ⟨j, hj⟩ : ∃ j : Nat, d.point = d.digits.length + j :=
      ⟨(d.point - d.digits.length).toNat, by omega⟩
    have hcount : d.point.toNat - d.digits.length = j := by omega
    rw [hcount, List.append_nil, Numeral.ofDigits_append, Numeral.ofDigits_zeros,
      List.length_replicate, hj, add_sub_cancel_left]
    push_cast
    simp
  · simp only [List.take_append_drop, Option.getD_none, List.length_drop]
    congr 2
    omega

/-- **The text of a decimal denotes it, in every layout.** -/
theorem rational?_positive (l : Layout) (h : d.Normal) (negative : Bool) :
    rational? (if negative then '-' :: l.positive d else l.positive d) =
      some (if negative then -d.value else d.value) := by
  obtain ⟨hwhole, hfraction, hne⟩ := l.written_digits h
  have hparts : Reading.parts? (l.positive d) =
      some (Numeral.ofDigits 10 ((l.written d).1 ++ (l.written d).2.1),
        (l.written d).2.2.getD 0 - (l.written d).2.1.length) := by
    rw [l.positive_eq h]
    refine Reading.parts?_pointed hwhole hfraction hne ?_
    cases (l.written d).2.2 with
    | none => exact Or.inl ⟨rfl, rfl⟩
    | some e => exact Or.inr ⟨_, rfl, Reading.exponent?_exponentChars l e⟩
  have hsign : Reading.sign (l.positive d) = (false, l.positive d) := by
    obtain ⟨x, rest, hx⟩ := List.exists_cons_of_ne_nil hne
    refine Reading.sign_of_digit (hwhole x (by rw [hx]; exact List.mem_cons_self)) ?_
    rw [l.positive_eq h, hx]
    exact ⟨_, rfl⟩
  rw [Reading.rational?_signed hsign hparts, l.written_value h]

end Layout

end Layout
end BuildTransform
