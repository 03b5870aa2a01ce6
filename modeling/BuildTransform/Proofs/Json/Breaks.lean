import BuildTransform.Proofs.Json.Grammar
import BuildTransform.Proofs.Text.Breaks

/-!
# JSON texts and their line breaks

A JSON text denotes the same however its lines end.

* A line break stands between tokens only: no token contains one, and a string with a control
  character in it is refused. So every reader commutes with `Lines.normalized`.
* `readWithin_normalize` says so for whole texts.
-/

namespace BuildTransform

namespace Json

open Lines

variable {cs rest : List Char} {depth m n : Nat} {v : Value}

theorem skip_normalized (cs : List Char) : skip (normalized cs) = normalized (skip cs) :=
  dropWhile_normalized_of_space rfl rfl

/-- A token behind white space stays what it is. -/
theorem skip_normalized_eq_cons {c : Char} (h : skip cs = c :: rest) :
    skip (normalized cs) = c :: normalized rest := by
  have htoken : ¬ isSpace c = true := by
    have hhead := List.head?_dropWhile_not isSpace cs
    rw [show cs.dropWhile isSpace = c :: rest from h] at hhead
    simpa using hhead
  rw [skip_normalized, h, normalized_cons_of_ne]
  rintro rfl
  exact htoken rfl

theorem head?_skip_normalized (cs : List Char) :
    (skip (normalized cs)).head? = (skip cs).head? := by
  cases h : skip cs with
  | nil => rw [skip_normalized, h]; rfl
  | cons c rest => rw [skip_normalized_eq_cons h]; rfl

theorem bare_normalized (h : Bare cs) : Bare (normalized cs) := by
  unfold Bare at h ⊢
  simpa [head?_normalized] using h

/-! ## Words and numbers -/

/-- The words have no line breaks in them. -/
theorem word?_normalized (cs : List Char) :
    word? (normalized cs) = (word? cs).map fun r => (r.1, normalized r.2) := by
  have hplain : ∀ w ∈ words, '\n' ∉ w.1 ∧ '\r' ∉ w.1 := by
    simp [words]
  have hfind : words.find? (fun w => w.1.isPrefixOf (normalized cs)) =
      words.find? (fun w => w.1.isPrefixOf cs) := by
    refine List.find?_congr fun w hw => Bool.eq_iff_iff.mpr ?_
    simpa using prefix_normalized_iff (hplain w hw).1 (hplain w hw).2
  unfold word?
  rw [hfind]
  cases hword : words.find? (fun w => w.1.isPrefixOf cs) with
  | none => rfl
  | some w =>
      have hprefix : w.1 <+: cs := by simpa using List.find?_some hword
      obtain ⟨after, rfl⟩ := hprefix
      simp [normalized_append (hplain w (List.mem_of_find?_eq_some hword)).2]

theorem isDigit_breaks : Numeral.isDigit '\n' = false ∧ Numeral.isDigit '\r' = false :=
  ⟨rfl, rfl⟩

theorem digits_normalized (cs : List Char) :
    (normalized cs).takeWhile Numeral.isDigit = cs.takeWhile Numeral.isDigit ∧
      (normalized cs).dropWhile Numeral.isDigit = normalized (cs.dropWhile Numeral.isDigit) :=
  ⟨takeWhile_normalized rfl rfl, dropWhile_normalized rfl rfl⟩

theorem signAt_normalized (cs : List Char) : signAt (normalized cs) =
    ((signAt cs).1, normalized (signAt cs).2) := by
  by_cases hminus : cs.head? = some '-'
  · obtain ⟨body, rfl⟩ := List.head?_eq_some_iff.mp hminus
    rw [normalized_cons_of_ne (by simp)]
    rfl
  · have hplain {ds : List Char} (h : ds.head? ≠ some '-') : signAt ds = (false, ds) := by
      rw [signAt]
      rintro rest rfl
      exact h rfl
    have hminus' : (normalized cs).head? ≠ some '-' := by
      rwa [ne_eq, head?_normalized (by simp) (by simp)]
    rw [hplain hminus, hplain hminus']

theorem integerDigits_normalized (cs : List Char) : integerDigits (normalized cs) =
    ((integerDigits cs).1, normalized (integerDigits cs).2) := by
  by_cases hzero : cs.head? = some '0'
  · obtain ⟨body, rfl⟩ := List.head?_eq_some_iff.mp hzero
    rw [normalized_cons_of_ne (by simp)]
    rfl
  · have hplain {ds : List Char} (h : ds.head? ≠ some '0') :
        integerDigits ds = (ds.takeWhile Numeral.isDigit, ds.dropWhile Numeral.isDigit) := by
      rw [integerDigits]
      rintro rest rfl
      exact h rfl
    have hzero' : (normalized cs).head? ≠ some '0' := by
      rwa [ne_eq, head?_normalized (by simp) (by simp)]
    rw [hplain hzero, hplain hzero', (digits_normalized cs).1, (digits_normalized cs).2]

theorem fraction_normalized (cs : List Char) : fraction (normalized cs) =
    ((fraction cs).1, normalized (fraction cs).2) := by
  rcases normalized_cases cs with ⟨rfl, -⟩ | ⟨c, body, rfl, hc, h⟩ | ⟨body, after, rfl, h⟩
  · rfl
  · by_cases hpoint : c = '.'
    · subst hpoint
      rw [h]
      rcases normalized_cases body with ⟨rfl, -⟩ | ⟨d, more, rfl, hd, h'⟩ | ⟨more, after, rfl, h'⟩
      · rfl
      · rw [h']
        simp only [fraction]
        split_ifs
        · rw [(digits_normalized more).1, (digits_normalized more).2]
        · rw [h, h']
      · rw [h']
        simp only [fraction, isDigit_breaks, Bool.false_eq_true, if_false, h, h']
    · have hnone (ds : List Char) : fraction (c :: ds) = ([], c :: ds) := by
        rw [fraction]
        rintro d rest hcons
        exact hpoint (List.cons.inj hcons).1
      rw [h, hnone, hnone, h]
  · rw [h]
    exact congrArg (Prod.mk []) h.symm

/-- The sign of an exponent, if there is one, and the characters after it. -/
def exponentMark (cs : List Char) : List Char × List Char :=
  match cs with
  | '+' :: rest => (['+'], rest)
  | '-' :: rest => (['-'], rest)
  | rest => ([], rest)

theorem exponentMark_normalized (cs : List Char) : exponentMark (normalized cs) =
    ((exponentMark cs).1, normalized (exponentMark cs).2) := by
  rcases normalized_cases cs with ⟨rfl, -⟩ | ⟨c, body, rfl, hc, h⟩ | ⟨body, after, rfl, h⟩
  · rfl
  · rw [h]
    unfold exponentMark
    split
    · rename_i hcons
      cases hcons
      rfl
    · rename_i hcons
      cases hcons
      rfl
    · rename_i hplus hminus
      split
      · rename_i hcons
        cases hcons
        exact absurd rfl (hplus _)
      · rename_i hcons
        cases hcons
        exact absurd rfl (hminus _)
      · rw [h]
  · rw [h]
    exact congrArg (Prod.mk []) h.symm

/-- An exponent by its sign. -/
theorem exponent_cons (c : Char) (body : List Char) : exponent (c :: body) =
    if c == 'e' || c == 'E' then
      let ds := (exponentMark body).2.takeWhile Numeral.isDigit
      if ds.isEmpty then ([], c :: body)
      else (c :: ((exponentMark body).1 ++ ds),
        (exponentMark body).2.dropWhile Numeral.isDigit)
    else ([], c :: body) :=
  rfl

theorem exponent_normalized (cs : List Char) : exponent (normalized cs) =
    ((exponent cs).1, normalized (exponent cs).2) := by
  rcases normalized_cases cs with ⟨rfl, -⟩ | ⟨c, body, rfl, hc, h⟩ | ⟨body, after, rfl, h⟩
  · rfl
  · rw [h, exponent_cons, exponent_cons]
    simp only [exponentMark_normalized, digits_normalized]
    split_ifs
    · rw [h]
    · rfl
    · rw [h]
  · rw [h, exponent_cons, exponent_cons]
    exact congrArg (Prod.mk []) h.symm

theorem numberParts_normalized (cs : List Char) : numberParts (normalized cs) =
    { numberParts cs with rest := normalized (numberParts cs).rest } := by
  simp only [numberParts, signAt_normalized, integerDigits_normalized, fraction_normalized,
    exponent_normalized]

theorem number_normalized (h : number cs = .ok (v, rest)) :
    number (normalized cs) = .ok (v, normalized rest) := by
  obtain ⟨hwhole, hvalue, hrest⟩ := number_eq_ok_iff.mp h
  rw [number_eq_ok_iff, numberParts_normalized]
  exact ⟨hwhole, hvalue, congrArg normalized hrest⟩

/-! ## Strings -/

theorem digitValue?_of_mem {base : Nat} {ds : List Nat} {c : Char}
    (h : Numeral.digitValues? base cs = some ds) (hc : c ∈ cs) :
    ∃ d, Numeral.digitValue? base c = some d := by
  unfold Numeral.digitValues? at h
  induction cs generalizing ds with
  | nil => cases hc
  | cons c' cs ih =>
      simp only [List.mapM_cons, Option.bind_eq_bind, Option.bind_eq_some_iff] at h
      obtain ⟨d, hd, ds', hds, -⟩ := h
      rcases List.mem_cons.mp hc with rfl | hc
      · exact ⟨d, hd⟩
      · exact ih hds hc

/-- Hexadecimal digits are no line breaks, and four of them are read whatever follows. -/
theorem fourDigits?_cases {k : Nat} (h : fourDigits? cs = some k) :
    ∃ ds, cs = ds ++ cs.drop 4 ∧ ds.length = 4 ∧ '\r' ∉ ds ∧
      ∀ after, fourDigits? (ds ++ after) = some k := by
  refine ⟨cs.take 4, (List.take_append_drop 4 cs).symm, ?_, fun hreturn => ?_, fun after => ?_⟩
  all_goals
    simp only [fourDigits?] at h ⊢
    split_ifs at h with hlength
  · exact hlength
  · obtain ⟨ds, hds, -⟩ := Option.map_eq_some_iff.mp h
    obtain ⟨d, hd⟩ := digitValue?_of_mem hds hreturn
    cases hd
  · rw [List.take_append_of_le_length (Nat.le_of_eq hlength.symm), List.take_take]
    simp [hlength, h]

/-- A character is behind four digits. -/
theorem not_length_lt_five {ds after : List Char} (hfour : ds.length = 4) (hafter : after ≠ []) :
    ¬ (ds ++ after).length < 5 := by
  have hpos := List.length_pos_iff.mpr hafter
  simp only [List.length_append, hfour]
  omega

theorem lowUnit?_normalized {unit : Option (Nat × List Char)} (h : lowUnit? cs = .ok unit) :
    lowUnit? (normalized cs) = .ok (unit.map fun u => (u.1, normalized u.2)) := by
  have hother {ds : List Char} (h : ¬ ['\\', 'u'] <+: ds) : lowUnit? ds = .ok none := by
    rw [lowUnit?]
    rintro rest rfl
    exact h (List.prefix_append _ rest)
  by_cases hprefix : ['\\', 'u'] <+: cs
  · obtain ⟨body, rfl⟩ := hprefix
    rw [normalized_append (by simp)]
    simp only [List.cons_append, List.nil_append, lowUnit?] at h ⊢
    split_ifs at h with hshort
    · cases h
      rw [if_pos (Nat.lt_of_le_of_lt (length_normalized_le body) hshort)]
      rfl
    · cases hlow : fourDigits? body with
      | none => simp [hlow] at h
      | some low =>
          obtain ⟨ds, hds, hfour, hreturn, hread⟩ := fourDigits?_cases hlow
          simp only [hlow, Except.ok.injEq] at h
          have hbody : normalized body = ds ++ normalized (body.drop 4) := by
            conv_lhs => rw [hds]
            exact normalized_append hreturn
          have hrest : normalized (body.drop 4) ≠ [] := by
            rw [ne_eq, normalized_eq_nil_iff, List.drop_eq_nil_iff]
            omega
          rw [hbody, if_neg (not_length_lt_five hfour hrest), hread]
          simp only [List.drop_left' hfour]
          cases h
          split_ifs <;> rfl
  · rw [hother hprefix] at h
    cases h
    rw [← prefix_normalized_iff (by simp) (by simp)] at hprefix
    exact hother hprefix

/-- Four digits with a character behind them are an escape. -/
theorem unicodeEscape_append {ds after : List Char} {k : Nat} (hfour : ds.length = 4)
    (hread : fourDigits? (ds ++ after) = some k) (hafter : after ≠ []) :
    unicodeEscape (ds ++ after) =
      if isHigh k then
        match lowUnit? after with
        | .error e => .error e
        | .ok (some (low, rest)) => .ok (joinedUnits k low, rest)
        | .ok none => .error .unpairedUnit
      else if isLow k then .error .unpairedUnit
      else .ok (Char.ofNat k, after) := by
  have hdrop : after = (ds ++ after).drop 4 := (List.drop_left' hfour).symm
  rw [unicodeEscape, if_neg (not_length_lt_five hfour hafter), hread]
  exact hdrop ▸ rfl

theorem unicodeEscape_normalized {c : Char} (h : unicodeEscape cs = .ok (c, rest)) :
    unicodeEscape (normalized cs) = .ok (c, normalized rest) := by
  have hlong : ¬ cs.length < 5 := by
    intro hshort
    rw [unicodeEscape, if_pos hshort] at h
    cases h
  cases hk : fourDigits? cs with
  | none =>
      rw [unicodeEscape, if_neg hlong, hk] at h
      cases h
  | some k =>
      obtain ⟨ds, hds, hfour, hreturn, hread⟩ := fourDigits?_cases hk
      have hafter : cs.drop 4 ≠ [] := by
        rw [ne_eq, List.drop_eq_nil_iff]
        omega
      generalize cs.drop 4 = after at hds hafter
      subst hds
      rw [unicodeEscape_append hfour hk hafter] at h
      rw [normalized_append hreturn,
        unicodeEscape_append hfour (hread _) (by simpa using hafter)]
      split_ifs at h ⊢
      · cases hlow : lowUnit? after with
        | error e => simp [hlow] at h
        | ok unit =>
            rw [lowUnit?_normalized hlow]
            rcases unit with _ | ⟨low, more⟩
            · simp [hlow] at h
            · simp only [hlow, Except.ok.injEq, Prod.mk.injEq] at h
              simp [h]
      · simp only [Except.ok.injEq, Prod.mk.injEq] at h
        simp [h]

theorem TakesChar.normalized {c : Char} (h : TakesChar cs c rest) :
    TakesChar (normalized cs) c (normalized rest) := by
  cases h with
  | plain hquote hescape hcontrol =>
      rw [normalized_cons_of_ne]
      · exact .plain hquote hescape hcontrol
      · rintro rfl
        exact hcontrol (by simp)
  | escape hletter =>
      rw [normalized_cons_of_ne (by simp), normalized_cons_of_ne]
      · exact .escape hletter
      · rintro rfl
        cases hletter
  | unicode hdigits =>
      rw [normalized_cons_of_ne (by simp), normalized_cons_of_ne (by simp)]
      exact .unicode (unicodeEscape_normalized hdigits)

theorem string_normalized {start start' : Nat} {acc : List Char} {s : String}
    (h : string start n acc cs = .ok (s, rest)) (hm : (normalized cs).length < m) :
    string start' m acc (normalized cs) = .ok (s, normalized rest) := by
  induction n generalizing acc cs m with
  | zero => cases h
  | succ n ih =>
      obtain ⟨m, rfl⟩ := Nat.exists_eq_add_one_of_ne_zero (Nat.ne_zero_of_lt hm)
      obtain ⟨k, hk, ⟨rfl, rfl⟩ | ⟨c, after, htakes, hafter⟩⟩ := string_cases h
      · rw [normalized_cons_of_ne (by simp)]
        rfl
      · cases hk
        have hlength := htakes.normalized.length_lt
        rw [string_of_takes htakes.normalized]
        exact ih hafter (by omega)

theorem quoted_normalized {body : List Char} {s : String}
    (h : quoted ('"' :: body) = .ok (s, rest)) :
    quoted ('"' :: normalized body) = .ok (s, normalized rest) :=
  string_normalized h (by simp)

/-! ## Whole texts -/

/-- **What is read from a text is read from it with uniform breaks.** -/
theorem Reads.normalized {part : Part} (h : Reads part depth cs v rest) :
    Reads part depth (normalized cs) v (normalized rest) := by
  induction h with
  | text hread =>
      rw [normalized_cons_of_ne (by simp)]
      exact .text (quoted_normalized hread)
  | @word _ cs _ _ hbare hword =>
      refine .word (bare_normalized hbare) ?_
      rw [word?_normalized, hword]
      rfl
  | @number _ cs _ _ hbare hword hread =>
      refine .number (bare_normalized hbare) ?_ (number_normalized hread)
      rw [word?_normalized, hword]
      rfl
  | emptyList hclose =>
      rw [normalized_cons_of_ne (by simp)]
      exact .emptyList (skip_normalized_eq_cons hclose)
  | list hopen _ ih =>
      rw [normalized_cons_of_ne (by simp)]
      refine .list ?_ ?_
      · rwa [head?_skip_normalized]
      · rwa [skip_normalized]
  | emptyDict hclose =>
      rw [normalized_cons_of_ne (by simp)]
      exact .emptyDict (skip_normalized_eq_cons hclose)
  | dict hopen _ ih =>
      rw [normalized_cons_of_ne (by simp)]
      refine .dict ?_ ?_
      · rwa [head?_skip_normalized]
      · rwa [skip_normalized]
  | lastItem _ hclose ih =>
      exact .lastItem ih (skip_normalized_eq_cons hclose)
  | nextItem _ hcomma _ ih ihmore =>
      rw [← skip_normalized] at ihmore
      exact .nextItem ih (skip_normalized_eq_cons hcomma) ihmore
  | lastMember hkey hcolon _ hclose ih =>
      rw [← skip_normalized] at ih
      rw [normalized_cons_of_ne (by simp)]
      exact .lastMember (quoted_normalized hkey) (skip_normalized_eq_cons hcolon) ih
        (skip_normalized_eq_cons hclose)
  | nextMember hkey hcolon _ hcomma _ ih ihmore =>
      rw [← skip_normalized] at ih ihmore
      rw [normalized_cons_of_ne (by simp)]
      exact .nextMember (quoted_normalized hkey) (skip_normalized_eq_cons hcolon) ih
        (skip_normalized_eq_cons hcomma) ihmore

theorem readChars_normalized (h : readChars depth cs = .ok v) :
    readChars depth (normalized cs) = .ok v := by
  obtain ⟨rest, hreads, hrest⟩ := readChars_eq_ok_iff.mp h
  have hreads' := hreads.normalized
  rw [← skip_normalized] at hreads'
  exact readChars_eq_ok_iff.mpr ⟨_, hreads', by rw [skip_normalized, hrest]; rfl⟩

/-- A text has a value unless it starts with a mark of its encoding. -/
theorem readWithin_eq_ok_iff {text : String} : readWithin depth text = .ok v ↔
    text.toList.head? ≠ some '\ufeff' ∧ readChars depth text.toList = .ok v := by
  unfold readWithin
  by_cases hmark : text.toList.head? = some '\ufeff'
  · simp [hmark]
  · rw [if_neg (by simpa using hmark)]
    rcases readChars depth text.toList with (_ | _ | _ | _) | u <;> simp [hmark]

/-- A text is read by the rules for its characters. -/
theorem readWithin_of_reads {text : String} (hchars : text.toList = cs)
    (hmark : cs.head? ≠ some '\ufeff') (h : Reads .value depth (skip cs) v rest)
    (hrest : skip rest = []) : readWithin depth text = .ok v := by
  rw [readWithin_eq_ok_iff, hchars, readChars_eq_ok_iff]
  exact ⟨hmark, rest, h, hrest⟩

/-- **A JSON text denotes the same however its lines end.** -/
theorem readWithin_normalize {text : String} (h : readWithin depth text = .ok v) :
    readWithin depth (Lines.normalize text) = .ok v := by
  obtain ⟨hmark, hchars⟩ := readWithin_eq_ok_iff.mp h
  rw [readWithin_eq_ok_iff, Lines.normalize, String.toList_ofList]
  refine ⟨?_, readChars_normalized hchars⟩
  rwa [ne_eq, head?_normalized (by simp) (by simp)]

end Json
end BuildTransform
