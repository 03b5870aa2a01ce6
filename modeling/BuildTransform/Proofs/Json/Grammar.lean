import BuildTransform.Json.Reader
import BuildTransform.Proofs.Outcome

/-!
# The grammar of JSON texts

What the reader of JSON takes from the front of a text, without a bound on its steps.

* `Part` says in the middle of what a text is read: a value, the items of an array behind those
  read before, or the members of an object.
* `Reads` has one rule for each way to read a part. Brackets may be open to a depth only.
* `Reads.length_lt` shows that every part takes a character, and `run_eq_ok_iff` that the bound
  on the steps of the reader, twice the characters, excludes nothing.
-/

namespace BuildTransform
namespace Json

variable {cs rest : List Char} {depth m n : Nat} {v : Value} {p : Char → Bool}

/-- In the middle of what a text is read. -/
inductive Part
  | value
  | items (acc : List Value)
  | members (acc : List (Value × Value))

/-- The reader of a part. -/
def Part.run (fuel depth : Nat) : Part → List Char → Step Value
  | .value => Json.value fuel depth
  | .items acc => Json.items fuel depth acc
  | .members acc => Json.members fuel depth acc

/-- How many steps are enough for a part of some characters: two for each of them. -/
def Part.steps (cs : List Char) : Part → Nat
  | .value => 2 * cs.length + 1
  | _ => 2 * cs.length + 2

/-- No bracket and no quotation mark is at the front. -/
def Bare (cs : List Char) : Prop :=
  cs.head? ≠ some '"' ∧ cs.head? ≠ some '[' ∧ cs.head? ≠ some '\x7b'

/-- The value is read from the front of the first characters, and the second ones are left. -/
inductive Reads : Part → Nat → List Char → Value → List Char → Prop
  | text {depth : Nat} {body rest : List Char} {s : String}
      (hread : quoted ('"' :: body) = .ok (s, rest)) :
      Reads .value depth ('"' :: body) (.str s) rest
  | word {depth : Nat} {cs rest : List Char} {v : Value}
      (hbare : Bare cs)
      (hword : word? cs = some (v, rest)) :
      Reads .value depth cs v rest
  | number {depth : Nat} {cs rest : List Char} {v : Value}
      (hbare : Bare cs)
      (hword : word? cs = none)
      (hread : number cs = .ok (v, rest)) :
      Reads .value depth cs v rest
  | emptyList {depth : Nat} {body rest : List Char}
      (hclose : skip body = ']' :: rest) :
      Reads .value (depth + 1) ('[' :: body) (.list []) rest
  | list {depth : Nat} {body rest : List Char} {v : Value}
      (hopen : (skip body).head? ≠ some ']')
      (hitems : Reads (.items []) depth (skip body) v rest) :
      Reads .value (depth + 1) ('[' :: body) v rest
  | emptyDict {depth : Nat} {body rest : List Char}
      (hclose : skip body = '\x7d' :: rest) :
      Reads .value (depth + 1) ('\x7b' :: body) (.dict []) rest
  | dict {depth : Nat} {body rest : List Char} {v : Value}
      (hopen : (skip body).head? ≠ some '\x7d')
      (hmembers : Reads (.members []) depth (skip body) v rest) :
      Reads .value (depth + 1) ('\x7b' :: body) v rest
  | lastItem {depth : Nat} {acc : List Value} {cs after rest : List Char} {v : Value}
      (hitem : Reads .value depth cs v after)
      (hclose : skip after = ']' :: rest) :
      Reads (.items acc) depth cs (.list (v :: acc).reverse) rest
  | nextItem {depth : Nat} {acc : List Value} {cs after more rest : List Char} {v u : Value}
      (hitem : Reads .value depth cs v after)
      (hcomma : skip after = ',' :: more)
      (hmore : Reads (.items (v :: acc)) depth (skip more) u rest) :
      Reads (.items acc) depth cs u rest
  | lastMember {depth : Nat} {acc : List (Value × Value)} {key : String}
      {body named given after rest : List Char} {v : Value}
      (hkey : quoted ('"' :: body) = .ok (key, named))
      (hcolon : skip named = ':' :: given)
      (hvalue : Reads .value depth (skip given) v after)
      (hclose : skip after = '\x7d' :: rest) :
      Reads (.members acc) depth ('"' :: body) (.dict (Value.put (.str key) v acc)) rest
  | nextMember {depth : Nat} {acc : List (Value × Value)} {key : String}
      {body named given after more rest : List Char} {v u : Value}
      (hkey : quoted ('"' :: body) = .ok (key, named))
      (hcolon : skip named = ':' :: given)
      (hvalue : Reads .value depth (skip given) v after)
      (hcomma : skip after = ',' :: more)
      (hmore : Reads (.members (Value.put (.str key) v acc)) depth (skip more) u rest) :
      Reads (.members acc) depth ('"' :: body) u rest

/-! ## The characters of a string -/

/-- A character of a string is read from the front of the first characters. -/
inductive TakesChar : List Char → Char → List Char → Prop
  | plain {c : Char} {rest : List Char}
      (hquote : c ≠ '"')
      (hescape : c ≠ '\\')
      (hcontrol : ¬ c.toNat ≤ 0x1F) :
      TakesChar (c :: rest) c rest
  | escape {letter c : Char} {rest : List Char}
      (hletter : simpleEscape? letter = some c) :
      TakesChar ('\\' :: letter :: rest) c rest
  | unicode {body rest : List Char} {c : Char}
      (hdigits : unicodeEscape body = .ok (c, rest)) :
      TakesChar ('\\' :: 'u' :: body) c rest

section Strings

variable {start : Nat} {acc : List Char} {s : String} {c : Char}

theorem string_of_takes (h : TakesChar cs c rest) :
    string start (n + 1) acc cs = string start n (c :: acc) rest := by
  cases h with
  | plain hquote hescape hcontrol =>
      rw [string]
      · rw [if_neg hcontrol]
      · exact hquote
      · rintro rfl
        exact absurd rfl hescape
      · rintro _ rfl
        exact absurd rfl hescape
      · rintro _ _ rfl
        exact absurd rfl hescape
  | @escape letter _ _ hletter =>
      have hu : letter ≠ 'u' := by
        rintro rfl
        cases hletter
      rw [string]
      · simp only [hletter]
      · exact hu
  | unicode hdigits =>
      rw [string]
      simp only [hdigits]

/-- A string that is read ends at once or has a character in front. -/
theorem string_cases (h : string start n acc cs = .ok (s, rest)) :
    ∃ k, n = k + 1 ∧
      ((cs = '"' :: rest ∧ s = String.ofList acc.reverse) ∨
        ∃ c after, TakesChar cs c after ∧ string start k (c :: acc) after = .ok (s, rest)) := by
  cases n with
  | zero => cases h
  | succ k =>
      refine ⟨k, rfl, ?_⟩
      rw [string.eq_def] at h
      simp only at h
      split at h
      · cases h
      · cases h
        exact Or.inl ⟨rfl, rfl⟩
      · cases h
      · split at h
        · unfold withHalf at h
          split at h <;> cases h
        · cases h
        · exact Or.inr ⟨_, _, .unicode ‹_›, h⟩
      · split at h
        · cases h
        · exact Or.inr ⟨_, _, .escape ‹_›, h⟩
      · rename_i body hquote hend _ hletter
        split_ifs at h with hcontrol
        · cases h
        · refine Or.inr ⟨_, _, .plain hquote ?_ hcontrol, h⟩
          rintro rfl
          rcases body with _ | ⟨letter, body⟩
          · exact hend rfl rfl
          · exact hletter _ _ rfl rfl

theorem lowUnit?_length_le {low : Nat} (h : lowUnit? cs = .ok (some (low, rest))) :
    rest.length ≤ cs.length := by
  unfold lowUnit? at h
  split at h
  · split_ifs at h
    · cases h
    · split at h
      · cases h
      · split_ifs at h
        · cases h
          simp
          omega
        · cases h
  · cases h

theorem unicodeEscape_length_le (h : unicodeEscape cs = .ok (c, rest)) :
    rest.length ≤ cs.length := by
  have hdrop : (cs.drop 4).length ≤ cs.length := by simp
  unfold unicodeEscape at h
  split_ifs at h
  split at h
  · cases h
  · simp only at h
    split_ifs at h
    · split at h
      · cases h
      · rename_i hlow
        simp only [Except.ok.injEq, Prod.mk.injEq] at h
        exact h.2 ▸ Nat.le_trans (lowUnit?_length_le hlow) hdrop
      · cases h
    · simp only [Except.ok.injEq, Prod.mk.injEq] at h
      exact h.2 ▸ hdrop

theorem TakesChar.length_lt (h : TakesChar cs c rest) : rest.length < cs.length := by
  cases h with
  | plain => exact Nat.lt_succ_self _
  | escape => exact Nat.lt_add_of_pos_right (Nat.zero_lt_two)
  | unicode hdigits =>
      exact Nat.lt_add_right 1 (Nat.lt_succ_of_le (unicodeEscape_length_le hdigits))

/-- A string takes its closing quotation mark at least. -/
theorem string_length_lt (h : string start n acc cs = .ok (s, rest)) :
    rest.length < cs.length := by
  induction n generalizing acc cs with
  | zero => cases h
  | succ n ih =>
      obtain ⟨k, hk, ⟨rfl, -⟩ | ⟨c, after, htakes, hafter⟩⟩ := string_cases h
      · simp
      · cases hk
        exact Nat.lt_trans (ih hafter) htakes.length_lt

end Strings

theorem quoted_length_lt {body : List Char} {s : String}
    (h : quoted ('"' :: body) = .ok (s, rest)) : rest.length < ('"' :: body).length :=
  Nat.lt_trans (string_length_lt h) (by simp)

/-! ## Numbers by their parts -/

/-- A number at the front of a text in its parts, with the characters after it. -/
structure NumberParts where
  negative : Bool
  whole : List Char
  fraction : List Char
  exponent : List Char
  rest : List Char

/-- Whether there is a minus sign at the front, and the characters after it. -/
def signAt (cs : List Char) : Bool × List Char :=
  match cs with
  | '-' :: rest => (true, rest)
  | _ => (false, cs)

/-- The parts of the number at the front, without integer digits if there is none. -/
def numberParts (cs : List Char) : NumberParts :=
  let signed := signAt cs
  let whole := integerDigits signed.2
  let part := fraction whole.2
  let power := exponent part.2
  ⟨signed.1, whole.1, part.1, power.1, power.2⟩

/-- The value of a number in its parts. -/
def NumberParts.value? (parts : NumberParts) : Option Value :=
  if parts.fraction.isEmpty && parts.exponent.isEmpty then
    (Numeral.ofDecimal parts.whole).toOption.map fun n => .int (Double.signed parts.negative n)
  else
    (Reading.unsigned? parts.negative (parts.whole ++ parts.fraction ++ parts.exponent)).map
      Value.float

theorem number_eq (cs : List Char) : number cs =
    if (numberParts cs).whole.isEmpty then stop .expectingValue cs
    else if (numberParts cs).fraction.isEmpty && (numberParts cs).exponent.isEmpty then
      match Numeral.ofDecimal (numberParts cs).whole with
      | .ok n => .ok (.int (Double.signed (numberParts cs).negative n), (numberParts cs).rest)
      | .error _ => .error .integerTooLong
    else
      match Reading.unsigned? (numberParts cs).negative ((numberParts cs).whole ++
          (numberParts cs).fraction ++ (numberParts cs).exponent) with
      | some d => .ok (.float d, (numberParts cs).rest)
      | none => stop .expectingValue cs :=
  rfl

/-- A number is read by its parts. -/
theorem number_eq_ok_iff : number cs = .ok (v, rest) ↔
    (numberParts cs).whole ≠ [] ∧ (numberParts cs).value? = some v ∧
      (numberParts cs).rest = rest := by
  rw [number_eq, NumberParts.value?]
  cases hwhole : (numberParts cs).whole with
  | nil => simp [stop]
  | cons d ds =>
      simp only [List.isEmpty_cons, Bool.false_eq_true, if_false, ne_eq, reduceCtorEq,
        not_false_eq_true, true_and]
      split_ifs
      · cases Numeral.ofDecimal (d :: ds) <;> simp [Except.toOption]
      · cases Reading.unsigned? _ (d :: ds ++ _ ++ _) <;> simp [stop]

theorem integerDigits_append (cs : List Char) :
    (integerDigits cs).1 ++ (integerDigits cs).2 = cs := by
  unfold integerDigits
  split
  · rfl
  · exact List.takeWhile_append_dropWhile

theorem fraction_append (cs : List Char) : (fraction cs).1 ++ (fraction cs).2 = cs := by
  unfold fraction
  split
  · split_ifs <;> simp [List.takeWhile_append_dropWhile]
  · rfl

theorem exponent_append (cs : List Char) : (exponent cs).1 ++ (exponent cs).2 = cs := by
  unfold exponent
  split
  · rename_i c body
    by_cases hletter : (c == 'e' || c == 'E') = true
    · simp only [if_pos hletter]
      split <;> split_ifs <;> simp [List.takeWhile_append_dropWhile]
    · simp only [if_neg hletter, List.nil_append]
  · rfl

theorem length_signAt_le (cs : List Char) : (signAt cs).2.length ≤ cs.length := by
  unfold signAt
  split
  · exact Nat.le_succ _
  · exact Nat.le_refl _

theorem number_length_lt (h : number cs = .ok (v, rest)) : rest.length < cs.length := by
  obtain ⟨hwhole, -, rfl⟩ := number_eq_ok_iff.mp h
  have hsign := length_signAt_le cs
  simp only [numberParts] at hwhole ⊢
  generalize (signAt cs).2 = body at hsign hwhole ⊢
  have hdigits := congrArg List.length (integerDigits_append body)
  have hpart := congrArg List.length (fraction_append (integerDigits body).2)
  have hpower := congrArg List.length (exponent_append (fraction (integerDigits body).2).2)
  have hpos := List.length_pos_iff.mpr hwhole
  simp only [List.length_append] at hdigits hpart hpower
  omega

theorem word?_length_lt (h : word? cs = some (v, rest)) : rest.length < cs.length := by
  obtain ⟨word, hword, hrest⟩ := Option.map_eq_some_iff.mp h
  have hprefix : word.1 <+: cs := by simpa using List.find?_some hword
  have hpos : ∀ w ∈ words, 0 < w.1.length := by simp [words]
  have hlength := hprefix.length_le
  have := hpos _ (List.mem_of_find?_eq_some hword)
  cases hrest
  simp only [List.length_drop]
  omega

/-! ## Every part takes a character -/

theorem length_lt_of_skip {c : Char} (h : skip cs = c :: rest) : rest.length < cs.length := by
  have hskip := (List.dropWhile_suffix isSpace (l := cs)).length_le
  rw [show cs.dropWhile isSpace = c :: rest from h] at hskip
  exact hskip

theorem length_skip_le (cs : List Char) : (skip cs).length ≤ cs.length :=
  (List.dropWhile_suffix isSpace).length_le

/-- **Every part takes a character** of the text. -/
theorem Reads.length_lt {part : Part} (h : Reads part depth cs v rest) :
    rest.length < cs.length := by
  induction h with
  | text hread => exact quoted_length_lt hread
  | word _ hword => exact word?_length_lt hword
  | number _ _ hread => exact number_length_lt hread
  | emptyList hclose => exact Nat.lt_succ_of_lt (length_lt_of_skip hclose)
  | list _ _ ih => exact Nat.lt_succ_of_lt (Nat.lt_of_lt_of_le ih (length_skip_le _))
  | emptyDict hclose => exact Nat.lt_succ_of_lt (length_lt_of_skip hclose)
  | dict _ _ ih => exact Nat.lt_succ_of_lt (Nat.lt_of_lt_of_le ih (length_skip_le _))
  | lastItem _ hclose ih => exact Nat.lt_trans (length_lt_of_skip hclose) ih
  | @nextItem _ _ _ _ more _ _ _ _ hcomma _ ih ihmore =>
      have hskip := length_skip_le more
      have hafter := length_lt_of_skip hcomma
      omega
  | @lastMember _ _ _ _ _ given _ _ _ hkey hcolon _ hclose ih =>
      have hskip := length_skip_le given
      have hbody := quoted_length_lt hkey
      have hnamed := length_lt_of_skip hcolon
      have hafter := length_lt_of_skip hclose
      omega
  | @nextMember _ _ _ _ _ given _ more _ _ _ hkey hcolon _ hcomma _ ih ihmore =>
      have hskip := length_skip_le given
      have hskip' := length_skip_le more
      have hbody := quoted_length_lt hkey
      have hnamed := length_lt_of_skip hcolon
      have hafter := length_lt_of_skip hcomma
      omega

/-! ## The steps of the reader -/

theorem value_of_bare (h : Bare cs) : value (n + 1) depth cs =
    match word? cs with
    | some r => .ok r
    | none => number cs := by
  rw [value.eq_def]
  simp only
  split
  · exact absurd rfl h.1
  · exact absurd rfl h.2.1
  · exact absurd rfl h.2.2
  · exact rfl

/-- What is read in some steps is read by the rules. -/
theorem reads_of_run (part : Part) (h : part.run n depth cs = .ok (v, rest)) :
    Reads part depth cs v rest := by
  induction n generalizing part depth cs v rest with
  | zero => cases part <;> cases h
  | succ n ih =>
      cases part with
      | value =>
          rw [Part.run, value.eq_def] at h
          simp only at h
          split at h
          · obtain ⟨⟨s, after⟩, hread, hv⟩ := Outcome.map_eq_ok_iff.mp h
            cases hv
            exact .text hread
          · split at h
            · cases h
            · split at h
              · cases h
                exact .emptyList ‹_›
              · rename_i hopen
                refine .list (fun hclose => ?_) (ih (.items []) h)
                obtain ⟨body, hbody⟩ := List.head?_eq_some_iff.mp hclose
                exact hopen _ hbody
          · split at h
            · cases h
            · split at h
              · cases h
                exact .emptyDict ‹_›
              · rename_i hopen
                refine .dict (fun hclose => ?_) (ih (.members []) h)
                obtain ⟨body, hbody⟩ := List.head?_eq_some_iff.mp hclose
                exact hopen _ hbody
          · rename_i hquote hlist hdict
            have hbare : Bare cs := by
              refine ⟨fun hhead => ?_, fun hhead => ?_, fun hhead => ?_⟩
              all_goals obtain ⟨body, rfl⟩ := List.head?_eq_some_iff.mp hhead
              · exact hquote _ rfl
              · exact hlist _ rfl
              · exact hdict _ rfl
            split at h
            · cases h
              exact .word hbare ‹_›
            · exact .number hbare ‹_› h
      | items acc =>
          rw [Part.run, items.eq_def] at h
          simp only at h
          split at h
          · cases h
          · rename_i hitem
            split at h
            · cases h
              exact .lastItem (ih .value hitem) ‹_›
            · exact .nextItem (ih .value hitem) ‹_› (ih (.items (_ :: acc)) h)
            · cases h
      | members acc =>
          rw [Part.run, members.eq_def] at h
          simp only at h
          split at h
          · split at h
            · cases h
            · rename_i hkey
              split at h
              · rename_i hcolon
                split at h
                · cases h
                · rename_i hvalue
                  split at h
                  · cases h
                    exact .lastMember hkey hcolon (ih .value hvalue) ‹_›
                  · exact .nextMember hkey hcolon (ih .value hvalue) ‹_›
                      (ih (.members (Value.put _ _ acc)) h)
                  · cases h
              · cases h
          · cases h

/-- Behind one step there are steps enough for every part of fewer characters. -/
theorem Part.exists_steps {part : Part} (hn : part.steps cs ≤ n) :
    ∃ k, n = k + 1 ∧
      ∀ (other : Part) (cs' : List Char), cs'.length < cs.length → other.steps cs' ≤ k := by
  have hsteps : 2 * cs.length + 1 ≤ part.steps cs := by
    cases part <;> simp only [Part.steps] <;> omega
  refine ⟨n - 1, by omega, fun other cs' hlt => ?_⟩
  have hother : other.steps cs' ≤ 2 * cs'.length + 2 := by
    cases other <;> simp only [Part.steps] <;> omega
  omega

/-- What is read by the rules is read in two steps for each character. -/
theorem Reads.run {part : Part} (h : Reads part depth cs v rest) (hn : part.steps cs ≤ n) :
    part.run n depth cs = .ok (v, rest) := by
  induction h generalizing n with
  | text hread =>
      obtain ⟨k, rfl, -⟩ := Part.exists_steps hn
      simp only [Part.run, value, hread, Except.map]
  | word hbare hword =>
      obtain ⟨k, rfl, -⟩ := Part.exists_steps hn
      rw [Part.run, value_of_bare hbare]
      simp only [hword]
  | number hbare hword hread =>
      obtain ⟨k, rfl, -⟩ := Part.exists_steps hn
      rw [Part.run, value_of_bare hbare]
      simp only [hword, hread]
  | emptyList hclose =>
      obtain ⟨k, rfl, -⟩ := Part.exists_steps hn
      rw [Part.run, value]
      simp only [hclose]
  | @list _ body _ _ hopen _ ih =>
      obtain ⟨k, rfl, hfewer⟩ := Part.exists_steps hn
      have hitems := ih (hfewer _ _ (Nat.lt_succ_of_le (length_skip_le body)))
      rw [Part.run, value]
      split
      · rename_i hclose
        simp [hclose] at hopen
      · exact hitems
  | emptyDict hclose =>
      obtain ⟨k, rfl, -⟩ := Part.exists_steps hn
      rw [Part.run, value]
      simp only [hclose]
  | @dict _ body _ _ hopen _ ih =>
      obtain ⟨k, rfl, hfewer⟩ := Part.exists_steps hn
      have hmembers := ih (hfewer _ _ (Nat.lt_succ_of_le (length_skip_le body)))
      rw [Part.run, value]
      split
      · rename_i hclose
        simp [hclose] at hopen
      · exact hmembers
  | lastItem _ hclose ih =>
      obtain ⟨k, rfl, -⟩ := Part.exists_steps hn
      have hv := ih (n := k) (by simp only [Part.steps] at hn ⊢; omega)
      simp only [Part.run] at hv ⊢
      rw [items.eq_def]
      simp only [hv, hclose]
  | @nextItem _ _ _ _ more _ _ _ hitem hcomma _ ih ihmore =>
      obtain ⟨k, rfl, hfewer⟩ := Part.exists_steps hn
      have hlength : (skip more).length < _ := Nat.lt_of_le_of_lt (length_skip_le more)
        (Nat.lt_trans (length_lt_of_skip hcomma) hitem.length_lt)
      have hv := ih (n := k) (by simp only [Part.steps] at hn ⊢; omega)
      have hu := ihmore (hfewer _ _ hlength)
      simp only [Part.run] at hv hu ⊢
      rw [items.eq_def]
      simp only [hv, hcomma, hu]
  | @lastMember _ _ _ _ _ given _ _ _ hkey hcolon _ hclose ih =>
      obtain ⟨k, rfl, hfewer⟩ := Part.exists_steps hn
      have hgiven : (skip given).length < _ := Nat.lt_of_le_of_lt (length_skip_le given)
        (Nat.lt_trans (length_lt_of_skip hcolon) (quoted_length_lt hkey))
      have hv := ih (hfewer _ _ hgiven)
      simp only [Part.run] at hv ⊢
      rw [members.eq_def]
      simp only [hkey, hcolon, hv, hclose]
  | @nextMember _ _ _ _ _ given _ more _ _ _ hkey hcolon hvalue hcomma _ ih ihmore =>
      obtain ⟨k, rfl, hfewer⟩ := Part.exists_steps hn
      have hgiven : (skip given).length < _ := Nat.lt_of_le_of_lt (length_skip_le given)
        (Nat.lt_trans (length_lt_of_skip hcolon) (quoted_length_lt hkey))
      have hmore : (skip more).length < _ := Nat.lt_of_le_of_lt (length_skip_le more)
        (Nat.lt_trans (length_lt_of_skip hcomma) (Nat.lt_trans hvalue.length_lt hgiven))
      have hv := ih (hfewer _ _ hgiven)
      have hu := ihmore (hfewer _ _ hmore)
      simp only [Part.run] at hv hu ⊢
      rw [members.eq_def]
      simp only [hkey, hcolon, hv, hcomma, hu]

/-- **With enough steps the reader reads by the rules**, and nothing else. -/
theorem run_eq_ok_iff {part : Part} (hn : part.steps cs ≤ n) :
    part.run n depth cs = .ok (v, rest) ↔ Reads part depth cs v rest :=
  ⟨reads_of_run part, fun h => h.run hn⟩

/-- A text has a value iff its characters are those of the value and white space. -/
theorem readChars_eq_ok_iff : readChars depth cs = .ok v ↔
    ∃ rest, Reads .value depth (skip cs) v rest ∧ skip rest = [] := by
  have hsteps : Part.value.steps (skip cs) ≤ 2 * cs.length + 2 := by
    have := length_skip_le cs
    simp only [Part.steps]
    omega
  have hreads (rest : List Char) :
      value (2 * cs.length + 2) depth (skip cs) = .ok (v, rest) ↔
        Reads .value depth (skip cs) v rest := by
    rw [← run_eq_ok_iff hsteps, Part.run]
  simp only [← hreads]
  unfold readChars
  cases value (2 * cs.length + 2) depth (skip cs) with
  | error e => simp
  | ok result =>
      obtain ⟨u, rest⟩ := result
      cases hskip : skip rest with
      | nil => simp [hskip]
      | cons c rest' => simp [hskip, stop]

end Json
end BuildTransform
