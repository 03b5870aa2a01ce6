import BuildTransform.Proofs.Script.Agreement
import BuildTransform.Proofs.Script.Scanning

/-!
# Steps in other texts

What a step of scanning looks at, and how the same step is made in another text.

* `openBehind?_append` says that balanced lexemes do not see the brackets that are open
  around them.
* `step_cases` says what a step can do; `step_of_gap` and `step_of_lexeme?` make steps.
* `Steps.elsewhere` reads what separates tokens in front of another text.
-/

namespace BuildTransform
namespace Script
namespace Lexer

/-! ## Lexemes -/

/-- The characters that separate tokens, or that start what does. -/
def gaps : List Char :=
  [' ', '\t', '\x0c', '\n', '#', '\\']

theorem quotationStart?_of_plain {c : Char} {cs : List Char} (hletter : c.isAlpha = false)
    (hquote : isQuote c = false) : quotationStart? (c :: cs) = none := by
  simp [quotationStart?, hletter, hquote]

theorem lexeme?_head {c : Char} {cs rest : List Char} {l : Lexeme}
    (h : lexeme? (c :: cs) = some (l, rest)) : c ∉ gaps := by
  intro hc
  have hplain : ∀ c, c ∈ gaps → c.isAlpha = false ∧ isQuote c = false ∧
      Numeral.isDigit c = false ∧ (c == '.') = false ∧ Literal.isWordPart c = false ∧
      ∀ sym, sym ∈ symbols → sym.toList.head? ≠ some c :=
    forall_mem_of_all (by decide)
  obtain ⟨hletter, hquote, hdigit, hpoint, hword, hsymbols⟩ := hplain c hc
  have hnone : symbol? (c :: cs) = none := by
    refine List.find?_eq_none.mpr fun sym hsym hprefix => ?_
    have hne : ∀ sym, sym ∈ symbols → sym.toList ≠ [] := by decide
    obtain ⟨x, xs, hchars⟩ := List.exists_cons_of_ne_nil (hne sym hsym)
    rw [hchars, List.isPrefixOf_cons_cons, Bool.and_eq_true, beq_iff_eq] at hprefix
    exact hsymbols sym hsym (by rw [hchars, hprefix.1]; rfl)
  simp [lexeme?, quotationStart?_of_plain hletter hquote, hdigit, hpoint, hword, hnone] at h

/-- A symbol stands in front of what is left. -/
theorem lexeme?_symbol {cs rest : List Char} {s : String}
    (h : lexeme? cs = some (.symbol s, rest)) : cs = s.toList ++ rest := by
  unfold lexeme? at h
  split at h
  · obtain ⟨⟨q, after⟩, -, hpair⟩ := Option.map_eq_some_iff.mp h
    cases hpair
  · split at h
    · cases h
    · dsimp only at h
      split_ifs at h
      · obtain ⟨⟨v, after⟩, -, hpair⟩ := Option.map_eq_some_iff.mp h
        cases hpair
      · cases h
      · obtain ⟨sym, hsym, hpair⟩ := Option.map_eq_some_iff.mp h
        cases hpair
        exact (List.prefix_iff_eq_append.mp (symbol?_eq_some hsym).2).symm

theorem lexeme?_opening (rest : List Char) :
    lexeme? ('(' :: rest) = some (.symbol "(", rest) := by
  have hsymbol : symbol? ('(' :: rest) = some "(" := by
    simp [symbol?, symbols, List.find?, List.isPrefixOf]
  simp [lexeme?, quotationStart?_of_plain, isQuote, Numeral.isDigit, Literal.isWordPart, hsymbol]

theorem lexeme?_closing (rest : List Char) :
    lexeme? (')' :: rest) = some (.symbol ")", rest) := by
  have hsymbol : symbol? (')' :: rest) = some ")" := by
    simp [symbol?, symbols, List.find?, List.isPrefixOf]
  simp [lexeme?, quotationStart?_of_plain, isQuote, Numeral.isDigit, Literal.isWordPart, hsymbol]

/-! ## Brackets -/

open Grammar (brackets IsPlain Closes)

/-- The symbol that closes an opening bracket. -/
def closerOf (c : Char) : String :=
  if c = '(' then ")" else if c = '[' then "]" else "\x7d"

/-- Other symbols leave the open brackets as they are. -/
theorem openBehind?_of_isPlain {open_ : List Char} {l : Lexeme} (hl : IsPlain l) :
    openBehind? open_ l = some open_ := by
  cases l with
  | symbol s =>
      have hnot (c : Char) (hc : c ∈ ['(', '[', '\x7b', ')', ']', '\x7d']) :
          s.toList ≠ [c] := by
        intro hs
        have hsingle : s = String.ofList [c] := by rw [← hs, String.ofList_toList]
        have hbracket : ∀ c, c ∈ ['(', '[', '\x7b', ')', ']', '\x7d'] →
            ¬ IsPlain (.symbol (String.ofList [c])) :=
          forall_mem_of_all (by decide)
        exact hbracket c hc (hsingle ▸ hl)
      simp only [openBehind?, bracketed?]
      split
      · rename_i c hchars
        have hc : c ∉ ['(', '[', '\x7b', ')', ']', '\x7d'] := fun h => hnot c h hchars
        simp_all
      · rfl
  | _ => rfl

/-- Brackets that were opened in front of some others do not matter to them. -/
theorem openBehind?_append {x base open_ : List Char} {l : Lexeme} {y : List Lexeme}
    (hclosed : Closes (x.map closerOf) (l :: y)) (h : openBehind? (x ++ base) l = some open_) :
    ∃ x', open_ = x' ++ base ∧ Closes (x'.map closerOf) y ∧
      ∀ base', x'.length + base'.length ≤ bracketLimit →
        openBehind? (x ++ base') l = some (x' ++ base') := by
  generalize hs : x.map closerOf = s at hclosed
  cases hclosed with
  | plain hl hy =>
      rw [openBehind?_of_isPlain hl] at h
      cases h
      exact ⟨x, rfl, hs ▸ hy, fun _ _ => openBehind?_of_isPlain hl⟩
  | @opening _ o c _ hpair hy =>
      have hopening : ∃ q, closerOf q = c ∧ ∀ open_, openBehind? open_ (.symbol o) =
          if open_.length < bracketLimit then some (q :: open_) else none := by
        simp only [brackets, List.mem_cons, Prod.mk.injEq, List.not_mem_nil, or_false] at hpair
        rcases hpair with ⟨rfl, rfl⟩ | ⟨rfl, rfl⟩ | ⟨rfl, rfl⟩
        · exact ⟨'(', rfl, fun _ => rfl⟩
        · exact ⟨'[', rfl, fun _ => rfl⟩
        · exact ⟨'\x7b', rfl, fun _ => rfl⟩
      obtain ⟨q, rfl, hq⟩ := hopening
      rw [hq] at h
      split_ifs at h
      cases h
      refine ⟨q :: x, rfl, ?_, fun base' hroom => ?_⟩
      · rw [List.map_cons, hs]
        exact hy
      · rw [List.length_cons] at hroom
        rw [hq, if_pos (by rw [List.length_append]; omega)]
        rfl
  | @closing s c _ hc hy =>
      cases x with
      | nil => cases hs
      | cons q x =>
          have hclosing : ∀ open_ open_', openBehind? (q :: open_) (.symbol c) = some open_' →
              open_' = open_ ∧ ∀ open_, openBehind? (q :: open_) (.symbol c) = some open_ := by
            have hif : ∃ P : Bool, ∀ open_, openBehind? (q :: open_) (.symbol c) =
                if P = true then some open_ else none := by
              simp only [brackets, List.map_cons, List.map_nil, List.mem_cons,
                List.not_mem_nil, or_false] at hc
              rcases hc with rfl | rfl | rfl <;> exact ⟨_, fun _ => rfl⟩
            obtain ⟨P, hP⟩ := hif
            intro open_ open_' h
            rw [hP] at h
            split_ifs at h with htrue
            cases h
            exact ⟨rfl, fun open_ => by rw [hP, if_pos htrue]⟩
          obtain ⟨rfl, hsame⟩ := hclosing _ _ h
          obtain ⟨-, rfl⟩ := List.cons.inj hs
          exact ⟨x, rfl, hy, fun _ _ => hsame _⟩

theorem openBehind?_opening {open_ open_' : List Char}
    (h : openBehind? open_ (.symbol "(") = some open_') : open_' = '(' :: open_ := by
  have hpush : openBehind? open_ (.symbol "(") =
      if open_.length < bracketLimit then some ('(' :: open_) else none := rfl
  rw [hpush] at h
  split_ifs at h
  exact (Option.some.inj h).symm

/-! ## Steps between tokens -/

section Gaps

variable {s s' next mid : State} {m : Mark} {o blanks rest after X Y : List Char} {t : Token}
variable {ts : List Token} {l : Lexeme}

theorem State.isIndented_of_not_lineStart (h : s.lineStart = false) : s.isIndented = false := by
  simp [State.isIndented, h]

theorem State.isIndented_of_not_blank {c : Char} (h : s.rest = c :: rest)
    (hc : isBlank c = false) : s.isIndented = false := by
  simp [State.isIndented, h, hc, indents]

/-- What separates tokens, and what is behind it. -/
inductive Gap : List Char → List Char → Prop
  | feed (rest : List Char) : Gap ('\n' :: rest) rest
  | comment (rest : List Char) : Gap ('#' :: rest) (afterComment rest)
  | joined (c : Char) (rest : List Char) : Gap ('\\' :: '\n' :: c :: rest) (c :: rest)

/-- **What a step can do**: read what separates tokens, end a line, or read a lexeme. -/
theorem step_cases {t : Option Token} (h : step s = some (t, next)) :
    (t = none ∧ next.open_ = s.open_ ∧ next.lineStart = s.lineStart ∧
      Gap (s.rest.dropWhile isBlank) next.rest) ∨
    (s.open_ = [] ∧ next.open_ = [] ∧ ∃ k, t = some k ∧ k.lexeme = .newline) ∨
    ∃ k, t = some k ∧ next.lineStart = false ∧
      k.start = (s.upTo (s.rest.dropWhile isBlank)).mark ∧
      lexeme? (s.rest.dropWhile isBlank) = some (k.lexeme, next.rest) ∧
      openBehind? s.open_ k.lexeme = some next.open_ := by
  unfold step at h
  dsimp only at h
  generalize hstart : s.upTo (s.rest.dropWhile isBlank) = start at h
  have hrest : s.rest.dropWhile isBlank = start.rest := by rw [← hstart]; rfl
  have hopen : start.open_ = s.open_ := by rw [← hstart]; rfl
  have hline : start.lineStart = s.lineStart := by rw [← hstart]; rfl
  rw [hrest] at hstart ⊢
  split at h
  · rename_i rest hfeed
    rw [hfeed]
    split_ifs at h with hjoin
    · cases h
      exact Or.inl ⟨rfl, hopen, hline, .feed _⟩
    · cases h
      simp only [Bool.or_eq_true, not_or, Bool.not_eq_true', Bool.not_eq_false,
        List.isEmpty_iff] at hjoin
      exact Or.inr (Or.inl ⟨hjoin.2, hopen.trans hjoin.2, _, rfl, rfl⟩)
  · rename_i rest hcomment
    rw [hcomment]
    cases h
    exact Or.inl ⟨rfl, hopen, hline, .comment _⟩
  · rename_i c rest hslash
    rw [hslash]
    split_ifs at h
    cases h
    exact Or.inl ⟨rfl, hopen, hline, .joined _ _⟩
  · split_ifs at h
    split at h
    · cases h
    · rename_i l after hlexeme
      obtain ⟨open_, hopen, hpair⟩ := Option.map_eq_some_iff.mp h
      cases hpair
      exact Or.inr (Or.inr ⟨_, rfl, rfl, rfl, hlexeme, hopen⟩)

theorem step_of_gap (hline : s.lineStart = false) (hopen : s.open_ ≠ [])
    (h : Gap (s.rest.dropWhile isBlank) rest) :
    ∃ m, step s = some (none, ⟨m, s.open_, false, rest⟩) := by
  have hindent := State.isIndented_of_not_lineStart hline
  generalize hdrop : s.rest.dropWhile isBlank = cs at h
  cases h with
  | feed rest => exact ⟨_, by simp [step, State.upTo, hdrop, hline, hopen]; rfl⟩
  | comment rest => exact ⟨_, by simp [step, State.upTo, hdrop, hline]; rfl⟩
  | joined c rest => exact ⟨_, by simp [step, State.upTo, hdrop, hline, hindent]; rfl⟩

theorem step_of_lexeme? (hindent : s.isIndented = false)
    (hl : lexeme? (s.rest.dropWhile isBlank) = some (l, after))
    (ho : openBehind? s.open_ l = some o) :
    ∃ k m, step s = some (some k, ⟨m, o, false, after⟩) ∧ k.lexeme = l := by
  generalize hdrop : s.rest.dropWhile isBlank = cs at hl
  obtain ⟨c, cs, rfl⟩ : ∃ c rest, cs = c :: rest := by
    cases cs with
    | nil => cases hl
    | cons c rest => exact ⟨c, rest, rfl⟩
  have hc := lexeme?_head hl
  refine ⟨⟨l, (s.upTo (c :: cs)).mark, ((s.upTo (c :: cs)).upTo after).mark⟩,
    ((s.upTo (c :: cs)).upTo after).mark, ?_, rfl⟩
  unfold step
  rw [hdrop]
  dsimp only
  split
  · rename_i hfeed
    cases hfeed
    exact absurd (by decide) hc
  · rename_i hcomment
    cases hcomment
    exact absurd (by decide) hc
  · rename_i hslash
    cases hslash
    exact absurd (by decide) hc
  · rw [if_neg (by simp [hindent])]
    have hread : lexeme? (s.upTo (c :: cs)).rest = some (l, after) := hl
    simp only [hread, ho]
    rfl

theorem exists_blanks (cs : List Char) :
    ∃ blanks, (∀ c, c ∈ blanks → isBlank c = true) ∧ cs = blanks ++ cs.dropWhile isBlank :=
  ⟨cs.takeWhile isBlank, List.all_eq_true.mp List.all_takeWhile,
    List.takeWhile_append_dropWhile.symm⟩

/-- What separates tokens depends on no more than the character behind it. -/
theorem Gap.exists_append {cs : List Char} (h : Gap cs X) (hne : X ≠ [])
    (hhead : X.head? = Y.head?) :
    ∃ c g, isBlank c = false ∧ cs = c :: g ++ X ∧ Gap (c :: g ++ Y) Y := by
  cases h with
  | feed rest => exact ⟨'\n', [], rfl, rfl, .feed Y⟩
  | comment rest =>
      obtain ⟨y, ys, rfl⟩ : ∃ y ys, Y = y :: ys := by
        cases Y with
        | nil => exact absurd (List.head?_eq_none_iff.mp hhead) hne
        | cons y ys => exact ⟨y, ys, rfl⟩
      obtain rfl : y = '\n' := by
        obtain ⟨x, xs, hx⟩ := List.exists_cons_of_ne_nil hne
        have hfirst : x = '\n' := by
          have hnot := List.head?_dropWhile_not (fun c => decide (c ≠ '\n')) rest
          rw [afterComment] at hx
          rw [hx] at hnot
          simpa using hnot
        rw [hx] at hhead
        rw [← hfirst]
        exact (Option.some.inj hhead).symm
      refine ⟨'#', rest.takeWhile (· ≠ '\n'), rfl, ?_, ?_⟩
      · rw [List.cons_append, afterComment, List.takeWhile_append_dropWhile]
      · have hafter : afterComment (rest.takeWhile (· ≠ '\n') ++ '\n' :: ys) = '\n' :: ys := by
          rw [afterComment, List.dropWhile_append_of_pos (List.all_eq_true.mp List.all_takeWhile),
            List.dropWhile_cons_of_neg (by simp)]
        have h := Gap.comment (rest.takeWhile (· ≠ '\n') ++ '\n' :: ys)
        rwa [hafter] at h
  | joined c rest =>
      obtain ⟨ys, rfl⟩ := List.head?_eq_some_iff.mp hhead.symm
      exact ⟨'\\', ['\n'], rfl, rfl, .joined c ys⟩

/-- A step between tokens looks at no more than one character behind it. -/
theorem step_none_elsewhere (hstep : step s = some (none, next)) (hline : s.lineStart = false)
    (hne : next.rest ≠ []) (hhead : next.rest.head? = Y.head?) :
    next.open_ = s.open_ ∧ next.lineStart = false ∧ ∃ g, s.rest = g ++ next.rest ∧
      ∀ m o, o ≠ [] → ∃ m', step ⟨m, o, false, g ++ Y⟩ = some (none, ⟨m', o, false, Y⟩) := by
  rcases step_cases hstep with ⟨-, hopen, hnext, hgap⟩ | ⟨-, -, k, hk, -⟩ | ⟨k, hk, -⟩
  · obtain ⟨blanks, hblank, hblanks⟩ := exists_blanks s.rest
    obtain ⟨c, g, hc, hrest, hgap'⟩ := hgap.exists_append hne hhead
    refine ⟨hopen, hnext.trans hline, blanks ++ c :: g, ?_, fun m o ho => ?_⟩
    · rw [hblanks, hrest, List.append_assoc]
    · refine step_of_gap rfl ho ?_
      rw [List.append_assoc, List.dropWhile_append_of_pos hblank, List.cons_append,
        List.dropWhile_cons_of_neg (by simp [hc]), ← List.cons_append]
      exact hgap'
  · cases hk
  · cases hk

/-- Steps between tokens look at no more than one character behind them. -/
theorem Steps.elsewhere (h : Steps s ts mid) (hts : ts = []) (hline : s.lineStart = false)
    (hhead : mid.rest.head? = Y.head?) (hY : Y.all isBlank = false) :
    mid.open_ = s.open_ ∧ mid.lineStart = false ∧ ∃ g, s.rest = g ++ mid.rest ∧
      ∀ m o, o ≠ [] → ∃ m', Steps ⟨m, o, false, g ++ Y⟩ [] ⟨m', o, false, Y⟩ := by
  induction h with
  | refl s => exact ⟨rfl, hline, [], rfl, fun m o _ => ⟨m, .refl _⟩⟩
  | @head s next mid t ts hmore hstep hrest ih =>
      cases t with
      | some k => cases hts
      | none =>
          obtain ⟨v, hv, -, -⟩ := hrest.rest_append
          have hmid : mid.rest ≠ [] := by
            intro hnil
            rw [hnil, eq_comm, List.head?_nil, List.head?_eq_none_iff] at hhead
            rw [hhead] at hY
            cases hY
          have hnext : next.rest ≠ [] := by
            rw [hv]
            exact List.append_ne_nil_of_right_ne_nil _ hmid
          have hlineNext := (step_none_elsewhere hstep hline hnext rfl).2.1
          obtain ⟨hopenMid, hlineMid, g, hg, hrun⟩ :=
            ih (List.append_eq_nil_iff.mp hts).2 hlineNext hhead
          have hheads : next.rest.head? = (g ++ Y).head? := by
            rw [hg, List.head?_append, List.head?_append, hhead]
          obtain ⟨hopenNext, -, g', hg', hstep'⟩ := step_none_elsewhere hstep hline hnext hheads
          refine ⟨hopenMid.trans hopenNext, hlineMid, g' ++ g, ?_, fun m o ho => ?_⟩
          · rw [hg', hg, List.append_assoc]
          · obtain ⟨m₁, hfirst⟩ := hstep' m o ho
            obtain ⟨m₂, hsteps⟩ := hrun m₁ o ho
            rw [← List.append_assoc] at hfirst
            exact ⟨m₂, .head (by simp [hY]) hfirst hsteps⟩

end Gaps

end Lexer
end Script
end BuildTransform
