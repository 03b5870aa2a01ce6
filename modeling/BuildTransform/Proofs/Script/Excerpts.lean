import BuildTransform.Proofs.Script.Marks
import BuildTransform.Proofs.Script.Splicing

/-!
# Excerpts of a source

Parts of a source that are put between other parentheses.

* `Lines.exists_cut` finds a part of a source from the part that is read.
* `tokens_of_call` says what the tokens of a name with something in parentheses are.
* `exists_excerpt` and `exists_excerpt_of_parentheses` are the results: the tokens of the
  excerpt of a source are those that stand there in the source.
-/

namespace BuildTransform

namespace Lines

/-! ## Places in a source -/

theorem not_insideBreak_zero (cs : List Char) : ¬ InsideBreak cs 0 := by
  rintro ⟨j, hj, -⟩
  cases hj

/-- Behind a first character only a line feed can be inside a line break. -/
theorem InsideBreak.tail {c : Char} {rest : List Char} {i : Nat}
    (h : InsideBreak (c :: rest) (i + 1)) :
    (i = 0 ∧ c = '\r' ∧ rest.head? = some '\n') ∨ InsideBreak rest i := by
  obtain ⟨j, hj, hreturn, hfeed⟩ := h
  obtain rfl : j = i := by omega
  cases j with
  | zero =>
      exact Or.inl ⟨rfl, by simpa using hreturn, by simpa [List.head?_eq_getElem?] using hfeed⟩
  | succ j => exact Or.inr ⟨j, rfl, by simpa using hreturn, by simpa using hfeed⟩

/-- Where the text that is read can be cut, the source can be. -/
theorem exists_cut {cs p r : List Char} (h : normalized cs = p ++ r) :
    ∃ i, i ≤ cs.length ∧ ¬ InsideBreak cs i ∧ normalized (cs.take i) = p ∧
      normalized (cs.drop i) = r := by
  induction cs generalizing p with
  | nil =>
      obtain ⟨rfl, rfl⟩ := List.append_eq_nil_iff.mp h.symm
      exact ⟨0, Nat.le_refl _, not_insideBreak_zero _, rfl, rfl⟩
  | cons c rest ih =>
      cases p with
      | nil => exact ⟨0, Nat.zero_le _, not_insideBreak_zero _, rfl, h⟩
      | cons x p =>
          rw [normalized_cons] at h
          by_cases hfirst : c = '\r' ∧ rest.head? = some '\n'
          · -- The carriage return is read with the line feed behind it.
            have hend : ¬ endsLine isEnding c rest = true := by
              simp [endsLine, hfirst.1, hfirst.2]
            rw [if_neg hend, if_pos hfirst.1] at h
            obtain ⟨i, hi, hbreak, hp, hr⟩ := ih h
            have hinside : ¬ InsideBreak (c :: rest) (i + 1) := by
              intro hin
              rcases hin.tail with ⟨rfl, -⟩ | hin
              · cases hp
              · exact hbreak hin
            refine ⟨i + 1, Nat.succ_le_succ hi, hinside, ?_, hr⟩
            rw [List.take_succ_cons, normalized_cons, endsLine_take hinside, if_neg hend,
              if_pos hfirst.1, hp]
          · have hstep : ∃ y, normalized (c :: rest) = y :: normalized rest ∧
                ∀ i, ¬ InsideBreak (c :: rest) (i + 1) →
                  normalized (c :: rest.take i) = y :: normalized (rest.take i) := by
              by_cases hend : endsLine isEnding c rest = true
              · refine ⟨'\n', by rw [normalized_cons, if_pos hend], fun i hi => ?_⟩
                rw [normalized_cons, endsLine_take hi, if_pos hend]
              · have hreturn : c ≠ '\r' := by
                  rintro rfl
                  simp [endsLine, isEnding] at hend
                  exact hfirst ⟨rfl, hend⟩
                refine ⟨c, by rw [normalized_cons, if_neg hend, if_neg hreturn], fun i hi => ?_⟩
                rw [normalized_cons, endsLine_take hi, if_neg hend, if_neg hreturn]
            obtain ⟨y, hall, htake⟩ := hstep
            rw [← normalized_cons, hall] at h
            obtain ⟨rfl, hrest⟩ := List.cons.inj h
            obtain ⟨i, hi, hbreak, hp, hr⟩ := ih hrest
            have hinside : ¬ InsideBreak (c :: rest) (i + 1) := by
              intro hin
              rcases hin.tail with ⟨-, hin⟩ | hin
              · exact hfirst hin
              · exact hbreak hin
            refine ⟨i + 1, Nat.succ_le_succ hi, hinside, ?_, hr⟩
            rw [List.take_succ_cons, htake i hinside, hp]

/-- A part of the text that is read comes from a part of the source. -/
theorem exists_part {cs p w q : List Char} (h : normalized cs = p ++ (w ++ q)) :
    ∃ i j, i ≤ j ∧ j ≤ cs.length ∧ ¬ InsideBreak cs i ∧ ¬ InsideBreak cs j ∧
      normalized (cs.take i) = p ∧ normalized (cs.take j) = p ++ w ∧
      normalized ((cs.take j).drop i) = w := by
  rw [← List.append_assoc] at h
  obtain ⟨j, hj, hbreak, htake, -⟩ := exists_cut h
  obtain ⟨i, hi, hbreak', hp, hw⟩ := exists_cut htake
  have hij : i ≤ j := hi.trans (List.length_take_le _ _)
  rw [List.take_take, Nat.min_eq_left hij] at hp
  refine ⟨i, j, hij, hj, ?_, hbreak, hp, htake, hw⟩
  rintro ⟨k, rfl, hreturn, hfeed⟩
  rcases Nat.eq_or_lt_of_le hij with rfl | hlt
  · exact hbreak ⟨k, rfl, hreturn, hfeed⟩
  · refine hbreak' ⟨k, rfl, ?_, ?_⟩
    · rw [List.getElem?_take_of_lt (by omega), hreturn]
    · rw [List.getElem?_take_of_lt hlt, hfeed]

theorem normalized_concat {cs : List Char} {c : Char} (hfeed : c ≠ '\n') (hreturn : c ≠ '\r') :
    normalized (cs ++ [c]) = normalized cs ++ [c] := by
  have hend (rest : List Char) : ¬ endsLine isEnding c rest = true := by
    simp [endsLine, isEnding, hfeed, hreturn]
  induction cs with
  | nil =>
      rw [List.nil_append, normalized_cons, if_neg (hend []), if_neg hreturn]
      rfl
  | cons x rest ih =>
      have hsame : endsLine isEnding x (rest ++ [c]) = endsLine isEnding x rest := by
        cases rest <;> simp [endsLine, hfeed]
      rw [List.cons_append, normalized_cons, normalized_cons, hsame, ih]
      split_ifs <;> rfl

end Lines

namespace Script
namespace Lexer

/-! ## Open brackets -/

section Open

variable {s final : State} {o o' : List Char} {l : Lexeme} {ts : List Token}

theorem openBehind?_length (h : openBehind? o l = some o') (ho : o.length ≤ bracketLimit) :
    o'.length ≤ bracketLimit := by
  cases l with
  | symbol sym =>
      simp only [openBehind?, bracketed?] at h
      split at h
      · split_ifs at h
        · cases h
          simpa using ‹o.length < bracketLimit›
        · split at h
          · split_ifs at h
            cases h
            rw [List.length_cons] at ho
            omega
          · cases h
        · cases h
          exact ho
      · cases h
        exact ho
  | _ =>
      cases h
      exact ho

/-- No more brackets than the limit are ever open. -/
theorem Steps.open_le (h : Steps s ts final) (hs : s.open_.length ≤ bracketLimit) :
    final.open_.length ≤ bracketLimit := by
  induction h with
  | refl => exact hs
  | @head s next final t ts _ hstep _ ih =>
      rcases step_cases hstep with ⟨-, hopen, -⟩ | ⟨-, hopen, -⟩ | ⟨k, -, -, -, -, hopen⟩
      · exact ih (hopen ▸ hs)
      · exact ih (by rw [hopen]; exact Nat.zero_le _)
      · exact ih (openBehind?_length hopen hs)

end Open

/-! ## Texts of calls -/

theorem lexeme?_name (rest : List Char) :
    lexeme? ('g' :: '(' :: rest) = some (.word "g", '(' :: rest) := by
  have hquotation : quotationStart? ('g' :: '(' :: rest) = none := rfl
  have hname : isName ['g'] = true := by decide
  have htake : ('g' :: '(' :: rest).takeWhile Literal.isWordPart = ['g'] := rfl
  have hdrop : ('g' :: '(' :: rest).dropWhile Literal.isWordPart = '(' :: rest := rfl
  unfold lexeme?
  rw [hquotation]
  dsimp only
  rw [htake, hdrop, if_pos hname]
  rfl

/-- **The tokens of a call** are those between its parentheses, if these are cut there by
themselves. -/
theorem tokens_of_call {text : String} {w : List Char} {u : List Lexeme}
    (htext : Lines.normalized text.toList = 'g' :: '(' :: (w ++ [')'])) (hnul : '\x00' ∉ w)
    (hcuts : ∀ m, ∃ ts m', Cuts ⟨m, ['('], false, w ++ [')']⟩ ts ⟨m', ['('], false, [')']⟩ ∧
      ts.map Token.lexeme = u) :
    ∃ g o rest, tokens text = .ok (g :: o :: rest) ∧ g.lexeme = .word "g" ∧
      o.lexeme = .symbol "(" ∧
      rest.map Token.lexeme = u ++ [.symbol ")", .newline, .finish] := by
  obtain ⟨g, m₁, hname, hg⟩ := step_of_lexeme? (s := .start ('g' :: '(' :: (w ++ [')'])))
    (State.isIndented_of_not_blank rfl rfl) (lexeme?_name _) rfl
  obtain ⟨o, m₂, hopen, ho⟩ := step_of_lexeme? (s := ⟨m₁, [], false, '(' :: (w ++ [')'])⟩)
    (State.isIndented_of_not_lineStart rfl) (lexeme?_opening _) rfl
  obtain ⟨ts, m₃, hinner, hts⟩ := hcuts m₂
  obtain ⟨k, m₄, hclose, hk⟩ := step_of_lexeme? (s := ⟨m₃, ['('], false, [')']⟩)
    (State.isIndented_of_not_lineStart rfl) (lexeme?_closing []) rfl
  refine ⟨g, o, ts ++ [k] ++ ending ⟨m₄, [], false, []⟩, ?_, hg, ho, ?_⟩
  · rw [tokens_eq_ok_iff, htext]
    refine ⟨by simpa using hnul, ⟨m₄, [], false, []⟩, g :: o :: (ts ++ [k]), ?_, ⟨rfl, rfl⟩, rfl⟩
    have hall : Cuts (.start ('g' :: '(' :: (w ++ [')']))) (g :: o :: (ts ++ [k]))
        ⟨m₄, [], false, []⟩ :=
      .cons (.refl _) rfl hname (.cons (.refl _) rfl hopen
        (hinner.append (.cons (.refl _) rfl hclose (.nil _))))
    exact hall.steps
  · simp [hts, hk, ending]

end Lexer

/-! ## Excerpts -/

open Lexer
open Grammar (Closes endOf)

/-- The text from one position of a source to another. -/
def between (source : String) (i j : Nat) : String :=
  String.ofList ((source.toList.take j).drop i)

/-- The text between two positions, put between the parentheses of a call, has the
lexemes. -/
def Excerpt (source : String) (i j : Nat) (u : List Lexeme) : Prop :=
  ∃ g o rest, tokens ("g(" ++ between source i j ++ ")") = .ok (g :: o :: rest) ∧
    g.lexeme = .word "g" ∧ o.lexeme = .symbol "(" ∧
    rest.map Token.lexeme = u ++ [.symbol ")", .newline, .finish]

section Excerpts

variable {source : String} {pre post ts : List Token} {o t k : Token}

/-- A part of the text that is read is an excerpt of the source. -/
theorem exists_excerpt_of_cuts {p w q : List Char} {u : List Lexeme}
    (h : Lines.normalized source.toList = p ++ (w ++ q))
    (hnul : '\x00' ∉ Lines.normalized source.toList)
    (hcuts : ∀ m, ∃ ts m', Cuts ⟨m, ['('], false, w ++ [')']⟩ ts ⟨m', ['('], false, [')']⟩ ∧
      ts.map Token.lexeme = u) :
    ∃ i j, i ≤ j ∧ j ≤ source.toList.length ∧ markAt source i = Mark.after ⟨1, 0⟩ p ∧
      markAt source j = Mark.after ⟨1, 0⟩ (p ++ w) ∧ Excerpt source i j u := by
  obtain ⟨i, j, hij, hj, hbreak, hbreak', hp, hpw, hw⟩ := Lines.exists_part h
  refine ⟨i, j, hij, hj, by rw [markAt_eq_after hbreak, hp], by rw [markAt_eq_after hbreak', hpw],
    tokens_of_call ?_ (fun hmem => hnul (by simp [h, hmem])) hcuts⟩
  have hchars : ("g(" ++ between source i j ++ ")").toList =
      'g' :: '(' :: ((source.toList.take j).drop i ++ [')']) := by
    simp [between]
  have hname (rest : List Char) :
      Lines.normalized ('g' :: '(' :: rest) = 'g' :: '(' :: Lines.normalized rest := by
    simp [Lines.normalized]
  rw [hchars, hname, Lines.normalized_concat (by decide) (by decide), hw]

/-- A token that is no line end and not the last one is cut by steps. -/
theorem exists_append_of_ending {new a b : List Token} {final : State}
    (h : a ++ k :: b = new ++ ending final) (hk : ∃ sym, k.lexeme = .symbol sym) :
    ∃ b', new = a ++ k :: b' := by
  have hending : k ∉ ending final := by
    obtain ⟨sym, hsym⟩ := hk
    intro hmem
    unfold ending at hmem
    split_ifs at hmem
    · obtain rfl := List.mem_singleton.mp hmem
      cases hsym
    · simp only [List.mem_cons, List.not_mem_nil, or_false] at hmem
      rcases hmem with rfl | rfl <;> cases hsym
  rcases List.append_eq_append_iff.mp h with ⟨c, rfl, hc⟩ | ⟨c, rfl, hc⟩
  · cases c with
    | nil =>
        rw [List.nil_append] at hc
        exact absurd (hc ▸ List.mem_cons_self) hending
    | cons x c =>
        obtain ⟨rfl, -⟩ := List.cons.inj hc
        exact ⟨c, rfl⟩
  · exact absurd (hc ▸ List.mem_append_right c List.mem_cons_self) hending

/-- The state in front of some tokens of a source, and what is read behind it. -/
theorem exists_state (h : tokens source = .ok (pre ++ ts ++ k :: post))
    (hk : ∃ sym, k.lexeme = .symbol sym) :
    '\x00' ∉ Lines.normalized source.toList ∧ ∃ p s e f,
      Lines.normalized source.toList = p ++ s.rest ∧ s.mark = Mark.after ⟨1, 0⟩ p ∧
      Cuts (.start (Lines.normalized source.toList)) pre s ∧ Cuts s ts e ∧ Cuts e [k] f := by
  obtain ⟨hnul, final, new, hsteps, -, hnew⟩ := tokens_eq_ok_iff.mp h
  obtain ⟨post', rfl⟩ := exists_append_of_ending hnew hk
  obtain ⟨e, hfront, hback⟩ := hsteps.exists_cuts
  obtain ⟨s, hpre, hts⟩ := hfront.split
  have hback' : Steps e ([k] ++ post') final := hback
  obtain ⟨f, hf, -⟩ := hback'.exists_cuts
  obtain ⟨p, hp, hmark, -⟩ := hpre.steps.rest_append
  exact ⟨hnul, p, s, e, f, hp, hmark, hpre, hts, hf⟩

/-- Behind an opening parenthesis a bracket is open. -/
theorem inside_of_opening {s s' : State} (h : Cuts s (pre ++ [o]) s')
    (ho : o.lexeme = .symbol "(") : s'.open_ ≠ [] ∧ s'.lineStart = false := by
  obtain ⟨mid, -, hlast⟩ := h.split
  cases hlast with
  | cons hgap hmore hstep hrest =>
      cases hrest
      obtain ⟨-, hline, -, hopen⟩ := step_symbol hstep ho
      refine ⟨?_, hline⟩
      rw [openBehind?_opening hopen]
      exact List.cons_ne_nil _ _

/-- **Balanced tokens behind an opening parenthesis** and in front of a comma or a closing one
are those of an excerpt of the source. -/
theorem exists_excerpt (h : tokens source = .ok (pre ++ [o] ++ (t :: ts) ++ k :: post))
    (ho : o.lexeme = .symbol "(") (hk : k.lexeme = .symbol "," ∨ k.lexeme = .symbol ")")
    (hclosed : Closes [] ((t :: ts).map Token.lexeme)) :
    ∃ i j, i ≤ j ∧ j ≤ source.toList.length ∧ markAt source i = t.start ∧
      markAt source j = endOf t.stop ts ∧ Excerpt source i j ((t :: ts).map Token.lexeme) := by
  obtain ⟨hnul, p, s, e, f, hp, hmark, hreach, hcuts, hend⟩ :=
    exists_state h (hk.elim (fun hk => ⟨_, hk⟩) fun hk => ⟨_, hk⟩)
  obtain ⟨hopen, hline⟩ := inside_of_opening hreach ho
  have hroom : ∀ ts s', Steps s ts s' → s'.open_.length ≤ bracketLimit :=
    fun ts s' hs' => (hreach.steps.trans hs').open_le (Nat.zero_le _)
  obtain ⟨gap, w, hrest, hstart, hfinal, htext⟩ :=
    hcuts.exists_text hopen hline hclosed hroom (hend.stops hk)
  rw [hrest, ← List.append_assoc] at hp
  obtain ⟨i, j, hij, hj, hi, hj', hexcerpt⟩ := exists_excerpt_of_cuts hp hnul htext
  refine ⟨i, j, hij, hj, ?_, ?_, hexcerpt⟩
  · rw [hi, hstart, hmark, Mark.after_append]
  · rw [hj', List.append_assoc, Mark.after_append, ← hmark, ← hfinal, hcuts.mark]
    rfl

/-- Fewer brackets than the limit are ever open in a source. -/
def Shallow (source : String) : Prop :=
  ∀ ts s, Steps (.start (Lines.normalized source.toList)) ts s → s.open_.length < bracketLimit

/-- **Balanced tokens in parentheses**, with these around them, are those of an excerpt of
the source, unless brackets are nested as deep as they may be. -/
theorem exists_excerpt_of_parentheses (h : tokens source = .ok (pre ++ (o :: ts) ++ k :: post))
    (ho : o.lexeme = .symbol "(") (hk : k.lexeme = .symbol ")")
    (hclosed : Closes [] (ts.map Token.lexeme)) (hshallow : Shallow source) :
    ∃ i j, i ≤ j ∧ j ≤ source.toList.length ∧ markAt source i = o.start ∧
      markAt source j = k.stop ∧
      Excerpt source i j (.symbol "(" :: (ts.map Token.lexeme ++ [.symbol ")"])) := by
  obtain ⟨hnul, p, s, e, f, hp, hmark, hreach, hcuts, hend⟩ := exists_state h ⟨_, hk⟩
  have hall : Cuts s (o :: (ts ++ [k])) f := hcuts.append hend
  have hroom : ∀ ts s', Steps s ts s' → s'.open_.length < bracketLimit :=
    fun ts s' hs' => hshallow _ s' (hreach.steps.trans hs')
  obtain ⟨gap, w, hrest, hstart, hfinal, htext⟩ :=
    hall.exists_text_of_parentheses ho hk hclosed hroom
  rw [hrest, ← List.append_assoc] at hp
  obtain ⟨i, j, hij, hj, hi, hj', hexcerpt⟩ := exists_excerpt_of_cuts hp hnul htext
  refine ⟨i, j, hij, hj, ?_, ?_, hexcerpt⟩
  · rw [hi, hstart, hmark, Mark.after_append]
  · rw [hj', List.append_assoc, Mark.after_append, ← hmark, ← hfinal, hend.mark]
    rfl

end Excerpts

end Script
end BuildTransform
