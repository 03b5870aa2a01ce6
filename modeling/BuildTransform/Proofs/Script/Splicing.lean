import BuildTransform.Proofs.Script.Beside
import BuildTransform.Proofs.Script.Stepping
import Mathlib.Data.List.DropRight

/-!
# Tokens of a part of a text

The tokens of a part of a text are those of the part by itself, if it is balanced.

* `Cuts` leads from the end of one token to the end of another.
* `Cuts.elsewhere` cuts the same tokens in front of another text and behind other brackets.
-/

namespace BuildTransform
namespace Script
namespace Lexer

open Grammar (Closes)

/-- Tokens are cut, the first one from a state and the last one just before another. -/
inductive Cuts : State → List Token → State → Prop
  | nil (s : State) : Cuts s [] s
  | cons {s mid next final : State} {t : Token} {ts : List Token}
      (hgap : Steps s [] mid)
      (hmore : mid.rest.all isBlank = false)
      (hstep : step mid = some (some t, next))
      (hrest : Cuts next ts final) :
      Cuts s (t :: ts) final

section Cuts

variable {s final : State} {ts ts' post : List Token} {t : Token}

theorem Cuts.steps (h : Cuts s ts final) : Steps s ts final := by
  induction h with
  | nil s => exact .refl s
  | cons hgap hmore hstep _ ih => exact hgap.trans (.head hmore hstep ih)

theorem Cuts.append {mid : State} (h : Cuts s ts mid) (h' : Cuts mid ts' final) :
    Cuts s (ts ++ ts') final := by
  induction h with
  | nil => exact h'
  | cons hgap hmore hstep _ ih => exact .cons hgap hmore hstep (ih h')

/-- The tokens at the front are cut first. -/
theorem Steps.exists_cuts (h : Steps s (ts ++ post) final) :
    ∃ mid, Cuts s ts mid ∧ Steps mid post final := by
  induction ts generalizing s with
  | nil => exact ⟨s, .nil s, h⟩
  | cons t ts ih =>
      have hfront : Steps s ([] ++ t :: (ts ++ post)) final := h
      obtain ⟨before, after, hgap, hmore, hstep, hrest⟩ := hfront.split
      obtain ⟨mid, hcuts, hpost⟩ := ih hrest
      exact ⟨mid, .cons hgap hmore hstep hcuts, hpost⟩

/-- The mark behind the last token is its end. -/
theorem Cuts.mark (h : Cuts s ts final) : final.mark = Grammar.endOf s.mark ts := by
  induction h with
  | nil => rfl
  | @cons s mid next final t ts _ _ hstep _ ih =>
      obtain ⟨gap, w, hmoves⟩ := step_moves hstep
      obtain ⟨-, hstop, -⟩ := hmoves.token t rfl
      rw [ih, Grammar.endOf, hmoves.mark, hstop]

end Cuts

/-! ## Other surroundings -/

section Elsewhere

variable {s next final : State} {x base base' C D : List Char} {ts : List Token} {t : Token}
variable {m : Mark} {y : List Lexeme}

theorem isBlank_of_not_mem_gaps {c : Char} (hc : c ∉ gaps) : isBlank c = false := by
  rw [Bool.eq_false_iff]
  intro hblank
  simp only [isBlank, Bool.or_eq_true, beq_iff_eq] at hblank
  rcases hblank with (rfl | rfl) | rfl <;> exact hc (by decide)

/-- A step to the end of a token, made in front of another text. -/
theorem step_some_elsewhere {w : List Char} (hstep : step s = some (some t, next))
    (hopen : s.open_ ≠ []) (hw : next.rest = w ++ C) (hstops : Stops C) (hstops' : Stops D) :
    next.lineStart = false ∧ openBehind? s.open_ t.lexeme = some next.open_ ∧
      ∃ v, s.rest = v ++ next.rest ∧ v ≠ [] ∧ (∀ X, (v ++ X).all isBlank = false) ∧
      ∀ m o o', openBehind? o t.lexeme = some o' →
        ∃ k m', step ⟨m, o, false, v ++ (w ++ D)⟩ = some (some k, ⟨m', o', false, w ++ D⟩) ∧
          k.lexeme = t.lexeme := by
  rcases step_cases hstep with ⟨hnone, -⟩ | ⟨hnil, -⟩ | ⟨k, hk, hnext, -, hlexeme, hbehind⟩
  · cases hnone
  · exact absurd hnil hopen
  · cases hk
    obtain ⟨blanks, hblank, hblanks⟩ := exists_blanks s.rest
    obtain ⟨⟨v, hv⟩, hpos, hlength⟩ := lexeme?_consumes hlexeme
    obtain ⟨c, v, rfl⟩ : ∃ c rest, v = c :: rest := by
      cases v with
      | nil =>
          rw [← hv] at hlength
          simp at hlength
          omega
      | cons c rest => exact ⟨c, rest, rfl⟩
    rw [← hv] at hlexeme hblanks
    have hc : isBlank c = false := isBlank_of_not_mem_gaps (lexeme?_head hlexeme)
    refine ⟨hnext, hbehind, blanks ++ c :: v, ?_, by simp, fun X => ?_, fun m o o' ho => ?_⟩
    · rw [hblanks, List.append_assoc]
    · simp [hc]
    · rw [hw, ← List.append_assoc] at hlexeme
      have hbeside : lexeme? ((c :: v ++ w) ++ D) = some (t.lexeme, w ++ D) :=
        lexeme?_beside (by simp) hstops hstops' hlexeme
      obtain ⟨k, m', hrun, hk⟩ := step_of_lexeme?
        (State.isIndented_of_not_lineStart (s := ⟨m, o, false, blanks ++ c :: v ++ (w ++ D)⟩) rfl)
        (by
          rw [List.append_assoc, List.dropWhile_append_of_pos hblank, List.cons_append,
            List.dropWhile_cons_of_neg (by simp [hc]), ← List.cons_append, ← List.append_assoc]
          exact hbeside) ho
      exact ⟨k, m', hrun, hk⟩

/-- **Balanced tokens are cut in the same way** in front of another text and behind other
brackets. -/
theorem Cuts.elsewhere (h : Cuts s ts final) (hopen : s.open_ = x ++ base)
    (hline : s.lineStart = false) (hbase : base ≠ []) (hbase' : base' ≠ [])
    (hclosed : Closes (x.map closerOf) (ts.map Token.lexeme))
    (hroom : ∀ ts s', Steps s ts s' → s'.open_.length + base'.length ≤
      bracketLimit + base.length)
    (hC : final.rest = C) (hstops : Stops C) (hstops' : Stops D) :
    final.open_ = base ∧ final.lineStart = false ∧ ∃ w, s.rest = w ++ C ∧
      ∀ m, ∃ ts' m', Cuts ⟨m, x ++ base', false, w ++ D⟩ ts' ⟨m', base', false, D⟩ ∧
        ts'.map Token.lexeme = ts.map Token.lexeme := by
  induction h generalizing x with
  | nil s =>
      have hx : x = [] := by
        cases hmap : x.map closerOf with
        | nil => exact List.map_eq_nil_iff.mp hmap
        | cons c cs =>
            rw [hmap] at hclosed
            cases hclosed
      subst hx
      exact ⟨hopen, hline, [], hC, fun m => ⟨[], m, .nil _, rfl⟩⟩
  | @cons s mid next final t ts hgap hmore hstep hrest ih =>
      obtain ⟨hopenMid, hlineMid, -⟩ := hgap.elsewhere rfl hline rfl hmore
      rw [hopen] at hopenMid
      have hopenNe : mid.open_ ≠ [] := by
        rw [hopenMid]
        exact List.append_ne_nil_of_right_ne_nil _ hbase
      obtain ⟨w₀, hw₀, -, -⟩ := hrest.steps.rest_append
      rw [hC] at hw₀
      obtain ⟨hlineNext, hbehind, v, hv, hvne, hvall, htoken⟩ :=
        step_some_elsewhere hstep hopenNe hw₀ hstops hstops'
      rw [hopenMid] at hbehind
      obtain ⟨x', hopenNext, hclosed', hbehind'⟩ := openBehind?_append hclosed hbehind
      have hreach : Steps s [t] next := by
        have h := hgap.trans (Steps.single hmore hstep)
        exact h
      have hroom' := hroom _ _ hreach
      rw [hopenNext, List.length_append] at hroom'
      obtain ⟨hfinal, hlineFinal, w, hw, hcuts⟩ := ih hopenNext hlineNext hclosed'
        (fun ts' s' hs' => hroom _ s' (hreach.trans hs')) hC
      obtain rfl : w₀ = w := List.append_cancel_right (hw₀.symm.trans hw)
      have hhead : mid.rest.head? = (v ++ (w₀ ++ D)).head? := by
        obtain ⟨c, v, rfl⟩ := List.exists_cons_of_ne_nil hvne
        rw [hv]
        rfl
      obtain ⟨-, -, g, hg, hgap'⟩ := hgap.elsewhere rfl hline hhead (hvall _)
      refine ⟨hfinal, hlineFinal, g ++ (v ++ w₀), ?_, fun m => ?_⟩
      · rw [hg, hv, hw, List.append_assoc, List.append_assoc]
      · obtain ⟨m₁, hbefore⟩ := hgap' m (x ++ base') (List.append_ne_nil_of_right_ne_nil _ hbase')
        obtain ⟨k, m₂, htoken, hk⟩ := htoken m₁ _ _ (hbehind' base' (by omega))
        obtain ⟨ts', m₃, hafter, hts'⟩ := hcuts m₂
        refine ⟨k :: ts', m₃, ?_, by rw [List.map_cons, List.map_cons, hk, hts']⟩
        rw [List.append_assoc, List.append_assoc]
        exact .cons hbefore (hvall _) htoken hafter

end Elsewhere

/-! ## Parts of a text -/

section Parts

variable {s mid next final : State} {base C : List Char} {ts : List Token} {t : Token}

theorem upTo_self (s : State) : s.upTo s.rest = s := by
  simp [State.upTo, Mark.after]

/-- Blanks in front of a token may be read beforehand. -/
theorem step_upTo_blanks (h : s.lineStart = false) :
    step (s.upTo (s.rest.dropWhile isBlank)) = step s := by
  have hindent := State.isIndented_of_not_lineStart h
  have hindent' : (s.upTo (s.rest.dropWhile isBlank)).isIndented = false :=
    State.isIndented_of_not_lineStart h
  have hdrop : (s.upTo (s.rest.dropWhile isBlank)).rest.dropWhile isBlank =
      (s.upTo (s.rest.dropWhile isBlank)).rest := List.dropWhile_idempotent _ _
  unfold step
  dsimp only
  rw [hdrop, upTo_self, hindent, hindent']
  rfl

/-- Balanced tokens inside brackets stand between two places of the text, and they are cut
from what stands there alone. -/
theorem Cuts.exists_text (h : Cuts s (t :: ts) final) (hopen : s.open_ ≠ [])
    (hline : s.lineStart = false) (hclosed : Closes [] ((t :: ts).map Token.lexeme))
    (hroom : ∀ ts s', Steps s ts s' → s'.open_.length ≤ bracketLimit)
    (hstops : Stops final.rest) :
    ∃ gap w, s.rest = gap ++ (w ++ final.rest) ∧ t.start = s.mark.after gap ∧
      final.mark = s.mark.after (gap ++ w) ∧
      ∀ m, ∃ ts' m', Cuts ⟨m, ['('], false, w ++ [')']⟩ ts' ⟨m', ['('], false, [')']⟩ ∧
        ts'.map Token.lexeme = (t :: ts).map Token.lexeme := by
  cases h with
  | @cons _ mid next _ _ _ hgap hmore hstep hrest =>
      obtain ⟨hopenMid, hlineMid, -⟩ := hgap.elsewhere rfl hline rfl hmore
      obtain ⟨g, hg, hmarkMid, -⟩ := hgap.rest_append
      obtain ⟨blanks, hblank, hblanks⟩ := exists_blanks mid.rest
      have hstart : t.start = s.mark.after (g ++ blanks) := by
        rcases step_cases hstep with ⟨hnone, -⟩ | ⟨hnil, -⟩ | ⟨k, hk, -, hstart, -, -⟩
        · cases hnone
        · exact absurd (hopenMid.symm.trans hnil) hopen
        · cases hk
          rw [hstart, State.upTo_mark hblanks, hmarkMid, Mark.after_append]
      have hbehind : (mid.rest.dropWhile isBlank).all isBlank = false := by
        rw [Bool.eq_false_iff]
        intro hall
        rw [hblanks, List.all_append, hall, List.all_eq_true.mpr hblank] at hmore
        cases hmore
      have hfront : Cuts (mid.upTo (mid.rest.dropWhile isBlank)) (t :: ts) final :=
        .cons (.refl _) hbehind ((step_upTo_blanks hlineMid).trans hstep) hrest
      have hpos := List.length_pos_iff.mpr hopen
      have hroom' : ∀ ts s', Steps (mid.upTo (mid.rest.dropWhile isBlank)) ts s' →
          s'.open_.length + ['('].length ≤ bracketLimit + s.open_.length := by
        intro ts s' hs'
        have hle : s'.open_.length ≤ bracketLimit := by
          cases hs' with
          | refl => exact hroom _ mid hgap
          | head hmore' hstep' hrest' =>
              rw [step_upTo_blanks hlineMid] at hstep'
              exact hroom _ s' (hgap.trans (.head hmore hstep' hrest'))
        simp only [List.length_cons, List.length_nil]
        omega
      obtain ⟨-, -, w, hw, hcuts⟩ := hfront.elsewhere (hopenMid.trans (List.nil_append _).symm)
        hlineMid hopen (List.cons_ne_nil _ _) hclosed hroom' rfl hstops
        ⟨')', [], rfl, by decide⟩
      have hmarkFinal : final.mark = s.mark.after (g ++ blanks ++ w) := by
        obtain ⟨v, hv, hmark, -⟩ := hfront.steps.rest_append
        obtain rfl := List.append_cancel_right (hw.symm.trans hv)
        rw [hmark, State.upTo_mark hblanks, hmarkMid, ← Mark.after_append, ← Mark.after_append,
          List.append_assoc]
      have hdrop : mid.rest.dropWhile isBlank = w ++ final.rest := hw
      refine ⟨g ++ blanks, w, ?_, hstart, hmarkFinal, hcuts⟩
      rw [hg, hblanks, hdrop, List.append_assoc]

theorem Cuts.split {ts' : List Token} (h : Cuts s (ts ++ ts') final) :
    ∃ mid, Cuts s ts mid ∧ Cuts mid ts' final := by
  induction ts generalizing s with
  | nil => exact ⟨s, .nil s, h⟩
  | cons t ts ih =>
      cases h with
      | cons hgap hmore hstep hrest =>
          obtain ⟨mid, hcuts, hcuts'⟩ := ih hrest
          exact ⟨mid, .cons hgap hmore hstep hcuts, hcuts'⟩

theorem stops_of_dropWhile {cs rest : List Char} {c : Char}
    (h : cs.dropWhile isBlank = c :: rest) (hc : c ∈ stops) : Stops cs := by
  obtain ⟨_ | ⟨b, blanks⟩, hblank, hblanks⟩ := exists_blanks cs
  · exact ⟨c, rest, hblanks.trans h, hc⟩
  · refine ⟨b, _, hblanks, ?_⟩
    have hb := hblank b List.mem_cons_self
    simp only [isBlank, Bool.or_eq_true, beq_iff_eq] at hb
    rcases hb with (rfl | rfl) | rfl <;> decide

/-- In front of a comma or a closing parenthesis stands a character that may stand directly
behind an argument. -/
theorem Cuts.stops (h : Cuts s (t :: ts) final)
    (ht : t.lexeme = .symbol "," ∨ t.lexeme = .symbol ")") : Stops s.rest := by
  cases h with
  | cons hgap hmore hstep hrest =>
      generalize hnil : ([] : List Token) = none_ at hgap
      cases hgap with
      | refl =>
          rcases step_cases hstep with ⟨hnone, -⟩ | ⟨-, -, k, hk, hnewline⟩ |
            ⟨k, hk, -, -, hlexeme, -⟩
          · cases hnone
          · cases hk
            rcases ht with ht | ht <;> rw [ht] at hnewline <;> cases hnewline
          · cases hk
            rcases ht with ht | ht
            · rw [ht] at hlexeme
              exact stops_of_dropWhile (lexeme?_symbol hlexeme) (by decide)
            · rw [ht] at hlexeme
              exact stops_of_dropWhile (lexeme?_symbol hlexeme) (by decide)
      | @head _ next _ k ks hmore' hstep' hrest' =>
          rcases step_cases hstep' with ⟨-, -, -, hgap⟩ | ⟨-, -, k, rfl, -⟩ | ⟨k, rfl, -⟩
          · generalize hdrop : s.rest.dropWhile isBlank = cs at hgap
            generalize next.rest = behind at hgap
            cases hgap <;> exact stops_of_dropWhile hdrop (by decide)
          · cases hnil
          · cases hnil

/-- A certain symbol is cut. -/
theorem step_symbol {sym : String} (hstep : step s = some (some t, next))
    (ht : t.lexeme = .symbol sym) :
    t.start = (s.upTo (s.rest.dropWhile isBlank)).mark ∧ next.lineStart = false ∧
      s.rest.dropWhile isBlank = sym.toList ++ next.rest ∧
      openBehind? s.open_ (.symbol sym) = some next.open_ := by
  rcases step_cases hstep with ⟨hnone, -⟩ | ⟨-, -, k, hk, hnewline⟩ |
    ⟨k, hk, hline, hstart, hlexeme, hopen⟩
  · cases hnone
  · cases hk
    rw [ht] at hnewline
    cases hnewline
  · cases hk
    rw [ht] at hlexeme hopen
    exact ⟨hstart, hline, lexeme?_symbol hlexeme, hopen⟩

theorem Stops.append_left {w X Y : List Char} (h : Stops (w ++ X)) (hw : w ≠ []) :
    Stops (w ++ Y) := by
  obtain ⟨c, rest, rfl⟩ := List.exists_cons_of_ne_nil hw
  obtain ⟨c', more, hcons, hc⟩ := h
  obtain ⟨rfl, -⟩ := List.cons.inj hcons
  exact ⟨c, _, rfl, hc⟩

/-- A closing parenthesis is cut in front of another one. -/
theorem Cuts.exists_closing (h : Cuts s [t] final) (ht : t.lexeme = .symbol ")")
    (hline : s.lineStart = false) :
    ∃ w, s.rest = w ++ final.rest ∧ Stops (w ++ [')']) ∧
      ∀ m, ∃ k m', Cuts ⟨m, ['(', '('], false, w ++ [')']⟩ [k] ⟨m', ['('], false, [')']⟩ ∧
        k.lexeme = .symbol ")" := by
  have hstops := h.stops (Or.inr ht)
  cases h with
  | @cons _ mid next _ _ _ hgap hmore hstep hrest =>
      cases hrest
      obtain ⟨-, -, hdrop, -⟩ := step_symbol hstep ht
      obtain ⟨blanks, hblank, hblanks⟩ := exists_blanks mid.rest
      rw [hdrop] at hblanks
      have hhead : mid.rest.head? = (blanks ++ [')', ')']).head? := by
        rw [hblanks, List.head?_append, List.head?_append, List.head?_append]
        rfl
      obtain ⟨-, -, g, hg, hbefore⟩ := hgap.elsewhere rfl hline hhead (by simp [isBlank])
      have hrest : s.rest = g ++ blanks ++ [')'] ++ final.rest := by
        rw [hg, hblanks]
        simp
      refine ⟨g ++ blanks ++ [')'], hrest, ?_, fun m => ?_⟩
      · rw [hrest] at hstops
        exact hstops.append_left (by simp)
      · obtain ⟨m₁, hsteps⟩ := hbefore m ['(', '('] (List.cons_ne_nil _ _)
        have hlexeme : (blanks ++ [')', ')']).dropWhile isBlank = [')', ')'] := by
          rw [List.dropWhile_append_of_pos hblank]
          rfl
        obtain ⟨k, m₂, hclose, hk⟩ := step_of_lexeme?
          (s := ⟨m₁, ['(', '('], false, blanks ++ [')', ')']⟩)
          (State.isIndented_of_not_lineStart rfl)
          (by rw [hlexeme]; exact lexeme?_closing [')']) rfl
        refine ⟨k, m₂, ?_, hk⟩
        have happend : g ++ blanks ++ [')'] ++ [')'] = g ++ (blanks ++ [')', ')']) := by simp
        rw [happend]
        exact .cons hsteps (by simp [isBlank]) hclose (.nil _)

/-- An opening parenthesis, balanced tokens and a closing one stand between two places of the
text, and they are cut from what stands there inside other parentheses. -/
theorem Cuts.exists_text_of_parentheses {o k : Token}
    (h : Cuts s (o :: (ts ++ [k])) final) (ho : o.lexeme = .symbol "(")
    (hk : k.lexeme = .symbol ")") (hclosed : Closes [] (ts.map Token.lexeme))
    (hroom : ∀ ts s', Steps s ts s' → s'.open_.length < bracketLimit) :
    ∃ gap w, s.rest = gap ++ (w ++ final.rest) ∧ o.start = s.mark.after gap ∧
      final.mark = s.mark.after (gap ++ w) ∧
      ∀ m, ∃ ts' m', Cuts ⟨m, ['('], false, w ++ [')']⟩ ts' ⟨m', ['('], false, [')']⟩ ∧
        ts'.map Token.lexeme = .symbol "(" :: (ts.map Token.lexeme ++ [.symbol ")"]) := by
  have hsteps := h.steps
  cases h with
  | @cons _ mid inner _ _ _ hgap hmore hstep hrest =>
      obtain ⟨e, hbody, hclosing⟩ := hrest.split
      obtain ⟨hstart, hline, hdrop, hopen⟩ := step_symbol hstep ho
      obtain ⟨blanks, hblank, hblanks⟩ := exists_blanks mid.rest
      obtain ⟨g, hg, hmarkMid, -⟩ := hgap.rest_append
      have hinner := openBehind?_opening hopen
      have hne : inner.open_ ≠ [] := by simp [hinner]
      have hreach : Steps s [o] inner := hgap.trans (.single hmore hstep)
      have hroom' : ∀ ts s', Steps inner ts s' →
          s'.open_.length + ['(', '('].length ≤ bracketLimit + inner.open_.length := by
        intro ts s' hs'
        have hless := hroom _ s' (hreach.trans hs')
        simp only [hinner, List.length_cons, List.length_nil]
        omega
      have hstopsE := hclosing.stops (Or.inr hk)
      have hlineE : e.lineStart = false :=
        (hbody.elsewhere (List.nil_append _).symm hline hne (List.cons_ne_nil _ _) hclosed hroom'
          rfl hstopsE hstopsE).2.1
      obtain ⟨v, hv, hstopsV, hclose⟩ := hclosing.exists_closing hk hlineE
      obtain ⟨-, -, w, hw, hcuts⟩ := hbody.elsewhere (List.nil_append _).symm hline hne
        (List.cons_ne_nil _ _) hclosed hroom' rfl hstopsE hstopsV
      have hrest' : s.rest = g ++ blanks ++ ('(' :: (w ++ v) ++ final.rest) := by
        rw [hg, hblanks, hdrop, hw, hv]
        simp
      refine ⟨g ++ blanks, '(' :: (w ++ v), hrest', ?_, ?_, fun m => ?_⟩
      · rw [hstart, State.upTo_mark hblanks, hmarkMid, Mark.after_append]
      · obtain ⟨all, hall, hmark, -⟩ := hsteps.rest_append
        rw [hrest', ← List.append_assoc] at hall
        rw [hmark, List.append_cancel_right hall]
      · obtain ⟨o', m₁, hopening, ho'⟩ := step_of_lexeme?
          (s := ⟨m, ['('], false, '(' :: (w ++ v) ++ [')']⟩)
          (State.isIndented_of_not_lineStart rfl) (lexeme?_opening _) rfl
        obtain ⟨ts', m₂, hbody', hts'⟩ := hcuts m₁
        obtain ⟨k', m₃, hclosing', hk'⟩ := hclose m₂
        refine ⟨o' :: (ts' ++ [k']), m₃, ?_, by simp [ho', hts', hk']⟩
        rw [← List.append_assoc] at hbody'
        exact .cons (.refl _) (by simp [isBlank]) hopening (hbody'.append hclosing')

end Parts

end Lexer
end Script
end BuildTransform
