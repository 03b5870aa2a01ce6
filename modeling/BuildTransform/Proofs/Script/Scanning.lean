import BuildTransform.Proofs.Script.Lexemes
import BuildTransform.Proofs.Text.Breaks

/-!
# Scanning step by step

How a text is cut into tokens, one step after another.

* `step_moves` says what every step does: it takes some characters from the front, and
  its mark and its token tell which.
* `Steps` are steps one after another; `tokens_eq_ok_iff` says that a text is cut into
  tokens iff steps lead to its end.
* `weight_le_length` bounds what the tokens of a text weigh by its characters.
-/

namespace BuildTransform
namespace Script

theorem Mark.after_append (m : Mark) (cs cs' : List Char) :
    m.after (cs ++ cs') = (m.after cs).after cs' :=
  List.foldl_append

namespace Lexer

/-! ## One step -/

section Step

variable {s next : State} {t : Option Token}

theorem State.upTo_mark {w rest : List Char} (h : s.rest = w ++ rest) :
    (s.upTo rest).mark = s.mark.after w := by
  simp [State.upTo, h]

/-- What a step takes: some characters, and then those of its token. -/
structure Moves (s : State) (t : Option Token) (next : State) (gap w : List Char) : Prop where
  rest : s.rest = gap ++ w ++ next.rest
  mark : next.mark = s.mark.after (gap ++ w)
  ne_nil : gap ++ w ≠ []
  token : ∀ k, t = some k → k.start = s.mark.after gap ∧ k.stop = s.mark.after (gap ++ w) ∧
    weight k.lexeme ≤ w.length

/-- **A step takes some characters from the front**, and its mark and its token tell
which. -/
theorem step_moves (h : step s = some (t, next)) : ∃ gap w, Moves s t next gap w := by
  obtain ⟨blanks, hblanks⟩ : ∃ blanks, s.rest = blanks ++ s.rest.dropWhile isBlank :=
    ⟨_, List.takeWhile_append_dropWhile.symm⟩
  have hstart : (s.upTo (s.rest.dropWhile isBlank)).mark = s.mark.after blanks :=
    State.upTo_mark hblanks
  have hrest : s.rest = blanks ++ (s.upTo (s.rest.dropWhile isBlank)).rest := hblanks
  unfold step at h
  dsimp only at h
  generalize s.upTo (s.rest.dropWhile isBlank) = start at h hstart hrest
  have hmark {w rest : List Char} (hw : start.rest = w ++ rest) :
      (start.upTo rest).mark = s.mark.after (blanks ++ w) := by
    rw [State.upTo_mark hw, hstart, Mark.after_append]
  split at h
  · rename_i rest hfeed
    have hw : start.rest = ['\n'] ++ rest := hfeed
    split_ifs at h
    · cases h
      exact ⟨blanks, ['\n'], by rw [hrest, hw, List.append_assoc]; rfl, hmark hw, by simp,
        fun k hk => by cases hk⟩
    · cases h
      refine ⟨blanks, ['\n'], by rw [hrest, hw, List.append_assoc]; rfl, hmark hw, by simp, ?_⟩
      rintro k ⟨⟩
      exact ⟨hstart, hmark hw, Nat.zero_le _⟩
  · rename_i rest hcomment
    cases h
    obtain ⟨w, hafter⟩ := List.dropWhile_suffix (· ≠ '\n') (l := rest)
    have hw : start.rest = ('#' :: w) ++ afterComment rest :=
      hcomment.trans (congrArg ('#' :: ·) hafter.symm)
    exact ⟨blanks, '#' :: w, by rw [hrest, hw, List.append_assoc]; rfl, hmark hw, by simp,
      fun k hk => by cases hk⟩
  · rename_i c rest hslash
    split_ifs at h
    cases h
    have hw : start.rest = ['\\', '\n'] ++ (c :: rest) := hslash
    exact ⟨blanks, ['\\', '\n'], by rw [hrest, hw, List.append_assoc]; rfl, hmark hw, by simp,
      fun k hk => by cases hk⟩
  · split_ifs at h
    split at h
    · cases h
    · rename_i l after hlexeme
      obtain ⟨open_, -, hpair⟩ := Option.map_eq_some_iff.mp h
      cases hpair
      obtain ⟨⟨w, hafter⟩, hpos, hlength⟩ := lexeme?_consumes hlexeme
      have hw : start.rest = w ++ after := hafter.symm
      rw [hw, List.length_append] at hlength
      have hne : w ≠ [] := by
        rintro rfl
        simp at hlength
        omega
      refine ⟨blanks, w, by rw [hrest, hw, List.append_assoc]; rfl, hmark hw, by simp [hne], ?_⟩
      rintro k ⟨⟩
      have hweight : weight l ≤ w.length := by omega
      exact ⟨hstart, hmark hw, hweight⟩

theorem step_rest (h : step s = some (t, next)) : next.rest.length < s.rest.length := by
  obtain ⟨gap, w, hmoves⟩ := step_moves h
  have hpos := List.length_pos_iff.mpr hmoves.ne_nil
  rw [hmoves.rest, List.length_append]
  omega

end Step

/-! ## Steps one after another -/

/-- Steps lead from one state to another, and the tokens are cut on the way. -/
inductive Steps : State → List Token → State → Prop
  | refl (s : State) : Steps s [] s
  | head {s next final : State} {t : Option Token} {ts : List Token}
      (hmore : s.rest.all isBlank = false)
      (hstep : step s = some (t, next))
      (hrest : Steps next ts final) :
      Steps s (t.toList ++ ts) final

/-- Nothing but blanks is left, and no bracket is open. -/
def State.IsEnd (s : State) : Prop :=
  s.rest.all isBlank = true ∧ s.open_ = []

section Steps

variable {s next final : State} {ts ts' : List Token}

theorem Steps.trans (h : Steps s ts next) (h' : Steps next ts' final) :
    Steps s (ts ++ ts') final := by
  induction h with
  | refl => exact h'
  | head hmore hstep _ ih =>
      rw [List.append_assoc]
      exact .head hmore hstep (ih h')

theorem Steps.single {t : Option Token} (hmore : s.rest.all isBlank = false)
    (hstep : step s = some (t, next)) : Steps s t.toList next := by
  have h := Steps.head hmore hstep (.refl next)
  rwa [List.append_nil] at h

/-- Steps take characters from the front. -/
theorem Steps.rest_append (h : Steps s ts final) :
    ∃ w, s.rest = w ++ final.rest ∧ final.mark = s.mark.after w ∧
      (ts.map fun t => weight t.lexeme).sum ≤ w.length := by
  induction h with
  | refl s => exact ⟨[], rfl, rfl, Nat.le_refl _⟩
  | @head s next final t ts hmore hstep _ ih =>
      obtain ⟨gap, w, hmoves⟩ := step_moves hstep
      obtain ⟨v, hv, hmark, hweight⟩ := ih
      refine ⟨gap ++ w ++ v, ?_, ?_, ?_⟩
      · rw [hmoves.rest, hv, List.append_assoc (gap ++ w)]
      · rw [hmark, hmoves.mark, ← Mark.after_append]
      · cases t with
        | none =>
            simp only [Option.toList_none, List.nil_append, List.length_append]
            omega
        | some k =>
            have htoken := (hmoves.token k rfl).2.2
            simp only [Option.toList_some, List.cons_append, List.nil_append, List.map_cons,
              List.sum_cons, List.length_append]
            omega

/-- The step that cuts a certain token. -/
theorem Steps.split {pre post : List Token} {t : Token} (h : Steps s (pre ++ t :: post) final) :
    ∃ before after, Steps s pre before ∧ before.rest.all isBlank = false ∧
      step before = some (some t, after) ∧ Steps after post final := by
  generalize hts : pre ++ t :: post = ts at h
  induction h generalizing pre with
  | refl s => simp at hts
  | @head s next final k ts hmore hstep hrest ih =>
      cases k with
      | none =>
          obtain ⟨before, after, hpre, hafter⟩ := ih hts
          exact ⟨before, after, .head hmore hstep hpre, hafter⟩
      | some k =>
          cases pre with
          | nil =>
              obtain ⟨rfl, rfl⟩ := List.cons.inj hts
              exact ⟨s, next, .refl s, hmore, hstep, hrest⟩
          | cons k' pre =>
              obtain ⟨rfl, htail⟩ := List.cons.inj hts
              obtain ⟨before, after, hpre, hafter⟩ := ih htail
              exact ⟨before, after, .head hmore hstep hpre, hafter⟩

/-! ## Scanning -/

theorem steps_of_scan {fuel : Nat} {acc : List Token} (h : scan fuel s acc = some ts) :
    ∃ final new, Steps s new final ∧ final.IsEnd ∧ ts = acc.reverse ++ new ++ ending final := by
  induction fuel generalizing s acc with
  | zero => cases h
  | succ fuel ih =>
      simp only [scan] at h
      split_ifs at h with hblank hclosed
      · cases h
        exact ⟨s, [], .refl s, ⟨hblank, by simpa using hclosed⟩, by simp⟩
      · split at h
        · cases h
        · rename_i t next hstep
          obtain ⟨final, new, hsteps, hend, hts⟩ := ih h
          have hmore : s.rest.all isBlank = false := by simpa using hblank
          refine ⟨final, t.toList ++ new, .head hmore hstep hsteps, hend, ?_⟩
          cases t <;> simp [hts]

theorem scan_of_steps {fuel : Nat} {acc : List Token} (h : Steps s ts final)
    (hend : final.IsEnd) (hfuel : s.rest.length < fuel) :
    scan fuel s acc = some (acc.reverse ++ ts ++ ending final) := by
  induction h generalizing fuel acc with
  | refl s =>
      obtain ⟨fuel, rfl⟩ : ∃ n, fuel = n + 1 := ⟨fuel - 1, by omega⟩
      obtain ⟨hblank, hclosed⟩ := hend
      simp [scan, hblank, hclosed]
  | @head s next final t ts hmore hstep _ ih =>
      obtain ⟨fuel, rfl⟩ : ∃ n, fuel = n + 1 := ⟨fuel - 1, by omega⟩
      have hless := step_rest hstep
      simp only [scan, hmore, hstep, Bool.false_eq_true, if_false]
      rw [ih hend (by omega)]
      cases t <;> simp

end Steps

/-- The state in front of a text. -/
def State.start (cs : List Char) : State :=
  ⟨⟨1, 0⟩, [], true, cs⟩

end Lexer

/-- **A text is cut into tokens iff steps lead to its end.** -/
theorem tokens_eq_ok_iff {text : String} {ts : List Token} :
    tokens text = .ok ts ↔
      '\x00' ∉ Lines.normalized text.toList ∧
      ∃ final new, Lexer.Steps (.start (Lines.normalized text.toList)) new final ∧
        final.IsEnd ∧ ts = new ++ Lexer.ending final := by
  unfold tokens
  dsimp only
  split_ifs with hnul
  · constructor
    · intro h
      cases h
    · rintro ⟨habsent, -⟩
      exact absurd (List.contains_iff_mem.mp hnul) habsent
  · have habsent : '\x00' ∉ Lines.normalized text.toList :=
      fun h => hnul (List.contains_iff_mem.mpr h)
    constructor
    · intro h
      split at h
      · rename_i ts' hscan
        cases h
        exact ⟨habsent, Lexer.steps_of_scan hscan⟩
      · cases h
    · rintro ⟨-, final, new, hsteps, hend, rfl⟩
      have hscan : Lexer.scan ((Lines.normalized text.toList).length + 1)
          (.start (Lines.normalized text.toList)) [] = some (new ++ Lexer.ending final) :=
        Lexer.scan_of_steps hsteps hend (Nat.lt_succ_self _)
      unfold Lexer.State.start at hscan
      rw [hscan]

/-- **The tokens of a text weigh at most as much as it has characters.** -/
theorem weight_le_length {text : String} {ts : List Token} (h : tokens text = .ok ts) :
    (ts.map fun t => weight t.lexeme).sum ≤ text.toList.length := by
  obtain ⟨-, final, new, hsteps, -, rfl⟩ := tokens_eq_ok_iff.mp h
  obtain ⟨w, hw, -, hweight⟩ := hsteps.rest_append
  have hending : ((Lexer.ending final).map fun t => weight t.lexeme).sum = 0 := by
    unfold Lexer.ending
    split_ifs <;> rfl
  have hlength := congrArg List.length hw
  have hle := Lines.length_normalized_le text.toList
  rw [List.length_append] at hlength
  rw [List.map_append, List.sum_append, hending]
  simp only [Lexer.State.start] at hlength
  omega

end Script
end BuildTransform
