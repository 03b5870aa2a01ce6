import BuildTransform.Proofs.Text.Positions
import BuildTransform.Script.Token

/-!
# Marks in scripts

The marks that the parser of scripts gives to the positions of a source.

* `markAt` counts the lines and the bytes of the source itself.
* `markAt_eq_after` shows that this is the mark at which reading arrives, where
  every line break was written as a line feed before: only a position inside a
  line break of two characters has no such mark.
-/

namespace BuildTransform

namespace Lines

/-- Line breaks are rewritten one character at a time. -/
theorem normalized_cons (c : Char) (rest : List Char) :
    normalized (c :: rest) =
      if endsLine isEnding c rest then '\n' :: normalized rest
      else if c = '\r' then normalized rest
      else c :: normalized rest := by
  by_cases hfeed : c = '\n'
  · subst hfeed
    simp [normalized, endsLine, isEnding]
  · by_cases hreturn : c = '\r'
    · subst hreturn
      by_cases hhead : rest.head? = some '\n'
      · obtain ⟨rest, rfl⟩ := List.head?_eq_some_iff.mp hhead
        have hfirst : normalized ('\n' :: rest) = '\n' :: normalized rest := by
          simp [normalized]
        simp [normalized, endsLine, hfirst]
      · rw [normalized, if_pos (by simp [endsLine, isEnding, hhead])]
        rintro rest' rfl
        exact hhead rfl
    · have hend : ¬ endsLine isEnding c rest = true := by
        simp [endsLine, isEnding, hfeed, hreturn]
      rw [if_neg hend, if_neg hreturn, normalized]
      · exact fun _ h => absurd h hreturn
      · exact hreturn

/-- The position is between a carriage return and its line feed. -/
def InsideBreak (cs : List Char) (i : Nat) : Prop :=
  ∃ j, i = j + 1 ∧ cs[j]? = some '\r' ∧ cs[j + 1]? = some '\n'

theorem InsideBreak.cons {cs : List Char} {i : Nat} (c : Char)
    (h : InsideBreak cs i) :
    InsideBreak (c :: cs) (i + 1) := by
  obtain ⟨j, rfl, hj, hj'⟩ := h
  exact ⟨j + 1, rfl, by simpa using hj, by simpa using hj'⟩

/-- Cutting a text off elsewhere than inside a line break keeps its line ends. -/
theorem endsLine_take {p : Char → Bool} {c : Char} {rest : List Char} {i : Nat}
    (h : ¬ InsideBreak (c :: rest) (i + 1)) :
    endsLine p c (rest.take i) = endsLine p c rest := by
  cases i with
  | zero =>
      have hno : c = '\r' → ¬ rest.head? = some '\n' := by
        rintro rfl hhead
        exact h ⟨0, rfl, rfl, by rw [← hhead, List.head?_eq_getElem?]; rfl⟩
      by_cases hreturn : c = '\r'
      · simp [endsLine, hno hreturn]
      · simp [endsLine, hreturn]
  | succ i => simp [endsLine, List.head?_take]

end Lines

namespace Script

/-- The mark of a position in a source: its line, counted from one, and the
bytes in front of it on that line. -/
def markAt (source : String) (i : Nat) : Mark :=
  ⟨Lines.lineAt Lines.isEnding source.toList i + 1,
    Lines.columnAt Lines.isEnding source.toList i⟩

theorem after_feed (m : Mark) (cs : List Char) :
    m.after ('\n' :: cs) = Mark.after ⟨m.line + 1, 0⟩ cs := by
  simp [Mark.after]

theorem after_cons {c : Char} (m : Mark) (cs : List Char)
    (hc : c ≠ '\n') :
    m.after (c :: cs) = Mark.after ⟨m.line, m.column + Units.width8 c⟩ cs := by
  simp [Mark.after, hc]

/-- Reading on from a mark counts lines on, and columns on its own line. -/
theorem after_normalized {cs : List Char} {i : Nat} (m : Mark)
    (h : ¬ Lines.InsideBreak cs i) :
    m.after (Lines.normalized (cs.take i)) =
      ⟨m.line + Lines.lineAt Lines.isEnding cs i,
        (if Lines.lineAt Lines.isEnding cs i = 0 then m.column else 0) +
          Lines.columnAt Lines.isEnding cs i⟩ := by
  induction cs generalizing i m with
  | nil => simp [Lines.lineAt, Lines.columnAt, Lines.normalized, Mark.after]
  | cons c rest ih =>
      cases i with
      | zero => simp [Lines.normalized, Mark.after]
      | succ i =>
          have hrest : ¬ Lines.InsideBreak rest i := fun hi => h (hi.cons c)
          rw [List.take_succ_cons, Lines.normalized_cons, Lines.endsLine_take h]
          by_cases hend : Lines.endsLine Lines.isEnding c rest = true
          · rw [if_pos hend, after_feed, ih _ hrest, Lines.lineAt_of_end hend,
              Lines.columnAt_of_end hend]
            simp
            omega
          · rw [if_neg hend, Lines.lineAt_of_not_end hend]
            by_cases hreturn : c = '\r'
            · -- The line feed behind the carriage return ends the line.
              subst hreturn
              have hhead : rest.head? = some '\n' := by
                simpa [Lines.endsLine, Lines.isEnding] using hend
              obtain ⟨rest, rfl⟩ := List.head?_eq_some_iff.mp hhead
              cases i with
              | zero => exact absurd ⟨0, rfl, rfl, rfl⟩ h
              | succ i =>
                  have hline :
                      Lines.lineAt Lines.isEnding ('\n' :: rest) (i + 1) ≠ 0 := by
                    simp [Lines.lineAt, Lines.endsLine, Lines.isEnding]
                  rw [if_pos rfl, ih _ hrest, Lines.columnAt_of_later_line hline]
            · have hc : c ≠ '\n' := by
                rintro rfl
                simp [Lines.endsLine, Lines.isEnding] at hend
              rw [if_neg hreturn, after_cons m _ hc, ih _ hrest]
              by_cases hline : Lines.lineAt Lines.isEnding rest i = 0
              · rw [Lines.columnAt_of_first_line hend hline]
                simp only [hline, if_true]
                congr 1
                omega
              · rw [Lines.columnAt_of_later_line hline]
                simp only [hline, if_false]

/-- The mark of a position is the one at which reading up to it arrives. -/
theorem markAt_eq_after {source : String} {i : Nat}
    (h : ¬ Lines.InsideBreak source.toList i) :
    markAt source i =
      Mark.after ⟨1, 0⟩ (Lines.normalized (source.toList.take i)) := by
  rw [after_normalized ⟨1, 0⟩ h, markAt]
  simp [Nat.add_comm]

end Script
end BuildTransform
