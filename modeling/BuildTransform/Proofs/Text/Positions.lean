import BuildTransform.Text.Lines
import BuildTransform.Text.Units
import Mathlib.Tactic

/-!
# Lines and columns

Positions in a text, given by a line and a column in bytes, both from zero.

Where the lines of a text end depends on the characters that are taken for
breaks.  A carriage return in front of a line feed ends no line by itself.

* `lineAt` and `columnAt` give the line and the column of a position.
* `indexAt` goes back to a position, where lines end at any break.
* `indexAt_eq_iff` compares the two for a position whose line and column were
  counted where lines end only at line feeds and carriage returns: the position
  comes back unless some other break stands before it.
-/

open BuildTransform.Units

namespace BuildTransform
namespace Lines

/-- The characters that end the lines of a script. -/
def isEnding (c : Char) : Bool :=
  c == '\n' || c == '\r'

/-- The characters that end a line of a text, but none of a script. -/
def isStray (c : Char) : Bool :=
  isBreak c && !isEnding c

/-- A line ends behind a character that is taken for a break and that is no
carriage return in front of a line feed. -/
def endsLine (p : Char → Bool) (c : Char) (rest : List Char) : Bool :=
  p c && !(c == '\r' && rest.head? == some '\n')

/-- The number of lines that end before a position. -/
def lineAt (p : Char → Bool) : List Char → Nat → Nat
  | c :: rest, i + 1 => lineAt p rest i + if endsLine p c rest then 1 else 0
  | _, _ => 0

/-- The number of bytes between the start of the line of a position and the
position. -/
def columnAt (p : Char → Bool) : List Char → Nat → Nat
  | c :: rest, i + 1 =>
      if endsLine p c rest = true ∨ lineAt p rest i ≠ 0 then columnAt p rest i
      else columnAt p rest i + width8 c
  | _, _ => 0

/-- The position of a column in a line, where lines end at any break.  Columns
past the end of the line fall on its end, and lines past the last one on the
end of the text. -/
def indexAt : List Char → Nat → Nat → Nat
  | [], _, _ => 0
  | c :: rest, 0, k =>
      if width8 c ≤ k then
        if endsLine isBreak c rest then 1 else indexAt rest 0 (k - width8 c) + 1
      else 0
  | c :: rest, l + 1, k =>
      indexAt rest (if endsLine isBreak c rest then l else l + 1) k + 1

/-! ## The lines of a text as pieces -/

/-- Cutting a text into lines, one character at a time. -/
theorem pieces_cons (c : Char) (rest : List Char) :
    pieces (c :: rest) =
      if endsLine isBreak c rest then [c] :: pieces rest
      else onFirst c (pieces rest) := by
  by_cases hcrlf : c = '\r' ∧ rest.head? = some '\n'
  · obtain ⟨rfl, hrest⟩ := hcrlf
    obtain ⟨rest, rfl⟩ := List.head?_eq_some_iff.mp hrest
    have hfeed : pieces ('\n' :: rest) = ['\n'] :: pieces rest := by
      simp [pieces, isBreak]
    simp [pieces, endsLine, hfeed, onFirst]
  · have hfalse : (c == '\r' && rest.head? == some '\n') = false := by
      simpa using hcrlf
    rw [endsLine, hfalse, Bool.not_false, Bool.and_true, pieces]
    rintro rest' rfl rfl
    exact hcrlf ⟨rfl, rfl⟩

/-- The position of a column in one of several lines. -/
def indexIn (lines : List (List Char)) (l k : Nat) : Nat :=
  (lines.take l).flatten.length + floorIndex width8 (lines[l]?.getD []) k

theorem indexIn_cons_zero (line : List Char) (lines : List (List Char))
    (k : Nat) :
    indexIn (line :: lines) 0 k = floorIndex width8 line k := by
  simp [indexIn]

theorem indexIn_cons_succ (line : List Char) (lines : List (List Char))
    (l k : Nat) :
    indexIn (line :: lines) (l + 1) k = indexIn lines l k + line.length := by
  simp [indexIn]
  omega

/-- A character in front of the first line is in front of all positions. -/
theorem indexIn_onFirst_succ (c : Char) (lines : List (List Char)) (l k : Nat) :
    indexIn (onFirst c lines) (l + 1) k = indexIn lines (l + 1) k + 1 := by
  cases lines with
  | nil => simp [onFirst, indexIn, floorIndex]
  | cons line lines =>
      simp only [onFirst, indexIn_cons_succ, List.length_cons]
      omega

theorem indexIn_onFirst_zero (c : Char) (lines : List (List Char)) (k : Nat) :
    indexIn (onFirst c lines) 0 k =
      if width8 c ≤ k then indexIn lines 0 (k - width8 c) + 1 else 0 := by
  cases lines <;> simp [onFirst, indexIn, floorIndex]

/-- Positions in a text are positions in its lines. -/
theorem indexIn_pieces (cs : List Char) (l k : Nat) :
    indexIn (pieces cs) l k = indexAt cs l k := by
  induction cs generalizing l k with
  | nil => simp [pieces, indexIn, indexAt, floorIndex]
  | cons c rest ih =>
      rw [pieces_cons]
      cases l with
      | zero =>
          split_ifs with hend
          · simp [indexIn_cons_zero, indexAt, hend, floorIndex]
          · simp [indexIn_onFirst_zero, indexAt, hend, ih]
      | succ l =>
          split_ifs with hend
          · simp [indexIn_cons_succ, indexAt, hend, ih]
          · simp [indexIn_onFirst_succ, indexAt, hend, ih]

/-! ## One character at a time -/

theorem one_le_width8 (c : Char) : 1 ≤ width8 c := by
  simp only [width8]
  split_ifs <;> omega

section Steps

variable {p : Char → Bool} {c : Char} {cs rest : List Char} {i : Nat}

@[simp] theorem lineAt_zero : lineAt p cs 0 = 0 := by
  cases cs <;> rfl

@[simp] theorem columnAt_zero : columnAt p cs 0 = 0 := by
  cases cs <;> rfl

theorem lineAt_of_end
    (h : endsLine p c rest = true) :
    lineAt p (c :: rest) (i + 1) = lineAt p rest i + 1 := by
  rw [lineAt, if_pos h]

theorem lineAt_of_not_end
    (h : ¬ endsLine p c rest = true) :
    lineAt p (c :: rest) (i + 1) = lineAt p rest i := by
  rw [lineAt, if_neg h, Nat.add_zero]

theorem columnAt_of_end
    (h : endsLine p c rest = true) :
    columnAt p (c :: rest) (i + 1) = columnAt p rest i := by
  rw [columnAt, if_pos (Or.inl h)]

/-- Behind the first line a character in front of it does not count. -/
theorem columnAt_of_later_line
    (h : lineAt p rest i ≠ 0) :
    columnAt p (c :: rest) (i + 1) = columnAt p rest i := by
  rw [columnAt, if_pos (Or.inr h)]

/-- On the first line a character counts with its width. -/
theorem columnAt_of_first_line
    (h : ¬ endsLine p c rest = true)
    (hline : lineAt p rest i = 0) :
    columnAt p (c :: rest) (i + 1) = columnAt p rest i + width8 c := by
  rw [columnAt, if_neg (by simp [h, hline])]

theorem pos_of_lineAt_pos
    (h : 0 < lineAt p cs i) :
    0 < i := by
  rcases Nat.eq_zero_or_pos i with rfl | hi
  · simp at h
  · exact hi

theorem pos_of_columnAt_pos
    (h : 0 < columnAt p cs i) :
    0 < i := by
  rcases Nat.eq_zero_or_pos i with rfl | hi
  · simp at h
  · exact hi

/-! ## Going back to a position -/

@[simp] theorem indexAt_zero : indexAt cs 0 0 = 0 := by
  cases cs with
  | nil => rfl
  | cons c rest =>
      have := one_le_width8 c
      rw [indexAt, if_neg (by omega)]

/-- A character at which both ways of cutting a text into lines agree is in
front of a position before and after. -/
theorem indexAt_step
    (h : endsLine p c rest = endsLine isBreak c rest) :
    indexAt (c :: rest) (lineAt p (c :: rest) (i + 1))
        (columnAt p (c :: rest) (i + 1)) =
      indexAt rest (lineAt p rest i) (columnAt p rest i) + 1 := by
  by_cases hend : endsLine p c rest = true
  · rw [lineAt_of_end hend, columnAt_of_end hend, indexAt, if_pos (h ▸ hend)]
  · have hbreak : ¬ endsLine isBreak c rest = true := h ▸ hend
    rw [lineAt_of_not_end hend]
    rcases hline : lineAt p rest i with _ | l
    · rw [columnAt_of_first_line hend hline, indexAt,
        if_pos (Nat.le_add_left _ _), if_neg hbreak, Nat.add_sub_cancel]
    · rw [columnAt_of_later_line (by omega), indexAt, if_neg hbreak]

end Steps

/-! ## Lines of scripts -/

section Scripts

variable {c : Char} {cs rest : List Char} {i : Nat}

/-- A break ends a line of a text if it ends one of a script or is stray. -/
theorem endsLine_isBreak (c : Char) (rest : List Char) :
    endsLine isBreak c rest = (endsLine isEnding c rest || isStray c) := by
  by_cases hfeed : c = '\n'
  · subst hfeed
    simp [endsLine, isBreak, isEnding, isStray]
  · by_cases hreturn : c = '\r'
    · subst hreturn
      simp [endsLine, isBreak, isEnding, isStray]
    · have hfeed := beq_eq_false_iff_ne.mpr hfeed
      have hreturn := beq_eq_false_iff_ne.mpr hreturn
      simp [endsLine, isEnding, isStray, hfeed, hreturn]

/-- A stray break ends no line of a script. -/
theorem not_endsLine_of_isStray
    (h : isStray c = true) :
    ¬ endsLine isEnding c rest = true := by
  simp only [isStray, Bool.and_eq_true, Bool.not_eq_true'] at h
  simp [endsLine, h.2]

/-- A stray break stands before a position, and not directly before it. -/
def StrayBefore (cs : List Char) (i : Nat) : Prop :=
  ∃ c, c ∈ cs.take (i - 1) ∧ isStray c = true

@[simp] theorem not_strayBefore_zero : ¬ StrayBefore cs 0 := by
  simp [StrayBefore]

/-- A text without stray breaks has none before any of its positions. -/
theorem not_strayBefore_of_any
    (h : cs.any isStray = false)
    (i : Nat) :
    ¬ StrayBefore cs i := by
  rintro ⟨c, hc, hstray⟩
  exact List.any_eq_false.mp h c (List.mem_of_mem_take hc) hstray

theorem strayBefore_cons :
    StrayBefore (c :: rest) (i + 1) ↔
      (0 < i ∧ isStray c = true) ∨ StrayBefore rest i := by
  cases i <;> simp [StrayBefore]

theorem StrayBefore.mono {j : Nat}
    (h : StrayBefore cs i)
    (hij : i ≤ j) :
    StrayBefore cs j := by
  obtain ⟨c, hc, hstray⟩ := h
  have hsub : i - 1 ≤ j - 1 := Nat.sub_le_sub_right hij 1
  exact ⟨c, List.take_subset_take_left cs hsub hc, hstray⟩

/-- A line of a text that comes before the line of a script in which a position
is lies before the position. -/
theorem indexAt_lt_of_line_lt {l k : Nat}
    (hl : l < lineAt isEnding cs i)
    (hk : k ≤ columnAt isEnding cs i) :
    indexAt cs l k < i := by
  induction cs generalizing i l k with
  | nil => simp [lineAt] at hl
  | cons c rest ih =>
      cases i with
      | zero => simp at hl
      | succ i =>
          by_cases hend : endsLine isEnding c rest = true
          · have hbreak : endsLine isBreak c rest = true := by
              simp [endsLine_isBreak, hend]
            rw [lineAt_of_end hend] at hl
            rw [columnAt_of_end hend] at hk
            cases l with
            | zero =>
                -- A column past the break is past the start of the next line.
                have hwidth := one_le_width8 c
                simp only [indexAt, hbreak, if_true]
                split_ifs with hc
                · have := pos_of_columnAt_pos (Nat.lt_of_lt_of_le hwidth (hc.trans hk))
                  omega
                · omega
            | succ l =>
                have := ih (Nat.lt_of_succ_lt_succ hl) hk
                simp only [indexAt, hbreak, if_true]
                omega
          · rw [lineAt_of_not_end hend] at hl
            have hline : 0 < lineAt isEnding rest i := Nat.zero_lt_of_lt hl
            have hpos := pos_of_lineAt_pos hline
            rw [columnAt_of_later_line (Nat.ne_of_gt hline)] at hk
            cases l with
            | zero =>
                have := ih hl ((Nat.sub_le k (width8 c)).trans hk)
                simp only [indexAt]
                split_ifs <;> omega
            | succ l =>
                have hsame := ih hl hk
                have hearlier := ih (Nat.lt_of_succ_lt hl) hk
                simp only [indexAt]
                split_ifs <;> omega

/-- Behind a stray break only the position directly behind it is found again. -/
theorem indexAt_stray_iff
    (h : isStray c = true) :
    indexAt (c :: rest) (lineAt isEnding (c :: rest) (i + 1))
        (columnAt isEnding (c :: rest) (i + 1)) = i + 1 ↔ i = 0 := by
  have hend : ¬ endsLine isEnding c rest = true := not_endsLine_of_isStray h
  have hbreak : endsLine isBreak c rest = true := by
    simp [endsLine_isBreak, h]
  rw [lineAt_of_not_end hend]
  rcases hline : lineAt isEnding rest i with _ | l
  · rw [columnAt_of_first_line hend hline, indexAt,
      if_pos (Nat.le_add_left _ _), if_pos hbreak]
    omega
  · have hl : l < lineAt isEnding rest i := by omega
    have hpos := pos_of_lineAt_pos (Nat.zero_lt_of_lt hl)
    have hlag : indexAt rest l (columnAt isEnding rest i) < i :=
      indexAt_lt_of_line_lt hl le_rfl
    rw [columnAt_of_later_line (by omega), indexAt, if_pos hbreak]
    omega

/-- **A position is found again from its line and column in a script iff no
stray break stands before it**, except directly before it. -/
theorem indexAt_eq_iff
    (hi : i ≤ cs.length) :
    indexAt cs (lineAt isEnding cs i) (columnAt isEnding cs i) = i ↔
      ¬ StrayBefore cs i := by
  induction cs generalizing i with
  | nil =>
      obtain rfl : i = 0 := by simpa using hi
      simp
  | cons c rest ih =>
      cases i with
      | zero => simp
      | succ i =>
          rw [strayBefore_cons]
          by_cases hstray : isStray c = true
          · rw [indexAt_stray_iff hstray]
            rcases Nat.eq_zero_or_pos i with rfl | hpos
            · simp
            · simp [hstray, hpos, Nat.ne_of_gt hpos]
          · have hsame : endsLine isEnding c rest = endsLine isBreak c rest := by
              simp [endsLine_isBreak, hstray]
            rw [indexAt_step hsame, Nat.add_right_cancel_iff,
              ih (by simpa using hi)]
            simp [hstray]

end Scripts

end Lines
end BuildTransform
