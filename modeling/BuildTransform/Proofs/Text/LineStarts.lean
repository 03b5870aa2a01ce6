import BuildTransform.Proofs.Text.Bytes
import BuildTransform.Proofs.Text.Positions
import Mathlib.Data.Prod.Lex

/-!
# Lines of positions

The lines in which the positions of a text stand, and the positions on which
lines and columns in bytes fall, where lines end at any break.

* `lineStart` is the number of characters in front of a line, and `startTable`
  collects these numbers in a loop over the lines.
* `InLine` says in which line a position stands, and `existsUnique_inLine` that
  this is one line for every position.
* `indexAt_bytesBefore` finds a position again from its line and the bytes in
  front of it on that line.
* `lineStart_le_indexAt` and `indexAt_le_lineStart` keep every column of a line
  between the start of the line and that of the next one; `indexAt_mono` follows.
* `indexAt_of_within` takes a column inside a character down to that character.
-/

open BuildTransform.Units

namespace BuildTransform
namespace Lines

/-- The characters of a line; there are none behind the last line. -/
def lineOf (cs : List Char) (n : Nat) : List Char :=
  (pieces cs)[n]?.getD []

/-- The number of characters in front of a line. -/
def lineStart (cs : List Char) (n : Nat) : Nat :=
  ((pieces cs).take n).flatten.length

/-- The numbers of characters in front of the lines, as a loop over the lines
collects them. -/
def startTable (start : Nat) : List (List Char) → List Nat
  | [] => []
  | line :: lines => start :: startTable (start + line.length) lines

/-- The text is empty or ends with a line break. -/
def Finished (cs : List Char) : Prop :=
  ∀ c, cs.getLast? = some c → isBreak c = true

/-- The position stands in a line.  The end of a text stands in its last line,
unless that line is finished: then it stands in the line behind it. -/
inductive InLine (cs : List Char) (i : Nat) : Nat → Prop
  | inside {n : Nat}
      (hstart : lineStart cs n ≤ i)
      (hstop : i < lineStart cs (n + 1)) :
      InLine cs i n
  | unfinished {n : Nat}
      (hend : i = cs.length)
      (hopen : ¬ Finished cs)
      (hlast : (pieces cs).length = n + 1) :
      InLine cs i n
  | finished
      (hend : i = cs.length)
      (hfinished : Finished cs) :
      InLine cs i (pieces cs).length

/-- The number of bytes between the start of a line and a position. -/
def bytesBefore (cs : List Char) (n i : Nat) : Nat :=
  (encode8 ((cs.take i).drop (lineStart cs n))).length

/-! ## Starts of lines -/

section Starts

variable {cs : List Char} {lines : List (List Char)} {c : Char} {start i m n : Nat}

/-- The table has the number of characters in front of a line at its index. -/
theorem startTable_getElem? (hn : n < lines.length) :
    (startTable start lines)[n]? = some (start + (lines.take n).flatten.length) := by
  induction lines generalizing start n with
  | nil => simp at hn
  | cons line lines ih =>
      cases n with
      | zero => simp [startTable]
      | succ n =>
          rw [startTable, List.getElem?_cons_succ, ih (by simpa using hn), List.take_succ_cons,
            List.flatten_cons, List.length_append, Nat.add_assoc]

theorem flatten_onFirst : (onFirst c lines).flatten = c :: lines.flatten := by
  cases lines <;> rfl

/-- The lines put together are the text. -/
theorem flatten_pieces (cs : List Char) : (pieces cs).flatten = cs := by
  induction cs with
  | nil => rfl
  | cons c rest ih =>
      rw [pieces_cons]
      split_ifs
      · rw [List.flatten_cons, ih, List.singleton_append]
      · rw [flatten_onFirst, ih]

@[simp] theorem lineStart_zero : lineStart cs 0 = 0 := rfl

/-- A line behind the last one starts at the end of the text. -/
theorem lineStart_of_past (h : (pieces cs).length ≤ n) : lineStart cs n = cs.length := by
  rw [lineStart, List.take_of_length_le h, flatten_pieces]

/-- The next line starts behind the characters of a line. -/
theorem lineStart_succ : lineStart cs (n + 1) = lineStart cs n + (lineOf cs n).length := by
  rw [lineStart, List.take_add_one, List.flatten_append, List.length_append, lineStart, lineOf]
  cases (pieces cs)[n]? <;> simp

theorem lineStart_mono (h : m ≤ n) : lineStart cs m ≤ lineStart cs n :=
  monotone_nat_of_le_succ (f := lineStart cs)
    (fun _ => lineStart_succ ▸ Nat.le_add_right _ _) h

theorem lineStart_le_length : lineStart cs n ≤ cs.length := by
  rw [← lineStart_of_past (n := n + (pieces cs).length) (Nat.le_add_left _ _)]
  exact lineStart_mono (Nat.le_add_right _ _)

/-- From the start of a line on the text begins with that line. -/
theorem drop_lineStart :
    cs.drop (lineStart cs n) = lineOf cs n ++ ((pieces cs).drop (n + 1)).flatten := by
  have hsplit : cs = ((pieces cs).take n).flatten ++ ((pieces cs).drop n).flatten := by
    rw [← List.flatten_append, List.take_append_drop, flatten_pieces]
  rw [lineStart]
  nth_rewrite 2 [hsplit]
  rw [List.drop_left, List.drop_eq_getElem?_toList_append, List.flatten_append, lineOf]
  cases (pieces cs)[n]? <;> simp

/-- In front of a position that is not behind a line stand the bytes of the first
characters of the line. -/
theorem bytesBefore_eq (hi : i ≤ lineStart cs (n + 1)) :
    bytesBefore cs n i = total width8 ((lineOf cs n).take (i - lineStart cs n)) := by
  rw [lineStart_succ] at hi
  rw [bytesBefore, length_encode8, List.drop_take, drop_lineStart,
    List.take_append_of_le_length (by omega)]

/-- A character adds its bytes to those in front of it. -/
theorem bytesBefore_succ
    (hc : cs[i]? = some c)
    (hstart : lineStart cs n ≤ i) :
    bytesBefore cs n (i + 1) = bytesBefore cs n i + (String.utf8EncodeChar c).length := by
  obtain ⟨hi, -⟩ := List.getElem?_eq_some_iff.mp hc
  have hlength : lineStart cs n ≤ (cs.take i).length := by
    rw [List.length_take_of_le hi.le]
    exact hstart
  rw [bytesBefore, List.take_add_one, hc, Option.toList_some,
    List.drop_append_of_le_length hlength, encode8, List.flatMap_append, List.length_append,
    List.flatMap_singleton, bytesBefore, encode8]

end Starts

/-! ## The line of a position -/

section Places

variable {cs : List Char} {i m n : Nat}

theorem InLine.lineStart_le (h : InLine cs i n) : lineStart cs n ≤ i := by
  cases h with
  | inside hstart => exact hstart
  | unfinished hend => exact hend ▸ lineStart_le_length
  | finished hend => exact hend ▸ lineStart_le_length

/-- A character stands in front of the next line. -/
theorem InLine.lt_lineStart (h : InLine cs i n) (hi : i < cs.length) :
    i < lineStart cs (n + 1) := by
  cases h with
  | inside _ hstop => exact hstop
  | unfinished hend => exact absurd hend hi.ne
  | finished hend => exact absurd hend hi.ne

theorem InLine.le_lineStart (h : InLine cs i n) : i ≤ lineStart cs (n + 1) := by
  cases h with
  | inside _ hstop => exact hstop.le
  | unfinished hend _ hlast => rw [hend, lineStart_of_past hlast.le]
  | finished hend => rw [hend, lineStart_of_past (Nat.le_succ _)]

theorem exists_inLine (hi : i ≤ cs.length) : ∃ n, InLine cs i n := by
  rcases hi.lt_or_eq with hlt | hend
  · -- The line stands before the first one that starts behind the position.
    have hlater : ∃ n, i < lineStart cs n :=
      ⟨(pieces cs).length, by rwa [lineStart_of_past le_rfl]⟩
    have hspec := Nat.find_spec hlater
    cases hfirst : Nat.find hlater with
    | zero =>
        rw [hfirst, lineStart_zero] at hspec
        exact absurd hspec (Nat.not_lt_zero i)
    | succ n =>
        rw [hfirst] at hspec
        exact ⟨n, .inside (Nat.le_of_not_lt (Nat.find_min hlater (by omega))) hspec⟩
  · by_cases hfinished : Finished cs
    · exact ⟨_, .finished hend hfinished⟩
    · cases hlines : pieces cs with
      | nil =>
          have hempty := flatten_pieces cs
          rw [hlines] at hempty
          exact absurd (by simp [← hempty, Finished]) hfinished
      | cons line lines =>
          exact ⟨lines.length, .unfinished hend hfinished (by rw [hlines, List.length_cons])⟩

/-- The end of a text stands in front of no line. -/
theorem not_lt_lineStart_of_end (hend : i = cs.length) : ¬ i < lineStart cs n :=
  Nat.not_lt.mpr (hend ▸ lineStart_le_length)

theorem InLine.le (hm : InLine cs i m) (hn : InLine cs i n) : m ≤ n := by
  cases hn with
  | inside _ hstop =>
      by_contra hlt
      have hlater : lineStart cs (n + 1) ≤ lineStart cs m := lineStart_mono (by omega)
      have hstart := hm.lineStart_le
      omega
  | unfinished hend hopen hlast =>
      cases hm with
      | inside _ hstop => exact absurd hstop (not_lt_lineStart_of_end hend)
      | unfinished _ _ hlast' => omega
      | finished _ hfinished => exact absurd hfinished hopen
  | finished hend hfinished =>
      cases hm with
      | inside _ hstop => exact absurd hstop (not_lt_lineStart_of_end hend)
      | unfinished _ hopen => exact absurd hfinished hopen
      | finished => exact le_rfl

/-- Every position stands in one line. -/
theorem existsUnique_inLine (hi : i ≤ cs.length) : ∃! n, InLine cs i n := by
  obtain ⟨n, hn⟩ := exists_inLine hi
  exact ⟨n, hn, fun _ hm => le_antisymm (hm.le hn) (hn.le hm)⟩

end Places

/-! ## The position of a column -/

section Columns

variable {cs : List Char} {c : Char} {i k k' n n' : Nat}

/-- A column falls behind the characters of its line that its bytes are enough for. -/
theorem indexAt_eq : indexAt cs n k = lineStart cs n + floorIndex width8 (lineOf cs n) k :=
  (indexIn_pieces cs n k).symm

theorem indexAt_of_past (h : (pieces cs).length ≤ n) : indexAt cs n k = cs.length := by
  rw [indexAt_eq, lineOf, List.getElem?_eq_none h, Option.getD_none, floorIndex, Nat.add_zero,
    lineStart_of_past h]

/-- No column of a line falls in front of the line. -/
theorem lineStart_le_indexAt : lineStart cs n ≤ indexAt cs n k := by
  rw [indexAt_eq]
  exact Nat.le_add_right _ _

/-- No column of a line falls behind the start of the next line. -/
theorem indexAt_le_lineStart : indexAt cs n k ≤ lineStart cs (n + 1) := by
  rw [indexAt_eq, lineStart_succ]
  exact Nat.add_le_add_left floorIndex_le_length _

theorem indexAt_le_length : indexAt cs n k ≤ cs.length :=
  indexAt_le_lineStart.trans lineStart_le_length

/-- Lines and columns are mapped to positions in their order. -/
theorem indexAt_mono (h : toLex (n, k) ≤ toLex (n', k')) :
    indexAt cs n k ≤ indexAt cs n' k' := by
  rcases Prod.Lex.toLex_le_toLex.mp h with hlt | ⟨heq, hle⟩
  · calc
      indexAt cs n k ≤ lineStart cs (n + 1) := indexAt_le_lineStart
      _ ≤ lineStart cs n' := lineStart_mono hlt
      _ ≤ indexAt cs n' k' := lineStart_le_indexAt
  · obtain rfl : n = n' := heq
    rw [indexAt_eq, indexAt_eq]
    exact Nat.add_le_add_left (floorIndex_mono hle) _

/-- **A position is found again from its line and the bytes in front of it.** -/
theorem indexAt_bytesBefore (h : InLine cs i n) : indexAt cs n (bytesBefore cs n i) = i := by
  have hstart := h.lineStart_le
  have hstop := h.le_lineStart
  have hat : At width8 (lineOf cs n) (i - lineStart cs n) (bytesBefore cs n i) := by
    refine ⟨?_, (bytesBefore_eq hstop).symm⟩
    rw [lineStart_succ] at hstop
    omega
  rw [indexAt_eq, floorIndex_eq one_le_width8 hat]
  omega

/-- A column inside a character falls on that character. -/
theorem indexAt_of_within
    (h : InLine cs i n)
    (hc : cs[i]? = some c)
    (hk : bytesBefore cs n i ≤ k)
    (hk' : k < bytesBefore cs n i + (String.utf8EncodeChar c).length) :
    indexAt cs n k = i := by
  obtain ⟨hi, -⟩ := List.getElem?_eq_some_iff.mp hc
  have hstart := h.lineStart_le
  have hstop := h.lt_lineStart hi
  rw [← bytesBefore_succ hc hstart, bytesBefore_eq hstop, Nat.succ_sub hstart] at hk'
  rw [bytesBefore_eq hstop.le] at hk
  have hfloor : IsFloor width8 (lineOf cs n) k (i - lineStart cs n) := by
    refine isFloor_of_within ?_ hk hk'
    rw [lineStart_succ] at hstop
    omega
  rw [indexAt_eq, isFloor_iff.mp hfloor]
  omega

end Columns

end Lines
end BuildTransform
