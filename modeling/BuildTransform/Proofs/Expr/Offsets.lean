import BuildTransform.Proofs.Expr.Spans
import BuildTransform.Proofs.Text.LineStarts

/-!
# Offsets of lines and columns

What the line map of a source makes of lines and of columns in bytes.

* `FallsOn` says on which position of a text a column of a line falls, also where
  the column is inside a character or behind the line.
* `fallsOn_indexAt` gives every column of every line such a position.
* `offset_finds_positions` concludes: the line map goes back from the line and the
  column of every position to that position, and keeps the order of lines and
  columns.
-/

namespace BuildTransform
namespace Script

/-- The column `k` of the line `n`, both counted from zero, falls on a position of a
text.

* `le_length`: it is a position of the text.
* `decoded`: on a line, it stands behind the characters that can be read from the
  bytes in front of the column; the line starts where the table of starts says.
* `behind`: behind the last line it is the end.
* `rounded`: inside the bytes of a character of the line it is that character. -/
structure FallsOn (text : List Char) (n k i : Nat) : Prop where
  le_length : i ≤ text.length
  decoded : ∀ line, (Lines.pieces text)[n]? = some line →
    ∃ start, (Lines.startTable 0 (Lines.pieces text))[n]? = some start ∧
      i = start + (Units.decode8 ((Units.encode8 line).take k)).length
  behind : (Lines.pieces text).length ≤ n → i = text.length
  rounded : ∀ j c, Lines.InLine text j n → text[j]? = some c →
    Lines.bytesBefore text n j ≤ k →
    k < Lines.bytesBefore text n j + (String.utf8EncodeChar c).length → i = j

theorem fallsOn_indexAt (text : List Char) (n k : Nat) :
    FallsOn text n k (Lines.indexAt text n k) where
  le_length := Lines.indexAt_le_length
  decoded line hline := by
    obtain ⟨hn, -⟩ := List.getElem?_eq_some_iff.mp hline
    refine ⟨_, Lines.startTable_getElem? hn, ?_⟩
    rw [Lines.indexAt_eq, Lines.lineOf, hline, Option.getD_some, Units.decode8_take,
      List.length_take_of_le Units.floorIndex_le_length, Lines.lineStart, Nat.zero_add]
  behind := Lines.indexAt_of_past
  rounded _ _ := Lines.indexAt_of_within

/-- **The line map finds every position of a source again, from its line and the
bytes in front of it on that line.**  Any line, counted from one, and any column
fall on a position, inside of characters on the character; and a line or a column
further on falls on no earlier one. -/
theorem offset_finds_positions (source : String) :
    (∀ i, i ≤ source.toList.length → ∃! n, Lines.InLine source.toList i n) ∧
    (∀ i n, Lines.InLine source.toList i n →
      (LineMap.ofText source).offset ((n + 1 : Nat) : Int)
        (Lines.bytesBefore source.toList n i : Int) = .ok (i : Int)) ∧
    ∀ n k : Nat, ∃ i : Nat,
      (LineMap.ofText source).offset ((n + 1 : Nat) : Int) (k : Int) = .ok (i : Int) ∧
      FallsOn source.toList n k i ∧
      ∀ n' k' : Nat, toLex (n, k) ≤ toLex (n', k') → ∃ j : Nat,
        (LineMap.ofText source).offset ((n' + 1 : Nat) : Int) (k' : Int) = .ok (j : Int) ∧
        i ≤ j := by
  refine ⟨fun i hi => Lines.existsUnique_inLine hi, ?_, ?_⟩
  · intro i n hline
    rw [offset_eq_indexAt, Lines.indexAt_bytesBefore hline]
  · intro n k
    refine ⟨_, offset_eq_indexAt source n k, fallsOn_indexAt _ n k, ?_⟩
    intro n' k' hle
    exact ⟨_, offset_eq_indexAt source n' k', Lines.indexAt_mono hle⟩

/-- In a source of three lines, of which a line feed behind a carriage return ends the
first and a form feed the second, the end stands behind four bytes of the last line.
Columns inside the two characters of several bytes fall on these characters. -/
theorem wide_characters_found :
    let source := "é\r\nb\x0c😀"
    let lines := LineMap.ofText source
    Lines.InLine source.toList 6 2 ∧ lines.offset 3 4 = .ok 6 ∧
      toLex ((0 : Nat), (1 : Nat)) ≤ toLex (2, 3) ∧
      ∃ i j : Nat, lines.offset 1 1 = .ok (i : Int) ∧ lines.offset 3 3 = .ok (j : Int) ∧
        i ≤ j ∧ i = 0 ∧ j = 5 := by
  intro source lines
  have hsource : source.toList = ['é', '\r', '\n', 'b', '\x0c', '😀'] := String.toList_ofList
  obtain ⟨-, hfound, hfalls⟩ := offset_finds_positions source
  have hend : Lines.InLine source.toList 6 2 := by
    rw [hsource]
    exact .unfinished rfl (fun hfinished => Bool.false_ne_true (hfinished '😀' rfl)) rfl
  have hback := hfound 6 2 hend
  have hbytes : Lines.bytesBefore source.toList 2 6 = 4 := by
    rw [hsource]
    rfl
  rw [hbytes] at hback
  have horder : toLex ((0 : Nat), (1 : Nat)) ≤ toLex (2, 3) :=
    Prod.Lex.toLex_le_toLex.mpr (Or.inl Nat.zero_lt_two)
  obtain ⟨i, hi, hfirst, hmono⟩ := hfalls 0 1
  obtain ⟨j, hj, hlast, -⟩ := hfalls 2 3
  obtain ⟨j', hj', hle⟩ := hmono 2 3 horder
  obtain rfl : j = j' := by
    rw [hj] at hj'
    simpa using hj'
  rw [hsource] at hfirst hlast
  have hzero : i = 0 := hfirst.rounded 0 'é' (.inside le_rfl (Nat.zero_lt_succ 2)) rfl
    (Nat.zero_le 1) (Nat.lt_succ_self 1)
  have hfive : j = 5 := hlast.rounded 5 '😀' (.inside le_rfl (Nat.lt_succ_self 5)) rfl
    (Nat.zero_le 3) (Nat.lt_succ_self 3)
  exact ⟨hend, hback, horder, i, j, hi, hj, hle, hzero, hfive⟩

end Script
end BuildTransform
