import BuildTransform.Proofs.Text.Units

/-!
# Floors of unit positions

The position that a number of units falls on, also where no position has exactly
that many units in front of it.

* `IsFloor` says that a position is the last one with at most `u` units in front of
  it, and `isFloor_iff` that `floorIndex` finds it.
* `floorTable` lists the floors of all numbers of units, as a loop over the
  characters collects them; `floorTable_getElem?` reads it.
* `encode16` writes a text in 16-bit units, and `encode16_slice` cuts the units
  between two positions out of it.
-/

namespace BuildTransform
namespace Units

/-- `i` is the last position of a text with at most `u` units in front of it. -/
structure IsFloor (width : Char → Nat) (cs : List Char) (u i : Nat) : Prop where
  le_length : i ≤ cs.length
  total_le : total width (cs.take i) ≤ u
  greatest : ∀ j, j ≤ cs.length → total width (cs.take j) ≤ u → j ≤ i

section Floors

variable {width : Char → Nat} {cs : List Char} {i j u v : Nat}

/-- The units in front of a position are counted in the text up to a later one. -/
theorem At.take (hi : At width cs i u) (hij : i ≤ j) (hj : j ≤ cs.length) :
    At width (cs.take j) i u := by
  refine ⟨?_, ?_⟩
  · rw [List.length_take]
    exact le_min hij (hij.trans hj)
  · rw [List.take_take, min_eq_left hij, hi.total_eq]

/-- In front of a later position stand no fewer units. -/
theorem At.le_of_le (hi : At width cs i u) (hj : At width cs j v) (hij : i ≤ j) : u ≤ v := by
  rw [← hj.total_eq]
  exact (hi.take hij hj.le_length).le_total

theorem floorIndex_le_length : floorIndex width cs u ≤ cs.length := by
  induction cs generalizing u with
  | nil => exact le_refl 0
  | cons c cs ih =>
      rw [floorIndex]
      split_ifs
      · exact Nat.succ_le_succ ih
      · exact Nat.zero_le _

theorem total_take_floorIndex_le : total width (cs.take (floorIndex width cs u)) ≤ u := by
  induction cs generalizing u with
  | nil => exact Nat.zero_le u
  | cons c cs ih =>
      rw [floorIndex]
      split_ifs with hwidth
      · have hrest := ih (u := u - width c)
        rw [List.take_succ_cons, total]
        omega
      · exact Nat.zero_le u

theorem le_floorIndex (hj : j ≤ cs.length) (htotal : total width (cs.take j) ≤ u) :
    j ≤ floorIndex width cs u := by
  induction cs generalizing u j with
  | nil => exact hj
  | cons c cs ih =>
      cases j with
      | zero => exact Nat.zero_le _
      | succ j =>
          rw [List.take_succ_cons, total] at htotal
          have hrest : j ≤ floorIndex width cs (u - width c) :=
            ih (Nat.succ_le_succ_iff.mp hj) (by omega)
          rw [floorIndex, if_pos (by omega)]
          exact Nat.succ_le_succ hrest

theorem isFloor_floorIndex : IsFloor width cs u (floorIndex width cs u) :=
  ⟨floorIndex_le_length, total_take_floorIndex_le, fun _ => le_floorIndex⟩

theorem IsFloor.unique (hi : IsFloor width cs u i) (hj : IsFloor width cs u j) : i = j :=
  le_antisymm (hj.greatest i hi.le_length hi.total_le)
    (hi.greatest j hj.le_length hj.total_le)

/-- The floor of a number of units is what `floorIndex` finds. -/
theorem isFloor_iff : IsFloor width cs u i ↔ floorIndex width cs u = i := by
  constructor
  · intro h
    exact isFloor_floorIndex.unique h
  · rintro rfl
    exact isFloor_floorIndex

/-- Units that end inside a character fall on that character. -/
theorem isFloor_of_within (hi : i < cs.length) (hle : total width (cs.take i) ≤ u)
    (hlt : u < total width (cs.take (i + 1))) : IsFloor width cs u i := by
  refine ⟨hi.le, hle, fun j hj hju => ?_⟩
  by_contra hij
  have hnext : At width cs (i + 1) _ := ⟨hi, rfl⟩
  have hlater : total width (cs.take (i + 1)) ≤ total width (cs.take j) :=
    hnext.le_of_le ⟨hj, rfl⟩ (Nat.lt_of_not_le hij)
  omega

/-- More units do not fall on an earlier position. -/
theorem IsFloor.mono (hi : IsFloor width cs u i) (hj : IsFloor width cs v j) (h : u ≤ v) :
    i ≤ j :=
  hj.greatest i hi.le_length (hi.total_le.trans h)

theorem floorIndex_mono (h : u ≤ v) : floorIndex width cs u ≤ floorIndex width cs v :=
  isFloor_floorIndex.mono isFloor_floorIndex h

/-- Units past the end fall on the end. -/
theorem floorIndex_min_total :
    floorIndex width cs (min u (total width cs)) = floorIndex width cs u := by
  refine isFloor_iff.mp ⟨floorIndex_le_length, ?_, ?_⟩
  · have hwhole : At width cs (floorIndex width cs u) _ := ⟨floorIndex_le_length, rfl⟩
    exact le_min total_take_floorIndex_le hwhole.le_total
  · intro j hj hle
    exact le_floorIndex hj (hle.trans (min_le_left u (total width cs)))

/-- Where every character is one unit, the floor of a number within the text is that
number. -/
theorem isFloor_of_forall_one (hone : ∀ c, c ∈ cs → width c = 1) :
    IsFloor width cs u (min u cs.length) := by
  have htotal : ∀ j, j ≤ cs.length → total width (cs.take j) = j := fun j hj =>
    At.eq_of_forall_one hone ⟨hj, rfl⟩
  refine ⟨min_le_right u cs.length, ?_, ?_⟩
  · rw [htotal _ (min_le_right u cs.length)]
    exact min_le_left u cs.length
  · intro j hj hle
    rw [htotal j hj] at hle
    exact le_min hle hj

end Floors

/-! ## The table of floors -/

/-- The floors of all numbers of units up to that of the whole text: the position of
a character once for each of its units, and the end at last. -/
def floorTable (width : Char → Nat) (position : Nat) : List Char → List Nat
  | [] => [position]
  | c :: cs => List.replicate (width c) position ++ floorTable width (position + 1) cs

section Table

variable {width : Char → Nat} {cs : List Char} {position u : Nat}

theorem length_floorTable : (floorTable width position cs).length = total width cs + 1 := by
  induction cs generalizing position with
  | nil => rfl
  | cons c cs ih =>
      rw [floorTable, List.length_append, List.length_replicate, ih, total]
      omega

/-- The table has the floor of a number of units at that index. -/
theorem floorTable_getElem? (hu : u ≤ total width cs) :
    (floorTable width position cs)[u]? = some (position + floorIndex width cs u) := by
  induction cs generalizing position u with
  | nil =>
      obtain rfl : u = 0 := Nat.le_zero.mp hu
      rfl
  | cons c cs ih =>
      rw [total] at hu
      rw [floorTable, floorIndex]
      split_ifs with hwidth
      · rw [List.getElem?_append_right (by rw [List.length_replicate]; exact hwidth),
          List.length_replicate, ih (by omega), Nat.add_assoc, Nat.add_comm 1]
      · rw [List.getElem?_append_left (by rw [List.length_replicate]; omega),
          List.getElem?_replicate, if_pos (by omega), Nat.add_zero]

/-- Read with an index that is held at its last entry, the table has the floor of
every number of units. -/
theorem floorTable_getElem?_clamped :
    (floorTable width 0 cs)[min u ((floorTable width 0 cs).length - 1)]? =
      some (floorIndex width cs u) := by
  rw [length_floorTable, Nat.add_sub_cancel, floorTable_getElem? (min_le_right _ _),
    floorIndex_min_total, Nat.zero_add]

end Table

/-! ## Texts in 16-bit units -/

/-- The 16-bit units of a character: two surrogates if its number needs more than
16 bits. -/
def units16 (c : Char) : List Nat :=
  if 0xFFFF < c.toNat then
    [0xD800 + (c.toNat - 0x10000) / 0x400, 0xDC00 + (c.toNat - 0x10000) % 0x400]
  else [c.toNat]

/-- A text in 16-bit units. -/
def encode16 (cs : List Char) : List Nat :=
  cs.flatMap units16

section Encoding

variable {cs : List Char} {i j u v : Nat}

theorem length_units16 (c : Char) : (units16 c).length = width16 c := by
  unfold units16 width16
  split_ifs <;> rfl

theorem length_encode16 : (encode16 cs).length = total width16 cs :=
  length_flatMap_eq_total length_units16

theorem encode16_append (cs ds : List Char) :
    encode16 (cs ++ ds) = encode16 cs ++ encode16 ds :=
  List.flatMap_append

/-- The characters in front of a position are the units in front of it. -/
theorem encode16_take (h : At width16 cs i u) :
    encode16 (cs.take i) = (encode16 cs).take u := by
  have hlength : (encode16 (cs.take i)).length = u := length_encode16.trans h.total_eq
  conv_rhs => rw [← List.take_append_drop i cs, encode16_append, ← hlength, List.take_left]

/-- The characters behind a position are the units behind it. -/
theorem encode16_drop (h : At width16 cs i u) :
    encode16 (cs.drop i) = (encode16 cs).drop u := by
  have hlength : (encode16 (cs.take i)).length = u := length_encode16.trans h.total_eq
  conv_rhs => rw [← List.take_append_drop i cs, encode16_append, ← hlength, List.drop_left]

/-- The characters between two positions are the units between them. -/
theorem encode16_slice (hi : At width16 cs i u) (hj : At width16 cs j v) :
    encode16 ((cs.take j).drop i) = ((encode16 cs).take v).drop u := by
  rcases le_total i j with hij | hji
  · rw [encode16_drop (hi.take hij hj.le_length), encode16_take hj]
  · -- the positions stand the wrong way round, and nothing is between them
    have hvu : v ≤ u := hj.le_of_le hi hji
    rw [List.drop_eq_nil_of_le ((List.length_take_le j cs).trans hji),
      List.drop_eq_nil_of_le ((List.length_take_le v (encode16 cs)).trans hvu)]
    rfl

example : encode16 ((['a', '😀', 'b'].take 2).drop 1) = [0xD83D, 0xDE00] := rfl

end Encoding

end Units
end BuildTransform
