import BuildTransform.Text.Units
import Mathlib.Tactic

/-!
# Positions in units

Positions of characters and the units in front of them determine one another.

* `At` says how many units stand in front of a position.
* `length_flatMap_eq_total` counts the units of a text that is written in them.
* `floorIndex_eq` finds the position of a number of units, and `At.unique` says
  that there is only one.
* `slice_natCast` cuts a text between two positions.
-/

namespace BuildTransform
namespace Units

/-- In front of the position `i` of a text stand `u` units. -/
structure At (width : Char → Nat) (cs : List Char) (i u : Nat) : Prop where
  le_length : i ≤ cs.length
  total_eq : total width (cs.take i) = u

section Positions

variable {width : Char → Nat} {cs : List Char} {i j u : Nat}

/-- A text that is written character by character has the units of its characters. -/
theorem length_flatMap_eq_total {α : Type} {units : Char → List α}
    (h : ∀ c, (units c).length = width c) :
    (cs.flatMap units).length = total width cs := by
  induction cs with
  | nil => rfl
  | cons c cs ih => rw [List.flatMap_cons, List.length_append, h, ih, total]

theorem one_le_width16 (c : Char) : 1 ≤ width16 c := by
  unfold width16
  split_ifs <;> omega

/-- The position with some units in front of it is found from their number. -/
theorem floorIndex_eq (hwidth : ∀ c, 1 ≤ width c) (h : At width cs i u) :
    floorIndex width cs u = i := by
  obtain ⟨hi, rfl⟩ := h
  induction cs generalizing i with
  | nil =>
      obtain rfl : i = 0 := by simpa using hi
      rfl
  | cons c cs ih =>
      cases i with
      | zero =>
          have := hwidth c
          rw [List.take_zero, total, floorIndex, if_neg (by omega)]
      | succ i =>
          rw [List.take_succ_cons, total, floorIndex, if_pos (Nat.le_add_right _ _),
            Nat.add_sub_cancel_left, ih (by simpa using hi)]

theorem At.unique (hwidth : ∀ c, 1 ≤ width c) (hi : At width cs i u) (hj : At width cs j u) :
    i = j := by
  rw [← floorIndex_eq hwidth hi, floorIndex_eq hwidth hj]

/-- No more units stand in front of a position than in the whole text. -/
theorem At.le_total (h : At width cs i u) : u ≤ total width cs := by
  obtain ⟨-, rfl⟩ := h
  induction cs generalizing i with
  | nil => simp
  | cons c cs ih =>
      cases i with
      | zero => simp [total]
      | succ i =>
          have := ih (i := i)
          rw [List.take_succ_cons, total, total]
          omega

/-- Where every character is one unit, positions count units. -/
theorem At.eq_of_forall_one (hone : ∀ c, c ∈ cs → width c = 1) (h : At width cs i u) :
    u = i := by
  obtain ⟨hi, rfl⟩ := h
  induction cs generalizing i with
  | nil =>
      obtain rfl : i = 0 := by simpa using hi
      rfl
  | cons c cs ih =>
      cases i with
      | zero => rfl
      | succ i =>
          have hrest := ih (fun d hd => hone d (List.mem_cons_of_mem c hd)) (by simpa using hi)
          rw [List.take_succ_cons, total, hone c List.mem_cons_self, hrest]
          omega

theorem clamped_natCast (hi : i ≤ cs.length) : clamped cs.length i = i := by
  have hnonneg : ¬ (i : Int) < 0 := by omega
  simp [clamped, hnonneg, hi]

/-- The characters between two positions of a text. -/
theorem slice_natCast (hi : i ≤ cs.length) (hj : j ≤ cs.length) :
    slice cs i j = (cs.take j).drop i := by
  simp only [slice, clamped_natCast hi, clamped_natCast hj]

end Positions

end Units
end BuildTransform
