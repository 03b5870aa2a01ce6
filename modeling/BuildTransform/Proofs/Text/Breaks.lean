import BuildTransform.Text.Lines
import Mathlib.Tactic

/-!
# Uniform line breaks

What `Lines.normalized` does to the parts of a text.

* `normalized_cases` says what it makes of the first character, and `normalized_append` that
  characters without a carriage return stay.
* A run of characters that are no line breaks is the same in both texts, and so is what stands
  behind it; the same holds of a run of characters with all line breaks among them.
-/

namespace BuildTransform
namespace Lines

variable {c : Char} {cs ds rest : List Char} {p : Char → Bool}

/-- The first character of a text with uniform breaks is that of the text, unless a line break
comes first. -/
theorem normalized_cases (cs : List Char) :
    (cs = [] ∧ normalized cs = []) ∨
    (∃ c rest, cs = c :: rest ∧ c ≠ '\r' ∧ normalized cs = c :: normalized rest) ∨
    ∃ rest after, cs = '\r' :: rest ∧ normalized cs = '\n' :: normalized after := by
  fun_cases normalized cs with
  | case1 => exact Or.inl ⟨rfl, rfl⟩
  | case2 rest => exact Or.inr (Or.inr ⟨_, rest, rfl, rfl⟩)
  | case3 rest => exact Or.inr (Or.inr ⟨_, rest, rfl, rfl⟩)
  | case4 c rest _ hreturn => exact Or.inr (Or.inl ⟨c, rest, rfl, hreturn, rfl⟩)

theorem normalized_cons_of_ne (h : c ≠ '\r') :
    normalized (c :: rest) = c :: normalized rest := by
  rw [normalized]
  · exact fun _ hreturn => absurd hreturn h
  · exact h

@[simp] theorem normalized_eq_nil_iff : normalized cs = [] ↔ cs = [] := by
  rcases normalized_cases cs with ⟨rfl, h⟩ | ⟨c, rest, rfl, -, h⟩ | ⟨rest, after, rfl, h⟩ <;>
    simp [h]

theorem head?_normalized (hfeed : c ≠ '\n') (hreturn : c ≠ '\r') :
    (normalized cs).head? = some c ↔ cs.head? = some c := by
  rcases normalized_cases cs with ⟨rfl, h⟩ | ⟨d, rest, rfl, -, h⟩ | ⟨rest, after, rfl, h⟩
  · simp [h]
  · simp [h]
  · simp [h, hfeed.symm, hreturn.symm]

/-- Characters that are no line breaks stay. -/
theorem normalized_append (h : '\r' ∉ ds) : normalized (ds ++ rest) = ds ++ normalized rest := by
  induction ds with
  | nil => rfl
  | cons d ds ih =>
      simp only [List.mem_cons, not_or] at h
      rw [List.cons_append, normalized_cons_of_ne (Ne.symm h.1), ih h.2, List.cons_append]

theorem prefix_normalized_iff (hfeed : '\n' ∉ ds) (hreturn : '\r' ∉ ds) :
    ds <+: normalized cs ↔ ds <+: cs := by
  induction ds generalizing cs with
  | nil => simp
  | cons d ds ih =>
      simp only [List.mem_cons, not_or] at hfeed hreturn
      rcases normalized_cases cs with ⟨rfl, h⟩ | ⟨c, rest, rfl, -, h⟩ | ⟨rest, after, rfl, h⟩
      · simp [h]
      · rw [h, List.cons_prefix_cons, List.cons_prefix_cons, ih hfeed.2 hreturn.2]
      · simp [h, List.cons_prefix_cons, Ne.symm hfeed.1, Ne.symm hreturn.1]

section Span

variable (hfeed : p '\n' = false) (hreturn : p '\r' = false)

include hfeed hreturn

/-- Characters that are taken up to a line break at most are the same. -/
theorem takeWhile_normalized : (normalized cs).takeWhile p = cs.takeWhile p := by
  fun_induction normalized cs <;> simp_all [List.takeWhile_cons]

theorem dropWhile_normalized : (normalized cs).dropWhile p = normalized (cs.dropWhile p) := by
  induction cs with
  | nil => rfl
  | cons c cs ih =>
      rcases normalized_cases (c :: cs) with ⟨h, -⟩ | ⟨d, rest, h, hd, hn⟩ | ⟨rest, after, h, hn⟩
      · cases h
      · cases h
        rw [hn, List.dropWhile_cons, List.dropWhile_cons]
        split_ifs
        · exact ih
        · exact hn.symm
      · cases h
        simp [hn, hfeed, hreturn]

end Span

/-- White space is the same with all its breaks. -/
theorem dropWhile_normalized_of_space (hfeed : p '\n' = true) (hreturn : p '\r' = true) :
    (normalized cs).dropWhile p = normalized (cs.dropWhile p) := by
  fun_induction normalized cs with
  | case1 => rfl
  | case2 rest ih => simpa [hfeed, hreturn] using ih
  | case3 rest hrest ih => simpa [hfeed, hreturn] using ih
  | case4 c rest hrest hc ih =>
      rw [List.dropWhile_cons, List.dropWhile_cons]
      split_ifs
      · exact ih
      · exact (normalized_cons_of_ne hc).symm

theorem length_normalized_le (cs : List Char) : (normalized cs).length ≤ cs.length := by
  fun_induction normalized cs <;> simp <;> omega

end Lines
end BuildTransform
