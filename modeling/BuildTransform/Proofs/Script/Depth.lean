import BuildTransform.Proofs.Script.Operands
import BuildTransform.Proofs.Script.Scanning

/-!
# How deep a reader has to go

Readers of different depths agree on lexemes that are not too heavy.

* A form is nested in lexemes that weigh less, and the text of an expression in a
  template is shorter than the template; so what the lexemes weigh bounds the depth.
* `adequate` is the result: a depth of twice the weight and two more is enough.
-/

namespace BuildTransform
namespace Script
namespace Grammar

/-- What some lexemes weigh. -/
def load (u : List Lexeme) : Nat :=
  (u.map weight).sum

theorem load_cons (l : Lexeme) (u : List Lexeme) : load (l :: u) = weight l + load u :=
  rfl

theorem load_suffix {u v : List Lexeme} (h : v <:+ u) : load v ≤ load u := by
  obtain ⟨y, rfl⟩ := h
  rw [load, load, List.map_append, List.sum_append]
  exact Nat.le_add_left _ _

theorem weight_le_load {l : Lexeme} {u : List Lexeme} (h : l ∈ u) : weight l ≤ load u :=
  List.le_sum_of_mem (List.mem_map_of_mem h)

/-- The readers of depth `n` and those of another depth agree on lexemes that are not too
heavy for the other depth. -/
structure Adequate (n : Nat) : Prop where
  expression : ∀ E n' u, 2 * load u + 2 ≤ n' →
    Agree E 0 [] Alike u (readers n).expression (readers n').expression
  inversion : ∀ E n' u, 2 * load u + 2 ≤ n' →
    Agree E 0 [] Alike u (readers n).inversion (readers n').inversion
  factor : ∀ E n' u, 2 * load u + 1 ≤ n' →
    Agree E 0 [] Alike u (readers n).factor (readers n').factor
  embedded : ∀ n' cs node, 2 * cs.length + 7 ≤ n' → embeddedNode (readers n) cs = some node →
    ∃ node', embeddedNode (readers n') cs = some node' ∧ Alike node node'

section Adequate

variable {n n' : Nat} {u : List Lexeme}

theorem Adequate.templates (h : Adequate n) (hn' : 2 * load u ≤ n') :
    Templates (readers n) (readers n') u := by
  intro raw body hmem cs node hcs hnode
  have hweight := weight_le_load hmem
  simp only [weight] at hweight
  exact h.embedded n' cs node (by omega) hnode

theorem Adequate.inner (h : Adequate n) (E : Setting) (hn' : 2 * load u + 2 ≤ n') :
    Inner E (readers n) (readers n') u where
  expression v hv := h.expression E n' v (by have := load_suffix hv; omega)
  inversion v hv := h.inversion E n' v (by have := load_suffix hv; omega)
  factor v hv := h.factor E n' v (by have := load_suffix hv; omega)
  templates := h.templates (by omega)

theorem Adequate.nested (h : Adequate n) (E : Setting) (hn' : 2 * load u ≤ n') :
    Nested E (readers n) (readers n') u where
  inner l v hv hl := by
    have hload := load_suffix hv
    rw [load_cons] at hload
    exact h.inner E (by omega)
  templates := h.templates hn'

theorem Adequate.outer (h : Adequate n) (E : Setting) (hn' : 2 * load u + 1 ≤ n') :
    Outer E (readers n) (readers n') u where
  nested := h.nested E (by omega)
  factor v hv := h.factor E n' v (by have := load_suffix hv; omega)

/-- A text in a template weighs as much as it has characters at most, and it is read one
level deeper. -/
theorem Adequate.embeddedNode_succ (h : Adequate n) {cs : List Char} {node : Node}
    (hn' : 2 * cs.length + 6 ≤ n') (hnode : embeddedNode (readers (n + 1)) cs = some node) :
    ∃ node', embeddedNode (readers (n' + 1)) cs = some node' ∧ Alike node node' := by
  unfold embeddedNode at hnode ⊢
  split_ifs at hnode ⊢
  split at hnode
  · cases hnode
  · rename_i ts hts
    have hweight := weight_le_length hts
    rw [String.toList_ofList] at hweight
    simp only [List.length_cons, List.length_append, List.length_nil] at hweight
    obtain ⟨⟨_, d⟩, hrun, rfl⟩ := Option.map_eq_some_iff.mp hnode
    have hload : load (ts.map Token.lexeme) = (ts.map fun t => weight t.lexeme).sum := by
      rw [load, List.map_map]
      rfl
    have hagree : Agree .empty 0 [] Alike (ts.map Token.lexeme) (readers (n + 1)).formatted
        (readers (n' + 1)).formatted := by
      refine agree_tupleOf fun v hv => agree_starExpression (h.inner .empty ?_)
      have := load_suffix hv
      omega
    have hlexemes : (⟨ts, ⟨1, 0⟩⟩ : Cursor).lexemes = ts.map Token.lexeme ++ [] :=
      (List.append_nil _).symm
    obtain ⟨y, v, node', d', -, -, -, -, hrun', halike⟩ :=
      hagree _ _ _ _ hlexemes hlexemes hrun (Nat.zero_le _)
    exact ⟨node', by rw [hrun']; rfl, halike⟩

end Adequate

/-- **Readers of all depths agree** on lexemes that are not too heavy for the second. -/
theorem adequate (n : Nat) : Adequate n := by
  induction n with
  | zero =>
      refine ⟨fun _ _ _ _ => .failure, fun _ _ _ _ => .failure, fun _ _ _ _ => .failure, ?_⟩
      intro n' cs node _ hnode
      unfold embeddedNode at hnode
      split_ifs at hnode
      split at hnode
      · cases hnode
      · cases hnode
  | succ n ih =>
      refine ⟨fun E n' u hn' => ?_, fun E n' u hn' => ?_, fun E n' u hn' => ?_,
        fun n' cs node hn' hnode => ?_⟩
      all_goals obtain ⟨n', rfl⟩ : ∃ m, n' = m + 1 := ⟨n' - 1, by omega⟩
      · exact agree_expression (ih.outer E (by omega))
      · exact agree_inversion (ih.outer E (by omega))
      · exact agree_factor (ih.nested E (by omega))
      · exact ih.embeddedNode_succ (by omega) hnode

theorem inner_readers (E : Setting) (n : Nat) {n' : Nat} {u : List Lexeme}
    (hn' : 2 * load u + 2 ≤ n') : Inner E (readers n) (readers n') u :=
  (adequate n).inner E hn'

end Grammar
end Script
end BuildTransform
