import BuildTransform.Path.Joined
import Mathlib.Tactic

/-!
# Grouping of joined paths

Segments of a path may be joined in groups: a block of segments can be replaced
by the path that it joins to.

* `walk` follows a text component by component from a stack of components, and
  `linked` puts a slash between two texts that are not empty. A joined path is
  determined by its root, the walk along it, and its last slash.
* `foldl_push_reduce` says that a reduced list of components leads where the
  list itself leads; a list that was reduced at the root has to start there.
* `join_join_block` concludes for the segments of a path.
-/

namespace BuildTransform

namespace Text

/-! ## Pieces of texts -/

section Pieces

variable {p : Char → Bool} {c : Char} {cs : List Char}

theorem pieces_ne_nil (cs : List Char) : pieces p cs ≠ [] := by
  cases cs with
  | nil => simp [pieces]
  | cons c cs =>
      simp only [pieces]
      split_ifs
      · simp
      · split <;> simp

/-- A separator between two texts separates their pieces. -/
theorem pieces_append_cons (hc : p c = true) (cs ds : List Char) :
    pieces p (cs ++ c :: ds) = pieces p cs ++ pieces p ds := by
  induction cs with
  | nil => simp [pieces, hc]
  | cons d cs ih =>
      obtain ⟨piece, rest, hpieces⟩ := List.exists_cons_of_ne_nil (pieces_ne_nil (p := p) cs)
      by_cases hd : p d = true
      · simp [pieces, hd, ih]
      · simp [pieces, hd, ih, hpieces]

/-- A text without separators is one piece. -/
theorem pieces_of_forall_not (h : ∀ d, d ∈ cs → p d = false) :
    pieces p cs = [cs] := by
  induction cs with
  | nil => rfl
  | cons d cs ih =>
      have hd : p d = false := h d List.mem_cons_self
      have hcs := ih fun e he => h e (List.mem_cons_of_mem d he)
      simp [pieces, hd, hcs]

/-- No piece has a separator in it. -/
theorem not_of_mem_pieces {piece : List Char} (h : piece ∈ pieces p cs) :
    ∀ d, d ∈ piece → p d = false := by
  induction cs generalizing piece with
  | nil =>
      obtain rfl : piece = [] := by simpa [pieces] using h
      simp
  | cons e cs ih =>
      obtain ⟨first, rest, hpieces⟩ := List.exists_cons_of_ne_nil (pieces_ne_nil (p := p) cs)
      by_cases he : p e = true
      · simp only [pieces, he, if_true, List.mem_cons] at h
        rcases h with rfl | h
        · simp
        · exact ih h
      · have hcons : pieces p (e :: cs) = (e :: first) :: rest := by
          simp [pieces, he, hpieces]
        rw [hcons, List.mem_cons] at h
        rcases h with rfl | h
        · intro d hd
          rcases List.mem_cons.mp hd with rfl | hd
          · simpa using he
          · exact ih (hpieces ▸ List.mem_cons_self) d hd
        · exact ih (hpieces ▸ List.mem_cons_of_mem _ h)

end Pieces

end Text

namespace Joined

/-! ## Reduced components -/

section Reduced

variable {absolute : Bool} {stack : List Component} {c : Component}

@[simp] theorem push_nil (absolute : Bool) (stack : List Component) :
    push absolute stack [] = stack := by
  simp [push]

@[simp] theorem push_here (absolute : Bool) (stack : List Component) :
    push absolute stack here = stack := by
  simp [push]

/-- A component that is a name goes on top of the stack. -/
theorem push_name (hnil : c ≠ []) (hhere : c ≠ here) (hup : c ≠ up) :
    push absolute stack c = c :: stack := by
  simp [push, hnil, hhere, hup]

/-- Going up leads back from a name. -/
theorem push_up_cons {top : Component} (htop : top ≠ up) :
    push absolute (top :: stack) up = stack := by
  have hnil : up ≠ [] := by decide
  have hhere : up ≠ here := by decide
  simp [push, hnil, hhere, htop]

theorem push_up_up : push absolute (up :: stack) up = up :: up :: stack := by
  have hnil : up ≠ [] := by decide
  have hhere : up ≠ here := by decide
  simp [push, hnil, hhere]

theorem push_up_nil : push absolute [] up = if absolute then [] else [up] := by
  have hnil : up ≠ [] := by decide
  have hhere : up ≠ here := by decide
  simp [push, hnil, hhere]

/-- A component is new on the stack only if it is neither empty nor `.`. -/
theorem mem_push {x : Component} (h : x ∈ push absolute stack c) :
    x ∈ stack ∨ (x = c ∧ c ≠ [] ∧ c ≠ here) := by
  by_cases hskip : c = [] ∨ c = here
  · rcases hskip with rfl | rfl <;> exact Or.inl (by simpa using h)
  · obtain ⟨hnil, hhere⟩ := not_or.mp hskip
    by_cases hup : c = up
    · subst hup
      cases stack with
      | nil =>
          rw [push_up_nil] at h
          split_ifs at h
          · simp at h
          · exact Or.inr ⟨by simpa using h, hnil, hhere⟩
      | cons top rest =>
          by_cases htop : top = up
          · subst htop
            rw [push_up_up, List.mem_cons] at h
            exact h.elim (fun hx => Or.inr ⟨hx, hnil, hhere⟩) Or.inl
          · rw [push_up_cons htop] at h
            exact Or.inl (List.mem_cons_of_mem _ h)
    · rw [push_name hnil hhere hup, List.mem_cons] at h
      exact h.elim (fun hx => Or.inr ⟨hx, hnil, hhere⟩) Or.inl

/-- A reduced list has only components of the list, none empty and none `.`. -/
theorem mem_reduce {cs : List Component} {x : Component} (h : x ∈ reduce absolute cs) :
    x ∈ cs ∧ x ≠ [] ∧ x ≠ here := by
  suffices hstack : ∀ stack, x ∈ cs.foldl (push absolute) stack →
      x ∈ stack ∨ (x ∈ cs ∧ x ≠ [] ∧ x ≠ here) by
    have hx := hstack [] (by simpa [reduce] using h)
    simpa using hx
  clear h
  induction cs with
  | nil => exact fun _ h => Or.inl h
  | cons c cs ih =>
      intro stack h
      rcases ih (push absolute stack c) h with h | ⟨hx, hname⟩
      · rcases mem_push h with h | ⟨rfl, hname⟩
        · exact Or.inl h
        · exact Or.inr ⟨List.mem_cons_self, hname⟩
      · exact Or.inr ⟨List.mem_cons_of_mem c hx, hname⟩

/-- One more component can be taken after a reduced list or within it. At the
root it has to be taken from the root: there going up leads nowhere. -/
theorem foldl_reverse_push {inner : Bool} {base : List Component}
    (hroot : inner = true → absolute = true ∧ base = [])
    (hnames : ∀ x, x ∈ stack → x ≠ [] ∧ x ≠ here) :
    (push inner stack c).reverse.foldl (push absolute) base =
      push absolute (stack.reverse.foldl (push absolute) base) c := by
  by_cases hskip : c = [] ∨ c = here
  · rcases hskip with rfl | rfl <;> simp
  · obtain ⟨hnil, hhere⟩ := not_or.mp hskip
    by_cases hup : c = up
    · subst hup
      cases stack with
      | nil =>
          cases inner with
          | false => simp [push_up_nil]
          | true =>
              obtain ⟨rfl, rfl⟩ := hroot rfl
              simp [push_up_nil]
      | cons top rest =>
          by_cases htop : top = up
          · subst htop
            simp [push_up_up]
          · obtain ⟨htopNil, htopHere⟩ := hnames top List.mem_cons_self
            rw [push_up_cons htop, List.reverse_cons, List.foldl_append,
              List.foldl_cons, List.foldl_nil, push_name htopNil htopHere htop,
              push_up_cons htop]
    · simp [push_name hnil hhere hup]

/-- A reduced list of components leads where the list itself leads. -/
theorem foldl_push_reduce {inner : Bool} {base : List Component}
    (hroot : inner = true → absolute = true ∧ base = [])
    (cs : List Component) :
    (reduce inner cs).foldl (push absolute) base = cs.foldl (push absolute) base := by
  induction cs using List.reverseRecOn with
  | nil => rfl
  | append_singleton cs c ih =>
      have hnames : ∀ x, x ∈ cs.foldl (push inner) [] → x ≠ [] ∧ x ≠ here := by
        intro x hx
        have hmem : x ∈ reduce inner cs := by simpa [reduce] using hx
        exact (mem_reduce hmem).2
      rw [reduce, List.foldl_append, List.foldl_append, List.foldl_cons, List.foldl_nil,
        foldl_reverse_push hroot hnames]
      rw [reduce] at ih
      rw [ih]
      rfl

end Reduced

/-! ## Texts of paths -/

/-- Follows the components of a text from a stack of components. -/
def walk (absolute : Bool) (stack : List Component) (cs : List Char) : List Component :=
  (Text.pieces isSlash cs).foldl (push absolute) stack

/-- Two texts with a slash between them, unless one of them is empty. -/
def linked (cs ds : List Char) : List Char :=
  if cs = [] then ds else if ds = [] then cs else cs ++ '/' :: ds

/-- The segments of a path one after another. -/
def textOf (segments : List (List Char)) : List Char :=
  Text.joined ['/'] (segments.filter (· ≠ []))

/-- The normal form of a text. -/
def normalized (cs : List Char) : List Char :=
  match cs with
  | [] => here
  | cs => closed cs (normal cs)

section Texts

variable {absolute : Bool} {stack : List Component} {cs ds : List Char}

@[simp] theorem walk_nil : walk absolute stack [] = stack := by
  simp [walk, Text.pieces]

@[simp] theorem walk_append_slash :
    walk absolute stack (cs ++ '/' :: ds) = walk absolute (walk absolute stack cs) ds := by
  simp [walk, Text.pieces_append_cons (p := isSlash) (c := '/') rfl]

@[simp] theorem walk_slash_cons : walk absolute stack ('/' :: ds) = walk absolute stack ds := by
  have h : walk absolute stack ([] ++ '/' :: ds) = walk absolute (walk absolute stack []) ds :=
    walk_append_slash
  simpa using h

theorem walk_linked :
    walk absolute stack (linked cs ds) = walk absolute (walk absolute stack cs) ds := by
  unfold linked
  split_ifs with hcs hds
  · simp [hcs]
  · simp [hds]
  · simp

theorem linked_nil_left : linked [] ds = ds := by
  simp [linked]

theorem linked_nil_right : linked cs [] = cs := by
  unfold linked
  split_ifs with hcs <;> simp_all

theorem linked_eq_nil_iff : linked cs ds = [] ↔ cs = [] ∧ ds = [] := by
  unfold linked
  split_ifs with hcs hds <;> simp_all

theorem startsAtRoot_linked (hcs : cs ≠ []) : startsAtRoot (linked cs ds) = startsAtRoot cs := by
  obtain ⟨c, rest, rfl⟩ := List.exists_cons_of_ne_nil hcs
  unfold linked
  split_ifs <;> simp_all [startsAtRoot]

theorem endsWithSlash_append_slash (hds : ds ≠ []) :
    endsWithSlash (cs ++ '/' :: ds) = endsWithSlash ds := by
  obtain ⟨rest, d, rfl⟩ := (List.eq_nil_or_concat' ds).resolve_left hds
  have hlast : cs ++ '/' :: (rest ++ [d]) = (cs ++ '/' :: rest) ++ [d] := by simp
  rw [hlast, endsWithSlash, endsWithSlash, List.getLast?_concat, List.getLast?_concat]

theorem endsWithSlash_linked (hds : ds ≠ []) :
    endsWithSlash (linked cs ds) = endsWithSlash ds := by
  unfold linked
  split_ifs
  · rfl
  · exact endsWithSlash_append_slash hds

/-- Segments are linked one after another. -/
theorem textOf_cons (s : List Char) (segments : List (List Char)) :
    textOf (s :: segments) = linked s (textOf segments) := by
  by_cases hs : s = []
  · simp [textOf, hs, linked_nil_left]
  · unfold textOf linked
    rw [List.filter_cons_of_pos (by simpa using hs)]
    rcases hrest : segments.filter (· ≠ []) with _ | ⟨t, rest⟩
    · simp [Text.joined, hs]
    · have ht : t ≠ [] := by
        have hmem : t ∈ segments.filter (· ≠ []) := hrest ▸ List.mem_cons_self
        simpa using (List.mem_filter.mp hmem).2
      have hjoined : Text.joined ['/'] (t :: rest) ≠ [] := by
        cases rest <;> simp [Text.joined, ht]
      simp [Text.joined, hs, hjoined]

theorem linked_assoc (cs ds es : List Char) :
    linked (linked cs ds) es = linked cs (linked ds es) := by
  unfold linked
  split_ifs <;> simp_all

theorem textOf_append (segments more : List (List Char)) :
    textOf (segments ++ more) = linked (textOf segments) (textOf more) := by
  induction segments with
  | nil => simp [textOf, Text.joined, linked]
  | cons s segments ih =>
      rw [List.cons_append, textOf_cons, textOf_cons, ih, linked_assoc]

theorem textOf_singleton (s : List Char) : textOf [s] = s := by
  rw [textOf_cons]
  exact linked_nil_right

theorem textOf_eq_nil_iff {segments : List (List Char)} :
    textOf segments = [] ↔ ∀ s, s ∈ segments → s = [] := by
  induction segments with
  | nil => simp [textOf, Text.joined]
  | cons s segments ih => simp [textOf_cons, linked_eq_nil_iff, ih]

/-- The first segment that is not empty decides where a path starts. -/
theorem startsAtRoot_textOf {segments : List (List Char)} {s : List Char}
    (h : segments.find? (· ≠ []) = some s) :
    startsAtRoot (textOf segments) = startsAtRoot s := by
  induction segments with
  | nil => simp at h
  | cons t segments ih =>
      rw [textOf_cons]
      by_cases ht : t = []
      · subst ht
        rw [linked_nil_left]
        exact ih (by simpa using h)
      · obtain rfl : t = s := by simpa [ht] using h
        exact startsAtRoot_linked ht

theorem joinChars_eq (segments : List (List Char)) :
    joinChars segments = normalized (textOf segments) := by
  unfold joinChars normalized textOf
  rfl

/-- Components without slashes are the pieces of the text that they form. -/
theorem walk_joined {components : List Component}
    (h : ∀ c, c ∈ components → ∀ d, d ∈ c → isSlash d = false) :
    walk absolute stack (Text.joined ['/'] components) =
      components.foldl (push absolute) stack := by
  induction components generalizing stack with
  | nil => simp [Text.joined]
  | cons c rest ih =>
      have hc : walk absolute stack c = push absolute stack c := by
        simp [walk, Text.pieces_of_forall_not (h c List.mem_cons_self)]
      cases rest with
      | nil => simpa [Text.joined] using hc
      | cons d rest =>
          have hrest := @ih (push absolute stack c)
            fun x hx => h x (List.mem_cons_of_mem c hx)
          simp only [Text.joined, List.append_assoc, List.singleton_append] at hrest ⊢
          rw [walk_append_slash, hc, hrest]
          rfl

end Texts

/-! ## Normal forms -/

section NormalForms

variable {absolute : Bool} {base : List Component} {cs : List Char}

/-- The reduced components of a text as a text. -/
def bodyOf (cs : List Char) : List Char :=
  Text.joined ['/'] (reduce (startsAtRoot cs) (Text.pieces isSlash cs))

/-- The components of a text are reduced from where it starts. -/
theorem walk_bodyOf (hroot : startsAtRoot cs = true → absolute = true ∧ base = []) :
    walk absolute base (bodyOf cs) = walk absolute base cs := by
  have hslash : ∀ c, c ∈ reduce (startsAtRoot cs) (Text.pieces isSlash cs) →
      ∀ d, d ∈ c → isSlash d = false :=
    fun c hc => Text.not_of_mem_pieces (mem_reduce hc).1
  rw [bodyOf, walk_joined hslash, foldl_push_reduce hroot]
  rfl

/-- The text of a path that does not start at the root starts with a name. -/
theorem startsAtRoot_bodyOf : startsAtRoot (bodyOf cs) = false := by
  unfold bodyOf
  rcases hreduce : reduce (startsAtRoot cs) (Text.pieces isSlash cs) with _ | ⟨c, rest⟩
  · rfl
  · have hc : c ∈ reduce (startsAtRoot cs) (Text.pieces isSlash cs) :=
      hreduce ▸ List.mem_cons_self
    obtain ⟨hmem, hnil, -⟩ := mem_reduce hc
    obtain ⟨d, c, rfl⟩ := List.exists_cons_of_ne_nil hnil
    have hd : isSlash d = false := Text.not_of_mem_pieces hmem d List.mem_cons_self
    have hd : d ≠ '/' := by simpa [isSlash] using hd
    cases rest <;> simp [Text.joined, startsAtRoot, hd]

/-- The text of reduced components ends with a name. -/
theorem endsWithSlash_bodyOf : endsWithSlash (bodyOf cs) = false := by
  have hname : ∀ c, c ∈ reduce (startsAtRoot cs) (Text.pieces isSlash cs) →
      c ≠ [] ∧ endsWithSlash c = false := by
    intro c hc
    obtain ⟨hmem, hnil, -⟩ := mem_reduce hc
    obtain ⟨rest, d, rfl⟩ := (List.eq_nil_or_concat' c).resolve_left hnil
    have hd : isSlash d = false := Text.not_of_mem_pieces hmem d (by simp)
    have hd : d ≠ '/' := by simpa [isSlash] using hd
    exact ⟨hnil, by simp [endsWithSlash, hd]⟩
  unfold bodyOf
  generalize reduce (startsAtRoot cs) (Text.pieces isSlash cs) = components at hname
  induction components with
  | nil => rfl
  | cons c components ih =>
      have ih := ih fun x hx => hname x (List.mem_cons_of_mem c hx)
      cases components with
      | nil => exact (hname c List.mem_cons_self).2
      | cons d components =>
          have hd : d ≠ [] := (hname d (by simp)).1
          have hjoined : Text.joined ['/'] (d :: components) ≠ [] := by
            cases components <;> simp [Text.joined, hd]
          simpa [Text.joined, endsWithSlash_append_slash hjoined] using ih

theorem normal_of_root (h : startsAtRoot cs = true) : normal cs = '/' :: bodyOf cs := by
  simp [normal, bodyOf, h]

theorem normal_of_relative (h : startsAtRoot cs = false) :
    normal cs = if bodyOf cs = [] then here else bodyOf cs := by
  simp [normal, bodyOf, h]

theorem normal_ne_nil (cs : List Char) : normal cs ≠ [] := by
  cases h : startsAtRoot cs with
  | true => simp [normal_of_root h]
  | false =>
      rw [normal_of_relative h]
      split_ifs with hbody
      · simp [here]
      · exact hbody

theorem startsAtRoot_normal (cs : List Char) : startsAtRoot (normal cs) = startsAtRoot cs := by
  cases h : startsAtRoot cs with
  | true => simp [normal_of_root h, startsAtRoot]
  | false =>
      rw [normal_of_relative h]
      split_ifs
      · rfl
      · exact startsAtRoot_bodyOf

theorem walk_normal (hroot : startsAtRoot cs = true → absolute = true ∧ base = []) :
    walk absolute base (normal cs) = walk absolute base cs := by
  rw [← walk_bodyOf hroot]
  cases h : startsAtRoot cs with
  | true => simp [normal_of_root h]
  | false =>
      rw [normal_of_relative h]
      split_ifs with hbody
      · have hhere : Text.pieces isSlash here = [here] := by decide
        simp [walk, hhere, hbody, Text.pieces]
      · rfl

/-- The root and the walk along a text determine its normal form. -/
theorem normal_congr {ds : List Char}
    (hstart : startsAtRoot cs = startsAtRoot ds)
    (hwalk : walk (startsAtRoot ds) [] cs = walk (startsAtRoot ds) [] ds) :
    normal cs = normal ds := by
  have hreduce : reduce (startsAtRoot ds) (Text.pieces isSlash cs) =
      reduce (startsAtRoot ds) (Text.pieces isSlash ds) := by
    simp only [reduce]
    simp only [walk] at hwalk
    rw [hwalk]
  simp only [normal, hstart, hreduce]

theorem normalized_of_ne_nil (h : cs ≠ []) : normalized cs = closed cs (normal cs) := by
  obtain ⟨c, rest, rfl⟩ := List.exists_cons_of_ne_nil h
  rfl

/-- Without the last slash of the text only the root ends with a slash. -/
theorem startsAtRoot_of_endsWithSlash_normal (h : endsWithSlash (normal cs) = true) :
    startsAtRoot cs = true := by
  cases hstart : startsAtRoot cs with
  | true => rfl
  | false =>
      rw [normal_of_relative hstart] at h
      split_ifs at h
      · exact absurd h (by decide)
      · rw [endsWithSlash_bodyOf] at h
        cases h

theorem closed_cases (cs result : List Char) :
    closed cs result = result ++ ['/'] ∨ closed cs result = result := by
  unfold closed
  split_ifs
  · exact Or.inl rfl
  · exact Or.inr rfl

theorem endsWithSlash_closed (cs result : List Char) :
    endsWithSlash (closed cs result) = (endsWithSlash cs || endsWithSlash result) := by
  unfold closed
  cases hcs : endsWithSlash cs <;> cases hresult : endsWithSlash result
  · simp [hresult]
  · simp [hresult]
  · simp [endsWithSlash]
  · simp [hresult]

theorem closed_ne_nil (cs : List Char) : closed cs (normal cs) ≠ [] := by
  rcases closed_cases cs (normal cs) with h | h <;> simp [h, normal_ne_nil]

theorem startsAtRoot_closed (cs : List Char) :
    startsAtRoot (closed cs (normal cs)) = startsAtRoot cs := by
  rw [← startsAtRoot_normal cs]
  obtain ⟨c, rest, hnormal⟩ := List.exists_cons_of_ne_nil (normal_ne_nil cs)
  rcases closed_cases cs (normal cs) with h | h
  · rw [h, hnormal]
    rfl
  · rw [h]

theorem walk_closed (hroot : startsAtRoot cs = true → absolute = true ∧ base = []) :
    walk absolute base (closed cs (normal cs)) = walk absolute base cs := by
  rw [← walk_normal hroot]
  rcases closed_cases cs (normal cs) with h | h <;> simp [h]

/-- Texts with the same normal form have the same last slash, unless the normal
form ends in one itself. -/
theorem closed_congr {ds result : List Char}
    (h : endsWithSlash result = true ∨ endsWithSlash cs = endsWithSlash ds) :
    closed cs result = closed ds result := by
  rcases h with h | h <;> simp [closed, h]

/-- A text that is not empty can be replaced by its normal form between other
texts, unless it starts at the root and something stands before it. -/
theorem normalized_linked {block : List Char} (before after : List Char)
    (hblock : block ≠ [])
    (hstart : before = [] ∨ startsAtRoot block = false) :
    normalized (linked (linked before (normalized block)) after) =
      normalized (linked (linked before block) after) := by
  rw [normalized_of_ne_nil hblock]
  have hclosed := closed_ne_nil block
  have hne (b : List Char) (hb : b ≠ []) : linked (linked before b) after ≠ [] := by
    simp [linked_eq_nil_iff, hb]
  have hrootBefore {b : List Char} (hb : b ≠ []) :
      startsAtRoot (linked (linked before b) after) =
        if before = [] then startsAtRoot b else startsAtRoot before := by
    have hlinked : linked before b ≠ [] := by simp [linked_eq_nil_iff, hb]
    rw [startsAtRoot_linked hlinked]
    split_ifs with hbefore
    · rw [hbefore, linked_nil_left]
    · exact startsAtRoot_linked hbefore
  have hsameRoot :
      startsAtRoot (linked (linked before (closed block (normal block))) after) =
        startsAtRoot (linked (linked before block) after) := by
    rw [hrootBefore hclosed, hrootBefore hblock, startsAtRoot_closed]
  have hsame :
      normal (linked (linked before (closed block (normal block))) after) =
        normal (linked (linked before block) after) := by
    refine normal_congr hsameRoot ?_
    simp only [walk_linked]
    rw [walk_closed]
    intro hroot
    -- A block that starts at the root has nothing before it.
    obtain rfl : before = [] := by simpa [hroot] using hstart
    simp [hrootBefore hblock, hroot]
  rw [normalized_of_ne_nil (hne _ hclosed), normalized_of_ne_nil (hne _ hblock), hsame]
  refine closed_congr ?_
  by_cases hafter : after = []
  · subst hafter
    simp only [linked_nil_right]
    rw [endsWithSlash_linked hclosed, endsWithSlash_linked hblock, endsWithSlash_closed]
    cases hends : endsWithSlash (normal block) with
    | false => exact Or.inr (Bool.or_false _)
    | true =>
        -- The block is the root, so it is all of the path.
        have hroot := startsAtRoot_of_endsWithSlash_normal hends
        obtain rfl : before = [] := by simpa [hroot] using hstart
        exact Or.inl (by simpa [linked_nil_left] using hends)
  · refine Or.inr ?_
    rw [endsWithSlash_linked hafter, endsWithSlash_linked hafter]

end NormalForms

/-! ## Segments -/

/-- The normal form of a text is its own normal form. -/
theorem normalized_normalized (cs : List Char) :
    normalized (normalized cs) = normalized cs := by
  cases cs with
  | nil => decide
  | cons c rest =>
      simpa [linked_nil_left, linked_nil_right] using
        normalized_linked [] [] (List.cons_ne_nil c rest) (Or.inl rfl)

theorem toList_join (segments : List String) :
    (join segments).toList = normalized (textOf (segments.map String.toList)) := by
  rw [join, joinChars_eq, String.toList_ofList]

/-- The first segment that is not empty, as characters. -/
theorem find?_map_toList {segments : List String} {s : String}
    (h : segments.find? (· ≠ "") = some s) :
    (segments.map String.toList).find? (· ≠ []) = some s.toList := by
  have hempty : ((fun cs : List Char => decide (cs ≠ [])) ∘ String.toList) =
      fun s : String => decide (s ≠ "") := by
    funext s
    simp
  rw [List.find?_map, hempty, h, Option.map_some]

/-- **A block of segments can be replaced by the path that it joins to**, unless
it starts at the root and something stands before it. A joined path is joined
already. -/
theorem join_join_block (before block after : List String)
    (hblock : ∃ s, s ∈ block ∧ s ≠ "")
    (hstart : (∀ s, s ∈ before → s = "") ∨
      ∀ s, block.find? (· ≠ "") = some s → startsAtRoot s.toList = false) :
    join (before ++ [join block] ++ after) = join (before ++ block ++ after) ∧
    ∀ segments, join [join segments] = join segments := by
  constructor
  · have hne : textOf (block.map String.toList) ≠ [] := by
      obtain ⟨s, hs, hne⟩ := hblock
      intro h
      exact hne (String.toList_eq_nil_iff.mp
        (textOf_eq_nil_iff.mp h s.toList (List.mem_map_of_mem hs)))
    have hbefore : textOf (before.map String.toList) = [] ∨
        startsAtRoot (textOf (block.map String.toList)) = false := by
      rcases hstart with hempty | hfirst
      · refine Or.inl (textOf_eq_nil_iff.mpr fun s hs => ?_)
        obtain ⟨t, ht, rfl⟩ := List.mem_map.mp hs
        rw [hempty t ht]
        rfl
      · obtain ⟨s, hs, hne'⟩ := hblock
        have hsome : (block.find? (· ≠ "")).isSome = true :=
          List.find?_isSome.mpr ⟨s, hs, decide_eq_true hne'⟩
        obtain ⟨first, hfind⟩ := Option.isSome_iff_exists.mp hsome
        exact Or.inr ((startsAtRoot_textOf (find?_map_toList hfind)).trans (hfirst first hfind))
    apply String.toList_injective
    simp only [toList_join, List.map_append, List.map_cons, List.map_nil, textOf_append,
      textOf_singleton]
    exact normalized_linked _ _ hne hbefore
  · intro segments
    apply String.toList_injective
    simp only [toList_join, List.map_cons, List.map_nil, textOf_singleton,
      normalized_normalized]

/-- Going up and a last slash inside of a block that follows another segment. -/
theorem join_block_up :
    join (["a"] ++ [join ["../b/", "..//c/"]] ++ [""]) =
      join (["a"] ++ ["../b/", "..//c/"] ++ [""]) ∧
    ∀ segments, join [join segments] = join segments :=
  join_join_block ["a"] ["../b/", "..//c/"] [""] ⟨"../b/", by simp, by decide⟩
    (Or.inr fun s hs => by
      obtain rfl : "../b/" = s := by simpa using hs
      decide)

/-- At the root nothing may stand before a block: there `..` leads nowhere, but it
cancels a segment that stands before it. -/
example : join ["a", join ["/.."]] = "a/" ∧ join ["a", "/.."] = "." := by
  constructor <;> decide

end Joined
end BuildTransform
