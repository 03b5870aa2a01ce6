import BuildTransform.Proofs.Path.Grouping

/-!
# The normal form of joined paths

What a joined path looks like, said without joining one.

* `Leaves` relates some components to those that are left of them, with one rule for each
  way in which the next component is treated. `leaves_iff` compares it with `reduce`.
* `componentsOf` takes a text apart at its slashes, without the empty pieces that a slash in
  front and one at the end cut off. `eq_of_componentsOf_eq` puts it together again.
* `IsNormalForm` collects what is asked of the normal form of some segments.
* `isNormalForm_iff_eq_join` concludes: the joined path is the normal form, and the only one.
-/

namespace BuildTransform
namespace Joined

/-! ## What is left of components -/

/-- The component is a name: it neither stands for its own directory nor leads up. -/
structure IsName (c : Component) : Prop where
  ne_nil : c ≠ []
  ne_here : c ≠ here
  ne_up : c ≠ up

/-- What is left of some components: empty ones and `.` are dropped, and `..` cancels the
name before it. Where there is no name before it, `..` is dropped at the root and kept
elsewhere. -/
inductive Leaves (absolute : Bool) : List Component → List Component → Prop
  | nil :
      Leaves absolute [] []
  | skip {cs names : List Component} {c : Component}
      (hc : c = [] ∨ c = here)
      (h : Leaves absolute cs names) :
      Leaves absolute (cs ++ [c]) names
  | name {cs names : List Component} {c : Component}
      (hc : IsName c)
      (h : Leaves absolute cs names) :
      Leaves absolute (cs ++ [c]) (names ++ [c])
  | back {cs names : List Component} {c : Component}
      (hc : IsName c)
      (h : Leaves absolute cs (names ++ [c])) :
      Leaves absolute (cs ++ [up]) names
  | top {cs : List Component}
      (hroot : absolute = true)
      (h : Leaves absolute cs []) :
      Leaves absolute (cs ++ [up]) []
  | above {cs names : List Component}
      (hroot : absolute = false)
      (hups : ∀ c, c ∈ names → ¬ IsName c)
      (h : Leaves absolute cs names) :
      Leaves absolute (cs ++ [up]) (names ++ [up])

section Leaves

variable {absolute : Bool} {cs names : List Component} {c : Component}

theorem not_isName_up : ¬ IsName up :=
  fun h => h.ne_up rfl

/-- What is left is neither empty nor `.`. -/
theorem Leaves.mem (h : Leaves absolute cs names) (hc : c ∈ names) : c ≠ [] ∧ c ≠ here := by
  induction h with
  | nil => cases hc
  | skip _ _ ih => exact ih hc
  | name hname _ ih =>
      rcases List.mem_append.mp hc with hc | hc
      · exact ih hc
      · obtain rfl := List.mem_singleton.mp hc
        exact ⟨hname.ne_nil, hname.ne_here⟩
  | back _ _ ih => exact ih (List.mem_append_left _ hc)
  | top => cases hc
  | above _ _ _ ih =>
      rcases List.mem_append.mp hc with hc | hc
      · exact ih hc
      · obtain rfl := List.mem_singleton.mp hc
        exact ⟨by decide, by decide⟩

/-- **What leads up comes first**, and at the root nothing does. -/
theorem Leaves.ups_first (h : Leaves absolute cs names) :
    ∃ k rest, names = List.replicate k up ++ rest ∧ up ∉ rest ∧ (absolute = true → k = 0) := by
  induction h with
  | nil => exact ⟨0, [], rfl, List.not_mem_nil, fun _ => rfl⟩
  | skip _ _ ih => exact ih
  | @name _ _ c hc _ ih =>
      obtain ⟨k, rest, rfl, hrest, hroot⟩ := ih
      refine ⟨k, rest ++ [c], List.append_assoc _ _ _, ?_, hroot⟩
      simp only [List.mem_append, List.mem_singleton, not_or]
      exact ⟨hrest, fun h => hc.ne_up h.symm⟩
  | @back _ names c hc _ ih =>
      -- the name that is cancelled stands behind everything that leads up
      obtain ⟨k, rest, hnames, hrest, hroot⟩ := ih
      rcases List.eq_nil_or_concat' rest with rfl | ⟨rest, d, rfl⟩
      · have hmem : c ∈ List.replicate k up := by
          rw [← List.append_nil (List.replicate k up), ← hnames]
          simp
        exact absurd (List.eq_of_mem_replicate hmem) hc.ne_up
      · rw [← List.append_assoc] at hnames
        obtain ⟨rfl, -⟩ := List.append_inj' hnames rfl
        exact ⟨k, rest, rfl, fun h => hrest (List.mem_append_left _ h), hroot⟩
  | top => exact ⟨0, [], rfl, List.not_mem_nil, fun _ => rfl⟩
  | @above _ names hroot hups h _ =>
      have hall : ∀ c, c ∈ names → c = up := fun c hc => by
        by_contra hne
        exact hups c hc ⟨(h.mem hc).1, (h.mem hc).2, hne⟩
      refine ⟨names.length + 1, [], ?_, List.not_mem_nil, fun h => ?_⟩
      · rw [List.append_nil, List.replicate_succ', ← List.eq_replicate_of_mem hall]
      · rw [hroot] at h
        cases h

/-- One component more is pushed on what is left. -/
theorem reduce_concat :
    reduce absolute (cs ++ [c]) = (push absolute (reduce absolute cs).reverse c).reverse := by
  simp [reduce]

theorem Leaves.reduce_eq (h : Leaves absolute cs names) : reduce absolute cs = names := by
  induction h with
  | nil => rfl
  | skip hc _ ih =>
      rw [reduce_concat, ih]
      rcases hc with rfl | rfl <;> simp
  | name hc _ ih =>
      rw [reduce_concat, ih, push_name hc.ne_nil hc.ne_here hc.ne_up]
      simp
  | back hc _ ih =>
      rw [reduce_concat, ih, List.reverse_append, List.reverse_singleton,
        List.singleton_append, push_up_cons hc.ne_up, List.reverse_reverse]
  | top hroot _ ih =>
      rw [reduce_concat, ih, List.reverse_nil, push_up_nil, hroot]
      rfl
  | @above _ names hroot hups h ih =>
      rw [reduce_concat, ih]
      rcases List.eq_nil_or_concat' names with rfl | ⟨front, d, rfl⟩
      · rw [List.reverse_nil, push_up_nil, hroot]
        rfl
      · have hd : d ∈ front ++ [d] := by simp
        obtain rfl : d = up := by
          by_contra hne
          exact hups d hd ⟨(h.mem hd).1, (h.mem hd).2, hne⟩
        rw [List.reverse_append, List.reverse_singleton, List.singleton_append, push_up_up]
        simp

/-- Something is left of any components, and `reduce` finds it. -/
theorem leaves_reduce (absolute : Bool) (cs : List Component) :
    Leaves absolute cs (reduce absolute cs) := by
  induction cs using List.reverseRecOn with
  | nil => exact .nil
  | append_singleton cs c ih =>
      suffices h : ∃ names, Leaves absolute (cs ++ [c]) names by
        obtain ⟨names, h⟩ := h
        rwa [h.reduce_eq]
      by_cases hskip : c = [] ∨ c = here
      · exact ⟨_, .skip hskip ih⟩
      obtain ⟨hnil, hhere⟩ := not_or.mp hskip
      by_cases hup : c = up
      · subst hup
        generalize reduce absolute cs = names at ih
        rcases List.eq_nil_or_concat' names with rfl | ⟨front, d, rfl⟩
        · cases absolute with
          | true => exact ⟨_, .top rfl ih⟩
          | false => exact ⟨_, .above rfl (fun _ hc => absurd hc List.not_mem_nil) ih⟩
        · have hd := ih.mem (c := d) (by simp)
          by_cases hdup : d = up
          · -- a last `..` has only such components before it, so this is not the root
            obtain ⟨k, rest, hnames, hrest, hroot⟩ := ih.ups_first
            subst hdup
            obtain rfl : rest = [] := by
              rcases List.eq_nil_or_concat' rest with rfl | ⟨rest, e, rfl⟩
              · rfl
              · rw [← List.append_assoc] at hnames
                obtain ⟨-, he⟩ := List.append_inj' hnames rfl
                obtain rfl := List.singleton_inj.mp he
                exact absurd (List.mem_append_right rest List.mem_cons_self) hrest
            rw [List.append_nil] at hnames
            cases absolute with
            | true =>
                rw [hroot rfl] at hnames
                simp at hnames
            | false =>
                refine ⟨_, .above rfl (fun c hc => ?_) ih⟩
                rw [hnames] at hc
                rw [List.eq_of_mem_replicate hc]
                exact not_isName_up
          · exact ⟨_, .back ⟨hd.1, hd.2, hdup⟩ ih⟩
      · exact ⟨_, .name ⟨hnil, hhere, hup⟩ ih⟩

/-- **What is left of components** is what `reduce` finds. -/
theorem leaves_iff : Leaves absolute cs names ↔ reduce absolute cs = names := by
  constructor
  · exact Leaves.reduce_eq
  · rintro rfl
    exact leaves_reduce absolute cs

end Leaves

/-! ## The components of a text -/

/-- The pieces of a text between its slashes, without the empty one before a slash in front
and the empty one behind a slash at the end. -/
def componentsOf (cs : List Char) : List Component :=
  let behind := if startsAtRoot cs then (Text.pieces isSlash cs).tail else Text.pieces isSlash cs
  if endsWithSlash cs then behind.dropLast else behind

/-- The empty piece that a slash at one end of a text cuts off. -/
def cutOff (isSlash : Bool) : List Component :=
  if isSlash then [[]] else []

@[simp] theorem cutOff_false : cutOff false = [] :=
  rfl

@[simp] theorem cutOff_true : cutOff true = [[]] :=
  rfl

section Components

variable {cs ds : List Char} {names : List Component} {c : Component}

/-- More names follow behind a slash. -/
theorem joined_cons (h : names ≠ []) :
    Text.joined ['/'] (c :: names) = c ++ '/' :: Text.joined ['/'] names := by
  obtain ⟨d, rest, rfl⟩ := List.exists_cons_of_ne_nil h
  simp [Text.joined]

/-- A text is made of its pieces. -/
theorem joined_pieces (cs : List Char) : Text.joined ['/'] (Text.pieces isSlash cs) = cs := by
  induction cs with
  | nil => rfl
  | cons c cs ih =>
      obtain ⟨piece, rest, hpieces⟩ :=
        List.exists_cons_of_ne_nil (Text.pieces_ne_nil (p := isSlash) cs)
      rw [hpieces] at ih
      by_cases hc : isSlash c = true
      · obtain rfl : c = '/' := by simpa [isSlash] using hc
        rw [Text.pieces, if_pos hc, hpieces, joined_cons (List.cons_ne_nil piece rest), ih]
        rfl
      · rw [Text.pieces, if_neg hc, hpieces]
        cases rest with
        | nil => exact congrArg _ ih
        | cons next rest => exact congrArg _ ih

theorem pieces_slash_cons : Text.pieces isSlash ('/' :: cs) = [] :: Text.pieces isSlash cs := by
  rw [Text.pieces]
  rfl

theorem pieces_append_slash :
    Text.pieces isSlash (cs ++ ['/']) = Text.pieces isSlash cs ++ [[]] :=
  Text.pieces_append_cons rfl cs []

theorem startsAtRoot_iff : startsAtRoot cs = true ↔ ∃ rest, cs = '/' :: rest := by
  rw [startsAtRoot, beq_iff_eq, List.head?_eq_some_iff]

theorem endsWithSlash_iff : endsWithSlash cs = true ↔ ∃ rest, cs = rest ++ ['/'] := by
  rw [endsWithSlash, beq_iff_eq, List.getLast?_eq_some_iff]

/-- The pieces of a text are its components between what the slashes at its ends cut off. -/
theorem pieces_eq (cs : List Char) :
    Text.pieces isSlash cs =
      cutOff (startsAtRoot cs) ++ componentsOf cs ++ cutOff (endsWithSlash cs) := by
  have hfront : ∃ behind, Text.pieces isSlash cs = cutOff (startsAtRoot cs) ++ behind ∧
      behind ≠ [] ∧ componentsOf cs = if endsWithSlash cs then behind.dropLast else behind := by
    cases hroot : startsAtRoot cs with
    | true =>
        obtain ⟨rest, rfl⟩ := startsAtRoot_iff.mp hroot
        refine ⟨Text.pieces isSlash rest, pieces_slash_cons, Text.pieces_ne_nil rest, ?_⟩
        rw [componentsOf, hroot, pieces_slash_cons]
        rfl
    | false =>
        refine ⟨Text.pieces isSlash cs, rfl, Text.pieces_ne_nil cs, ?_⟩
        rw [componentsOf, hroot]
        rfl
  obtain ⟨behind, hpieces, hne, hcomponents⟩ := hfront
  cases hend : endsWithSlash cs with
  | false =>
      rw [hcomponents, hpieces, hend]
      simp
  | true =>
      obtain ⟨front, last, rfl⟩ := (List.eq_nil_or_concat' behind).resolve_left hne
      obtain ⟨rest, rfl⟩ := endsWithSlash_iff.mp hend
      obtain rfl : last = [] := by
        rw [pieces_append_slash, ← List.append_assoc] at hpieces
        exact (List.singleton_inj.mp (List.append_inj' hpieces rfl).2).symm
      rw [hcomponents, hpieces, hend]
      simp

/-- **A text is determined by its components and the slashes at its ends.** -/
theorem eq_of_componentsOf_eq (hroot : startsAtRoot cs = startsAtRoot ds)
    (hend : endsWithSlash cs = endsWithSlash ds) (h : componentsOf cs = componentsOf ds) :
    cs = ds := by
  rw [← joined_pieces cs, ← joined_pieces ds, pieces_eq cs, pieces_eq ds, hroot, hend, h]

/-- The text of some names, with a slash in front and one at the end if they are asked for. -/
def written (absolute : Bool) (names : List Component) (closed : Bool) : List Char :=
  (if absolute then ['/'] else []) ++ Text.joined ['/'] names ++ (if closed then ['/'] else [])

/-- The pieces of names that were put together are the names. -/
theorem pieces_joined (hne : names ≠ [])
    (hslash : ∀ c, c ∈ names → ∀ d, d ∈ c → isSlash d = false) :
    Text.pieces isSlash (Text.joined ['/'] names) = names := by
  induction names with
  | nil => exact absurd rfl hne
  | cons c rest ih =>
      have hc := Text.pieces_of_forall_not (hslash c List.mem_cons_self)
      cases rest with
      | nil => exact hc
      | cons d rest =>
          have hrest := ih (List.cons_ne_nil d rest) fun x hx =>
            hslash x (List.mem_cons_of_mem c hx)
          rw [joined_cons (List.cons_ne_nil d rest), Text.pieces_append_cons rfl, hc, hrest]
          rfl

theorem pieces_written {absolute closed : Bool} (hne : names ≠ [])
    (hslash : ∀ c, c ∈ names → ∀ d, d ∈ c → isSlash d = false) :
    Text.pieces isSlash (written absolute names closed) =
      cutOff absolute ++ names ++ cutOff closed := by
  have hnames := pieces_joined hne hslash
  cases absolute <;> cases closed <;>
    simp [written, pieces_slash_cons, pieces_append_slash, hnames]

theorem startsAtRoot_written {absolute closed : Bool} (hne : names ≠ [])
    (hnames : ∀ c, c ∈ names → c ≠ [] ∧ ∀ d, d ∈ c → isSlash d = false) :
    startsAtRoot (written absolute names closed) = absolute := by
  obtain ⟨c, rest, rfl⟩ := List.exists_cons_of_ne_nil hne
  obtain ⟨hc, hslash⟩ := hnames c List.mem_cons_self
  obtain ⟨d, c, rfl⟩ := List.exists_cons_of_ne_nil hc
  have hd : d ≠ '/' := by simpa [isSlash] using hslash d List.mem_cons_self
  cases absolute with
  | true => rfl
  | false => cases rest <;> simp [written, Text.joined, startsAtRoot, hd]

theorem endsWithSlash_written {absolute closed : Bool} (hne : names ≠ [])
    (hnames : ∀ c, c ∈ names → c ≠ [] ∧ ∀ d, d ∈ c → isSlash d = false) :
    endsWithSlash (written absolute names closed) = closed := by
  cases closed with
  | true => exact endsWithSlash_iff.mpr ⟨_, rfl⟩
  | false =>
      by_contra hend
      obtain ⟨rest, hrest⟩ := endsWithSlash_iff.mp (Bool.eq_true_of_not_eq_false hend)
      -- behind a slash at the end would be an empty piece, but the last piece is a name
      have hpieces : Text.pieces isSlash (written absolute names false) =
          cutOff absolute ++ names ++ cutOff false :=
        pieces_written hne fun c hc => (hnames c hc).2
      obtain ⟨front, last, rfl⟩ := (List.eq_nil_or_concat' names).resolve_left hne
      rw [hrest, pieces_append_slash, cutOff_false, List.append_nil,
        ← List.append_assoc] at hpieces
      have hlast := List.singleton_inj.mp (List.append_inj' hpieces rfl).2
      exact (hnames last (by simp)).1 hlast.symm

/-- The components of names that were put together are the names. -/
theorem componentsOf_written {absolute closed : Bool} (hne : names ≠ [])
    (hnames : ∀ c, c ∈ names → c ≠ [] ∧ ∀ d, d ∈ c → isSlash d = false) :
    componentsOf (written absolute names closed) = names := by
  have hpieces := (pieces_eq (written absolute names closed)).symm.trans
    (pieces_written hne fun c hc => (hnames c hc).2)
  rw [startsAtRoot_written hne hnames, endsWithSlash_written hne hnames] at hpieces
  exact List.append_cancel_left (List.append_cancel_right hpieces)

end Components

/-! ## Normal forms -/

/-- The components of some segments in order. -/
def allComponents (segments : List String) : List Component :=
  segments.flatMap fun s => Text.pieces isSlash s.toList

/-- The text is the normal form of the segments.

* `root`: it starts at the root iff the first segment that is not empty does.
* `single`: there is never a second slash in front.
* `components`: its components are what is left of those of the segments. If nothing is
  left elsewhere than at the root, `.` stands for it.
* `named`: no component is empty, and `.` is one in `.` and `./` only.
* `ups`: what leads up comes first, and not at the root.
* `closed`: it ends with a slash iff the last segment that is not empty does, or if it is
  the root.
* `bare`: segments that are all empty give `.`. -/
structure IsNormalForm (segments : List String) (text : String) : Prop where
  ne_empty : text ≠ ""
  root : startsAtRoot text.toList = true ↔
    ∃ s, (segments.filter (· ≠ "")).head? = some s ∧ startsAtRoot s.toList = true
  single : ∀ rest, text.toList ≠ '/' :: '/' :: rest
  components : ∃ names, Leaves (startsAtRoot text.toList) (allComponents segments) names ∧
    componentsOf text.toList =
      if names = [] ∧ startsAtRoot text.toList = false then [here] else names
  named : ∀ c, c ∈ componentsOf text.toList →
    c ≠ [] ∧ (c = here → text = "." ∨ text = "./")
  ups : ∃ k names, componentsOf text.toList = List.replicate k up ++ names ∧ up ∉ names ∧
    (startsAtRoot text.toList = true → k = 0)
  closed : endsWithSlash text.toList = true ↔
    (∃ s, (segments.filter (· ≠ "")).getLast? = some s ∧ endsWithSlash s.toList = true) ∨
      text = "/"
  bare : (∀ s, s ∈ segments → s = "") → text = "."

section NormalForms

variable {segments : List String} {text other : String}

/-- Where a text starts and what its components are tell whether it is the root. -/
theorem eq_root_iff : text = "/" ↔
    startsAtRoot text.toList = true ∧ componentsOf text.toList = [] := by
  constructor
  · rintro rfl
    decide
  · rintro ⟨hroot, hcomponents⟩
    have hend : endsWithSlash text.toList = true := by
      obtain ⟨rest, hrest⟩ := startsAtRoot_iff.mp hroot
      have hpieces := pieces_eq text.toList
      rw [hroot, hcomponents, hrest, pieces_slash_cons] at hpieces
      cases hend : endsWithSlash ('/' :: rest) with
      | true => exact hrest ▸ hend
      | false =>
          rw [hend] at hpieces
          exact absurd (List.cons.inj hpieces).2 (Text.pieces_ne_nil rest)
    exact String.toList_injective (eq_of_componentsOf_eq (by rw [hroot]; decide)
      (by rw [hend]; decide) (by rw [hcomponents]; decide))

/-- Some segments have one normal form only. -/
theorem IsNormalForm.unique (h : IsNormalForm segments text) (h' : IsNormalForm segments other) :
    text = other := by
  have hroot : startsAtRoot text.toList = startsAtRoot other.toList :=
    Bool.eq_iff_iff.mpr (h.root.trans h'.root.symm)
  have hcomponents : componentsOf text.toList = componentsOf other.toList := by
    obtain ⟨names, hleaves, htext⟩ := h.components
    obtain ⟨names', hleaves', hother⟩ := h'.components
    rw [htext, hother, ← hleaves.reduce_eq, ← hleaves'.reduce_eq, hroot]
  refine String.toList_injective (eq_of_componentsOf_eq hroot ?_ hcomponents)
  refine Bool.eq_iff_iff.mpr (h.closed.trans (Iff.trans ?_ h'.closed.symm))
  rw [eq_root_iff, eq_root_iff, hroot, hcomponents]

/-! ## Joined segments -/

/-- A path starts at the root iff the first of its segments that is not empty does. -/
theorem startsAtRoot_textOf_iff :
    startsAtRoot (textOf (segments.map String.toList)) = true ↔
      ∃ s, (segments.filter (· ≠ "")).head? = some s ∧ startsAtRoot s.toList = true := by
  induction segments with
  | nil => simp [textOf, Text.joined, startsAtRoot]
  | cons s segments ih =>
      rw [List.map_cons, textOf_cons]
      by_cases hs : s = ""
      · simpa [hs, linked_nil_left] using ih
      · rw [startsAtRoot_linked (mt String.toList_eq_nil_iff.mp hs),
          List.filter_cons_of_pos (by simpa using hs)]
        simp

/-- A path ends with a slash iff the last of its segments that is not empty does. -/
theorem endsWithSlash_textOf_iff :
    endsWithSlash (textOf (segments.map String.toList)) = true ↔
      ∃ s, (segments.filter (· ≠ "")).getLast? = some s ∧ endsWithSlash s.toList = true := by
  induction segments using List.reverseRecOn with
  | nil => simp [textOf, Text.joined, endsWithSlash]
  | append_singleton segments s ih =>
      rw [List.map_append, textOf_append, List.map_singleton, textOf_singleton,
        List.filter_append]
      by_cases hs : s = ""
      · simpa [hs, linked_nil_right] using ih
      · rw [endsWithSlash_linked (mt String.toList_eq_nil_iff.mp hs)]
        simp [hs]

/-- The walk along some segments follows their components. -/
theorem walk_textOf {absolute : Bool} {stack : List Component} :
    walk absolute stack (textOf (segments.map String.toList)) =
      (allComponents segments).foldl (push absolute) stack := by
  induction segments generalizing stack with
  | nil => simp [textOf, Text.joined, allComponents]
  | cons s segments ih =>
      rw [List.map_cons, textOf_cons, walk_linked, ih, allComponents, allComponents,
        List.flatMap_cons, List.foldl_append]
      rfl

/-- Names, with `.` in their place if there are none. -/
def shown (names : List Component) : List Component :=
  if names = [] then [here] else names

theorem shown_ne_nil (names : List Component) : shown names ≠ [] := by
  unfold shown
  split_ifs with h
  · exact List.cons_ne_nil _ _
  · exact h

/-- What is left of the pieces of a text is shown by components without slashes. -/
theorem mem_shown_reduce {absolute : Bool} {cs : List Char} {c : Component}
    (h : c ∈ shown (reduce absolute (Text.pieces isSlash cs))) :
    c ≠ [] ∧ ∀ d, d ∈ c → isSlash d = false := by
  unfold shown at h
  split_ifs at h
  · obtain rfl := List.mem_singleton.mp h
    exact ⟨List.cons_ne_nil _ _, by simp [here, isSlash]⟩
  · obtain ⟨hpiece, hne, -⟩ := mem_reduce h
    exact ⟨hne, Text.not_of_mem_pieces hpiece⟩

/-- A path without a last slash is the root, or made of the components that are left. -/
theorem normal_eq_written {cs : List Char} {names : List Component}
    (h : reduce (startsAtRoot cs) (Text.pieces isSlash cs) = names) :
    normal cs = if names = [] ∧ startsAtRoot cs = true then ['/']
      else written (startsAtRoot cs) (shown names) false := by
  have hbody : bodyOf cs = Text.joined ['/'] names := by rw [bodyOf, h]
  cases hroot : startsAtRoot cs with
  | true =>
      rw [normal_of_root hroot, hbody]
      by_cases hnames : names = []
      · simp [hnames, Text.joined]
      · simp [hnames, shown, written]
  | false =>
      rw [normal_of_relative hroot, hbody]
      by_cases hnames : names = []
      · simp [hnames, shown, written, Text.joined]
      · have hne : Text.joined ['/'] names ≠ [] := by
          obtain ⟨c, rest, rfl⟩ := List.exists_cons_of_ne_nil hnames
          have hc : c ≠ [] := (mem_reduce (h ▸ List.mem_cons_self)).2.1
          cases rest <;> simp [Text.joined, hc]
        simp [hnames, hne, shown, written]

/-- **A joined path** is the root, or made of the components that are left of those of its
segments. -/
theorem toList_join_eq_written (segments : List String) :
    let path := textOf (segments.map String.toList)
    let names := reduce (startsAtRoot path) (allComponents segments)
    (join segments).toList =
        (if names = [] ∧ startsAtRoot path = true then ['/']
          else written (startsAtRoot path) (shown names) (endsWithSlash path)) ∧
      ∀ c, c ∈ shown names → c ≠ [] ∧ ∀ d, d ∈ c → isSlash d = false := by
  intro path names
  have hreduce : reduce (startsAtRoot path) (Text.pieces isSlash path) = names :=
    congrArg List.reverse walk_textOf
  have hshown : ∀ c, c ∈ shown names → c ≠ [] ∧ ∀ d, d ∈ c → isSlash d = false := by
    rw [← hreduce]
    exact fun c => mem_shown_reduce
  refine ⟨?_, hshown⟩
  rw [toList_join]
  show normalized path = _
  by_cases hpath : path = []
  · have hnames : names = [] := by
      rw [← hreduce, hpath]
      rfl
    rw [hpath, hnames]
    rfl
  · rw [normalized_of_ne_nil hpath, normal_eq_written hreduce]
    split_ifs with hroot
    · simp [closed, endsWithSlash]
    · rw [closed, endsWithSlash_written (shown_ne_nil names) hshown]
      cases endsWithSlash path <;> simp [written]

/-- Segments that lead to the root have it as their normal form. -/
theorem isNormalForm_root
    (hroot : startsAtRoot (textOf (segments.map String.toList)) = true)
    (hleaves : Leaves true (allComponents segments) []) :
    IsNormalForm segments "/" := by
  have hstart : startsAtRoot "/".toList = true := by decide
  have hcomponents : componentsOf "/".toList = [] := by decide
  refine ⟨by decide, ?_, ?_, ⟨[], hstart ▸ hleaves, ?_⟩, ?_, ⟨0, [], ?_⟩, ?_, ?_⟩
  · exact iff_of_true hstart (startsAtRoot_textOf_iff.mp hroot)
  · rintro rest h
    cases h
  · rw [hcomponents, hstart]
    rfl
  · rw [hcomponents]
    exact nofun
  · exact ⟨hcomponents, List.not_mem_nil, fun _ => rfl⟩
  · exact iff_of_true (by decide) (Or.inr rfl)
  · intro hempty
    have hpath : textOf (segments.map String.toList) = [] :=
      textOf_eq_nil_iff.mpr (by simpa using hempty)
    rw [hpath] at hroot
    cases hroot

/-- Other segments have the names that are left of them as their normal form. -/
theorem isNormalForm_written {names : List Component}
    (hleaves : Leaves (startsAtRoot (textOf (segments.map String.toList)))
      (allComponents segments) names)
    (hnames : ¬ (names = [] ∧ startsAtRoot (textOf (segments.map String.toList)) = true))
    (hshown : ∀ c, c ∈ shown names → c ≠ [] ∧ ∀ d, d ∈ c → isSlash d = false)
    (htext : text.toList = written (startsAtRoot (textOf (segments.map String.toList)))
      (shown names) (endsWithSlash (textOf (segments.map String.toList)))) :
    IsNormalForm segments text := by
  have hne := shown_ne_nil names
  have hstart := startsAtRoot_written hne hshown ▸ congrArg startsAtRoot htext
  have hend := endsWithSlash_written hne hshown ▸ congrArg endsWithSlash htext
  have hcomponents := componentsOf_written hne hshown ▸ congrArg componentsOf htext
  refine ⟨?_, ?_, ?_, ⟨names, ?_, ?_⟩, ?_, ?_, ?_, ?_⟩
  · rintro rfl
    exact (hshown [] (hcomponents ▸ List.mem_cons_self)).1 rfl
  · rw [hstart]
    exact startsAtRoot_textOf_iff
  · intro rest h
    -- a second slash in front would leave an empty component first
    have hpieces := pieces_eq text.toList
    have hroot : startsAtRoot text.toList = true := startsAtRoot_iff.mpr ⟨_, h⟩
    obtain ⟨c, cs, hcs⟩ := List.exists_cons_of_ne_nil hne
    rw [hroot, hcomponents, h, pieces_slash_cons, pieces_slash_cons, hcs] at hpieces
    have hc : [] = c := (List.cons.inj (List.cons.inj hpieces).2).1
    exact (hshown c (hcs ▸ List.mem_cons_self)).1 hc.symm
  · rw [hstart]
    exact hleaves
  · rw [hcomponents, hstart, shown]
    refine if_congr ?_ rfl rfl
    rw [iff_self_and]
    exact fun h => Bool.eq_false_iff.mpr fun hroot => hnames ⟨h, hroot⟩
  · intro c hc
    rw [hcomponents] at hc
    refine ⟨(hshown c hc).1, ?_⟩
    rintro rfl
    have hnil : names = [] := by
      by_contra h
      rw [shown, if_neg h] at hc
      exact (hleaves.mem hc).2 rfl
    have hroot : startsAtRoot (textOf (segments.map String.toList)) = false :=
      Bool.eq_false_iff.mpr fun hroot => hnames ⟨hnil, hroot⟩
    rw [hnil, hroot] at htext
    cases hslash : endsWithSlash (textOf (segments.map String.toList)) with
    | false => exact Or.inl (String.toList_injective (htext.trans (by rw [hslash]; decide)))
    | true => exact Or.inr (String.toList_injective (htext.trans (by rw [hslash]; decide)))
  · rw [hcomponents, hstart, shown]
    split_ifs with hnil
    · exact ⟨0, [here], rfl, by decide, fun _ => rfl⟩
    · exact hleaves.ups_first
  · rw [hend, endsWithSlash_textOf_iff]
    refine (or_iff_left ?_).symm
    rw [eq_root_iff, hcomponents]
    exact fun h => hne h.2
  · intro hempty
    have hpath : textOf (segments.map String.toList) = [] :=
      textOf_eq_nil_iff.mpr (by simpa using hempty)
    have hnil : names = [] := by
      rw [← hleaves.reduce_eq, hpath, reduce, ← walk_textOf, hpath]
      rfl
    rw [hpath, hnil] at htext
    exact String.toList_injective (htext.trans (by decide))

/-- **Joining yields the normal form of the segments**, and nothing else is one. -/
theorem isNormalForm_iff_eq_join (segments : List String) (text : String) :
    IsNormalForm segments text ↔ text = join segments := by
  suffices h : IsNormalForm segments (join segments) by
    constructor
    · exact fun h' => h'.unique h
    · rintro rfl
      exact h
  obtain ⟨hjoin, hshown⟩ := toList_join_eq_written segments
  have hleaves := leaves_reduce (startsAtRoot (textOf (segments.map String.toList)))
    (allComponents segments)
  split_ifs at hjoin with hroot
  · rw [hroot.1, hroot.2] at hleaves
    have htext : join segments = "/" := String.toList_injective hjoin
    rw [htext]
    exact isNormalForm_root hroot.2 hleaves
  · exact isNormalForm_written hleaves hroot hshown hjoin

example : join ["..", "a/../..", "./"] = "../../" := by decide

end NormalForms

end Joined
end BuildTransform
