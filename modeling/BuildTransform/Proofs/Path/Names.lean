import BuildTransform.Proofs.Path.NormalForm
import BuildTransform.Workspace.Walk

/-!
# Names of paths

A path keeps the names between the slashes of a text. What its own text leads to is what the
text led to that it was made from.

* `Joined.kept` are the components of a text that become names of a path.
* `Joined.toList_trimmed_join` gives the text of a joined path without a slash at its end.
* `Path.walk_text_child` says that the text of a continued path leads where both texts lead, one
  after the other, and `Path.ofText_of_names` which path a text of names denotes.
* `Joined.normal_eq_collapsed` compares joined paths with a normal form for which two slashes in
  front are not one.
-/

namespace BuildTransform

namespace Joined

/-- The components of a text that are neither empty nor `.`. -/
def kept (cs : List Char) : List Component :=
  (Text.pieces isSlash cs).filter fun c => c ≠ [] ∧ c ≠ here

section Kept

variable {absolute : Bool} {stack : List Component} {cs : List Char} {c : Component}

/-- Components that are dropped do not matter to a walk. -/
theorem foldl_kept : (kept cs).foldl (push absolute) stack = walk absolute stack cs := by
  rw [kept, List.foldl_filter, walk]
  congr 1
  funext stack c
  split_ifs with h
  · rfl
  · have hskip : c = [] ∨ c = here := by
      by_contra hno
      obtain ⟨hnil, hhere⟩ := not_or.mp hno
      exact h (by simp [hnil, hhere])
    rcases hskip with rfl | rfl <;> simp

theorem not_slash_of_mem_kept (h : c ∈ kept cs) : ∀ d, d ∈ c → isSlash d = false :=
  Text.not_of_mem_pieces (List.mem_of_mem_filter h)

theorem joined_eq_intercalate (cs : List Component) :
    Text.joined ['/'] cs = ['/'].intercalate cs := by
  induction cs with
  | nil => rfl
  | cons c rest ih =>
      cases rest with
      | nil => simp [Text.joined, List.intercalate]
      | cons d rest =>
          rw [joined_cons (List.cons_ne_nil d rest), ih, List.intercalate_cons_cons,
            List.append_assoc]
          rfl

/-- Joined components have the characters of the components, and slashes. -/
theorem mem_joined_iff {d : Char} (hslash : d ≠ '/') (cs : List Component) :
    d ∈ Text.joined ['/'] cs ↔ ∃ c, c ∈ cs ∧ d ∈ c := by
  induction cs with
  | nil => simp [Text.joined]
  | cons c rest ih =>
      cases rest with
      | nil => simp [Text.joined]
      | cons e rest =>
          rw [joined_cons (List.cons_ne_nil e rest), List.mem_append, List.mem_cons, ih]
          simp [hslash]

/-- Of its characters a text loses only slashes and dots with the components that are dropped. -/
theorem exists_mem_kept_iff {d : Char} (hslash : d ≠ '/') (hdot : d ≠ '.') :
    (∃ c, c ∈ kept cs ∧ d ∈ c) ↔ d ∈ cs := by
  rw [← joined_pieces cs, mem_joined_iff hslash, joined_pieces]
  refine exists_congr fun c => and_congr_left fun hd => ?_
  rw [kept, List.mem_filter, and_iff_left_iff_imp]
  intro _
  have hnil : c ≠ [] := List.ne_nil_of_mem hd
  have hhere : c ≠ here := by
    rintro rfl
    exact hdot (List.mem_singleton.mp hd)
  simp [hnil, hhere]

end Kept

/-- A path without the slash at its end. The root keeps its slash. -/
def trimmed (text : String) : String :=
  if text ≠ "/" ∧ endsWithSlash text.toList = true then String.ofList text.toList.dropLast
  else text

/-- The joined path of segments that start at the root, without a slash at its end. -/
theorem toList_trimmed_join {segments : List String}
    (hroot : startsAtRoot (textOf (segments.map String.toList)) = true) :
    (trimmed (join segments)).toList =
      '/' :: Text.joined ['/'] (walk true [] (textOf (segments.map String.toList))).reverse := by
  obtain ⟨hjoin, hshown⟩ := toList_join_eq_written segments
  have hreduce : reduce true (allComponents segments) =
      (walk true [] (textOf (segments.map String.toList))).reverse := by
    rw [walk_textOf, reduce]
  rw [hroot, hreduce] at hjoin hshown
  generalize (walk true [] (textOf (segments.map String.toList))).reverse = names at hjoin hshown ⊢
  generalize endsWithSlash (textOf (segments.map String.toList)) = closed at hjoin
  by_cases hnames : names = []
  · rw [if_pos ⟨hnames, rfl⟩] at hjoin
    have hslash : join segments = "/" := String.toList_injective hjoin
    rw [hslash, hnames]
    decide
  · have hself : shown names = names := if_neg hnames
    rw [if_neg fun h => hnames h.1, hself] at hjoin
    rw [hself] at hshown
    have hend : endsWithSlash (join segments).toList = closed := by
      rw [hjoin]
      exact endsWithSlash_written hnames hshown
    have hother : join segments ≠ "/" := by
      intro h
      have hcomponents : componentsOf (written true names closed) = names :=
        componentsOf_written hnames hshown
      rw [← hjoin, h] at hcomponents
      exact hnames hcomponents.symm
    cases closed with
    | false =>
        rw [trimmed, if_neg fun h => Bool.noConfusion (hend.symm.trans h.2), hjoin]
        simp [written]
    | true =>
        rw [trimmed, if_pos ⟨hother, hend⟩, String.toList_ofList, hjoin]
        exact List.dropLast_concat

end Joined

namespace Path

section Text

variable {p : Path} {D s : String}

theorem rootOf_eq_relative_iff {cs : List Char} :
    rootOf cs = .relative ↔ Joined.startsAtRoot cs = false := by
  unfold Joined.startsAtRoot rootOf
  split
  · simp
  · simp
  · simp
  · next hno =>
      simp only [true_iff]
      cases cs with
      | nil => rfl
      | cons c rest =>
          have hc : c ≠ '/' := by
            rintro rfl
            exact hno rest rfl
          simpa using hc

theorem root_ofText_eq_relative_iff : (ofText s).root = .relative ↔ isAbsolute s = false :=
  rootOf_eq_relative_iff

/-- The names of a path are the components that were kept. -/
theorem map_toList_names_ofText : (ofText s).names.map String.toList = Joined.kept s.toList := by
  simp [ofText, Joined.kept, Function.comp_def]

/-- A text that does not start at the root continues a path. -/
theorem child_of_relative (hs : isAbsolute s = false) :
    p.child s = ⟨p.root, p.names ++ (ofText s).names⟩ := by
  simp [child, root_ofText_eq_relative_iff.mpr hs]

/-- The text of a path that starts at the root. -/
theorem toList_text (h : p.root ≠ .relative) :
    p.text.toList = (rootText p.root).toList ++
      Text.joined ['/'] (p.names.map String.toList) := by
  obtain ⟨root, names⟩ := p
  cases root with
  | relative => exact absurd rfl h
  | _ => simp [text, Joined.joined_eq_intercalate]

theorem isAbsolute_text (h : p.root ≠ .relative) : isAbsolute p.text = true := by
  rw [isAbsolute, toList_text h]
  obtain ⟨root, names⟩ := p
  cases root with
  | relative => exact absurd rfl h
  | _ => simp [rootText, Joined.startsAtRoot]

/-- Walking along the text of a path follows its names. -/
theorem walk_text (h : p.root ≠ .relative)
    (hslash : ∀ c, c ∈ p.names.map String.toList → ∀ d, d ∈ c → Joined.isSlash d = false) :
    Joined.walk true [] p.text.toList =
      (p.names.map String.toList).foldl (Joined.push true) [] := by
  rw [toList_text h, ← Joined.walk_joined hslash]
  obtain ⟨root, names⟩ := p
  cases root with
  | relative => exact absurd rfl h
  | _ => simp [rootText]

/-- The names of a continued path are the components that were kept of both texts. -/
theorem map_toList_names_child (hs : isAbsolute s = false) :
    ((ofText D).child s).names.map String.toList =
      Joined.kept D.toList ++ Joined.kept s.toList := by
  rw [child_of_relative hs, List.map_append, map_toList_names_ofText, map_toList_names_ofText]

theorem root_child_ne (hD : isAbsolute D = true) (hs : isAbsolute s = false) :
    ((ofText D).child s).root ≠ .relative := by
  rw [child_of_relative hs, Ne, root_ofText_eq_relative_iff, hD]
  exact Bool.noConfusion

/-- **The text of a continued path** leads where both texts lead one after the other. -/
theorem walk_text_child (hD : isAbsolute D = true) (hs : isAbsolute s = false) :
    Joined.walk true [] ((ofText D).child s).text.toList =
      Joined.walk true (Joined.walk true [] D.toList) s.toList := by
  have hnames := map_toList_names_child (D := D) hs
  rw [walk_text (root_child_ne hD hs), hnames, List.foldl_append, Joined.foldl_kept,
    Joined.foldl_kept]
  rw [hnames]
  intro c hc
  rcases List.mem_append.mp hc with hc | hc
  · exact Joined.not_slash_of_mem_kept hc
  · exact Joined.not_slash_of_mem_kept hc

/-- The text of a continued path has the characters of both texts, but for slashes and dots. -/
theorem mem_text_child_iff {d : Char} (hD : isAbsolute D = true) (hs : isAbsolute s = false)
    (hslash : d ≠ '/') (hdot : d ≠ '.') :
    d ∈ ((ofText D).child s).text.toList ↔ d ∈ D.toList ∨ d ∈ s.toList := by
  have hroot : d ∉ (rootText ((ofText D).child s).root).toList := by
    cases ((ofText D).child s).root <;> simp [rootText, hslash]
  rw [toList_text (root_child_ne hD hs), List.mem_append, or_iff_right hroot,
    Joined.mem_joined_iff hslash, map_toList_names_child hs]
  simp only [List.mem_append, or_and_right, exists_or, Joined.exists_mem_kept_iff hslash hdot]

theorem rootOf_slash_cons {cs : List Char} (h : Joined.startsAtRoot cs = false) :
    rootOf ('/' :: cs) = .single := by
  cases cs with
  | nil => rfl
  | cons c rest =>
      have hc : c ≠ '/' := by
        rintro rfl
        cases h
      unfold rootOf
      split
      · rfl
      · next heq => simp_all
      · rfl
      · next hno => exact absurd rfl (hno _)

/-- A text from the root that is made of names denotes the path of the names. -/
theorem ofText_of_names {names : List Joined.Component} (hhere : Joined.here ∉ names)
    (hnames : ∀ c, c ∈ names → c ≠ [] ∧ ∀ d, d ∈ c → Joined.isSlash d = false)
    (hs : s.toList = '/' :: Text.joined ['/'] names) :
    ofText s = ⟨.single, names.map String.ofList⟩ := by
  by_cases hne : names = []
  · rw [ofText, hs, hne]
    rfl
  have hroot : rootOf s.toList = .single := by
    have hbehind : Joined.startsAtRoot (Joined.written false names false) = false :=
      Joined.startsAtRoot_written hne hnames
    rw [hs]
    exact rootOf_slash_cons (by simpa [Joined.written] using hbehind)
  have hpieces : Text.pieces Joined.isSlash s.toList = [] :: names := by
    rw [hs, Joined.pieces_slash_cons, Joined.pieces_joined hne fun c hc => (hnames c hc).2]
  have hkept : (([] : Joined.Component) :: names).filter (fun c => c ≠ [] ∧ c ≠ Joined.here) =
      names := by
    rw [List.filter_cons_of_neg (by simp), List.filter_eq_self]
    exact fun c hc => decide_eq_true ⟨(hnames c hc).1, ne_of_mem_of_not_mem hc hhere⟩
  rw [ofText, hroot, hpieces, hkept]

end Text

end Path

namespace Joined

/-! ## Two slashes in front -/

/-- The normal form of a path for which exactly two slashes in front are a root of their own. -/
def normalFromRoot (cs : List Char) : List Char :=
  let text := (Path.rootText (Path.rootOf cs)).toList ++ bodyOf cs
  if text = [] then here else text

/-- The text with one slash in front in place of two. -/
def collapsed : List Char → List Char
  | '/' :: '/' :: rest => '/' :: rest
  | cs => cs

section Collapsed

variable {cs : List Char}

/-- A text that starts with no slash stays as it is. -/
theorem collapsed_of_relative (h : startsAtRoot cs = false) : collapsed cs = cs := by
  unfold collapsed
  split
  · cases h
  · rfl

theorem collapsed_slash_cons (h : startsAtRoot cs = false) :
    collapsed ('/' :: cs) = '/' :: cs := by
  cases cs with
  | nil => rfl
  | cons c rest =>
      have hc : c ≠ '/' := by
        rintro rfl
        cases h
      rw [collapsed]
      simpa using hc

/-- **Of two slashes in front a joined path keeps one.** In all else it is the normal form of
a path that tells two slashes in front from one. -/
theorem normal_eq_collapsed (cs : List Char) : normal cs = collapsed (normalFromRoot cs) := by
  have hbody : startsAtRoot (bodyOf cs) = false := startsAtRoot_bodyOf
  have hstart (hroot : Path.rootOf cs ≠ .relative) : startsAtRoot cs = true := by
    rwa [Ne, Path.rootOf_eq_relative_iff, Bool.not_eq_false] at hroot
  cases hroot : Path.rootOf cs with
  | relative =>
      rw [normal_of_relative (Path.rootOf_eq_relative_iff.mp hroot), normalFromRoot, hroot]
      show _ = collapsed (if bodyOf cs = [] then here else bodyOf cs)
      split_ifs
      · rfl
      · exact (collapsed_of_relative hbody).symm
  | single =>
      rw [normal_of_root (hstart (hroot ▸ nofun)), normalFromRoot, hroot]
      exact (collapsed_slash_cons hbody).symm
  | double =>
      rw [normal_of_root (hstart (hroot ▸ nofun)), normalFromRoot, hroot]
      rfl

end Collapsed

end Joined

end BuildTransform
