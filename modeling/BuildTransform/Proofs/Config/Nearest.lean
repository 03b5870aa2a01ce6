import BuildTransform.Config.Manifest
import BuildTransform.Proofs.Outcome

/-!
# The nearest manifest

Which file the search for a manifest ends at.

* `Settles` relates a list of paths to the first one that is not simply absent,
  with what the test for a file says of it.
* `fileAmong` looks for the first file among some paths; `search_map_eq` says that
  the search for a manifest looks through all candidates in order.
* `search_eq_found_iff` and its companions conclude: the first path that settles
  the candidates decides the search.
-/

namespace BuildTransform

namespace Workspace

section Tests

variable {w : Workspace} {p : Path}

/-- Only a name that is too long and a closed directory keep a path from being tested. -/
theorem test_eq_error_iff {accept : Entry → Bool} {f : Fault} :
    w.test p accept = .error f ↔ (f = .nameTooLong ∨ f = .denied) ∧ w.stat p = .error f := by
  unfold test
  cases w.stat p with
  | ok e => simp
  | error fault => cases fault <;> simp [eq_comm] <;> grind

/-- A path leads to a file iff a file stands where it ends. -/
theorem isFile?_eq_true_iff : w.isFile? p = .ok true ↔ ∃ c, w.stat p = .ok (.file c) := by
  unfold isFile? test
  split
  · rename_i e _
    cases e <;> simp_all
  all_goals simp_all

/-- What is read from a file is its content, unless that cannot be read. -/
theorem read_of_stat {c : Content} (h : w.stat p = .ok (.file c)) : w.read p =
    match c with
    | .unreadable error => .error (.unreadable error)
    | c => .ok c := by
  cases c <;> simp [read, h, bind, Except.bind]

/-- What is read stands in a file. -/
theorem stat_of_read {c : Content} (h : w.read p = .ok c) : w.stat p = .ok (.file c) := by
  obtain ⟨entry, hstat, hentry⟩ := Outcome.chain_eq_ok_iff.mp h
  rcases entry with (s | _ | error) | _ | _ | _ <;> cases hentry <;> exact hstat

end Tests

/-- The first of some paths of which more is told than that it is no file. -/
def Settles (w : Workspace) (paths : List Path) (p : Path) (told : Except Fault Bool) :
    Prop :=
  told ≠ .ok false ∧ ∃ before after, paths = before ++ p :: after ∧
    (∀ q, q ∈ before → w.isFile? q = .ok false) ∧ w.isFile? p = told

section Settles

variable {w : Workspace} {p q : Path} {paths : List Path} {told : Except Fault Bool}

@[simp] theorem not_settles_nil : ¬ w.Settles [] p told := by
  rintro ⟨-, before, after, h, -⟩
  simp at h

/-- Looking at one path more. -/
theorem settles_cons_iff :
    w.Settles (q :: paths) p told ↔
      (q = p ∧ told ≠ .ok false ∧ w.isFile? p = told) ∨
      (w.isFile? q = .ok false ∧ w.Settles paths p told) := by
  constructor
  · rintro ⟨htold, before, after, hpaths, hbefore, hp⟩
    cases before with
    | nil =>
        obtain ⟨rfl, rfl⟩ := List.cons.inj hpaths
        exact Or.inl ⟨rfl, htold, hp⟩
    | cons r before =>
        obtain ⟨rfl, rfl⟩ := List.cons.inj hpaths
        exact Or.inr ⟨hbefore _ List.mem_cons_self, htold, before, after, rfl,
          fun r hr => hbefore r (List.mem_cons_of_mem _ hr), hp⟩
  · rintro (⟨rfl, htold, hp⟩ | ⟨hq, htold, before, after, rfl, hbefore, hp⟩)
    · exact ⟨htold, [], paths, rfl, by simp, hp⟩
    · refine ⟨htold, q :: before, after, rfl, ?_, hp⟩
      intro r hr
      rcases List.mem_cons.mp hr with rfl | hr
      · exact hq
      · exact hbefore r hr

theorem Settles.told_eq (h : w.Settles paths p told) : w.isFile? p = told := by
  obtain ⟨-, before, after, -, -, hp⟩ := h
  exact hp

/-- A path that settles some paths is one of them and not absent. -/
theorem Settles.not_all_absent (h : w.Settles paths p told) :
    ¬ ∀ q, q ∈ paths → w.isFile? q = .ok false := by
  obtain ⟨htold, before, after, rfl, -, hp⟩ := h
  intro habsent
  exact htold (hp.symm.trans (habsent p (by simp)))

/-- Only one path settles some paths. -/
theorem Settles.unique {p' : Path} {told' : Except Fault Bool}
    (h : w.Settles paths p told) (h' : w.Settles paths p' told') : p = p' ∧ told = told' := by
  induction paths with
  | nil => exact absurd h not_settles_nil
  | cons q paths ih =>
      rcases settles_cons_iff.mp h with ⟨rfl, htold, hp⟩ | ⟨hq, h⟩ <;>
        rcases settles_cons_iff.mp h' with ⟨rfl, htold', hp'⟩ | ⟨hq', h'⟩
      · exact ⟨rfl, hp.symm.trans hp'⟩
      · exact absurd (hp.symm.trans hq') htold
      · exact absurd (hp'.symm.trans hq) htold'
      · exact ih h h'

end Settles

/-- The first of some paths that leads to a file. -/
def fileAmong (w : Workspace) : List Path → Except Fault (Option Path)
  | [] => .ok none
  | p :: rest => do
      if ← w.isFile? p then .ok (some p) else w.fileAmong rest

section FileAmong

variable {w : Workspace} {p q : Path} {paths : List Path}

theorem fileAmong_of_error {f : Fault} (h : w.isFile? q = .error f) :
    w.fileAmong (q :: paths) = .error f := by
  simp [fileAmong, h, bind, Except.bind]

theorem fileAmong_of_file (h : w.isFile? q = .ok true) :
    w.fileAmong (q :: paths) = .ok (some q) := by
  simp [fileAmong, h, bind, Except.bind]

theorem fileAmong_of_absent (h : w.isFile? q = .ok false) :
    w.fileAmong (q :: paths) = w.fileAmong paths := by
  simp [fileAmong, h, bind, Except.bind]

/-- No path leads to a file iff each of them is absent. -/
theorem fileAmong_eq_none_iff :
    w.fileAmong paths = .ok none ↔ ∀ q, q ∈ paths → w.isFile? q = .ok false := by
  induction paths with
  | nil => simp [fileAmong]
  | cons q paths ih =>
      rw [List.forall_mem_cons, ← ih]
      cases h : w.isFile? q with
      | error f => simp [fileAmong_of_error h]
      | ok isFile =>
          cases isFile with
          | true => simp [fileAmong_of_file h]
          | false => simp [fileAmong_of_absent h]

/-- A file is the first one iff it settles the paths. -/
theorem fileAmong_eq_some_iff :
    w.fileAmong paths = .ok (some p) ↔ w.Settles paths p (.ok true) := by
  induction paths with
  | nil => simp [fileAmong]
  | cons q paths ih =>
      rw [settles_cons_iff, ← ih]
      cases h : w.isFile? q with
      | error f =>
          rw [fileAmong_of_error h]
          constructor
          · rintro ⟨⟩
          · rintro (⟨rfl, -, hfile⟩ | ⟨⟨⟩, -⟩)
            rw [h] at hfile
            cases hfile
      | ok isFile =>
          cases isFile with
          | true =>
              rw [fileAmong_of_file h]
              constructor
              · rintro ⟨⟩
                exact Or.inl ⟨rfl, by decide, h⟩
              · rintro (⟨rfl, -, -⟩ | ⟨⟨⟩, -⟩)
                rfl
          | false =>
              rw [fileAmong_of_absent h]
              constructor
              · exact fun hp => Or.inr ⟨rfl, hp⟩
              · rintro (⟨rfl, -, hfile⟩ | ⟨-, hp⟩)
                · rw [h] at hfile
                  cases hfile
                · exact hp

/-- Looking for a file fails iff a path that cannot be tested settles the paths. -/
theorem fileAmong_eq_error_iff {f : Fault} :
    w.fileAmong paths = .error f ↔ ∃ p, w.Settles paths p (.error f) := by
  induction paths with
  | nil => simp [fileAmong]
  | cons q paths ih =>
      simp only [settles_cons_iff, exists_or, exists_and_left, ← ih]
      cases h : w.isFile? q with
      | error f' =>
          rw [fileAmong_of_error h]
          constructor
          · rintro ⟨⟩
            exact Or.inl ⟨q, rfl, by simp, h⟩
          · rintro (⟨p, rfl, -, hfile⟩ | ⟨⟨⟩, -⟩)
            rw [h] at hfile
            cases hfile
            rfl
      | ok isFile =>
          cases isFile with
          | true =>
              rw [fileAmong_of_file h]
              constructor
              · rintro ⟨⟩
              · rintro (⟨p, rfl, -, hfile⟩ | ⟨⟨⟩, -⟩)
                rw [h] at hfile
                cases hfile
          | false =>
              rw [fileAmong_of_absent h]
              constructor
              · exact fun hp => Or.inr ⟨rfl, hp⟩
              · rintro (⟨p, rfl, -, hfile⟩ | ⟨-, hp⟩)
                · rw [h] at hfile
                  cases hfile
                · exact hp

/-- Looking through more paths behind some. -/
theorem fileAmong_append {more : List Path} :
    w.fileAmong (paths ++ more) =
      w.fileAmong paths >>= fun
        | some p => .ok (some p)
        | none => w.fileAmong more := by
  induction paths with
  | nil => rfl
  | cons q paths ih =>
      rw [List.cons_append]
      cases h : w.isFile? q with
      | error f =>
          rw [fileAmong_of_error h, fileAmong_of_error h]
          rfl
      | ok isFile =>
          cases isFile with
          | true =>
              rw [fileAmong_of_file h, fileAmong_of_file h]
              rfl
          | false => rw [fileAmong_of_absent h, fileAmong_of_absent h, ih]

end FileAmong

end Workspace

namespace Manifest

/-- The paths at which a manifest may lie, in the order in which they are tried. -/
def candidates (names : List String) (dirs : List Path) : List Path :=
  dirs.flatMap fun dir => names.map dir.child

section Search

variable {w : Workspace} {dir p : Path} {names : List String} {dirs : List Path}

theorem firstFile_eq : firstFile w dir names = w.fileAmong (names.map dir.child) := by
  induction names with
  | nil => rfl
  | cons name names ih =>
      rw [firstFile, ih]
      rfl

/-- The search looks through all candidates in order. -/
theorem search_map_eq :
    (search w names dirs).map Prod.snd = w.fileAmong (candidates names dirs) := by
  induction dirs with
  | nil => rfl
  | cons dir dirs ih =>
      have hcandidates : candidates names (dir :: dirs) =
          names.map dir.child ++ candidates names dirs := rfl
      rw [hcandidates, Workspace.fileAmong_append, ← ih, search, firstFile_eq]
      cases w.fileAmong (names.map dir.child) with
      | error f => rfl
      | ok found =>
          cases found with
          | some p => rfl
          | none => cases search w names dirs <;> rfl

/-- The search finds nothing iff every candidate is absent. -/
theorem search_eq_missing_iff :
    (∃ searched, search w names dirs = .ok (searched, none)) ↔
      ∀ q, q ∈ candidates names dirs → w.isFile? q = .ok false := by
  rw [← Workspace.fileAmong_eq_none_iff, ← search_map_eq, Outcome.map_eq_ok_iff]
  simp

/-- The search finds the first candidate that is a file, if none before it is in
the way. -/
theorem search_eq_found_iff :
    (∃ searched, search w names dirs = .ok (searched, some p)) ↔
      w.Settles (candidates names dirs) p (.ok true) := by
  rw [← Workspace.fileAmong_eq_some_iff, ← search_map_eq, Outcome.map_eq_ok_iff]
  simp

/-- The search fails iff a candidate that cannot be tested comes before any file. -/
theorem search_eq_error_iff {f : Fault} :
    search w names dirs = .error f ↔
      ∃ p, w.Settles (candidates names dirs) p (.error f) := by
  rw [← Workspace.fileAmong_eq_error_iff, ← search_map_eq, Outcome.map_eq_error_iff]

end Search

end Manifest
end BuildTransform
