import BuildTransform.Proofs.Script.Lexemes

/-!
# Lexemes in front of different texts

A lexeme that ends where an argument ends does not depend on what follows there.

* `stops` are the characters that may stand directly behind an argument.
* `Beside` relates two texts that are the same up to such a place.
* `lexeme?_beside` is the result; it is put together from one lemma for each way in
  which lexemes are read.
-/

namespace BuildTransform
namespace Script
namespace Lexer

open Literal

/-- The characters that may stand directly behind an argument. -/
def stops : List Char :=
  [' ', '\t', '\x0c', '\n', '#', '\\', ',', ')']

/-- The text starts with a character that may stand behind an argument. -/
def Stops (cs : List Char) : Prop :=
  ∃ c rest, cs = c :: rest ∧ c ∈ stops

/-- The texts are the same, except that one ends with `C` and the other with `D`. -/
def Beside (C D cs cs' : List Char) : Prop :=
  ∃ w, cs = w ++ C ∧ cs' = w ++ D

section Texts

variable {C D cs cs' rest : List Char}

theorem Beside.cases (h : Beside C D cs cs') :
    (cs = C ∧ cs' = D) ∨
      ∃ c rest rest', cs = c :: rest ∧ cs' = c :: rest' ∧ Beside C D rest rest' := by
  obtain ⟨_ | ⟨c, w⟩, rfl, rfl⟩ := h
  · exact Or.inl ⟨rfl, rfl⟩
  · exact Or.inr ⟨c, w ++ C, w ++ D, rfl, rfl, w, rfl, rfl⟩

/-- Either the texts start with the same character, or an argument may stand in front
of both. -/
theorem Beside.head (h : Beside C D cs cs') (hC : Stops C) (hD : Stops D) :
    (∃ a b as bs, a ∈ stops ∧ b ∈ stops ∧ cs = a :: as ∧ cs' = b :: bs) ∨
      ∃ c rest rest', cs = c :: rest ∧ cs' = c :: rest' ∧ Beside C D rest rest' := by
  rcases h.cases with ⟨rfl, rfl⟩ | hcons
  · obtain ⟨a, as, rfl, ha⟩ := hC
    obtain ⟨b, bs, rfl, hb⟩ := hD
    exact Or.inl ⟨a, b, as, bs, ha, hb, rfl, rfl⟩
  · exact Or.inr hcons

theorem Beside.symm (h : Beside C D cs cs') : Beside D C cs' cs := by
  obtain ⟨w, hcs, hcs'⟩ := h
  exact ⟨w, hcs', hcs⟩

/-- A first character that may not stand behind an argument is that of both texts. -/
theorem Beside.tail {x : Char} (hx : x ∉ stops) (hC : Stops C) (h : Beside C D (x :: rest) cs') :
    ∃ rest', cs' = x :: rest' ∧ Beside C D rest rest' := by
  rcases h.cases with ⟨rfl, -⟩ | ⟨c, more, more', hcons, hcs', hmore⟩
  · obtain ⟨a, as, hcons, ha⟩ := hC
    exact absurd ((List.cons.inj hcons).1 ▸ ha) hx
  · obtain ⟨rfl, rfl⟩ := List.cons.inj hcons
    exact ⟨more', hcs', hmore⟩

theorem Beside.dropWhile {p : Char → Bool} (hp : ∀ c, c ∈ stops → p c = false)
    (hC : Stops C) (hD : Stops D) (h : Beside C D cs cs') :
    cs.takeWhile p = cs'.takeWhile p ∧
      Beside C D (cs.dropWhile p) (cs'.dropWhile p) := by
  obtain ⟨w, rfl, rfl⟩ := h
  induction w with
  | nil =>
      obtain ⟨a, as, rfl, ha⟩ := hC
      obtain ⟨b, bs, rfl, hb⟩ := hD
      simp only [List.nil_append, List.takeWhile_cons, List.dropWhile_cons, hp a ha, hp b hb]
      exact ⟨rfl, [], rfl, rfl⟩
  | cons c w ih =>
      cases hc : p c with
      | true =>
          simp only [List.cons_append, List.takeWhile_cons_of_pos hc,
            List.dropWhile_cons_of_pos hc]
          exact ⟨congrArg (c :: ·) ih.1, ih.2⟩
      | false =>
          have hneg : ¬ p c = true := by simp [hc]
          simp only [List.cons_append, List.takeWhile_cons_of_neg hneg,
            List.dropWhile_cons_of_neg hneg]
          exact ⟨trivial, c :: w, rfl, rfl⟩

/-- A word without the characters that may stand behind an argument is in front of both
texts or of neither. -/
theorem Beside.isPrefixOf {s : List Char} (hs : ∀ c, c ∈ s → c ∉ stops)
    (hC : Stops C) (hD : Stops D) (h : Beside C D cs cs') :
    s.isPrefixOf cs = s.isPrefixOf cs' := by
  induction s generalizing cs cs' with
  | nil => rfl
  | cons x s ih =>
      rcases h.head hC hD with ⟨a, b, as, bs, ha, hb, rfl, rfl⟩ | ⟨c, rest, rest', rfl, rfl, hrest⟩
      · have hx := hs x List.mem_cons_self
        have hxa : x ≠ a := fun h => hx (h ▸ ha)
        have hxb : x ≠ b := fun h => hx (h ▸ hb)
        simp [List.isPrefixOf, beq_eq_false_iff_ne.mpr hxa, beq_eq_false_iff_ne.mpr hxb]
      · simp only [List.isPrefixOf, ih (fun c hc => hs c (List.mem_cons_of_mem _ hc)) hrest]

end Texts

/-! ## Numbers -/

section Numbers

variable {C D cs cs' rest : List Char}

theorem endsWell_beside (hC : Stops C) (hD : Stops D) (h : Beside C D cs cs') :
    endsWell cs = endsWell cs' := by
  have hletters : ∀ w, w ∈ followers → (w.toList.all fun c => decide (c ∉ stops)) = true := by
    decide
  have hfollowers : followers.any (fun w => w.toList.isPrefixOf cs) =
      followers.any (fun w => w.toList.isPrefixOf cs') := by
    rw [Bool.eq_iff_iff, List.any_eq_true, List.any_eq_true]
    refine exists_congr fun w => and_congr_right fun hw => ?_
    rw [h.isPrefixOf (forall_mem_of_all (hletters w hw)) hC hD]
  unfold endsWell
  rw [hfollowers]
  rcases h.head hC hD with ⟨a, b, as, bs, ha, hb, rfl, rfl⟩ | ⟨c, rest, rest', rfl, rfl, -⟩
  · have hword : ∀ c, c ∈ stops → isWordPart c = false :=
      forall_mem_of_all (by decide)
    simp only [hword a ha, hword b hb]
  · rfl

theorem digitRun_beside {isDigit : Char → Bool} {fuel fuel' : Nat} {ds : List Char}
    (hdigit : ∀ c, c ∈ stops → isDigit c = false)
    (hC : Stops C) (hD : Stops D) (h : Beside C D cs cs')
    (hfuel : cs'.length < fuel')
    (hrun : digitRun isDigit fuel cs = some (ds, rest)) :
    ∃ rest', digitRun isDigit fuel' cs' = some (ds, rest') ∧ Beside C D rest rest' := by
  have hlow : '_' ∉ stops := by decide
  induction fuel generalizing fuel' cs cs' ds with
  | zero => cases hrun
  | succ fuel ih =>
      obtain ⟨fuel', rfl⟩ : ∃ n, fuel' = n + 1 := ⟨fuel' - 1, by omega⟩
      obtain ⟨htake, hdrop⟩ := h.dropWhile hdigit hC hD
      have hlength := (List.dropWhile_suffix isDigit (l := cs')).length_le
      simp only [digitRun, htake] at hrun ⊢
      split_ifs at hrun ⊢ with hempty
      split at hrun
      · rename_i more hmore
        rw [hmore] at hdrop
        obtain ⟨more', hmore', hbeside⟩ := hdrop.tail hlow hC
        obtain ⟨⟨ds', rest'⟩, hmap, hpair⟩ := Option.map_eq_some_iff.mp hrun
        cases hpair
        rw [hmore', List.length_cons] at hlength
        have hfuel' : more'.length < fuel' := by omega
        obtain ⟨rest', hrest', hrests⟩ := ih hbeside hfuel' hmap
        exact ⟨rest', by simp only [hmore', hrest', Option.map_some], hrests⟩
      · rename_i hno
        cases hrun
        refine ⟨cs'.dropWhile isDigit, ?_, hdrop⟩
        split
        · rename_i more' hmore'
          rw [hmore'] at hdrop
          obtain ⟨more, hmore, -⟩ := hdrop.symm.tail hlow hD
          exact (hno more hmore).elim
        · rfl

theorem decimalRun_beside {ds : List Char} (hC : Stops C) (hD : Stops D)
    (h : Beside C D cs cs') (hrun : decimalRun cs = some (ds, rest)) :
    ∃ rest', decimalRun cs' = some (ds, rest') ∧ Beside C D rest rest' :=
  digitRun_beside (forall_mem_of_all (by decide)) hC hD h (Nat.lt_succ_self _) hrun

theorem afterLowLine_beside (hC : Stops C) (hD : Stops D) (h : Beside C D cs cs') :
    Beside C D (afterLowLine cs) (afterLowLine cs') := by
  have hlow : '_' ∉ stops := by decide
  unfold afterLowLine
  split
  · obtain ⟨rest', rfl, hrest⟩ := h.tail hlow hC
    exact hrest
  · rename_i hno
    split
    · obtain ⟨rest, hrest, -⟩ := h.symm.tail hlow hD
      exact (hno _ hrest).elim
    · exact h

theorem based?_beside {base : Nat} {v : Value} (hbase : base ∈ [2, 8, 16]) (hC : Stops C)
    (hD : Stops D) (h : Beside C D cs cs') (hread : based? base cs = some (v, rest)) :
    ∃ rest', based? base cs' = some (v, rest') ∧ Beside C D rest rest' := by
  have hdigit : ∀ base, base ∈ [2, 8, 16] →
      (stops.all fun c => decide ((Numeral.digitValue? base c).isSome = false)) = true := by
    decide
  simp only [based?, Option.bind_eq_bind, Option.bind_eq_some_iff, Prod.exists] at hread ⊢
  obtain ⟨ds, after, hrun, values, hvalues, hends⟩ := hread
  obtain ⟨after', hrun', hafter⟩ :=
    digitRun_beside (forall_mem_of_all (hdigit base hbase)) hC hD
      (afterLowLine_beside hC hD h) (Nat.lt_succ_self _) hrun
  split_ifs at hends with hwell
  cases hends
  refine ⟨after', ⟨ds, after', hrun', values, hvalues, ?_⟩, hafter⟩
  rw [endsWell_beside hC hD hafter] at hwell
  rw [if_pos hwell]

theorem fraction?_beside {part : List Char} (hC : Stops C) (hD : Stops D)
    (h : Beside C D cs cs') (hread : fraction? cs = some (part, rest)) :
    ∃ rest', fraction? cs' = some (part, rest') ∧ Beside C D rest rest' := by
  have hpoint : '.' ∉ stops := by decide
  have hdigit : ∀ c, c ∈ stops → ¬ Numeral.isDigit c = true :=
    forall_mem_of_all (by decide)
  unfold fraction? at hread
  split at hread
  · rename_i after
    obtain ⟨after', rfl, hafter⟩ := h.tail hpoint hC
    rcases hafter.head hC hD with
      ⟨a, b, as, bs, ha, hb, rfl, rfl⟩ | ⟨c, more, more', rfl, rfl, -⟩
    · simp only [if_neg (hdigit a ha)] at hread
      cases hread
      exact ⟨_, by simp only [fraction?, if_neg (hdigit b hb)], hafter⟩
    · simp only [fraction?] at hread ⊢
      split_ifs at hread ⊢
      · obtain ⟨⟨ds, rest'⟩, hrun, hpair⟩ := Option.map_eq_some_iff.mp hread
        cases hpair
        obtain ⟨rest', hrun', hrest⟩ := decimalRun_beside hC hD hafter hrun
        exact ⟨rest', by rw [hrun']; rfl, hrest⟩
      · cases hread
        exact ⟨_, rfl, hafter⟩
  · rename_i hno
    cases hread
    refine ⟨cs', ?_, h⟩
    unfold fraction?
    split
    · obtain ⟨after, hafter, -⟩ := h.symm.tail hpoint hD
      exact (hno _ hafter).elim
    · rfl

theorem exponent?_beside {power : List Char} (hC : Stops C) (hD : Stops D)
    (h : Beside C D cs cs') (hread : exponent? cs = some (power, rest)) :
    ∃ rest', exponent? cs' = some (power, rest') ∧ Beside C D rest rest' := by
  have hletter : ∀ c, c ∈ stops → ¬ (c == 'e' || c == 'E') = true :=
    forall_mem_of_all (by decide)
  have hsign : ∀ c, c ∈ stops → ¬ (c == '+' || c == '-') = true ∧ ¬ Numeral.isDigit c = true :=
    forall_mem_of_all (by decide)
  rcases h.head hC hD with
    ⟨a, b, as, bs, ha, hb, rfl, rfl⟩ | ⟨c, more, more', rfl, rfl, hmore⟩
  · simp only [exponent?, if_neg (hletter a ha)] at hread
    cases hread
    exact ⟨_, by simp only [exponent?, if_neg (hletter b hb)], h⟩
  · simp only [exponent?] at hread ⊢
    split_ifs at hread ⊢
    · rcases hmore.head hC hD with
        ⟨a, b, as, bs, ha, hb, rfl, rfl⟩ | ⟨d, after, after', rfl, rfl, hafter⟩
      · simp only [if_neg (hsign a ha).1, if_neg (hsign a ha).2] at hread
        cases hread
        exact ⟨_, by simp only [if_neg (hsign b hb).1, if_neg (hsign b hb).2], h⟩
      · dsimp only at hread ⊢
        split_ifs at hread ⊢
        · obtain ⟨⟨ds, rest'⟩, hrun, hpair⟩ := Option.map_eq_some_iff.mp hread
          cases hpair
          obtain ⟨rest', hrun', hrest⟩ := decimalRun_beside hC hD hafter hrun
          exact ⟨rest', by rw [hrun']; rfl, hrest⟩
        · obtain ⟨⟨ds, rest'⟩, hrun, hpair⟩ := Option.map_eq_some_iff.mp hread
          cases hpair
          obtain ⟨rest', hrun', hrest⟩ := decimalRun_beside hC hD hmore hrun
          exact ⟨rest', by rw [hrun']; rfl, hrest⟩
        · cases hread
          exact ⟨_, rfl, h⟩
    · cases hread
      exact ⟨_, rfl, h⟩

theorem whole?_beside {ds : List Char} (hC : Stops C) (hD : Stops D)
    (h : Beside C D cs cs') (hread : whole? cs = some (ds, rest)) :
    ∃ rest', whole? cs' = some (ds, rest') ∧ Beside C D rest rest' := by
  have hpoint : '.' ∉ stops := by decide
  unfold whole? at hread
  split at hread
  · obtain ⟨after', rfl, -⟩ := h.tail hpoint hC
    cases hread
    exact ⟨_, rfl, h⟩
  · rename_i hno
    obtain ⟨rest', hrun', hrest⟩ := decimalRun_beside hC hD h hread
    refine ⟨rest', ?_, hrest⟩
    unfold whole?
    split
    · obtain ⟨after, hafter, -⟩ := h.symm.tail hpoint hD
      exact (hno _ hafter).elim
    · exact hrun'

theorem plain?_beside {ds part power : List Char} {v : Value} (hC : Stops C) (hD : Stops D)
    (h : Beside C D cs cs') (hread : plain? ds part power cs = some (v, rest)) :
    ∃ rest', plain? ds part power cs' = some (v, rest') ∧ Beside C D rest rest' := by
  obtain rfl := plain?_rest hread
  refine ⟨cs', ?_, h⟩
  unfold plain? at hread ⊢
  rw [← endsWell_beside hC hD h]
  split_ifs at hread ⊢
  · split at hread
    · cases hread
      rfl
    · cases hread
  · obtain ⟨d, hd, hpair⟩ := Option.map_eq_some_iff.mp hread
    cases hpair
    rw [hd]
    rfl

theorem marked?_beside {ds part power : List Char} {v : Value} (hC : Stops C) (hD : Stops D)
    (h : Beside C D cs cs') (hread : marked? ds part power cs = some (v, rest)) :
    ∃ rest', marked? ds part power cs' = some (v, rest') ∧ Beside C D rest rest' := by
  have hmark : ∀ c, c ∈ stops → ¬ (c == 'j' || c == 'J') = true :=
    forall_mem_of_all (by decide)
  rcases h.head hC hD with
    ⟨a, b, as, bs, ha, hb, rfl, rfl⟩ | ⟨c, more, more', rfl, rfl, hmore⟩
  · simp only [marked?, if_neg (hmark a ha)] at hread
    obtain ⟨rest', hplain, hrest⟩ := plain?_beside hC hD h hread
    exact ⟨rest', by simp only [marked?, if_neg (hmark b hb), hplain], hrest⟩
  · simp only [marked?] at hread ⊢
    rw [← endsWell_beside hC hD hmore]
    split_ifs at hread ⊢
    · cases hread
      exact ⟨more', rfl, hmore⟩
    · exact plain?_beside hC hD h hread

theorem decimal?_beside {v : Value} (hC : Stops C) (hD : Stops D)
    (h : Beside C D cs cs') (hread : decimal? cs = some (v, rest)) :
    ∃ rest', decimal? cs' = some (v, rest') ∧ Beside C D rest rest' := by
  simp only [decimal?, Option.bind_eq_bind, Option.bind_eq_some_iff, Prod.exists] at hread
  obtain ⟨ds, afterWhole, hwhole, part, afterPart, hpart, power, afterPower, hpower, hread⟩ := hread
  obtain ⟨_, hwhole', hbeside⟩ := whole?_beside hC hD h hwhole
  obtain ⟨_, hpart', hbeside'⟩ := fraction?_beside hC hD hbeside hpart
  obtain ⟨_, hpower', hbeside''⟩ := exponent?_beside hC hD hbeside' hpower
  obtain ⟨rest', hmarked, hrest⟩ := marked?_beside hC hD hbeside'' hread
  refine ⟨rest', ?_, hrest⟩
  simp only [decimal?, Option.bind_eq_bind, hwhole', hpart', hpower', hmarked, Option.bind_some]

theorem number?_beside {v : Value} (hC : Stops C) (hD : Stops D)
    (h : Beside C D cs cs') (hread : number? cs = some (v, rest)) :
    ∃ rest', number? cs' = some (v, rest') ∧ Beside C D rest rest' := by
  have hzero : '0' ∉ stops := by decide
  have hbase : ∀ c, c ∈ stops → ¬ (c == 'x' || c == 'X') = true ∧
      ¬ (c == 'o' || c == 'O') = true ∧ ¬ (c == 'b' || c == 'B') = true :=
    forall_mem_of_all (by decide)
  unfold number? at hread
  split at hread
  · obtain ⟨after', rfl, hafter⟩ := h.tail hzero hC
    rcases hafter.head hC hD with
      ⟨a, b, as, bs, ha, hb, hcons, rfl⟩ | ⟨c, more, more', hcons, rfl, hmore⟩
    · obtain ⟨rfl, rfl⟩ := List.cons.inj hcons
      obtain ⟨hx, ho, hb'⟩ := hbase _ ha
      rw [if_neg hx, if_neg ho, if_neg hb'] at hread
      obtain ⟨rest', hdecimal, hrest⟩ := decimal?_beside hC hD h hread
      obtain ⟨hx, ho, hb'⟩ := hbase _ hb
      exact ⟨rest', by simp only [number?, if_neg hx, if_neg ho, if_neg hb', hdecimal], hrest⟩
    · obtain ⟨rfl, rfl⟩ := List.cons.inj hcons
      simp only [number?]
      split_ifs at hread ⊢
      · exact based?_beside (by decide) hC hD hmore hread
      · exact based?_beside (by decide) hC hD hmore hread
      · exact based?_beside (by decide) hC hD hmore hread
      · exact decimal?_beside hC hD h hread
  · rename_i hno
    obtain ⟨rest', hdecimal, hrest⟩ := decimal?_beside hC hD h hread
    refine ⟨rest', ?_, hrest⟩
    unfold number?
    split
    · -- The other text has a second character too, since `C` is not empty.
      obtain ⟨after, rfl, hafter⟩ := h.symm.tail hzero hD
      rcases hafter.symm.head hC hD with ⟨a, b, as, bs, -, -, rfl, -⟩ | ⟨c, _, _, rfl, -, -⟩
      · exact (hno _ _ rfl).elim
      · exact (hno _ _ rfl).elim
    · exact hdecimal

end Numbers

/-! ## Quoted texts, words and symbols -/

section Lexemes

variable {C D w w' : List Char}

theorem body_cons {quote c : Char} {triple : Bool} {cs : List Char} (hc : c ≠ '\\') :
    body quote triple (c :: cs) =
      if c = quote then
        if !triple then some ([], cs)
        else
          match cs with
          | d :: e :: rest' =>
              if d = quote ∧ e = quote then some ([], rest')
              else (body quote triple cs).map fun (b, rest) => (c :: b, rest)
          | _ => none
      else if c = '\n' ∧ !triple then none
      else (body quote triple cs).map fun (b, rest) => (c :: b, rest) := by
  rw [body.eq_def]
  split
  · rename_i heq
    cases heq
  · rename_i heq
    cases heq
    exact absurd rfl hc
  · rename_i heq
    cases heq
    rfl

theorem body_beside {quote : Char} {triple : Bool} {b : List Char} (hquote : isQuote quote = true)
    (hC : Stops C) (hD : Stops D) (h : body quote triple (w ++ C) = some (b, w' ++ C)) :
    body quote triple (w ++ D) = some (b, w' ++ D) := by
  have hstop : ∀ c, c ∈ stops → c ≠ quote := by
    rintro c hc rfl
    have hnone : ∀ c, c ∈ stops → isQuote c = false :=
      forall_mem_of_all (by decide)
    rw [hnone c hc] at hquote
    cases hquote
  induction hn : w.length using Nat.strong_induction_on generalizing w b with
  | _ n ih =>
      have hlength := (body_suffix h).2
      rw [List.length_append, List.length_append] at hlength
      have hkeep (kept after : List Char) (hafter : after.length < n)
          (h : ((body quote triple (after ++ C)).map fun (b, rest) => (kept ++ b, rest)) =
            some (b, w' ++ C)) :
          ((body quote triple (after ++ D)).map fun (b, rest) => (kept ++ b, rest)) =
            some (b, w' ++ D) := by
        obtain ⟨⟨b', rest'⟩, hbody, hpair⟩ := Option.map_eq_some_iff.mp h
        obtain ⟨rfl, rfl⟩ := Prod.mk.inj hpair
        rw [ih _ hafter hbody rfl]
        rfl
      rcases w with _ | ⟨c, w⟩
      · rw [List.length_nil] at hlength
        omega
      rw [List.length_cons] at hn
      by_cases hc : c = '\\'
      · subst hc
        rcases w with _ | ⟨d, w⟩
        · -- The escaped character would be the first one behind the lexeme.
          obtain ⟨a, as, rfl, -⟩ := hC
          simp only [List.cons_append, List.nil_append, body] at h
          obtain ⟨⟨b', rest'⟩, hbody, hpair⟩ := Option.map_eq_some_iff.mp h
          obtain ⟨-, rfl⟩ := Prod.mk.inj hpair
          have hshort := (body_suffix hbody).2
          simp only [List.length_append, List.length_cons] at hshort
          omega
        · rw [List.length_cons] at hn
          exact hkeep ['\\', d] w (by omega) h
      · rw [List.cons_append, body_cons hc] at h ⊢
        split_ifs at h ⊢ with hcquote htriple hfeed
        · obtain ⟨rfl, hrest⟩ := Prod.mk.inj (Option.some.inj h)
          rw [List.append_cancel_right hrest]
        · -- Two more quotes would have to stand in front of the end of the lexeme.
          rcases w with _ | ⟨d, _ | ⟨e, w⟩⟩
          · rw [List.nil_append] at h
            split at h
            · split_ifs at h
              · have hcount := congrArg List.length (Prod.mk.inj (Option.some.inj h)).2
                simp only [List.length_cons, List.length_append] at hcount
                omega
              · obtain ⟨⟨b', rest'⟩, -, hpair⟩ := Option.map_eq_some_iff.mp h
                obtain ⟨rfl, -⟩ := Prod.mk.inj hpair
                simp only [List.length_cons, List.length_nil] at hlength
                omega
            · cases h
          · obtain ⟨a, as, rfl, ha⟩ := hC
            obtain ⟨f, fs, rfl, hf⟩ := hD
            simp only [List.cons_append, List.nil_append] at h ⊢
            rw [if_neg fun h => hstop a ha h.2] at h
            rw [if_neg fun h => hstop f hf h.2]
            exact hkeep [c] [d] (by omega) h
          · simp only [List.cons_append] at h ⊢
            split_ifs at h ⊢
            · obtain ⟨rfl, hrest⟩ := Prod.mk.inj (Option.some.inj h)
              rw [List.append_cancel_right hrest]
            · exact hkeep [c] (d :: e :: w) (by omega) h
        · exact hkeep [c] w (by omega) h

theorem quotedBody?_beside {b v : List Char} {q : Char} (hq : isQuote q = true)
    (hC : Stops C) (hD : Stops D) (h : quotedBody? (q :: v ++ C) = some (b, w' ++ C)) :
    quotedBody? (q :: v ++ D) = some (b, w' ++ D) := by
  have hnone : ∀ c, c ∈ stops → isQuote c = false :=
    forall_mem_of_all (by decide)
  have hlength := (quotedBody?_suffix h).2
  simp only [List.length_append, List.length_cons] at hlength
  rcases v with _ | ⟨x, _ | ⟨y, v⟩⟩
  · rw [List.length_nil] at hlength
    omega
  · obtain ⟨a, as, rfl, ha⟩ := hC
    obtain ⟨f, fs, rfl, hf⟩ := hD
    have hdifferent {c : Char} (hc : c ∈ stops) : ¬ (q = x ∧ x = c) := by
      rintro ⟨rfl, rfl⟩
      rw [hnone q hc] at hq
      cases hq
    simp only [quotedBody?, List.cons_append, List.nil_append, if_neg (hdifferent ha)] at h
    simp only [quotedBody?, List.cons_append, List.nil_append, if_neg (hdifferent hf)]
    exact body_beside (w := [x]) hq ⟨a, as, rfl, ha⟩ ⟨f, fs, rfl, hf⟩ h
  · simp only [quotedBody?, List.cons_append] at h ⊢
    split_ifs at h ⊢
    · exact body_beside hq hC hD h
    · exact body_beside (w := x :: y :: v) hq hC hD h

theorem quotation?_beside {s : Style} {q : Quotation} {v : List Char} {c : Char}
    (hc : isQuote c = true) (hC : Stops C) (hD : Stops D)
    (h : quotation? s (c :: v ++ C) = some (q, w' ++ C)) :
    quotation? s (c :: v ++ D) = some (q, w' ++ D) := by
  simp only [quotation?, Option.bind_eq_bind, Option.bind_eq_some_iff, Prod.exists] at h
  obtain ⟨b, after, hbody, q', hq, hpair⟩ := h
  obtain ⟨rfl, rfl⟩ := Prod.mk.inj (Option.some.inj hpair)
  simp only [quotation?, quotedBody?_beside hc hC hD hbody, hq, Option.bind_eq_bind,
    Option.bind_some]

/-- A quoted text starts in both texts or in neither. -/
theorem quotationStart?_beside {cs cs' : List Char} (hC : Stops C) (hD : Stops D)
    (h : Beside C D cs cs') :
    (quotationStart? cs = none ∧ quotationStart? cs' = none) ∨
      ∃ s q v, isQuote q = true ∧ quotationStart? cs = some (s, q :: v ++ C) ∧
        quotationStart? cs' = some (s, q :: v ++ D) := by
  have halpha : ∀ c, c ∈ stops → c.isAlpha = false :=
    forall_mem_of_all (by decide)
  have hquote : ∀ c, c ∈ stops → ¬ isQuote c = true :=
    forall_mem_of_all (by decide)
  obtain ⟨htake, hdrop⟩ := h.dropWhile halpha hC hD
  rcases hdrop.head hC hD with
    ⟨a, b, as, bs, ha, hb, hcs, hcs'⟩ | ⟨c, rest, rest', hcs, hcs', v, hrest, hrest'⟩
  · refine Or.inl ⟨?_, ?_⟩
    · simp only [quotationStart?, hcs, if_neg (hquote a ha)]
    · simp only [quotationStart?, hcs', if_neg (hquote b hb)]
  · subst hrest
    subst hrest'
    by_cases hc : isQuote c = true
    · cases hstyle : styleOf? (cs'.takeWhile Char.isAlpha) with
      | none =>
          refine Or.inl ⟨?_, ?_⟩
          · simp only [quotationStart?, hcs, htake, if_pos hc, hstyle, Option.map_none]
          · simp only [quotationStart?, hcs', if_pos hc, hstyle, Option.map_none]
      | some s =>
          refine Or.inr ⟨s, c, v, hc, ?_, ?_⟩
          · simp only [quotationStart?, hcs, htake, if_pos hc, hstyle, Option.map_some]
            rfl
          · simp only [quotationStart?, hcs', if_pos hc, hstyle, Option.map_some]
            rfl
    · refine Or.inl ⟨?_, ?_⟩
      · simp only [quotationStart?, hcs, if_neg hc]
      · simp only [quotationStart?, hcs', if_neg hc]

theorem symbol?_beside {c : Char} {rest rest' : List Char} (hC : Stops C) (hD : Stops D)
    (h : Beside C D rest rest') : symbol? (c :: rest) = symbol? (c :: rest') := by
  have htails : ∀ sym, sym ∈ symbols → sym.toList ≠ [] ∧
      (sym.toList.tail.all fun x => decide (x ∉ stops)) = true := by
    decide
  unfold symbol?
  refine List.find?_congr fun sym hsym => ?_
  obtain ⟨hne, htail⟩ := htails sym hsym
  obtain ⟨x, xs, hchars⟩ := List.exists_cons_of_ne_nil hne
  rw [hchars] at htail ⊢
  have hxs : xs.isPrefixOf rest = xs.isPrefixOf rest' :=
    h.isPrefixOf (forall_mem_of_all htail) hC hD
  simp only [List.isPrefixOf, hxs]

/-- **A lexeme in front of the end of an argument** is read in the same way, whatever
follows the argument. -/
theorem lexeme?_beside {l : Lexeme} (hw : w ≠ []) (hC : Stops C) (hD : Stops D)
    (h : lexeme? (w ++ C) = some (l, w' ++ C)) : lexeme? (w ++ D) = some (l, w' ++ D) := by
  have hbeside : Beside C D (w ++ C) (w ++ D) := ⟨w, rfl, rfl⟩
  have hcancel {rest' : List Char} (h : Beside C D (w' ++ C) rest') : rest' = w' ++ D := by
    obtain ⟨v, hv, rfl⟩ := h
    rw [List.append_cancel_right hv]
  rcases quotationStart?_beside hC hD hbeside with ⟨hnone, hnone'⟩ | ⟨s, q, v, hq, hsome, hsome'⟩
  · obtain ⟨c, v, rfl⟩ := List.exists_cons_of_ne_nil hw
    have htail : Beside C D (v ++ C) (v ++ D) := ⟨v, rfl, rfl⟩
    have hdigits : (((v ++ C).head?).map Numeral.isDigit).getD false =
        (((v ++ D).head?).map Numeral.isDigit).getD false := by
      have hdigit : ∀ c, c ∈ stops → Numeral.isDigit c = false :=
        forall_mem_of_all (by decide)
      rcases htail.head hC hD with ⟨a, b, as, bs, ha, hb, hcs, hcs'⟩ | ⟨x, _, _, hcs, hcs', -⟩
      · simp [hcs, hcs', hdigit a ha, hdigit b hb]
      · simp [hcs, hcs']
    have hpart : ∀ c, c ∈ stops → isWordPart c = false :=
      forall_mem_of_all (by decide)
    have hspan : (c :: (v ++ C)).takeWhile isWordPart = (c :: (v ++ D)).takeWhile isWordPart ∧
        Beside C D ((c :: (v ++ C)).dropWhile isWordPart)
          ((c :: (v ++ D)).dropWhile isWordPart) :=
      hbeside.dropWhile hpart hC hD
    obtain ⟨htake, hdrop⟩ := hspan
    rw [List.cons_append] at h hnone hnone' ⊢
    simp only [lexeme?, hnone] at h
    simp only [lexeme?, hnone', ← hdigits, ← htake]
    split_ifs at h ⊢ with hnumber hword hname
    · obtain ⟨⟨n, rest⟩, hread, hpair⟩ := Option.map_eq_some_iff.mp h
      obtain ⟨rfl, rfl⟩ := Prod.mk.inj hpair
      obtain ⟨rest', hread', hrest⟩ := number?_beside hC hD hbeside hread
      rw [hcancel hrest] at hread'
      rw [← List.cons_append, hread']
      rfl
    · obtain ⟨rfl, hrest⟩ := Prod.mk.inj (Option.some.inj h)
      rw [hrest] at hdrop
      rw [hcancel hdrop]
    · obtain ⟨sym, hsym, hpair⟩ := Option.map_eq_some_iff.mp h
      obtain ⟨rfl, hrest⟩ := Prod.mk.inj hpair
      rw [← symbol?_beside hC hD htail, hsym]
      -- The symbol does not reach beyond `w`, since `C` is left.
      have hcount := congrArg List.length hrest
      obtain ⟨a, as, rfl, -⟩ := hC
      simp only [List.length_drop, List.length_cons, List.length_append] at hcount
      have hle : sym.toList.length ≤ (c :: v).length := by
        rw [List.length_cons]
        omega
      rw [← List.cons_append, List.drop_append_of_le_length hle] at hrest
      rw [Option.map_some, ← List.cons_append, List.drop_append_of_le_length hle,
        List.append_cancel_right hrest]
  · unfold lexeme? at h ⊢
    rw [hsome] at h
    rw [hsome']
    obtain ⟨⟨q', rest⟩, hread, hpair⟩ := Option.map_eq_some_iff.mp h
    obtain ⟨rfl, rfl⟩ := Prod.mk.inj hpair
    simp only [quotation?_beside hq hC hD hread, Option.map_some]

end Lexemes

end Lexer
end Script
end BuildTransform
