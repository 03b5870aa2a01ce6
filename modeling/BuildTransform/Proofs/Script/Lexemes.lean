import BuildTransform.Script.Lexer
import Mathlib.Tactic

/-!
# Lexemes

What a lexeme of a script is read from.

* Every reader of lexemes leaves an end of the text: `lexeme?_consumes` says that at
  least as many characters are gone as the lexeme weighs.
-/

namespace BuildTransform
namespace Script

/-- What a lexeme weighs: at least one if a form can hold it, and a template weighs as
much as the characters that it is made of at least. -/
def weight : Lexeme → Nat
  | .quotation (.template _ body) => body.length + 3
  | .newline => 0
  | .finish => 0
  | _ => 1

namespace Lexer

open Literal

/-- What is checked for the members of a list holds for them. To decide it as a statement about
all characters would go through every one of them. -/
theorem forall_mem_of_all {p : Char → Prop} [DecidablePred p] {cs : List Char}
    (h : (cs.all fun c => decide (p c)) = true) : ∀ c, c ∈ cs → p c :=
  fun c hc => of_decide_eq_true (List.all_eq_true.mp h c hc)

/-! ## Characters that are gone -/

section Suffixes

variable {cs rest : List Char}

theorem digitRun_suffix {isDigit : Char → Bool} {fuel : Nat} {ds : List Char}
    (h : digitRun isDigit fuel cs = some (ds, rest)) :
    rest <:+ cs ∧ rest.length < cs.length := by
  induction fuel generalizing cs ds with
  | zero => cases h
  | succ fuel ih =>
      have hdrop := List.dropWhile_suffix isDigit (l := cs)
      have hlength : (cs.takeWhile isDigit).length + (cs.dropWhile isDigit).length = cs.length := by
        rw [← List.length_append, List.takeWhile_append_dropWhile]
      simp only [digitRun] at h
      split_ifs at h with hempty
      have hpos : 0 < (cs.takeWhile isDigit).length :=
        List.length_pos_iff.mpr (by simpa using hempty)
      split at h
      · rename_i more hmore
        obtain ⟨⟨ds', rest'⟩, hrun, hpair⟩ := Option.map_eq_some_iff.mp h
        cases hpair
        obtain ⟨hsuffix, hless⟩ := ih hrun
        rw [hmore] at hdrop hlength
        rw [List.length_cons] at hlength
        exact ⟨hsuffix.trans ((List.suffix_cons _ _).trans hdrop), by omega⟩
      · cases h
        exact ⟨hdrop, by omega⟩

theorem afterLowLine_suffix (cs : List Char) : afterLowLine cs <:+ cs := by
  unfold afterLowLine
  split
  · exact List.suffix_cons _ _
  · exact List.suffix_rfl

theorem based?_suffix {base : Nat} {v : Value} (h : based? base cs = some (v, rest)) :
    rest <:+ cs := by
  simp only [based?, Option.bind_eq_bind, Option.bind_eq_some_iff, Prod.exists] at h
  obtain ⟨ds, after, hrun, values, -, h⟩ := h
  split_ifs at h
  cases h
  exact (digitRun_suffix hrun).1.trans (afterLowLine_suffix cs)

theorem whole?_suffix {ds : List Char} (h : whole? cs = some (ds, rest)) :
    rest <:+ cs ∧ (rest.length < cs.length ∨ rest.head? = some '.') := by
  unfold whole? at h
  split at h
  · cases h
    exact ⟨List.suffix_rfl, Or.inr rfl⟩
  · obtain ⟨hsuffix, hless⟩ := digitRun_suffix h
    exact ⟨hsuffix, Or.inl hless⟩

theorem fraction?_suffix {part : List Char} (h : fraction? cs = some (part, rest)) :
    rest <:+ cs ∧ (cs.head? = some '.' → rest.length < cs.length) := by
  unfold fraction? at h
  split at h
  · rename_i after
    have hafter : after <:+ '.' :: after := List.suffix_cons _ _
    split at h
    · split_ifs at h
      · obtain ⟨⟨ds, rest'⟩, hrun, hpair⟩ := Option.map_eq_some_iff.mp h
        cases hpair
        obtain ⟨hsuffix, hless⟩ := digitRun_suffix hrun
        exact ⟨hsuffix.trans hafter, fun _ => by simp at hless ⊢; omega⟩
      · cases h
        exact ⟨hafter, fun _ => by simp⟩
    · cases h
      exact ⟨hafter, fun _ => by simp⟩
  · rename_i hpoint
    cases h
    refine ⟨List.suffix_rfl, fun hhead => ?_⟩
    obtain ⟨after, rfl⟩ := List.head?_eq_some_iff.mp hhead
    exact (hpoint after rfl).elim

theorem exponent?_suffix {power : List Char} (h : exponent? cs = some (power, rest)) :
    rest <:+ cs := by
  unfold exponent? at h
  split at h
  · rename_i c after
    have hafter : after <:+ c :: after := List.suffix_cons _ _
    split_ifs at h
    · split at h
      · split_ifs at h
        · obtain ⟨⟨ds, rest'⟩, hrun, hpair⟩ := Option.map_eq_some_iff.mp h
          cases hpair
          exact (digitRun_suffix hrun).1.trans ((List.suffix_cons _ _).trans hafter)
        · obtain ⟨⟨ds, rest'⟩, hrun, hpair⟩ := Option.map_eq_some_iff.mp h
          cases hpair
          exact (digitRun_suffix hrun).1.trans hafter
        · cases h
          exact List.suffix_rfl
      · cases h
        exact List.suffix_rfl
    · cases h
      exact List.suffix_rfl
  · cases h
    exact List.suffix_rfl

theorem plain?_rest {ds part power after : List Char} {v : Value}
    (h : plain? ds part power after = some (v, rest)) : rest = after := by
  unfold plain? at h
  split_ifs at h
  · split at h
    · cases h
      rfl
    · cases h
  · obtain ⟨d, -, hpair⟩ := Option.map_eq_some_iff.mp h
    cases hpair
    rfl

theorem marked?_suffix {ds part power after : List Char} {v : Value}
    (h : marked? ds part power after = some (v, rest)) : rest <:+ after := by
  unfold marked? at h
  split at h
  · split_ifs at h
    · cases h
      exact List.suffix_cons _ _
    · rw [plain?_rest h]
  · rw [plain?_rest h]

theorem decimal?_suffix {v : Value} (h : decimal? cs = some (v, rest)) :
    rest <:+ cs ∧ rest.length < cs.length := by
  simp only [decimal?, Option.bind_eq_bind, Option.bind_eq_some_iff, Prod.exists] at h
  obtain ⟨ds, afterWhole, hwhole, part, afterPart, hpart, power, afterPower, hpower, h⟩ := h
  obtain ⟨hsuffix, hless⟩ := whole?_suffix hwhole
  obtain ⟨hsuffix', hless'⟩ := fraction?_suffix hpart
  have hend := (marked?_suffix h).trans (exponent?_suffix hpower)
  refine ⟨hend.trans (hsuffix'.trans hsuffix), ?_⟩
  have hlength := hend.length_le
  have hlength' := hsuffix'.length_le
  have hlength'' := hsuffix.length_le
  rcases hless with hless | hpoint
  · omega
  · have := hless' hpoint
    omega

theorem number?_suffix {v : Value} (h : number? cs = some (v, rest)) :
    rest <:+ cs ∧ rest.length < cs.length := by
  have hmarked {a b : Char} {after : List Char} (hafter : rest <:+ after) :
      rest <:+ a :: b :: after ∧ rest.length < (a :: b :: after).length := by
    have hlength := hafter.length_le
    exact ⟨hafter.trans ((List.suffix_cons _ _).trans (List.suffix_cons _ _)), by simp; omega⟩
  unfold number? at h
  split at h
  · split_ifs at h
    · exact hmarked (based?_suffix h)
    · exact hmarked (based?_suffix h)
    · exact hmarked (based?_suffix h)
    · exact decimal?_suffix h
  · exact decimal?_suffix h

/-- A body and its closing quote are gone behind a quoted text. -/
theorem body_suffix {quote : Char} {triple : Bool} {b : List Char}
    (h : body quote triple cs = some (b, rest)) :
    rest <:+ cs ∧ b.length + 1 + rest.length ≤ cs.length := by
  have hkeep (kept : List Char) {after b' rest' : List Char} {more : Option (List Char × List Char)}
      (hmore : more.map (Prod.map (kept ++ ·) id) = some (b', rest'))
      (ih : ∀ {rest b}, more = some (b, rest) →
        rest <:+ after ∧ b.length + 1 + rest.length ≤ after.length) :
      rest' <:+ kept ++ after ∧ b'.length + 1 + rest'.length ≤ (kept ++ after).length := by
    obtain ⟨⟨b₁, rest₁⟩, hbody, hpair⟩ := Option.map_eq_some_iff.mp hmore
    cases hpair
    obtain ⟨hsuffix, hlength⟩ := ih hbody
    refine ⟨hsuffix.trans (List.suffix_append _ _), ?_⟩
    simp only [List.length_append, id]
    omega
  fun_induction body quote triple cs generalizing b rest with
  | case1 => cases h
  | case2 c cs ih => exact hkeep ['\\', c] h ih
  | case3 =>
      cases h
      exact ⟨List.suffix_cons _ _, by simp; omega⟩
  | case4 =>
      cases h
      refine ⟨⟨[_, _, _], rfl⟩, ?_⟩
      simp
      omega
  | case5 _ _ _ _ _ _ ih => exact hkeep [quote] h ih
  | case6 => cases h
  | case7 => cases h
  | case8 c cs _ _ _ ih => exact hkeep [c] h ih

theorem quotedBody?_suffix {b : List Char} (h : quotedBody? cs = some (b, rest)) :
    rest <:+ cs ∧ b.length + 2 + rest.length ≤ cs.length := by
  unfold quotedBody? at h
  split at h
  · split_ifs at h
    · obtain ⟨hsuffix, hlength⟩ := body_suffix h
      refine ⟨hsuffix.trans ⟨[_, _, _], rfl⟩, ?_⟩
      simp only [List.length_cons]
      omega
    · obtain ⟨hsuffix, hlength⟩ := body_suffix h
      refine ⟨hsuffix.trans (List.suffix_cons _ _), ?_⟩
      simp only [List.length_cons] at hlength ⊢
      omega
  · obtain ⟨hsuffix, hlength⟩ := body_suffix h
    refine ⟨hsuffix.trans (List.suffix_cons _ _), ?_⟩
    simp only [List.length_cons]
    omega
  · cases h

theorem quotationStart?_append {s : Style} {quoted : List Char}
    (h : quotationStart? cs = some (s, quoted)) :
    cs = cs.takeWhile Char.isAlpha ++ quoted ∧
      styleOf? (cs.takeWhile Char.isAlpha) = some s ∧
      ∃ q after, quoted = q :: after ∧ isQuote q = true := by
  unfold quotationStart? at h
  split at h
  · rename_i q after hdrop
    split_ifs at h with hquote
    obtain ⟨s', hstyle, hpair⟩ := Option.map_eq_some_iff.mp h
    cases hpair
    refine ⟨?_, hstyle, q, after, rfl, hquote⟩
    rw [← hdrop, List.takeWhile_append_dropWhile]
  · cases h

theorem quotation?_suffix {s : Style} {q : Quotation} (h : quotation? s cs = some (q, rest)) :
    rest <:+ cs ∧ 0 < weight (.quotation q) ∧
      rest.length + weight (.quotation q) ≤ cs.length + if s.template then 1 else 0 := by
  simp only [quotation?, Option.bind_eq_bind, Option.bind_eq_some_iff, Prod.exists] at h
  obtain ⟨b, after, hbody, q', hq, hpair⟩ := h
  cases hpair
  obtain ⟨hsuffix, hlength⟩ := quotedBody?_suffix hbody
  refine ⟨hsuffix, ?_⟩
  unfold quotationOf? at hq
  split_ifs at hq with htemplate
  · cases hq
    simp only [weight, htemplate, if_true]
    omega
  · obtain ⟨bs, -, rfl⟩ := Option.map_eq_some_iff.mp hq
    simp only [weight, htemplate]
    omega
  · obtain ⟨t, -, rfl⟩ := Option.map_eq_some_iff.mp hq
    simp only [weight, htemplate]
    omega

theorem symbol?_eq_some {sym : String} (h : symbol? cs = some sym) :
    sym ∈ symbols ∧ sym.toList <+: cs := by
  have hmem := List.mem_of_find?_eq_some h
  have hprefix := List.find?_some h
  exact ⟨hmem, List.isPrefixOf_iff_prefix.mp hprefix⟩

/-- **A lexeme takes at least as many characters as it weighs**, from the front. -/
theorem lexeme?_consumes {l : Lexeme} (h : lexeme? cs = some (l, rest)) :
    rest <:+ cs ∧ 0 < weight l ∧ rest.length + weight l ≤ cs.length := by
  unfold lexeme? at h
  split at h
  · rename_i s quoted hstart
    obtain ⟨happend, hstyle, -⟩ := quotationStart?_append hstart
    obtain ⟨⟨q, after⟩, hq, hpair⟩ := Option.map_eq_some_iff.mp h
    cases hpair
    obtain ⟨hsuffix, hpos, hlength⟩ := quotation?_suffix hq
    have hcount := congrArg List.length happend
    rw [List.length_append] at hcount
    refine ⟨hsuffix.trans (happend ▸ List.suffix_append _ _), hpos, ?_⟩
    split_ifs at hlength with htemplate
    · -- A template has a letter in front of its quote.
      have hletters : 0 < (cs.takeWhile Char.isAlpha).length := by
        refine List.length_pos_iff.mpr fun hnil => ?_
        rw [hnil] at hstyle
        cases hstyle
        cases htemplate
      omega
    · omega
  · split at h
    · cases h
    · rename_i c after hplain
      dsimp only at h
      split_ifs at h with hdigit hword
      · obtain ⟨⟨v, after'⟩, hnumber, hpair⟩ := Option.map_eq_some_iff.mp h
        cases hpair
        obtain ⟨hsuffix, hless⟩ := number?_suffix hnumber
        exact ⟨hsuffix, Nat.one_pos, hless⟩
      · cases h
        refine ⟨List.dropWhile_suffix _, Nat.one_pos, ?_⟩
        have hlength := (List.dropWhile_suffix isWordPart (l := after)).length_le
        simp only [List.dropWhile_cons_of_pos hword, weight, List.length_cons]
        omega
      · obtain ⟨sym, hsym, hpair⟩ := Option.map_eq_some_iff.mp h
        cases hpair
        obtain ⟨hmem, hprefix⟩ := symbol?_eq_some hsym
        have hpos : ∀ sym, sym ∈ symbols → 0 < sym.toList.length := by
          decide
        have hsympos := hpos sym hmem
        have hle := hprefix.length_le
        refine ⟨List.drop_suffix _ _, Nat.one_pos, ?_⟩
        simp only [List.length_drop, weight]
        omega

end Suffixes

end Lexer
end Script
end BuildTransform
