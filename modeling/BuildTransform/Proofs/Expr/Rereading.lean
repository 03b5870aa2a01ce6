import BuildTransform.Proofs.Expr.RawText
import BuildTransform.Proofs.Expr.Spans
import BuildTransform.Proofs.Script.Reparsing

/-!
# Raw text read again

The raw text of a call in a script, put between other parentheses, is read as the same
arguments.

* `Reads` says what expression a text is, and `reads_call_iff` which scripts are calls.
* `Spliceable` lists what can stand in the way: parentheses of an argument's own, which no
  place includes, and line breaks that only one of the two readers of lines counts.
* `argumentSource_eq_between` says what the raw text is, and `argumentSource_reread` concludes.
-/

namespace BuildTransform
namespace Script

open Grammar (placeBetween isSymbol)

/-- A text is an expression of arguments. -/
def Reads (text : String) (e : Expr) : Prop :=
  ∃ n, parseExpression text = .ok n ∧ toExpr n text = .ok e

/-- The node ends at a position of the source. -/
def EndsAt (source : String) (n : Node) (j : Nat) : Prop :=
  j ≤ source.toList.length ∧ ∃ m, n.place = placeBetween m (markAt source j)

/-- The text from the first argument of a call to the last one is the whole list, and no stray
line break stands before its end. -/
def Spliceable (source : String) : Prop :=
  ∀ callee arguments p q,
    parseExpression source = .ok (.root (.call callee arguments false p) q) →
      SelfContained source arguments ∧
      ∀ n j, arguments.getLast? = some n → EndsAt source n j →
        ¬ Lines.StrayBefore source.toList j

/-! ## Scripts that are calls -/

section Reads

variable {source : String} {f : Expr} {as : List Expr} {span : Option Span}

theorem leafOf_ne_call {n : Node} {s : Option Span} : leafOf n s ≠ .call f as span := by
  cases n with
  | constant v _ => cases v <;> nofun
  | _ => nofun

theorem toExpr_root_call_iff {callee : Node} {arguments : List Node} {p : Place} :
    toExpr (.root (.call callee arguments false p) ⟨none, none, none, none⟩) source =
        .ok (.call f as span) ↔
      spanOf (LineMap.ofText source) p = .ok span ∧
        convert (LineMap.ofText source) (ESTree.depthLimit - 2) callee = .ok f ∧
        convertAll (LineMap.ofText source) (ESTree.depthLimit - 2) arguments = .ok as := by
  have hcall : convert (LineMap.ofText source) (ESTree.depthLimit - 2 + 1)
      (.call callee arguments false p) = .ok (.call f as span) ↔ _ := convert_call_eq_ok_iff
  refine (convert_root_eq_ok_iff (n := ESTree.depthLimit - 1)).trans ?_
  constructor
  · rintro ⟨-, -, hbody⟩
    obtain ⟨_, _, _, hspan, hf, has, heq⟩ := hcall.mp hbody
    cases heq
    exact ⟨hspan, hf, has⟩
  · rintro ⟨hspan, hf, has⟩
    exact ⟨none, rfl, hcall.mpr ⟨span, f, as, hspan, hf, has, rfl⟩⟩

/-- **A script is a call** iff it is parsed as one without named arguments. -/
theorem reads_call_iff :
    Reads source (.call f as span) ↔
      ∃ callee arguments p,
        parseExpression source =
          .ok (.root (.call callee arguments false p) ⟨none, none, none, none⟩) ∧
        spanOf (LineMap.ofText source) p = .ok span ∧
        convert (LineMap.ofText source) (ESTree.depthLimit - 2) callee = .ok f ∧
        convertAll (LineMap.ofText source) (ESTree.depthLimit - 2) arguments = .ok as := by
  constructor
  · rintro ⟨n, hparse, hconvert⟩
    obtain ⟨body, rfl, hcases⟩ := parseExpression_cases hparse
    obtain ⟨-, -, hbody⟩ :=
      (convert_root_eq_ok_iff (n := ESTree.depthLimit - 1)).mp hconvert
    by_cases hleaf : IsLeaf body
    · obtain ⟨_, -, hcall⟩ :=
        (convert_leaf_eq_ok_iff (n := ESTree.depthLimit - 2) hleaf).mp hbody
      exact absurd hcall leafOf_ne_call
    · rcases not_isLeaf_cases hleaf with ⟨inner, place, rfl⟩ | ⟨object, field, place, rfl⟩ |
        ⟨left, right, place, rfl⟩ | ⟨callee, arguments, place, rfl⟩
      · obtain ⟨_, _, htuple⟩ | ⟨_, _, -, hformed⟩ := hcases
        · cases htuple
        · exact absurd rfl hformed.form.1
      · obtain ⟨_, _, -, -, heq⟩ :=
          (convert_member_eq_ok_iff (n := ESTree.depthLimit - 2)).mp hbody
        cases heq
      · obtain ⟨_, _, _, -, -, -, heq⟩ :=
          (convert_plus_eq_ok_iff (n := ESTree.depthLimit - 2)).mp hbody
        cases heq
      · exact ⟨callee, arguments, place, hparse, toExpr_root_call_iff.mp hconvert⟩
  · rintro ⟨callee, arguments, p, hparse, hconvert⟩
    exact ⟨_, hparse, toExpr_root_call_iff.mpr hconvert⟩

end Reads

/-! ## Spans of the ends -/

section Ends

variable {source : String} {i k : Nat} {nodes : List Node} {es : List Expr} {m : Mark}
variable {n : Node} {e : Expr} {span : Option Span}

/-- Arguments become arguments one by one. -/
theorem forall₂_of_convertAll {l : LineMap} (h : convertAll l k nodes = .ok es) :
    List.Forall₂ (fun n e => convert l k n = .ok e) nodes es := by
  induction nodes generalizing es with
  | nil =>
      cases h
      exact .nil
  | cons n nodes ih =>
      obtain ⟨x, xs, hx, hxs, rfl⟩ := convertAll_cons_eq_ok_iff.mp h
      exact .cons hx (ih hxs)

theorem span_start
    (h : spanOf (LineMap.ofText source) (placeBetween (markAt source i) m) = .ok span) :
    ∃ stop, span = some ⟨landing source i, stop⟩ := by
  simp only [spanOf, placeBetween, coordinate, bind, Except.bind, offset_markAt] at h
  split at h
  · cases h
  · cases h
    exact ⟨_, rfl⟩

theorem span_stop
    (h : spanOf (LineMap.ofText source) (placeBetween m (markAt source i)) = .ok span) :
    ∃ start, span = some ⟨start, landing source i⟩ := by
  simp only [spanOf, placeBetween, coordinate, bind, Except.bind, offset_markAt] at h
  split at h
  · cases h
  · cases h
    exact ⟨_, rfl⟩

end Ends

/-! ## Raw text -/

section RawText

variable {source : String} {f : Expr} {as : List Expr} {span : Option Span} {i j : Nat}
variable {arguments : List Node}

theorem not_root_of_alike {n n' : Node} (h : Alike n n') : ∀ body p, n ≠ .root body p := by
  rintro body p rfl
  cases h

/-- The raw text of a call runs from the start of its first argument to the end of its last. -/
theorem argumentSource_eq_between (h : Reread source arguments i j)
    (hstray : ¬ Lines.StrayBefore source.toList j) (hsome : arguments ≠ [])
    (has : convertAll (LineMap.ofText source) (ESTree.depthLimit - 2) arguments = .ok as) :
    CallSite.argumentSource (.tree (.call f as span)) source = .ok (between source i j) := by
  have hconverted := forall₂_of_convertAll has
  obtain ⟨_, _, _, _, _, _, -, halike⟩ := h.parsed
  have hi : landing source i = i :=
    (landing_eq_iff (h.le.trans h.le_length)).mpr fun hbefore => hstray (hbefore.mono h.le)
  have hj : landing source j = j := (landing_eq_iff h.le_length).mpr hstray
  have hfirst := List.head?_eq_some_head hsome
  have hlast := List.getLast?_eq_some_getLast hsome
  obtain ⟨a, ha, hfirsta⟩ := ESTree.head?_of_forall₂ hconverted hfirst
  obtain ⟨b, hb, hlastb⟩ := ESTree.getLast?_of_forall₂ hconverted hlast
  obtain ⟨_, -, hfirst'⟩ := ESTree.head?_of_forall₂ halike hfirst
  obtain ⟨_, -, hlast'⟩ := ESTree.getLast?_of_forall₂ halike hlast
  have haspan := convert_span (not_root_of_alike hfirst') hfirsta
  have hbspan := convert_span (not_root_of_alike hlast') hlastb
  obtain ⟨e, hstart⟩ := h.start _ hfirst
  obtain ⟨s, hstop⟩ := h.stop _ hlast
  rw [hstart] at haspan
  rw [hstop] at hbspan
  obtain ⟨j', haspan⟩ := span_start haspan
  obtain ⟨i', hbspan⟩ := span_stop hbspan
  rw [hi] at haspan
  rw [hj] at hbspan
  exact CallSite.textOf_eq ha hb haspan hbspan (h.le.trans h.le_length) h.le_length

/-- The arguments of a text that is parsed as alike arguments are the same up to spans. -/
theorem Reread.reads (h : Reread source arguments i j)
    (has : convertAll (LineMap.ofText source) (ESTree.depthLimit - 2) arguments = .ok as) :
    ∃ callee as' span',
      Reads ("g(" ++ between source i j ++ ")") (.call callee as' span') ∧
      as'.map Expr.unplaced = as.map Expr.unplaced := by
  obtain ⟨callee, arguments', a, b, a', b', hparse, halike⟩ := h.parsed
  have htext : "g(" ++ between source i j ++ ")" ≠ "" := by
    intro hempty
    have hchars := congrArg String.toList hempty
    simp at hchars
  obtain ⟨span', hspan'⟩ := spanOf_placeBetween htext a' b'
  obtain ⟨place, hplace⟩ := spanOf_placeBetween htext a b
  obtain ⟨as', has', hsame⟩ :=
    convertAll_alike (fun _ _ _ hn he => convert_alike htext hn he) halike has
  have hleaf : IsLeaf (.name callee (placeBetween a b)) := trivial
  have hcallee := (convert_leaf_eq_ok_iff (n := ESTree.depthLimit - 3) hleaf).mpr
    ⟨place, hplace, rfl⟩
  exact ⟨_, as', span', reads_call_iff.mpr ⟨_, _, _, hparse, hspan', hcallee, has'⟩, hsame⟩

end RawText

/-- **The raw text of a call is an argument list of its own**: in a source that is spliceable
it is cut out, and between other parentheses it is read as the same arguments up to spans. -/
theorem argumentSource_reread {source : String} {f : Expr} {as : List Expr} {span : Option Span}
    (h : Reads source (.call f as span)) (hsome : as ≠ []) (hsource : Spliceable source) :
    ∃ text callee as' span',
      CallSite.argumentSource (.tree (.call f as span)) source = .ok text ∧
      Reads ("g(" ++ text ++ ")") (.call callee as' span') ∧
      as'.map Expr.unplaced = as.map Expr.unplaced := by
  obtain ⟨callee, arguments, p, hparse, -, -, has⟩ := reads_call_iff.mp h
  obtain ⟨hself, hstray⟩ := hsource _ _ _ _ hparse
  have hsome' : arguments ≠ [] := by
    rintro rfl
    cases has
    exact hsome rfl
  obtain ⟨i, j, hreread⟩ := exists_reread hparse hsome' hself
  have hlast := List.getLast?_eq_some_getLast hsome'
  have hplain := hstray _ j hlast ⟨hreread.le_length, hreread.stop _ hlast⟩
  obtain ⟨callee', as', span', hreads, hsame⟩ := hreread.reads has
  exact ⟨_, callee', as', span', argumentSource_eq_between hreread hplain hsome' has, hreads, hsame⟩

/-- A call with a line break between its arguments, the last of which starts and ends with
parentheses, but not with its own. -/
theorem inner_parentheses_reread :
    let source := "f(a,\n (b)(c))"
    ∃ f as span, Reads source (.call f as span) ∧ as.length = 2 ∧ Spliceable source ∧
      CallSite.argumentSource (.tree (.call f as span)) source = .ok "a,\n (b)(c)" ∧
      ∃ callee as' span', Reads "g(a,\n (b)(c))" (.call callee as' span') ∧
        as'.map Expr.unplaced = as.map Expr.unplaced := by
  intro source
  let a := Node.name "a" (placeBetween ⟨1, 2⟩ ⟨1, 3⟩)
  let inner := Node.call (.name "b" (placeBetween ⟨2, 2⟩ ⟨2, 3⟩))
    [.name "c" (placeBetween ⟨2, 5⟩ ⟨2, 6⟩)] false (placeBetween ⟨2, 1⟩ ⟨2, 7⟩)
  have hparse : parseExpression "f(a,\n (b)(c))" =
      .ok (.root (.call (.name "f" (placeBetween ⟨1, 0⟩ ⟨1, 1⟩)) [a, inner] false
        (placeBetween ⟨1, 0⟩ ⟨2, 8⟩)) ⟨none, none, none, none⟩) := rfl
  let ts : List Token :=
    [⟨.word "f", ⟨1, 0⟩, ⟨1, 1⟩⟩, ⟨.symbol "(", ⟨1, 1⟩, ⟨1, 2⟩⟩, ⟨.word "a", ⟨1, 2⟩, ⟨1, 3⟩⟩,
      ⟨.symbol ",", ⟨1, 3⟩, ⟨1, 4⟩⟩, ⟨.symbol "(", ⟨2, 1⟩, ⟨2, 2⟩⟩, ⟨.word "b", ⟨2, 2⟩, ⟨2, 3⟩⟩,
      ⟨.symbol ")", ⟨2, 3⟩, ⟨2, 4⟩⟩, ⟨.symbol "(", ⟨2, 4⟩, ⟨2, 5⟩⟩, ⟨.word "c", ⟨2, 5⟩, ⟨2, 6⟩⟩,
      ⟨.symbol ")", ⟨2, 6⟩, ⟨2, 7⟩⟩, ⟨.symbol ")", ⟨2, 7⟩, ⟨2, 8⟩⟩, ⟨.newline, ⟨2, 8⟩, ⟨2, 8⟩⟩,
      ⟨.finish, ⟨2, 8⟩, ⟨2, 8⟩⟩]
  have htokens : tokens "f(a,\n (b)(c))" = .ok ts := rfl
  -- A comma stands behind the first argument and in front of the last one.
  have hfirst : ¬ Parenthesized source a.place :=
    not_parenthesized_of_stop htokens (by decide)
  have hlast : ¬ Parenthesized source inner.place :=
    not_parenthesized_of_start htokens (by decide)
  have hself : SelfContained source [a, inner] := by
    refine ⟨fun _ n hn => ?_, fun n hn => ?_, fun n hn => ?_⟩
    · rcases hn with hn | hn
      · cases hn
        exact hfirst
      · cases hn
        exact hlast
    · cases hn
    · cases hn
  have hstray : source.toList.any Lines.isStray = false := by
    simp only [source, String.toList]
    decide
  have hsource : Spliceable source := by
    rintro callee arguments p q h
    cases hparse.symm.trans h
    exact ⟨hself, fun n j _ _ => Lines.not_strayBefore_of_any hstray j⟩
  let f := Expr.identifier (.str "f") (some ⟨0, 1⟩)
  let as : List Expr := [.identifier (.str "a") (some ⟨2, 3⟩),
    .call (.identifier (.str "b") (some ⟨7, 8⟩)) [.identifier (.str "c") (some ⟨10, 11⟩)]
      (some ⟨6, 12⟩)]
  have hreads : Reads "f(a,\n (b)(c))" (.call f as (some ⟨0, 13⟩)) := ⟨_, hparse, rfl⟩
  have htext : CallSite.argumentSource (.tree (.call f as (some ⟨0, 13⟩))) "f(a,\n (b)(c))" =
      .ok "a,\n (b)(c)" := rfl
  obtain ⟨text, callee, as', span', htext', hreads', hsame⟩ :=
    argumentSource_reread hreads (List.cons_ne_nil _ _) hsource
  cases htext.symm.trans htext'
  exact ⟨f, as, _, hreads, rfl, hsource, htext, callee, as', span', hreads', hsame⟩

/-- The parentheses of a first argument are cut apart, and what is left is no argument list. -/
theorem first_parentheses_cut :
    let source := "f((a), b)"
    ∃ f as span, Reads source (.call f as span) ∧ as ≠ [] ∧
      CallSite.argumentSource (.tree (.call f as span)) source = .ok "a), b" ∧
      ∀ e, ¬ Reads ("g(" ++ "a), b" ++ ")") e := by
  intro source
  have hrefused : parseExpression ("g(" ++ "a), b" ++ ")") = .error .malformed := rfl
  have hparse : parseExpression "f((a), b)" =
      .ok (.root (.call (.name "f" (placeBetween ⟨1, 0⟩ ⟨1, 1⟩))
        [.name "a" (placeBetween ⟨1, 3⟩ ⟨1, 4⟩), .name "b" (placeBetween ⟨1, 7⟩ ⟨1, 8⟩)] false
        (placeBetween ⟨1, 0⟩ ⟨1, 9⟩)) ⟨none, none, none, none⟩) := rfl
  let f := Expr.identifier (.str "f") (some ⟨0, 1⟩)
  let as : List Expr := [.identifier (.str "a") (some ⟨3, 4⟩), .identifier (.str "b") (some ⟨7, 8⟩)]
  have hreads : Reads "f((a), b)" (.call f as (some ⟨0, 9⟩)) := ⟨_, hparse, rfl⟩
  have htext : CallSite.argumentSource (.tree (.call f as (some ⟨0, 9⟩))) "f((a), b)" =
      .ok "a), b" := rfl
  refine ⟨f, as, _, hreads, List.cons_ne_nil _ _, htext, ?_⟩
  rintro e ⟨n, hn, -⟩
  rw [hrefused] at hn
  cases hn

end Script
end BuildTransform
