import BuildTransform.Proofs.Script.Elsewhere

/-!
# Operands read elsewhere

Subscripts, displays, templates and the other operands are read from the same lexemes
in the same way, wherever they stand.

* Whatever stands between brackets closes the bracket in front of it.
* `agree_templateNodes` compares the expressions in templates, whose texts are shorter
  than the template by two characters at least.
* `agree_factor` and `agree_tupleOf` are the results for operands and for what stands
  in templates.
-/

namespace BuildTransform
namespace Script
namespace Grammar

variable {E : Setting} {b b' : Below} {u : List Lexeme}

/-! ## Subscripts -/

theorem agree_sliceBound (h : Inner E b b' u) :
    Agree E 1 [] (fun _ _ => True) u (sliceBound b) (sliceBound b') := by
  have hread : Agree E 1 [] (fun _ _ => True) u (discard b.expression)
      (discard b'.expression) :=
    .bind ((h.expression u List.suffix_rfl).mono (Nat.zero_le 1))
      fun _ _ _ _ _ => .pure trivial
  refine .of_ne_nil fun hu => .peek (fun l v _ => ?_) fun h => absurd h hu
  cases l with
  | symbol s => exact .ite Iff.rfl (fun _ => .pure trivial) fun _ => hread
  | _ => exact hread

theorem agree_sliceRest (h : Inner E b b' u) :
    Agree E 1 [] (fun _ _ => True) u (sliceRest b) (sliceRest b') := by
  refine .expect (by decide) fun v hv => ?_
  have hvu : v <:+ u := hv ▸ List.suffix_cons _ v
  refine .bind (agree_sliceBound (h.of_suffix hvu)) fun _ _ w hw _ => ?_
  refine .accept (by decide) (fun _ => E.stops_symbol (by decide) (by decide))
    (fun z hz => ?_) (.pure trivial)
  exact agree_sliceBound (h.of_suffix ((hz ▸ List.suffix_cons _ z).trans (hw.trans hvu)))

/-- A slice behind its first bound, if it has one. -/
theorem agree_sliced {m m' : Mark} {ns ns' : List Node}
    (hns : List.Forall₂ Alike ns ns')
    (h : Inner E b b' u) :
    Agree E 1 [] Alike u
      (sliceRest b >>= fun _ => placeFrom m >>= fun p => pure (.other "Slice" ns p))
      (sliceRest b' >>= fun _ => placeFrom m' >>= fun p => pure (.other "Slice" ns' p)) :=
  .bind (agree_sliceRest h) fun _ _ _ _ _ => .place fun _ _ => .pure (.other hns)

theorem agree_sliceFrom {m m' : Mark} {binds : Bool} (h : Inner E b b' u) :
    Agree E 1 [] Alike u (sliceFrom b m binds) (sliceFrom b' m' binds) := by
  refine .bind ((agree_named h).mono (Nat.zero_le 1)) fun n n' v hv hn => ?_
  refine .next (fun _ => E.stops_symbol (by decide) (by decide)) (fun _ _ _ _ => ?_) fun _ => ?_
  · exact .ite Iff.rfl (fun _ => agree_sliced (.cons hn .nil) (h.of_suffix hv))
      fun _ => .pure hn
  · exact .ite Iff.rfl (fun _ => agree_sliced (.cons hn .nil) (h.of_suffix hv))
      fun _ => .pure hn

theorem agree_slice (h : Inner E b b' u) :
    Agree E 1 [] Alike u (slice b) (slice b') := by
  have hstops {sym : String} (hcomma : "," ≠ sym) (hclose : ")" ≠ sym) :
      u = [] → E.Stops (isSymbol · sym) :=
    fun _ => E.stops_symbol hcomma hclose
  refine .here fun m m' => ?_
  refine .next (hstops (by decide) (by decide)) (fun _ _ _ _ => ?_) fun _ => ?_
  · exact .of_true (agree_sliced .nil h)
  refine .of_false (.accept (by decide) (hstops (by decide) (by decide)) (fun v hv => ?_) ?_)
  · have hvu : v <:+ u := hv ▸ List.suffix_cons _ v
    refine .bind ((h.expression v hvu).mono (Nat.zero_le 1)) fun n n' _ _ hn => ?_
    exact .place fun e e' => .pure (.starred hn)
  · exact .nameThen (by decide) (by decide) (fun _ _ _ => agree_sliceFrom h) (agree_sliceFrom h)

theorem agree_indexOf (h : Inner E b b' u) :
    Agree E 1 [] Alike u (indexOf b) (indexOf b') := by
  refine .here fun m m' => .bind (agree_slice h) fun first first' v hv hfirst => ?_
  refine .of_ne_nil fun hne => .accept (by decide) (fun h => absurd h hne) (fun w hw => ?_) ?_
  · have hwu : w <:+ u := (hw ▸ List.suffix_cons _ w).trans hv
    refine .bound fun n n' hn' => ?_
    refine .bind (.commaItems (fun z hz => agree_slice (h.of_suffix (hz.trans hwu))) n n' hn') ?_
    exact fun more more' _ _ hmore => .place fun e e' => .pure (.display (.cons hfirst hmore))
  · refine .of_false (.ite (by rw [hfirst.isStarred_eq]) (fun _ => ?_) fun _ => .pure hfirst)
    exact .place fun e e' => .pure (.display (.cons hfirst .nil))

theorem agree_subscriptOf {object object' : Node} {m m' : Mark}
    (hobject : Alike object object')
    (h : Inner E b b' u) :
    Agree E 0 ["]"] Alike u (subscriptOf b object m) (subscriptOf b' object' m') := by
  refine .bind_before (agree_indexOf h) (fun _ => (takes_expect _).then) ?_
  intro index index' v hv hindex
  exact .expect_closing (by decide) fun _ _ => .place fun e e' =>
    .pure (.subscript hobject hindex)

theorem agree_trailers {object object' : Node} {m m' : Mark}
    (hobject : Alike object object')
    (h : Nested E b b' u)
    (n n' : Nat)
    (hn' : u.length < n') :
    Agree E 0 [] Alike u (trailers b m n object) (trailers b' m' n' object') := by
  induction n' generalizing u n object object' with
  | zero => omega
  | succ n' ih =>
      cases n with
      | zero => exact .failure
      | succ n =>
          have hrest {l : Lexeme} {v w : List Lexeme} (hv : u = l :: v) (hw : w <:+ v)
              {object object' : Node} (hobject : Alike object object') :
              Agree E 0 [] Alike w (trailers b m n object) (trailers b' m' n' object') := by
            have hvu : v <:+ u := hv ▸ List.suffix_cons l v
            have hlength := hw.length_le
            rw [hv, List.length_cons] at hn'
            exact ih hobject (h.of_suffix (hw.trans hvu)) n (by omega)
          refine .here fun k k' => .accept (by decide)
            (fun _ => E.stops_symbol (by decide) (by decide)) (fun v hv => ?_) ?_
          · refine .name fun field w hw => .place fun e e' => ?_
            exact hrest hv (hw ▸ List.suffix_cons _ w) (.member hobject)
          refine .accept_opening (c := ")") (by decide) (fun v hv => ?_) ?_
          · have hinner := h.inner_of_eq List.suffix_rfl hv (by decide)
            refine .bind_closed (agree_callOf hobject hinner) fun call call' w hw hcall => ?_
            exact hrest hv hw hcall
          refine .accept_opening (c := "]") (by decide) (fun v hv => ?_) (.pure hobject)
          have hinner := h.inner_of_eq List.suffix_rfl hv (by decide)
          refine .bind_closed (agree_subscriptOf hobject hinner) fun sub sub' w hw hsub => ?_
          exact hrest hv hw hsub

/-! ## Brackets -/

theorem agree_yielded (h : Inner E b b' u) :
    Agree E 1 [] (List.Forall₂ Alike) u (yielded b) (yielded b') := by
  refine .of_ne_nil fun hu => .next (fun h => absurd h hu) (fun _ _ _ _ => .pure .nil) fun _ => ?_
  refine .of_false (.bound fun n n' hn' => .commaItems (fun v hv => ?_) n n' hn')
  exact (agree_starExpression (h.of_suffix hv)).mono (Nat.zero_le 1)

theorem agree_yieldOf (h : Inner E b b' u) :
    Agree E 1 [] Alike u (yieldOf b) (yieldOf b') := by
  refine .here fun m m' => .expectWord fun v hv => .acceptWord (fun w hw => ?_) ?_
  · have hwu : w <:+ u := (hw ▸ List.suffix_cons _ w).trans (hv ▸ List.suffix_cons _ v)
    refine .bind ((h.expression w hwu).mono (Nat.zero_le 1)) fun n n' _ _ hn => ?_
    exact .place fun e e' => .pure (.other (.cons hn .nil))
  · have hvu : v <:+ u := hv ▸ List.suffix_cons _ v
    refine .bind (agree_yielded (h.of_suffix hvu)) fun ns ns' _ _ hns => ?_
    exact .place fun e e' => .pure (.other hns)

theorem takes_groupRest {first : Node} {m : Mark} : Takes (groupRest b m first) :=
  takesFor_acceptOf rfl (.ite (.behind fun _ => .behind fun _ => (takes_expect _).then)
    (.ite takesFor_failure (.behind fun _ => .ite takes_comprehension (takes_expect _).then)))

theorem takes_parenthesized {m : Mark} : Takes (parenthesized b m) :=
  takesFor_acceptOf rfl (.behind fun _ =>
    .ite (.behind fun _ => (takes_expect _).then) (.behind fun _ => takes_groupRest))

theorem agree_groupRest {m m' : Mark} {first first' : Node}
    (hfirst : Alike first first')
    (h : Inner E b b' u) :
    Agree E 0 [")"] Alike u (groupRest b m first) (groupRest b' m' first') := by
  refine .of_takes takes_groupRest fun hu => ?_
  refine .accept (by decide) (fun h => absurd h hu) (fun v hv => ?_) ?_
  · have hvu : v <:+ u := hv ▸ List.suffix_cons _ v
    refine .bound fun n n' hn' => ?_
    have hmore : Agree E 1 [] (List.Forall₂ Alike) v (commaItems (starNamed b) ")" n)
        (commaItems (starNamed b') ")" n') :=
      .commaItems (fun w hw =>
        (agree_starNamed (h.of_suffix (hw.trans hvu))).mono (Nat.zero_le 1)) n n' hn'
    refine .bind_before hmore (fun _ => (takes_expect _).then) ?_
    exact fun more more' _ _ hmore => .expect_closing (by decide) fun _ _ =>
      .place fun e e' => .pure (.display (.cons hfirst hmore))
  · refine .of_false (.ite (by rw [hfirst.isStarred_eq]) (fun _ => .failure) fun _ => ?_)
    refine .clauseNext fun r => .ite Iff.rfl (fun _ => agree_comprehension (by decide) h) ?_
    exact fun _ => .expect_closing (by decide) fun _ _ => .pure hfirst

theorem agree_parenthesized {m m' : Mark} (h : Inner E b b' u) :
    Agree E 0 [")"] Alike u (parenthesized b m) (parenthesized b' m') := by
  refine .of_takes takes_parenthesized fun hu => .accept_closing hu (by decide) ?_ ?_
  · exact fun _ _ => .place fun e e' => .pure (.display .nil)
  refine .next (fun _ => E.stops_word) (fun _ _ _ _ => ?_) fun _ => ?_
  · refine .of_true (.bind_before (agree_yieldOf h) (fun _ => (takes_expect _).then) ?_)
    exact fun y y' v hv hy => .expect_closing (by decide) fun _ _ => .pure hy
  · refine .of_false (.bind (agree_starNamed h) fun first first' v hv hfirst => ?_)
    exact agree_groupRest hfirst (h.of_suffix hv)

theorem takes_displayRest {shape : Display} {close form : String} {first : Node} {m : Mark} :
    Takes (displayRest b shape close form m first) :=
  .behind fun _ => .ite (.ite takesFor_failure takes_comprehension)
    (.behind fun _ => (takes_expect _).then)

theorem agree_displayRest {shape : Display} {close form : String} {m m' : Mark}
    {first first' : Node}
    (hclose : close ∈ brackets.map Prod.snd)
    (hfirst : Alike first first')
    (h : Inner E b b' u) :
    Agree E 0 [close] Alike u (displayRest b shape close form m first)
      (displayRest b' shape close form m' first') := by
  refine .clauseNext fun r => .ite Iff.rfl (fun _ => ?_) fun _ => ?_
  · refine .ite (by rw [hfirst.isStarred_eq]) (fun _ => .failure) fun _ => ?_
    exact agree_comprehension hclose h
  · have hmore : Agree E 1 [] (List.Forall₂ Alike) u (moreItems (starNamed b) close)
        (moreItems (starNamed b') close) :=
      .moreItems fun v hv => (agree_starNamed (h.of_suffix hv)).mono (Nat.zero_le 1)
    refine .bind_before hmore (fun _ => (takes_expect _).then) ?_
    exact fun more more' _ _ hmore => .expect_closing hclose fun _ _ =>
      .place fun e e' => .pure (.display (.cons hfirst hmore))

theorem agree_listOf {m m' : Mark} (h : Inner E b b' u) :
    Agree E 0 ["]"] Alike u (listOf b m) (listOf b' m') := by
  have htakes : Takes (listOf b m) :=
    takesFor_acceptOf rfl (.behind fun _ => takes_displayRest)
  refine .of_takes htakes fun hu => .accept_closing hu (by decide) ?_ ?_
  · exact fun _ _ => .place fun e e' => .pure (.display .nil)
  · refine .bind (agree_starNamed h) fun first first' v hv hfirst => ?_
    exact agree_displayRest (by decide) hfirst (h.of_suffix hv)

/-- The entries have the same form, and their nodes are alike. -/
def AlikeEntry (e e' : Option Node × Node) : Prop :=
  Option.Rel Alike e.1 e'.1 ∧ Alike e.2 e'.2

theorem agree_entry (h : Inner E b b' u) :
    Agree E 0 [] AlikeEntry u (entry b) (entry b') := by
  refine .accept (by decide) (fun _ => E.stops_symbol (by decide) (by decide))
    (fun v hv => ?_) ?_
  · have hvu : v <:+ u := hv ▸ List.suffix_cons _ v
    exact .bind (agree_binary (h.of_suffix hvu).outer) fun _ _ _ _ hn => .pure ⟨.none, hn⟩
  · refine .bind (h.expression u List.suffix_rfl) fun key key' v hv hkey => ?_
    refine .expect (by decide) fun w hw => ?_
    have hwu : w <:+ u := (hw ▸ List.suffix_cons _ w).trans hv
    exact .bind (h.expression w hwu) fun _ _ _ _ hn => .pure ⟨.some hkey, hn⟩

/-- Either both lists of entries have all their keys or neither has. -/
theorem alike_keys {es es' : List (Option Node × Node)} (h : List.Forall₂ AlikeEntry es es') :
    Option.Rel (List.Forall₂ Alike) (es.mapM (·.1)) (es'.mapM (·.1)) := by
  induction h with
  | nil => exact .some .nil
  | @cons e e' rest rest' he _ ih =>
      obtain ⟨key, value⟩ := e
      obtain ⟨key', value'⟩ := e'
      obtain ⟨hkey, -⟩ := he
      simp only [List.mapM_cons]
      generalize rest.mapM (·.1) = keys, rest'.mapM (·.1) = keys' at ih
      cases hkey with
      | none => exact .none
      | some hkey =>
          cases ih with
          | none => exact .none
          | some hkeys => exact .some (.cons hkey hkeys)

theorem alike_values {es es' : List (Option Node × Node)} (h : List.Forall₂ AlikeEntry es es') :
    List.Forall₂ Alike (es.map (·.2)) (es'.map (·.2)) := by
  induction h with
  | nil => exact .nil
  | cons he _ ih => exact .cons he.2 ih

theorem alike_parts {es es' : List (Option Node × Node)} (h : List.Forall₂ AlikeEntry es es') :
    List.Forall₂ Alike (es.flatMap fun e => e.1.toList ++ [e.2])
      (es'.flatMap fun e => e.1.toList ++ [e.2]) := by
  induction h with
  | nil => exact .nil
  | @cons e e' rest rest' he _ ih =>
      obtain ⟨key, value⟩ := e
      obtain ⟨key', value'⟩ := e'
      obtain ⟨hkey, hvalue⟩ := he
      cases hkey with
      | none => exact .cons hvalue ih
      | some hkey => exact .cons hkey (.cons hvalue ih)

theorem alike_dictOf {es es' : List (Option Node × Node)} {p : Place} {m e : Mark}
    (h : List.Forall₂ AlikeEntry es es') :
    Alike (dictOf es p) (dictOf es' (placeBetween m e)) := by
  have hkeys := alike_keys h
  unfold dictOf
  generalize es.mapM (·.1) = keys, es'.mapM (·.1) = keys' at hkeys
  cases hkeys with
  | none => exact .other (alike_parts h)
  | some hkeys => exact .dict hkeys (alike_values h)

theorem takes_dictRest {m : Mark} {first : Option Node × Node} : Takes (dictRest b m first) :=
  .behind fun _ => .ite (.ite takesFor_failure takes_comprehension)
    (.behind fun _ => (takes_expect _).then)

theorem agree_dictRest {m m' : Mark} {first first' : Option Node × Node}
    (hfirst : AlikeEntry first first')
    (h : Inner E b b' u) :
    Agree E 0 ["\x7d"] Alike u (dictRest b m first) (dictRest b' m' first') := by
  refine .clauseNext fun r => .ite Iff.rfl (fun _ => ?_) fun _ => ?_
  · have hnone : first.1.isNone = true ↔ first'.1.isNone = true := by
      obtain ⟨key, value⟩ := first
      obtain ⟨key', value'⟩ := first'
      obtain ⟨hkey, -⟩ := hfirst
      cases hkey <;> simp
    exact .ite hnone (fun _ => .failure) fun _ => agree_comprehension (by decide) h
  · have hmore : Agree E 1 [] (List.Forall₂ AlikeEntry) u (moreItems (entry b) "\x7d")
        (moreItems (entry b') "\x7d") :=
      .moreItems fun v hv => (agree_entry (h.of_suffix hv)).mono (Nat.zero_le 1)
    refine .bind_before hmore (fun _ => (takes_expect _).then) ?_
    exact fun more more' _ _ hmore => .expect_closing (by decide) fun _ _ =>
      .place fun e e' => .pure (alike_dictOf (.cons hfirst hmore))

theorem takes_setOrDict {m : Mark} : Takes (setOrDict b m) := by
  refine takesFor_acceptOf rfl (.behind fun _ => .ite (.behind fun _ => takes_dictRest) ?_)
  refine .behind fun _ => .behind fun _ => .behind fun _ => .ite ?_ takes_displayRest
  exact takes_advance.then

theorem agree_setOrDictFrom {m m' : Mark} {binds : Bool} (h : Inner E b b' u) :
    Agree E 0 ["\x7d"] Alike u (setOrDictFrom b m binds) (setOrDictFrom b' m' binds) := by
  refine .bind (agree_starNamed h) fun first first' v hv hfirst => ?_
  have hset : Agree E 0 ["\x7d"] Alike v (displayRest b .set "\x7d" "SetComp" m first)
      (displayRest b' .set "\x7d" "SetComp" m' first') :=
    agree_displayRest (by decide) hfirst (h.of_suffix hv)
  have hstarred := hfirst.isStarred_eq
  refine .next (fun _ => E.stops_symbol (by decide) (by decide)) (fun l w hw hl => ?_) ?_
  · refine .ite (by rw [hstarred]) (fun _ => ?_) fun _ => hset
    subst hw
    obtain rfl := isSymbol_iff.mp hl
    have hwu : w <:+ u := (List.suffix_cons _ w).trans hv
    refine .advance (fun y => .plain (by decide)) ?_
    refine .bind (h.expression w hwu) fun value value' z hz hvalue => ?_
    exact agree_dictRest ⟨.some hfirst, hvalue⟩ (h.of_suffix (hz.trans hwu))
  · exact fun _ => .ite (by rw [hstarred]) (fun hfalse => by simp at hfalse) fun _ => hset

theorem agree_setOrDict {m m' : Mark} (h : Inner E b b' u) :
    Agree E 0 ["\x7d"] Alike u (setOrDict b m) (setOrDict b' m') := by
  refine .of_takes takes_setOrDict fun hu => .accept_closing hu (by decide) ?_ ?_
  · exact fun _ _ => .place fun e e' => .pure (.dict .nil .nil)
  refine .next (fun h => absurd h hu) (fun _ _ _ _ => ?_) fun _ => ?_
  · refine .of_true (.bind (agree_entry h) fun first first' v hv hfirst => ?_)
    exact agree_dictRest hfirst (h.of_suffix hv)
  · exact .of_false (.nameThen (by decide) (by decide) (fun _ _ _ => agree_setOrDictFrom h)
      (agree_setOrDictFrom h))

/-! ## Templates -/

theorem suffix_of_templateText {outermost raw : Bool} {fuel : Nat} {cs text rest : List Char}
    (h : templateText outermost raw fuel cs = some (text, rest)) : rest <:+ cs := by
  induction fuel generalizing cs text rest with
  | zero => cases h
  | succ fuel ih =>
      have hkeep {kept after : List Char} (hafter : after <:+ cs)
          (hrest : (templateText outermost raw fuel after).map (Prod.map (kept ++ ·) id) =
            some (text, rest)) : rest <:+ cs := by
        obtain ⟨⟨t, r⟩, hr, hpair⟩ := Option.map_eq_some_iff.mp hrest
        cases hpair
        exact (ih hr).trans hafter
      cases cs with
      | nil =>
          cases h
          exact List.suffix_rfl
      | cons c cs =>
          have hone : cs <:+ c :: cs := List.suffix_cons c cs
          simp only [templateText] at h
          split_ifs at h with hslash hdoubled hsame hopening hbrace
          · cases cs with
            | nil =>
                cases h
                exact List.nil_suffix
            | cons d after =>
                simp only at h
                split_ifs at h
                · exact hkeep hone h
                · exact hkeep ((List.suffix_cons d after).trans hone) h
          · exact hkeep ((List.drop_suffix 1 cs).trans hone) h
          · cases h
            exact List.suffix_rfl
          · cases h
            exact List.suffix_rfl
          · exact hkeep hone h

/-- The text of an embedded expression ends in front of some character. -/
theorem append_of_embedded {fuel : Nat} {quote : OpenQuote} {open_ cs text rest : List Char}
    (h : embedded fuel quote open_ cs = some (text, rest)) : text ++ rest = cs ∧ rest ≠ [] := by
  induction fuel generalizing quote open_ cs text rest with
  | zero => cases h
  | succ fuel ih =>
      have hkeep {quote : OpenQuote} {open_ kept after : List Char} (hafter : kept ++ after = cs)
          (hrest : (embedded fuel quote open_ after).map (Prod.map (kept ++ ·) id) =
            some (text, rest)) : text ++ rest = cs ∧ rest ≠ [] := by
        obtain ⟨⟨t, r⟩, hr, hpair⟩ := Option.map_eq_some_iff.mp hrest
        cases hpair
        obtain ⟨happend, hne⟩ := ih hr
        exact ⟨by rw [List.append_assoc, id, happend, hafter], hne⟩
      cases cs with
      | nil => cases h
      | cons c cs =>
          have hone : [c] ++ cs = c :: cs := rfl
          have hthree (htripled : [c, c].isPrefixOf cs = true) :
              [c, c, c] ++ cs.drop 2 = c :: cs := by
            obtain ⟨after, rfl⟩ := List.isPrefixOf_iff_prefix.mp htripled
            rfl
          have htwo : (c :: cs.take 1) ++ cs.drop 1 = c :: cs :=
            congrArg (c :: ·) (List.take_append_drop 1 cs)
          simp only [embedded] at h
          cases quote with
          | some q =>
              simp only at h
              split_ifs at h with _ _ _ htripled
              · exact hkeep hone h
              · exact hkeep hone h
              · exact hkeep (hthree htripled) h
              · exact hkeep hone h
          | none =>
              simp only at h
              split_ifs at h with _ _ htripled
              · exact hkeep (hthree htripled) h
              · exact hkeep hone h
              · exact hkeep htwo h
              · exact hkeep hone h
              · cases h
                exact ⟨rfl, by simp⟩
              · split at h
                · cases h
                · exact hkeep hone h

theorem afterEquals_suffix (cs : List Char) : afterEquals cs <:+ cs := by
  unfold afterEquals
  split
  · exact (List.dropWhile_suffix _).trans (List.suffix_cons _ _)
  · exact List.suffix_rfl

theorem suffix_of_afterConversion {cs rest : List Char} (h : afterConversion cs = some rest) :
    rest <:+ cs := by
  unfold afterConversion at h
  split at h
  · split_ifs at h
    cases h
    exact (List.suffix_cons _ _).trans (List.suffix_cons _ _)
  · cases h
  · cases h
    exact List.suffix_rfl

theorem suffix_of_afterColon {cs rest : List Char} (h : afterColon cs = some rest) :
    rest <:+ cs := by
  unfold afterColon at h
  split at h
  · cases h
    exact List.suffix_cons _ _
  · cases h

theorem suffix_of_afterBrace {cs rest : List Char} (h : afterBrace cs = some rest) :
    rest <:+ cs := by
  unfold afterBrace at h
  split at h
  · cases h
    exact List.suffix_cons _ _
  · cases h

theorem agree_templateNodes {raw : Bool} {fuel level : Nat} {cs rest : List Char}
    {ns : List Node}
    (hread : ∀ e n, e.length + 2 ≤ cs.length → embeddedNode b e = some n →
      ∃ n', embeddedNode b' e = some n' ∧ Alike n n')
    (h : templateNodes b raw fuel level cs = some (ns, rest)) :
    ∃ ns', templateNodes b' raw fuel level cs = some (ns', rest) ∧
      List.Forall₂ Alike ns ns' ∧ rest <:+ cs := by
  induction fuel generalizing level cs rest ns with
  | zero => cases h
  | succ fuel ih =>
      have hlater {level : Nat} {after rest : List Char} {ns : List Node} (hafter : after <:+ cs)
          (h : templateNodes b raw fuel level after = some (ns, rest)) :
          ∃ ns', templateNodes b' raw fuel level after = some (ns', rest) ∧
            List.Forall₂ Alike ns ns' ∧ rest <:+ after :=
        ih (fun e n he => hread e n (he.trans hafter.length_le)) h
      simp only [templateNodes, Option.bind_eq_bind, Option.bind_eq_some_iff, Prod.exists] at h ⊢
      obtain ⟨text, after, htext, s, hs, h⟩ := h
      have hafter := suffix_of_templateText htext
      split at h
      · rename_i opened
        split_ifs at h with hlevel
        simp only [Option.bind_eq_some_iff, Prod.exists] at h
        obtain ⟨e, behind, he, node, hnode, final, hfinal, inner, last, hinner, closed, hclosed,
          more, rest', hmore, hpair⟩ := h
        cases hpair
        obtain ⟨hopened, hne⟩ := append_of_embedded he
        have hlength : e.length + 2 ≤ cs.length := by
          have hle := hafter.length_le
          have hpos := List.length_pos_iff.mpr hne
          rw [← hopened, List.length_cons, List.length_append] at hle
          omega
        have hbehind : behind <:+ cs := by
          refine List.IsSuffix.trans ?_ ((List.suffix_cons _ _).trans hafter)
          exact hopened ▸ List.suffix_append e behind
        have hfinalcs : final <:+ cs :=
          (suffix_of_afterConversion hfinal).trans ((afterEquals_suffix behind).trans hbehind)
        obtain ⟨node', hnode', hnodes⟩ := hread e node hlength hnode
        have hformat : ∃ inner',
            (afterColon final).elim (some ([], final))
              (templateNodes b' raw fuel (level + 1)) = some (inner', last) ∧
            List.Forall₂ Alike inner inner' ∧ last <:+ final := by
          cases hcolon : afterColon final with
          | none =>
              rw [hcolon] at hinner
              cases hinner
              exact ⟨[], rfl, .nil, List.suffix_rfl⟩
          | some formatted =>
              rw [hcolon] at hinner
              have hsuffix := suffix_of_afterColon hcolon
              obtain ⟨inner', hinner', hinners, hlast⟩ := hlater (hsuffix.trans hfinalcs) hinner
              exact ⟨inner', hinner', hinners, hlast.trans hsuffix⟩
        obtain ⟨inner', hinner', hinners, hlast⟩ := hformat
        have hclosedcs := (suffix_of_afterBrace hclosed).trans (hlast.trans hfinalcs)
        obtain ⟨more', hmore', hmores, hrest⟩ := hlater hclosedcs hmore
        refine ⟨node' :: (inner' ++ more'), ⟨text, _, htext, s, hs, ?_⟩,
          .cons hnodes (List.rel_append hinners hmores), hrest.trans hclosedcs⟩
        simp only [if_neg hlevel, he, hnode', hfinal, hinner', hclosed, hmore', Option.bind_some]
      · rename_i hplain
        split_ifs at h with hend
        cases h
        refine ⟨[], ⟨text, _, htext, s, hs, ?_⟩, .nil, hafter⟩
        split
        · rename_i heq
          exact (hplain _ rfl).elim
        · rw [if_neg hend]

/-! ## Quoted texts -/

theorem agree_quotations (n n' : Nat) (hn' : u.length < n') :
    Agree E 0 [] (fun qs qs' => qs' = qs ∧ ∀ q, q ∈ qs → .quotation q ∈ u) u (quotations n)
      (quotations n') := by
  induction n' generalizing u n with
  | zero => omega
  | succ n' ih =>
      cases n with
      | zero => exact .failure
      | succ n =>
          refine .peek (fun l v hu => ?_) fun _ => ?_
          · subst hu
            cases l with
            | quotation q =>
                refine .advance (fun y => .plain trivial) ?_
                rw [List.length_cons] at hn'
                refine .bind (ih n (by omega)) fun qs qs' w hw hqs => .pure ?_
                obtain ⟨rfl, hmem⟩ := hqs
                refine ⟨rfl, fun q' hq' => ?_⟩
                rcases List.mem_cons.mp hq' with rfl | hq'
                · exact List.mem_cons_self
                · exact List.mem_cons_of_mem _ (hmem q' hq')
            | _ => exact .pure ⟨rfl, by simp⟩
          · rcases E.closing_one with h | h | h <;>
              rcases E.closing_other with h' | h' | h' <;>
              simp only [h, h'] <;>
              exact .pure ⟨rfl, by simp⟩

theorem agree_templatesOf {qs : List Quotation} {ns : List Node}
    (hmem : ∀ q, q ∈ qs → .quotation q ∈ u)
    (hread : Templates b b' u)
    (h : templatesOf b qs = some ns) :
    ∃ ns', templatesOf b' qs = some ns' ∧ List.Forall₂ Alike ns ns' := by
  induction qs generalizing ns with
  | nil =>
      cases h
      exact ⟨[], rfl, .nil⟩
  | cons q qs ih =>
      have hrest {ns : List Node} (h : templatesOf b qs = some ns) :
          ∃ ns', templatesOf b' qs = some ns' ∧ List.Forall₂ Alike ns ns' :=
        ih (fun q' hq' => hmem q' (List.mem_cons_of_mem q hq')) h
      cases q with
      | template raw body =>
          simp only [templatesOf, Option.bind_eq_bind, Option.bind_eq_some_iff, Prod.exists] at h
          obtain ⟨nodes, last, hnodes, more, hmore, hns⟩ := h
          cases hns
          have hbody := hread raw body (hmem _ List.mem_cons_self)
          obtain ⟨nodes', hnodes', halike, -⟩ := agree_templateNodes hbody hnodes
          obtain ⟨more', hmore', halikes⟩ := hrest hmore
          refine ⟨nodes' ++ more', ?_, List.rel_append halike halikes⟩
          simp only [templatesOf, hnodes', hmore', Option.bind_eq_bind, Option.bind_some]
      | text s => exact hrest h
      | bytes bs => exact hrest h

theorem agree_quoted (h : Templates b b' u) :
    Agree E 0 [] Alike u (quoted b) (quoted b') := by
  refine .here fun m m' => .bound fun n n' hn' => ?_
  refine .bind (agree_quotations n n' hn') fun qs qs' v hv hqs => .place fun e e' => ?_
  obtain ⟨hsame, hmem⟩ := hqs
  rw [hsame]
  cases textOf qs with
  | some s => exact .pure .constant
  | none =>
      cases bytesOf qs with
      | some bs => exact .pure .constant
      | none =>
          refine .ite (P := qs.any isBytes = true) Iff.rfl (fun _ => .failure) fun _ => ?_
          cases hnodes : templatesOf b qs with
          | none => exact .failure
          | some nodes =>
              obtain ⟨nodes', hnodes', halike⟩ := agree_templatesOf hmem h hnodes
              rw [hnodes']
              exact .pure (.other halike)

/-! ## Operands -/

theorem agree_atom (h : Nested E b b' u) :
    Agree E 0 [] Alike u (atom b) (atom b') := by
  refine .here fun m m' => .peek (fun l v hu => ?_) fun _ => ?_
  · subst hu
    have hconstant {w : Value} (hl : IsPlain l) : Agree E 0 [] Alike (l :: v)
        (advance >>= fun _ => placeFrom m >>= fun p => pure (.constant w p))
        (advance >>= fun _ => placeFrom m' >>= fun p => pure (.constant w p)) :=
      .advance (fun y => .plain hl) (.place fun e e' => .pure .constant)
    have hopened {o c : String} (hl : l = .symbol o) (hpair : (o, c) ∈ brackets)
        {p p' : Parse Node} (hp : Inner E b b' v → Agree E 0 [c] Alike v p p') :
        Agree E 0 [] Alike (l :: v) (advance >>= fun _ => p) (advance >>= fun _ => p') := by
      subst hl
      exact .advance (fun y => .opening hpair)
        (hp (h.inner_of_eq List.suffix_rfl rfl Nat.one_pos))
    split
    · exact hconstant trivial
    · exact agree_quoted h.templates
    · rename_i w
      cases constantWord? w with
      | some value => exact hconstant trivial
      | none => exact .name fun id v' hv => .place fun e e' => .pure .name
    · exact hconstant (by decide)
    · exact hopened rfl (by decide) agree_parenthesized
    · exact hopened rfl (by decide) agree_listOf
    · exact hopened rfl (by decide) agree_setOrDict
    · exact .failure
  · rcases E.closing_one with h | h | h <;>
      simp only [h] <;>
      exact .failure

theorem agree_primary (h : Nested E b b' u) :
    Agree E 0 [] Alike u (primary b) (primary b') := by
  refine .here fun m m' => .bind (agree_atom h) fun a a' v hv ha => .bound fun n n' hn' => ?_
  exact agree_trailers ha (h.of_suffix hv) n n' hn'

theorem agree_awaited (h : Nested E b b' u) :
    Agree E 0 [] Alike u (awaited b) (awaited b') := by
  refine .here fun m m' => .acceptWord (fun v hv => ?_) (agree_primary h)
  refine .bind (agree_primary (h.of_suffix (hv ▸ List.suffix_cons _ v))) fun n n' _ _ hn => ?_
  exact .place fun e e' => .pure (.other (.cons hn .nil))

theorem agree_power (h : Nested E b b' u) :
    Agree E 0 [] Alike u (power b) (power b') := by
  refine .here fun m m' => .bind (agree_awaited h) fun base base' v hv hbase => ?_
  refine .accept (by decide) (fun _ => E.stops_symbol (by decide) (by decide))
    (fun w hw => ?_) (.pure hbase)
  have hinner := h.inner_of_eq hv hw (by decide)
  refine .bind (hinner.factor w List.suffix_rfl) fun exponent exponent' _ _ hexponent => ?_
  exact .place fun e e' => .pure (.binary hbase hexponent)

/-- **Operands are read alike** if what they hold is. -/
theorem agree_factor (h : Nested E b b' u) :
    Agree E 0 [] Alike u (factor b) (factor b') := by
  refine .here fun m m' => .peek (fun l v hu => ?_) fun _ => ?_
  · cases l with
    | symbol s =>
        dsimp only
        cases hsign : signs.lookup s with
        | some sign =>
            subst hu
            have hplain : ∀ q, q ∈ signs → IsPlain (.symbol q.1) := by
              decide
            obtain ⟨before, after, hsigns, -⟩ := List.lookup_eq_some_iff.mp hsign
            have hmem : (s, sign) ∈ signs := by simp [hsigns]
            refine .advance (fun y => .plain (hplain _ hmem)) ?_
            have hinner := h.inner_of_eq List.suffix_rfl rfl Nat.one_pos
            refine .bind (hinner.factor v List.suffix_rfl) fun operand operand' _ _ ho => ?_
            exact .place fun e e' => .pure (.unary ho)
        | none => exact agree_power h
    | _ => exact agree_power h
  · rcases E.closing_one with h1 | h1 | h1 <;>
      rcases E.closing_other with h2 | h2 | h2 <;>
      simp only [h1, h2] <;>
      exact agree_power h

/-! ## What stands in templates -/

/-- No text follows. -/
def Setting.empty : Setting :=
  ⟨[], [], Or.inl rfl, Or.inl rfl⟩

theorem agree_tupleOf {item item' : Parse Node} {ends : Lexeme → Bool}
    (h : ∀ v, v <:+ u → Agree .empty 0 [] Alike v item item') :
    Agree .empty 0 [] Alike u (tupleOf item ends) (tupleOf item' ends) := by
  refine .here fun m m' => .bind (h u List.suffix_rfl) fun first first' v hv hfirst => ?_
  refine .next (fun _ => ⟨rfl, rfl⟩) (fun _ _ _ _ => ?_) fun _ => ?_
  · refine .of_true (.bound fun n n' hn' => ?_)
    refine .bind (.repeated (R := Alike) (fun w hw => ?_) ?_ n n' hn') ?_
    · refine .accept (by decide) (fun _ => ⟨rfl, rfl⟩) (fun z hz => ?_) (.pure .none)
      have hzu : z <:+ u := (hz ▸ List.suffix_cons _ z).trans (hw.trans hv)
      have hnext (r : Bool) : Agree .empty 0 [] (Option.Rel Alike) z
          (if r = true then pure none else item >>= fun n => pure (some n))
          (if r = true then pure none else item' >>= fun n => pure (some n)) :=
        .ite Iff.rfl (fun _ => .pure .none) fun _ =>
          .bind (h z hzu) fun _ _ _ _ hn => .pure (.some hn)
      exact .peek (fun l _ _ => hnext (ends l)) fun _ => hnext (ends .finish)
    · exact takesFor_acceptOf rfl (takesFor_pure (by simp))
    · exact fun more more' _ _ hmore => .place fun e e' => .pure (.display (.cons hfirst hmore))
  · refine .of_false (.ite (by rw [hfirst.isStarred_eq]) (fun _ => .failure) fun _ => ?_)
    exact .pure hfirst

end Grammar
end Script
end BuildTransform
