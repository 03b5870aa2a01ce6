import BuildTransform.Config.Session
import BuildTransform.Proofs.Config.Override

/-!
# Options field by field

Where the options of a loader come from, after any number of calls that made it.

* `Options.get?` and `Options.get` are the view of options by their fields.
* `Options.Holds` says which value a mapping holds for a field, and `ofMapping_eq_ok_iff` what
  the options of a mapping are.
* `Loader.Chain` lists the options that were given in the calls leading to a loader.
* `Loader.options_of_chain` concludes: for every field the last call that gives it decides.
-/

namespace BuildTransform

/-- The value of a field: a path or nothing, or a truth value. -/
inductive OptionValue
  | path (p : Option Path)
  | flag (b : Bool)
deriving DecidableEq, Repr

namespace Options

/-! ## Fields -/

/-- The value that options give to a field, if they give it one. -/
def get? (o : Options) : OptionField → Option OptionValue
  | .configFile => o.configFile.map .path
  | .configDir => o.configDir.map .path
  | .evaluateArguments => o.evaluateArguments.map .flag

/-- The value of a field, given or not. -/
def get (o : Options) : OptionField → OptionValue
  | .configFile => .path o.file
  | .configDir => .path o.dir
  | .evaluateArguments => .flag o.evaluates

/-- The value of a field that is not given. -/
def unset : OptionField → OptionValue
  | .configFile => .path none
  | .configDir => .path none
  | .evaluateArguments => .flag true

/-- Reads the value of a field. -/
def read [Platform] : OptionField → Setting → Except OptionFault OptionValue
  | .configFile, v => (Platform.pathOf v).map .path
  | .configDir, v => (Platform.pathOf v).map .path
  | .evaluateArguments, v => (Platform.booleanOf v).map .flag

section Fields

variable {o base newer : Options} {f : OptionField} {a : OptionValue}

theorem get_eq : o.get f = (o.get? f).getD (unset f) := by
  obtain ⟨file, dir, evaluate⟩ := o
  cases f
  · cases file <;> rfl
  · cases dir <;> rfl
  · cases evaluate <;> rfl

theorem mem_given_iff : f ∈ o.given ↔ ∃ a, o.get? f = some a := by
  obtain ⟨file, dir, evaluate⟩ := o
  cases f
  · cases file <;> simp [given, OptionField.all, get?]
  · cases dir <;> simp [given, OptionField.all, get?]
  · cases evaluate <;> simp [given, OptionField.all, get?]

@[simp] theorem get?_empty : empty.get? f = none := by
  cases f <;> rfl

/-- Merging lets the newer options decide where they give a field. -/
theorem get?_merge : (base.merge newer).get? f = (newer.get? f <|> base.get? f) := by
  obtain ⟨file, dir, evaluate⟩ := newer
  cases f
  · cases file <;> rfl
  · cases dir <;> rfl
  · cases evaluate <;> rfl

/-- Merging the same options once more changes nothing. -/
theorem merge_merge_self : (base.merge newer).merge newer = base.merge newer :=
  merge_eq_self_iff.mpr ⟨fun p hp => by simp [merge, hp], fun p hp => by simp [merge, hp],
    fun b hb => by simp [merge, hb]⟩

end Fields

/-! ## Mappings -/

/-- The mapping that pairs make when they are written one after the other. -/
def entries (pairs : List (String × Setting)) : List (String × Setting) :=
  pairs.foldl (fun ps (k, v) => putPair k v ps) []

/-- The value that a mapping holds for a field: that of the last key that spells the field. -/
def Holds (pairs : List (String × Setting)) (f : OptionField) (v : Setting) : Prop :=
  ∃ before key after, entries pairs = before ++ (key, v) :: after ∧
    OptionField.ofKey? key = some f ∧ ∀ p, p ∈ after → OptionField.ofKey? p.1 ≠ some f

section Mappings

variable {α : Type} {key : String} {value : α} {pairs : List (String × Setting)}
variable {f : OptionField} {v : Setting} {o : Options}

theorem map_fst_putPair {ps : List (String × α)} {k : String} :
    k ∈ (putPair key value ps).map Prod.fst ↔ k = key ∨ k ∈ ps.map Prod.fst := by
  induction ps with
  | nil => simp [putPair]
  | cons p ps ih =>
      obtain ⟨k', v'⟩ := p
      unfold putPair
      split_ifs with h
      · subst h
        simp
      · simp only [List.map_cons, List.mem_cons, ih]
        exact or_left_comm

/-- A mapping has the keys of the pairs that make it. -/
theorem exists_mem_entries_iff {k : String} :
    k ∈ (entries pairs).map Prod.fst ↔ k ∈ pairs.map Prod.fst := by
  suffices hfold : ∀ ps : List (String × Setting),
      k ∈ (pairs.foldl (fun ps (k, v) => putPair k v ps) ps).map Prod.fst ↔
        k ∈ ps.map Prod.fst ∨ k ∈ pairs.map Prod.fst by
    simpa [entries] using hfold []
  induction pairs with
  | nil => simp
  | cons p pairs ih =>
      intro ps
      obtain ⟨k', v⟩ := p
      rw [List.foldl_cons, ih, map_fst_putPair]
      simp only [List.map_cons, List.mem_cons]
      tauto

theorem valueFor_eq_some_iff : valueFor pairs f = some v ↔ Holds pairs f v := by
  have hvalue : valueFor pairs f =
      ((entries pairs).reverse.find? fun p => OptionField.ofKey? p.1 == some f).map (·.2) := rfl
  rw [hvalue, Option.map_eq_some_iff]
  simp only [List.find?_eq_some_iff_append, beq_iff_eq, Bool.not_eq_true', beq_eq_false_iff_ne]
  constructor
  · rintro ⟨⟨key, _⟩, ⟨hkey, later, earlier, hsplit, hlater⟩, rfl⟩
    refine ⟨earlier.reverse, key, later.reverse, ?_, hkey, ?_⟩
    · rw [← List.reverse_reverse (entries pairs), hsplit]
      simp
    · exact fun p hp => hlater p (List.mem_reverse.mp hp)
  · rintro ⟨before, key, after, hsplit, hkey, hafter⟩
    refine ⟨(key, v), ⟨hkey, after.reverse, before.reverse, ?_, ?_⟩, rfl⟩
    · simp [hsplit]
    · exact fun p hp => hafter p (List.mem_reverse.mp hp)

/-- A mapping holds no value for a field iff no key spells it. -/
theorem valueFor_eq_none_iff :
    valueFor pairs f = none ↔ ∀ p, p ∈ pairs → OptionField.ofKey? p.1 ≠ some f := by
  have hvalue : valueFor pairs f =
      ((entries pairs).reverse.find? fun p => OptionField.ofKey? p.1 == some f).map (·.2) := rfl
  have hkeys (ps : List (String × Setting)) :
      (∀ p, p ∈ ps → OptionField.ofKey? p.1 ≠ some f) ↔
        ∀ k, k ∈ ps.map Prod.fst → OptionField.ofKey? k ≠ some f := by
    simp
  rw [hvalue, Option.map_eq_none_iff, List.find?_eq_none]
  simp only [List.mem_reverse, beq_iff_eq]
  exact (hkeys _).trans (by simp only [exists_mem_entries_iff, (hkeys pairs).symm])

variable [Platform]

/-- Options are those of a mapping iff each field is read from it. -/
theorem ofMapping_eq_ok_iff_checked :
    ofMapping pairs = .ok o ↔
      checked .configFile Platform.pathOf (valueFor pairs .configFile) = .ok o.configFile ∧
      checked .configDir Platform.pathOf (valueFor pairs .configDir) = .ok o.configDir ∧
      checked .evaluateArguments Platform.booleanOf (valueFor pairs .evaluateArguments) =
        .ok o.evaluateArguments := by
  obtain ⟨file, dir, evaluate⟩ := o
  simp only [ofMapping]
  constructor
  · intro h
    split at h
    · rename_i hfile hdir hevaluate
      cases h
      exact ⟨hfile, hdir, hevaluate⟩
    · cases h
  · rintro ⟨hfile, hdir, hevaluate⟩
    rw [hfile, hdir, hevaluate]

/-- A field is read from the value that a mapping holds for it, if there is one. -/
def Reads (f : OptionField) (held : Option Setting) (r : Option OptionValue) : Prop :=
  match held with
  | none => r = none
  | some v => ∃ a, read f v = .ok a ∧ r = some a

theorem checked_eq_ok_iff {readOne : Setting → Except OptionFault α} {wrap : α → OptionValue}
    (hwrap : Function.Injective wrap) (hread : ∀ v, read f v = (readOne v).map wrap)
    {held : Option Setting} {r : Option α} :
    checked f readOne held = .ok r ↔ Reads f held (r.map wrap) := by
  cases held with
  | none => simp [checked, Reads, eq_comm]
  | some v =>
      simp only [checked, Reads, hread]
      cases readOne v with
      | error e => simp [Except.map]
      | ok a => simp [Except.map, eq_comm, hwrap.eq_iff]

/-- **The options of a mapping** have its values, read field by field. -/
theorem ofMapping_eq_ok_iff :
    ofMapping pairs = .ok o ↔ ∀ f, Reads f (valueFor pairs f) (o.get? f) := by
  have hpath : Function.Injective OptionValue.path := fun p q h => by injection h
  have hflag : Function.Injective OptionValue.flag := fun p q h => by injection h
  rw [ofMapping_eq_ok_iff_checked, checked_eq_ok_iff hpath fun _ => rfl,
    checked_eq_ok_iff hpath fun _ => rfl, checked_eq_ok_iff hflag fun _ => rfl]
  constructor
  · rintro ⟨hfile, hdir, hevaluate⟩ (_ | _ | _)
    · exact hfile
    · exact hdir
    · exact hevaluate
  · exact fun h => ⟨h .configFile, h .configDir, h .evaluateArguments⟩

theorem exists_checked {readOne : Setting → Except OptionFault α} {wrap : α → OptionValue}
    (hread : ∀ v, read f v = (readOne v).map wrap)
    (h : ∀ v, valueFor pairs f = some v → ∃ a, read f v = .ok a) :
    ∃ r, checked f readOne (valueFor pairs f) = .ok r := by
  cases hvalue : valueFor pairs f with
  | none => exact ⟨none, rfl⟩
  | some v =>
      obtain ⟨a, ha⟩ := h v hvalue
      rw [hread, Outcome.map_eq_ok_iff] at ha
      obtain ⟨r, hr, -⟩ := ha
      exact ⟨some r, by simp only [checked, hr]⟩

/-- **Only the values that a mapping holds are checked**, not those that later ones replace. -/
theorem exists_ofMapping_iff :
    (∃ o, ofMapping pairs = .ok o) ↔ ∀ f v, Holds pairs f v → ∃ a, read f v = .ok a := by
  simp only [← valueFor_eq_some_iff]
  constructor
  · rintro ⟨o, ho⟩ f v hvalue
    have hreads := ofMapping_eq_ok_iff.mp ho f
    rw [hvalue] at hreads
    obtain ⟨a, ha, -⟩ := hreads
    exact ⟨a, ha⟩
  · intro h
    obtain ⟨file, hfile⟩ := exists_checked (fun _ => rfl) (h .configFile)
    obtain ⟨dir, hdir⟩ := exists_checked (fun _ => rfl) (h .configDir)
    obtain ⟨evaluate, hevaluate⟩ := exists_checked (fun _ => rfl) (h .evaluateArguments)
    exact ⟨⟨file, dir, evaluate⟩, ofMapping_eq_ok_iff_checked.mpr ⟨hfile, hdir, hevaluate⟩⟩

end Mappings

end Options

/-! ## Options that are given in calls -/

namespace OptionsInput

/-- The input gives the field, whatever value it gives it. -/
def Mentions : OptionsInput → OptionField → Prop
  | .absent, _ => False
  | .made o, f => f ∈ o.given
  | .mapping pairs, f => ∃ p, p ∈ pairs ∧ OptionField.ofKey? p.1 = some f

/-- The input gives the field the value. -/
def Gives [Platform] : OptionsInput → OptionField → OptionValue → Prop
  | .absent, _, _ => False
  | .made o, f, a => o.get? f = some a
  | .mapping pairs, f, a => ∃ v, Options.Holds pairs f v ∧ Options.read f v = .ok a

/-- The last of some inputs that mentions the field gives it the value. -/
def LastGives [Platform] (inputs : List OptionsInput) (f : OptionField) (a : OptionValue) : Prop :=
  ∃ before input after, inputs = before ++ input :: after ∧ input.Gives f a ∧
    ∀ i, i ∈ after → ¬ i.Mentions f

section Inputs

variable [Platform] {input : OptionsInput} {inputs : List OptionsInput} {o : Options}
variable {f : OptionField} {a : OptionValue}

/-- The options of an input give what the input gives. -/
theorem get?_of_ofInput (h : Options.ofInput input = .ok o) :
    o.get? f = some a ↔ input.Gives f a := by
  cases input with
  | absent =>
      cases h
      simp [Gives]
  | made o' =>
      cases h
      exact Iff.rfl
  | mapping pairs =>
      have hreads := Options.ofMapping_eq_ok_iff.mp h f
      simp only [Gives, ← Options.valueFor_eq_some_iff]
      cases hvalue : Options.valueFor pairs f with
      | none => simp_all [Options.Reads]
      | some v =>
          simp only [hvalue, Options.Reads] at hreads
          obtain ⟨a', hread, hget⟩ := hreads
          rw [hget]
          constructor
          · rintro ⟨⟩
            exact ⟨v, rfl, hread⟩
          · rintro ⟨_, ⟨⟩, hread'⟩
            rw [hread] at hread'
            cases hread'
            rfl

theorem mem_given_of_ofInput (h : Options.ofInput input = .ok o) :
    f ∈ o.given ↔ input.Mentions f := by
  cases input with
  | absent =>
      cases h
      simp [Options.mem_given_iff, Mentions]
  | made o' =>
      cases h
      exact Iff.rfl
  | mapping pairs =>
      have hreads := Options.ofMapping_eq_ok_iff.mp h f
      have hnone := @Options.valueFor_eq_none_iff pairs f
      rw [Options.mem_given_iff, Mentions]
      cases hvalue : Options.valueFor pairs f with
      | none =>
          rw [hvalue] at hreads hnone
          refine iff_of_false ?_ ?_
          · rintro ⟨a, ha⟩
            rw [hreads] at ha
            cases ha
          · rintro ⟨p, hp, hkey⟩
            exact hnone.mp rfl p hp hkey
      | some v =>
          rw [hvalue] at hreads hnone
          obtain ⟨a, -, ha⟩ := hreads
          refine iff_of_true ⟨a, ha⟩ ?_
          by_contra hno
          cases hnone.mpr fun p hp hkey => hno ⟨p, hp, hkey⟩

/-- One more input decides the fields that it mentions. -/
theorem lastGives_concat :
    LastGives (inputs ++ [input]) f a ↔
      input.Gives f a ∨ (¬ input.Mentions f ∧ LastGives inputs f a) := by
  constructor
  · rintro ⟨before, i, after, hsplit, hgives, hafter⟩
    rcases List.eq_nil_or_concat after with rfl | ⟨after, x, rfl⟩
    · obtain ⟨-, hi⟩ := List.append_inj' hsplit rfl
      cases hi
      exact Or.inl hgives
    · have hsplit' : inputs ++ [input] = (before ++ i :: after) ++ [x] := by simpa using hsplit
      obtain ⟨rfl, hx⟩ := List.append_inj' hsplit' rfl
      cases hx
      exact Or.inr ⟨hafter input (by simp), before, i, after, rfl, hgives,
        fun y hy => hafter y (by simp [hy])⟩
  · rintro (hgives | ⟨hno, before, i, after, rfl, hgives, hafter⟩)
    · exact ⟨inputs, input, [], rfl, hgives, by simp⟩
    · refine ⟨before, i, after ++ [input], by simp, hgives, fun y hy => ?_⟩
      rcases List.mem_append.mp hy with hy | hy
      · exact hafter y hy
      · rw [List.mem_singleton.mp hy]
        exact hno

/-- The options are those that the inputs determine: every field has the value that the last
input mentioning it gives, and the given fields are those that any input mentions. -/
structure Determine (inputs : List OptionsInput) (o : Options) : Prop where
  value : ∀ f a, o.get? f = some a ↔ LastGives inputs f a
  given : ∀ f, f ∈ o.given ↔ ∃ i, i ∈ inputs ∧ i.Mentions f

theorem determine_nil : Determine [] Options.empty where
  value f a := by simp [LastGives]
  given f := by simp [Options.mem_given_iff]

/-- Merging the options of one more input. -/
theorem Determine.concat {base : Options} (h : Determine inputs base)
    (hinput : Options.ofInput input = .ok o) :
    Determine (inputs ++ [input]) (base.merge o) where
  value f a := by
    rw [lastGives_concat, Options.get?_merge, ← get?_of_ofInput hinput,
      ← mem_given_of_ofInput hinput, Options.mem_given_iff, ← h.value]
    cases o.get? f <;> simp
  given f := by
    have hboth : (∃ i, i ∈ inputs ++ [input] ∧ i.Mentions f) ↔
        f ∈ base.given ∨ f ∈ o.given := by
      rw [h.given, mem_given_of_ofInput hinput]
      simp [or_and_right, exists_or]
    rw [hboth]
    simp only [Options.mem_given_iff, Options.get?_merge]
    cases o.get? f <;> simp

end Inputs

end OptionsInput

namespace Loader

/-- The loader was made in a number of calls that succeeded, with the options given in them:
it was constructed, then configuration was supplied to it or to a copy of it. -/
inductive Chain [Platform] : List OptionsInput → Loader → Prop
  | made {name : String} {manifestNames : List String} {input : OptionsInput} {l : Loader}
      (h : make name manifestNames input = .ok l) :
      Chain [input] l
  | configured {inputs : List OptionsInput} {input : OptionsInput} {l l' : Loader}
      (w : Workspace) (config : Value)
      (hbase : Chain inputs l)
      (h : (l.configure w config input).outcome = .ok l') :
      Chain (inputs ++ [input]) l'
  | supplied {inputs : List OptionsInput} {input : OptionsInput} {l l' : Loader}
      (w : Workspace) (config : Value)
      (hbase : Chain inputs l)
      (h : (l.setConfig w config input).2.outcome = .ok ())
      (hl' : (l.setConfig w config input).1 = l') :
      Chain (inputs ++ [input]) l'

section Calls

variable [Platform] {w : Workspace} {config : Value} {input : OptionsInput}
variable {inputs : List OptionsInput} {l l' : Loader}

/-- Supplying configuration succeeds iff the options are accepted and their paths resolved. -/
theorem setConfig_eq_ok_iff :
    ((l.setConfig w config input).2.outcome = .ok () ∧ (l.setConfig w config input).1 = l') ↔
      ∃ o data, Options.ofInput input = .ok o ∧ supplied w config o = .ok data ∧
        l' = { l with options := l.options.merge o, override := some data } := by
  cases hinput : Options.ofInput input with
  | error errors => simp [setConfig, optionsOf, hinput, Except.mapError, Report.fail]
  | ok o =>
      cases hsupplied : supplied w config o with
      | error f =>
          simp [setConfig, optionsOf, hinput, Except.mapError, hsupplied, Report.fail]
      | ok data =>
          simp [setConfig, optionsOf, hinput, Except.mapError, hsupplied, Report.notice, eq_comm]

/-- A copy with configuration is made iff the options are accepted and their paths resolved.
That its options are merged twice makes no difference. -/
theorem configure_eq_ok_iff :
    (l.configure w config input).outcome = .ok l' ↔
      ∃ o data, Options.ofInput input = .ok o ∧ supplied w config o = .ok data ∧
        l' = { l with options := l.options.merge o, override := some data } := by
  cases hinput : Options.ofInput input with
  | error errors => simp [configure, optionsOf, hinput, Except.mapError, Report.fail]
  | ok o =>
      let base : Loader := ⟨l.name, l.manifestNames, l.options.merge o, none⟩
      have hcopy : (l.configure w config input).outcome = .ok l' ↔
          (base.setConfig w config input).2.outcome = .ok () ∧
            (base.setConfig w config input).1 = l' := by
        simp only [configure, optionsOf, hinput, Except.mapError, Report.andThen]
        cases (base.setConfig w config input).2.outcome with
        | error f => simp
        | ok u =>
            simp only [pure, Except.ok.injEq, true_and]
            exact Iff.rfl
      rw [hcopy, setConfig_eq_ok_iff, hinput]
      constructor
      · rintro ⟨_, data, ⟨⟩, hsupplied, rfl⟩
        exact ⟨o, data, rfl, hsupplied, by simp only [base, Options.merge_merge_self]⟩
      · rintro ⟨_, data, ⟨⟩, hsupplied, rfl⟩
        exact ⟨o, data, rfl, hsupplied, by simp only [base, Options.merge_merge_self]⟩

theorem make_options {name : String} {manifestNames : List String}
    (h : make name manifestNames input = .ok l) : Options.ofInput input = .ok l.options := by
  unfold make at h
  split_ifs at h
  obtain ⟨o, ho, rfl⟩ := Outcome.map_eq_ok_iff.mp h
  exact Outcome.mapError_eq_ok_iff.mp ho

/-- Each call of a chain merges the options that are given in it. -/
theorem Chain.determine (h : Chain inputs l) : OptionsInput.Determine inputs l.options := by
  induction h with
  | @made _ _ input l hmake =>
      have hmerge : Options.empty.merge l.options = l.options := by
        obtain ⟨_, _, ⟨file, dir, evaluate⟩, _⟩ := l
        cases file <;> cases dir <;> cases evaluate <;> rfl
      exact hmerge ▸ OptionsInput.determine_nil.concat (make_options hmake)
  | configured w config hbase hcall ih =>
      obtain ⟨o, data, hinput, -, rfl⟩ := configure_eq_ok_iff.mp hcall
      exact ih.concat hinput
  | supplied w config hbase hcall hl' ih =>
      obtain ⟨o, data, hinput, -, rfl⟩ := setConfig_eq_ok_iff.mp ⟨hcall, hl'⟩
      exact ih.concat hinput

/-- A copy with configuration is the loader that supplying the configuration would make. -/
theorem configure_iff_setConfig :
    (l.configure w config input).outcome = .ok l' ↔
      (l.setConfig w config input).2.outcome = .ok () ∧ (l.setConfig w config input).1 = l' :=
  configure_eq_ok_iff.trans setConfig_eq_ok_iff.symm

end Calls

end Loader

namespace Session

section Bindings

variable {s : Session} {l : Loader} {name other : String}

@[simp] theorem loader_keeping {keep : Option String} {v : Value} :
    (s.keeping keep v).loader name = s.loader name := by
  cases keep <;> rfl

@[simp] theorem loader_withLoader_self : (s.withLoader name l).loader name = .ok l := by
  simp [loader, withLoader]

theorem loader_withLoader_of_ne (h : name ≠ other) :
    (s.withLoader other l).loader name = s.loader name := by
  have hfalse : (name == other) = false := by simpa using h
  simp [loader, withLoader, List.lookup_cons, hfalse]

/-- Making a copy with configuration leaves all other loaders alone, the one that is copied
among them. -/
theorem loader_step_configure [Platform] {on as : String} {config : Value} {input : OptionsInput}
    {keep : Option String} (h : name ≠ as) :
    (s.step (.configure on as config input keep)).1.loader name = s.loader name := by
  simp only [step, configure, after]
  split
  · rw [loader_withLoader_of_ne h, loader_keeping]
  · rw [loader_keeping]

end Bindings

end Session

namespace Loader

/-- **The options of a loader are determined field by field** by the calls that made it: the
last one that gives a field decides, and the given fields are those of all calls. Of a mapping
only the values that it holds in the end are checked. A copy with configuration gets the
options that supplying the configuration gives, and the loader that is copied keeps its own. -/
theorem options_of_chain [Platform] {inputs : List OptionsInput} {l : Loader} (h : Chain inputs l) :
    (∀ f a, l.options.get f = a ↔ OptionsInput.LastGives inputs f a ∨
      (a = Options.unset f ∧ ∀ i, i ∈ inputs → ¬ i.Mentions f)) ∧
    (∀ f, f ∈ l.options.given ↔ ∃ i, i ∈ inputs ∧ i.Mentions f) ∧
    (∀ pairs, (∃ o, Options.ofInput (.mapping pairs) = .ok o) ↔
      ∀ f v, Options.Holds pairs f v → ∃ a, Options.read f v = .ok a) ∧
    (∀ w config input l', (l.configure w config input).outcome = .ok l' ↔
      (l.setConfig w config input).2.outcome = .ok () ∧
        (l.setConfig w config input).1 = l') ∧
    (∀ s on as config input keep, Session.loader s on = .ok l → on ≠ as →
      (s.step (.configure on as config input keep)).1.loader on = .ok l) := by
  have hdetermine := h.determine
  refine ⟨fun f a => ?_, hdetermine.given, fun pairs => Options.exists_ofMapping_iff,
    fun w config input l' => configure_iff_setConfig, fun s on as config input keep hl hname =>
      (Session.loader_step_configure hname).trans hl⟩
  rw [Options.get_eq, ← hdetermine.value]
  have hunmentioned : (∀ i, i ∈ inputs → ¬ i.Mentions f) ↔ l.options.get? f = none := by
    have hgiven := hdetermine.given f
    rw [Options.mem_given_iff] at hgiven
    cases hget : l.options.get? f <;> simp_all
  rw [hunmentioned]
  cases l.options.get? f <;> simp [eq_comm]

/-- A loader that got its options in three calls, in both spellings, with a value that is
replaced before it is checked, and with nothing as the last directory. -/
theorem three_calls_determine :
    let first := OptionsInput.mapping
      [("config_dir", .value (.int 3)), ("other", .value .null), ("configDir", .value (.str "d"))]
    let second := OptionsInput.made ⟨none, none, some false⟩
    let third := OptionsInput.mapping [("configDir", .value .null)]
    let l : Loader :=
      ⟨"t", [], ⟨none, some none, some false⟩, some ⟨.int 2, none, none⟩⟩
    Chain [first, second, third] l ∧ l.options.get .configDir = .path none ∧
      OptionsInput.LastGives [first, second, third] .configDir (.path none) := by
  intro first second third l
  have hfirst : make "t" [] first =
      .ok ⟨"t", [], ⟨none, some (some ⟨.relative, ["d"]⟩), none⟩, none⟩ := rfl
  have hchain : Chain [first, second, third] l :=
    .supplied ⟨FileTree.empty, [], none⟩ (.int 2)
      (.configured ⟨FileTree.empty, [], none⟩ (.int 1) (.made hfirst) rfl) rfl rfl
  refine ⟨hchain, rfl, ?_⟩
  rcases ((options_of_chain hchain).1 .configDir (.path none)).mp rfl with h | ⟨-, h⟩
  · exact h
  · exact absurd ⟨_, List.mem_cons_self, rfl⟩ (h third (by simp))

end Loader
end BuildTransform
