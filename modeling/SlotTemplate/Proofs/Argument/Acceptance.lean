import Mathlib.Data.List.Defs
import SlotTemplate.Proofs.Argument.Recognition

/-!
# What is accepted as arguments

The contents of tags and variables are accepted if their tokens have a form and if the filters in
it are known and have an argument where they need one. The first filter that offends is blamed.

* `CallForm.Valid`: which filters are accepted, and `CallForm.fault` what is wrong with others;
* `Checked`: how the filters of a form are checked, from one filter to several arguments;
* `readers_recognize`: the readers of arguments, loops, conditions and variables accept their
  grammars and nothing else.
-/

namespace SlotTemplate

namespace Grammar

open Argument

/-! ## Filters -/

def filterNames : List String := ["default", "upper", "lower", "title", "length", "safe", "escape"]

namespace CallForm

/-- A filter that is known, and that has an argument if it is the one that needs it. -/
def Valid (c : CallForm) : Prop :=
  c.name ∈ filterNames ∧ (c.argument?.isSome ↔ c.name = "default")

/-- What is wrong with a filter that is not accepted. -/
def fault (c : CallForm) : TagFault :=
  if c.name ∉ filterNames then .unknownFilter c.name
  else if c.name = "default" then .filterNeedsArgument c.name
  else .filterTakesNoArgument c.name

/-- The filter that a form stands for. -/
structure Means (c : CallForm) (f : Filter) : Prop where
  name : f.kind.name = c.name
  argument : f.kind.argument? = c.argument?.map fun a => a.2.tree
  span : f.span = spanOf c.tokens

/-- A filter that a form stands for is one of those that there are. -/
theorem Means.valid {c : CallForm} {f : Filter} (h : c.Means f) : c.Valid := by
  have known : f.kind.name ∈ filterNames ∧
      (f.kind.argument?.isSome ↔ f.kind.name = "default") := by
    cases f.kind <;> simp [FilterKind.name, FilterKind.argument?, filterNames]
  rwa [h.name, h.argument, Option.isSome_map] at known

theorem means_of_check {c : CallForm} {f : Filter} (h : c.call.check = .ok f) : c.Means f := by
  obtain ⟨name, same⟩ := Prod.mk.inj (FilterCall.check_eq_ok h)
  obtain ⟨argument, span⟩ := Prod.mk.inj same
  exact ⟨name.symm, argument.symm, span.symm⟩

theorem plain?_isSome (name : String) :
    (FilterKind.plain? name).isSome ↔ name ∈ filterNames ∧ name ≠ "default" := by
  unfold FilterKind.plain?
  split <;> simp_all [filterNames]

theorem check_error {c : CallForm} {fault : TagFault} (h : c.call.check = .error fault) :
    ¬ c.Valid ∧ c.fault = fault := by
  obtain ⟨bar, name, span, argument⟩ := c
  unfold FilterCall.check at h
  split at h
  · cases h
  · rename_i named absent
    obtain rfl : name = "default" := named
    obtain rfl : argument = none := Option.map_eq_none_iff.1 absent
    cases h
    exact ⟨by simp [Valid], rfl⟩
  · rename_i given absent
    have other : name ≠ "default" := by
      intro named
      cases argument with
      | some a => exact given a.2.tree named rfl
      | none => exact absent named rfl
    have plain := plain?_isSome name
    split at h
    · cases h
    · rename_i kind _ found argument'
      obtain ⟨a, rfl⟩ : ∃ a, argument = some a := by
        cases argument with
        | some a => exact ⟨a, rfl⟩
        | none => cases argument'
      cases h
      have known := (plain.1 (by rw [show FilterKind.plain? name = some kind from found]; rfl)).1
      exact ⟨by simp [Valid, other], by simp [fault, known, other, call]⟩
    · rename_i found
      cases h
      have unknown : name ∉ filterNames := by
        intro known
        have some := plain.2 ⟨known, other⟩
        rw [show FilterKind.plain? name = none from found] at some
        cases some
      exact ⟨fun valid => unknown valid.1, by simp [fault, unknown, call]⟩

theorem check_of_valid {c : CallForm} (h : c.Valid) : ∃ f, c.call.check = .ok f ∧ c.Means f := by
  cases checked : c.call.check with
  | ok f => exact ⟨f, rfl, means_of_check checked⟩
  | error fault => exact absurd h (check_error checked).1

theorem check_of_not_valid {c : CallForm} (h : ¬ c.Valid) : c.call.check = .error c.fault := by
  cases checked : c.call.check with
  | ok f => exact absurd (means_of_check checked).valid h
  | error fault => rw [(check_error checked).2]

/-- Filters are all valid, or there is a first one that is not. -/
theorem valid_or_offends (cs : List CallForm) :
    (∀ c ∈ cs, c.Valid) ∨
      ∃ before c after, cs = before ++ c :: after ∧ (∀ b ∈ before, b.Valid) ∧ ¬ c.Valid := by
  induction cs with
  | nil => exact .inl (List.forall_mem_nil _)
  | cons c cs ih =>
    by_cases here : c.Valid
    · obtain valid | ⟨before, c', after, rfl, validBefore, invalid⟩ := ih
      · exact .inl (List.forall_mem_cons.2 ⟨here, valid⟩)
      · exact .inr ⟨c :: before, c', after, rfl, List.forall_mem_cons.2 ⟨here, validBefore⟩,
          invalid⟩
    · exact .inr ⟨[], c, cs, rfl, List.forall_mem_nil _, here⟩

end CallForm

/-! ## Checks -/

/-- A check of filters in source order: if all of them are valid, it succeeds with a result that has
a property, and if not, it blames the first one that is not. -/
structure Checked {α : Type} (site : Site) (cs : List CallForm) (P : α → Prop)
    (r : Except TagError α) : Prop where
  valid : (∀ c ∈ cs, c.Valid) → ∃ a, r = .ok a ∧ P a
  invalid : ∀ before c after, cs = before ++ c :: after → (∀ b ∈ before, b.Valid) → ¬ c.Valid →
    r = .error (site.error (spanOf c.tokens) c.fault)

namespace Checked

variable {α β : Type} {site : Site} {cs ds : List CallForm} {P : α → Prop} {Q : β → Prop}
  {r : Except TagError α}

theorem nothing {a : α} (h : P a) : Checked site [] P (.ok a) := by
  refine ⟨fun _ => ⟨a, rfl, h⟩, fun before c after split => ?_⟩
  cases before <;> cases split

theorem one (c : CallForm) (site : Site) :
    Checked site [c] c.Means (c.call.check.mapError (site.error c.call.span)) := by
  constructor
  · intro valid
    obtain ⟨f, checked, means⟩ := CallForm.check_of_valid (valid c (List.mem_singleton_self c))
    exact ⟨f, by rw [checked]; rfl, means⟩
  · intro before c' after split _ invalid
    cases before with
    | nil =>
      obtain ⟨rfl, -⟩ := List.cons.inj split
      rw [CallForm.check_of_not_valid invalid]
      rfl
    | cons b before =>
      obtain ⟨-, none⟩ := List.cons.inj split
      cases before <;> cases none

/-- Of checks one after another, the first one that fails counts. -/
theorem bind {f : α → Except TagError β} (h : Checked site cs P r)
    (hf : ∀ a, P a → Checked site ds Q (f a)) : Checked site (cs ++ ds) Q (r >>= f) := by
  constructor
  · intro valid
    obtain ⟨first, second⟩ := List.forall_mem_append.1 valid
    obtain ⟨a, rfl, ha⟩ := h.valid first
    exact (hf a ha).valid second
  · intro before c after split validBefore invalid
    obtain ⟨more, rfl, rest⟩ | ⟨more, rfl, rest⟩ := List.append_eq_append_iff.1 split
    · -- the first check passes
      obtain ⟨first, second⟩ := List.forall_mem_append.1 validBefore
      obtain ⟨a, rfl, ha⟩ := h.valid first
      exact (hf a ha).invalid more c after rest second invalid
    · cases more with
      | nil =>
        obtain ⟨a, rfl, ha⟩ := h.valid (by rwa [List.append_nil])
        exact (hf a ha).invalid [] c after rest.symm (List.forall_mem_nil _) invalid
      | cons c' more =>
        obtain ⟨rfl, -⟩ := List.cons.inj rest
        rw [h.invalid before c more rfl validBefore invalid]
        rfl

theorem map {f : α → β} (h : Checked site cs P r) (imp : ∀ a, P a → Q (f a)) :
    Checked site cs Q (r.map f) := by
  constructor
  · intro valid
    obtain ⟨a, rfl, ha⟩ := h.valid valid
    exact ⟨f a, rfl, imp a ha⟩
  · intro before c after split validBefore invalid
    rw [h.invalid before c after split validBefore invalid]
    rfl

/-- A check succeeds if all filters are valid, and only then. -/
theorem isOk_iff (h : Checked site cs P r) : (∃ a, r = .ok a) ↔ ∀ c ∈ cs, c.Valid := by
  constructor
  · rintro ⟨a, rfl⟩
    obtain valid | ⟨before, c, after, split, validBefore, invalid⟩ := CallForm.valid_or_offends cs
    · exact valid
    · cases h.invalid before c after split validBefore invalid
  · intro valid
    obtain ⟨a, ha, -⟩ := h.valid valid
    exact ⟨a, ha⟩

/-- What a check yields has the property. -/
theorem of_ok (h : Checked site cs P r) {a : α} (ok : r = .ok a) : P a := by
  obtain ⟨a', ok', ha⟩ := h.valid (h.isOk_iff.1 ⟨a, ok⟩)
  cases ok.symm.trans ok'
  exact ha

end Checked

theorem checkCalls_checked (cs : List CallForm) (site : Site) :
    Checked site cs (List.Forall₂ CallForm.Means cs) (checkCalls site (cs.map CallForm.call)) := by
  induction cs with
  | nil => exact .nothing .nil
  | cons c cs ih =>
    have next : checkCalls site ((c :: cs).map CallForm.call) =
        c.call.check.mapError (site.error c.call.span) >>= fun f =>
          (checkCalls site (cs.map CallForm.call)).map (f :: ·) := by
      rw [List.map_cons, checkCalls]
      cases c.call.check <;> rfl
    rw [next]
    exact (Checked.one c site).bind fun f means => ih.map fun fs others => .cons means others

/-! ## Trees -/

/-- The expression that a form stands for. -/
structure ExprForm.Means (e : ExprForm) (x : Expr) : Prop where
  primary : x.primary = e.primary.tree
  filters : List.Forall₂ CallForm.Means e.calls x.filters
  span : x.span = spanOf e.tokens

structure ArgumentForm.Means (a : ArgumentForm) (k : KeywordArgument) : Prop where
  name : k.name = a.name
  nameSpan : k.nameSpan = a.span
  value : a.value.Means k.value

structure LoopForm.Means (f : LoopForm) (h : LoopHeader) : Prop where
  variableName : h.variableName = f.name
  variableSpan : h.variableSpan = f.span
  iterable : f.iterable.Means h.iterable

structure ConditionForm.Means (f : ConditionForm) (c : Condition) : Prop where
  negated : c.negated = f.negation?.isSome
  expr : f.expr.Means c.expr

theorem ExprForm.checked (e : ExprForm) (site : Site) :
    Checked site e.calls e.Means (e.draft.check site) :=
  (checkCalls_checked e.calls site).map fun _ filters => ⟨rfl, filters, rfl⟩

theorem arguments_checked (as : List ArgumentForm) (site : Site) :
    Checked site (as.flatMap fun a => a.value.calls) (List.Forall₂ ArgumentForm.Means as)
      (Tag.checkArguments site (as.map ArgumentForm.draft)) := by
  induction as with
  | nil => exact .nothing .nil
  | cons a as ih =>
    have next : Tag.checkArguments site ((a :: as).map ArgumentForm.draft) =
        a.value.draft.check site >>= fun value =>
          (Tag.checkArguments site (as.map ArgumentForm.draft)).map
            (⟨a.name, a.span, value⟩ :: ·) := by
      rw [List.map_cons, ArgumentForm.draft, Tag.checkArguments]
      cases a.value.draft.check site <;> rfl
    rw [next]
    exact (a.value.checked site).bind fun value means =>
      ih.map fun ks others => .cons ⟨rfl, rfl, means⟩ others

theorem LoopForm.checked (f : LoopForm) (site : Site) :
    Checked site f.iterable.calls f.Means
      ((f.iterable.draft.check site).map (⟨f.name, f.span, ·⟩)) :=
  (f.iterable.checked site).map fun _ means => ⟨rfl, rfl, means⟩

theorem ConditionForm.checked (f : ConditionForm) (site : Site) :
    Checked site f.expr.calls f.Means ((f.expr.draft.check site).map (⟨f.negation?.isSome, ·⟩)) :=
  (f.expr.checked site).map fun _ means => ⟨rfl, means⟩

/-! ## Readers -/

/-- A reader of tokens recognises forms: the tokens have one form at most; they are read if they
have one whose filters are valid, and only then; what is read is what the form stands for; and if
the filters of the form are not valid, the first one that is not is blamed at its place. -/
structure Recognizes {Form Tree : Type} (tokens : Form → List Placed)
    (calls : Form → List CallForm) (Means : Form → Tree → Prop) (site : Site) (ts : List Placed)
    (read : Except TagError Tree) : Prop where
  unique : ∀ f f', tokens f = ts → tokens f' = ts → f = f'
  accepts : (∃ tree, read = .ok tree) ↔ ∃ f, tokens f = ts ∧ ∀ c ∈ calls f, c.Valid
  means : ∀ f tree, tokens f = ts → read = .ok tree → Means f tree
  offends : ∀ f before c after, tokens f = ts → calls f = before ++ c :: after →
    (∀ b ∈ before, b.Valid) → ¬ c.Valid → read = .error (site.error (spanOf c.tokens) c.fault)

/-- A reader whose drafts are those of forms recognises them once their filters are checked. -/
theorem recognizes_of_reader {Form Raw Tree : Type} {tokens : Form → List Placed}
    {calls : Form → List CallForm} {Means : Form → Tree → Prop} {draft : Form → Raw} (site : Site)
    {text : String} {ts : List Placed} {reader : List Placed → Except Stuck Raw}
    {check : Raw → Except TagError Tree} (lexed : lex text site.start = .ok ts)
    (injective : ∀ f f', tokens f = tokens f' → f = f')
    (reads : ∀ raw, reader ts = .ok raw ↔ ∃ f, tokens f = ts ∧ draft f = raw)
    (checked : ∀ f, Checked site (calls f) (Means f) (check (draft f))) :
    Recognizes tokens calls Means site ts (readAll site text reader >>= check) := by
  have run : ∀ f, tokens f = ts → readAll site text reader >>= check = check (draft f) := by
    intro f spelled
    rw [readAll_eq_ok_iff.2 ⟨ts, lexed, (reads _).2 ⟨f, spelled, rfl⟩⟩]
    rfl
  refine ⟨fun f f' spelled spelled' => injective f f' (spelled.trans spelled'.symm), ?_, ?_, ?_⟩
  · constructor
    · rintro ⟨tree, ok⟩
      obtain ⟨raw, read, ok⟩ := bind_eq_ok_iff.1 ok
      obtain ⟨ts', lexed', read⟩ := readAll_eq_ok_iff.1 read
      cases lexed.symm.trans lexed'
      obtain ⟨f, spelled, rfl⟩ := (reads raw).1 read
      exact ⟨f, spelled, (checked f).isOk_iff.1 ⟨tree, ok⟩⟩
    · rintro ⟨f, spelled, valid⟩
      rw [run f spelled]
      exact (checked f).isOk_iff.2 valid
  · intro f tree spelled ok
    rw [run f spelled] at ok
    exact (checked f).of_ok ok
  · intro f before c after spelled split validBefore invalid
    rw [run f spelled]
    exact (checked f).invalid before c after split validBefore invalid

/-- Where the contents of a variable stand. -/
def variableSite (contents : String) (offset line : Nat) : Site :=
  ⟨"\x7b\x7b " ++ contents ++ " \x7d\x7d", line, offset, offset + Text.byteSize contents.toList⟩

end Grammar

open Argument Grammar

/-- The readers of tags and variables accept their grammars and nothing else, whatever the text is
that has tokens. No tokens have two forms. A name `not` in front of a condition always negates it;
three names alone are constants, and all other names are looked up. If the tokens have a form, but
some filter in it is unknown or has an argument against its kind, the first such filter in the
source is blamed, at its place. -/
theorem readers_recognize :
    (∀ (t : Tag) ts, lex t.args t.argsOffset = .ok ts →
      Recognizes (List.flatMap ArgumentForm.tokens) (List.flatMap fun a => a.value.calls)
        (List.Forall₂ ArgumentForm.Means) (tagSite t) ts t.keywordArguments ∧
      Recognizes LoopForm.tokens (fun f => f.iterable.calls) LoopForm.Means (tagSite t) ts
        t.loopHeader ∧
      Recognizes ConditionForm.tokens (fun f => f.expr.calls) ConditionForm.Means (tagSite t) ts
        t.condition) ∧
    ∀ contents offset line ts, lex contents offset = .ok ts →
      Recognizes ExprForm.tokens ExprForm.calls ExprForm.Means
        (variableSite contents offset line) ts (Expr.ofVariable contents offset line) := by
  refine ⟨fun t ts lexed => ⟨?_, ?_, ?_⟩, fun contents offset line ts lexed => ?_⟩
  · exact recognizes_of_reader (tagSite t) lexed (fun _ _ => arguments_injective)
      (fun _ => arguments_iff) fun as => arguments_checked as _
  · exact recognizes_of_reader _ lexed (fun _ _ => LoopForm.tokens_injective)
      (fun _ => loopHeader_iff) fun f => f.checked _
  · exact recognizes_of_reader _ lexed (fun _ _ => ConditionForm.tokens_injective)
      (fun _ => condition_iff) fun f => f.checked _
  · exact recognizes_of_reader _ lexed (fun _ _ => ExprForm.tokens_injective)
      (fun _ => alone_iff) fun e => e.checked _

theorem readers_recognize_second_filter :
    let contents := "x.0.1|default:'a'|shout|upper:y"
    ∃ ts form, lex contents 3 = .ok ts ∧ ExprForm.tokens form = ts ∧
      Recognizes ExprForm.tokens ExprForm.calls ExprForm.Means (variableSite contents 3 1) ts
        (Expr.ofVariable contents 3 1) ∧
      Expr.ofVariable contents 3 1 =
        .error ⟨"\x7b\x7b x.0.1|default:'a'|shout|upper:y \x7d\x7d", ⟨20, 26⟩, 1,
          .unknownFilter "shout"⟩ := by
  intro contents
  let x : PrimaryForm :=
    .path "x" ⟨3, 4⟩ [⟨⟨4, 5⟩, .index 0, ⟨5, 6⟩⟩, ⟨⟨6, 7⟩, .index 1, ⟨7, 8⟩⟩]
  let default : CallForm := ⟨⟨8, 9⟩, "default", ⟨9, 16⟩, some (⟨16, 17⟩, .string "a" ⟨17, 20⟩)⟩
  let shout : CallForm := ⟨⟨20, 21⟩, "shout", ⟨21, 26⟩, none⟩
  let upper : CallForm := ⟨⟨26, 27⟩, "upper", ⟨27, 32⟩, some (⟨32, 33⟩, .path "y" ⟨33, 34⟩ [])⟩
  let form : ExprForm := ⟨x, [default, shout, upper]⟩
  have lexed : lex contents 3 = .ok form.tokens := by decide +kernel
  have recognizes := readers_recognize.2 contents 3 1 form.tokens lexed
  have valid : ∀ c ∈ [default], c.Valid := by simp [default, CallForm.Valid, filterNames]
  have invalid : ¬ shout.Valid := by simp [shout, CallForm.Valid, filterNames]
  have fault : shout.fault = .unknownFilter "shout" := by decide
  have blamed := recognizes.offends form [default] shout [upper] rfl rfl valid invalid
  rw [fault] at blamed
  exact ⟨form.tokens, form, lexed, rfl, recognizes, blamed⟩

end SlotTemplate
