import SlotTemplate.Component.Stock
import SlotTemplate.Proofs.Derivation.Expansion
import SlotTemplate.Proofs.Rendering.Expansion

/-!
# The two forms of an invocation

An invocation without content can be written inline or as a block. Where both tags of a component
invoke it, the one form can stand for the other.

* `Engine.Reserves.offersBoth`: where the tags of a component always mean the same and end no block,
  both invoke it at every place;
* `Engine.compile_interchange`: a source compiles with the one form if it does with the other;
* `Engine.forms_interchange`: both forms render alike, in the source itself and wherever the source
  is the template of a component.
-/

namespace SlotTemplate

open Markup

/-- An invocation as a block without content. -/
def Component.emptyBlock (c : Component) (args : String) : String :=
  Tag.written c.openTag args ++ Tag.written c.closeTag ""

/-! ## Tags at a place -/

namespace Arrives

variable {libraries : Dict Library} {builtins tags : Dict Binding} {read : List Lexeme}
  {heads : List Head} {blocks : List OpenBlock} {name : String}

/-- A tag that ends no block is awaited nowhere. -/
theorem not_awaited (h : Arrives libraries builtins read heads blocks tags)
    (free : libraries.All fun l => l.tags.All fun b => name ∉ b.ends)
    (freeBuiltins : builtins.All fun b => name ∉ b.ends) : name ∉ awaited blocks := by
  suffices all : tags.All (fun b => name ∉ b.ends) ∧ ∀ block ∈ blocks, name ∉ block.ends by
    cases blocks with
    | nil => exact List.not_mem_nil
    | cons block outer => exact all.2 block List.mem_cons_self
  induction h with
  | start => exact ⟨freeBuiltins, List.forall_mem_nil _⟩
  | nodes _ derives ih => exact ⟨(derives.heads_all free ih.1).2, ih.2⟩
  | opens _ opens form _ ih =>
    have here := ih.1.get? opens.bound
    rw [Binding.ends, form] at here
    exact ⟨ih.1, List.forall_mem_cons.2 ⟨here, ih.2⟩⟩
  | divides _ opens form _ first _ ih =>
    have here := ih.1.get? opens.bound
    rw [Binding.ends, form] at here
    have last := fun mem => here (List.mem_append_right _ mem)
    exact ⟨(first.heads_all free ih.1).2, List.forall_mem_cons.2 ⟨last, ih.2⟩⟩

end Arrives

namespace Engine

/-- A tag has one meaning in the builtin table and in all libraries, and it ends no block. -/
structure Reserves (e : Engine) (name : String) (b : Binding) : Prop where
  bound : e.builtins.tags.get? name = some b
  same : ∀ l ∈ e.libraries.values, ∀ p ∈ l.tags.entries, p.1 = name → p.2 = b
  free : e.libraries.All fun l => l.tags.All fun b => name ∉ b.ends
  freeBuiltins : e.builtins.tags.All fun b => name ∉ b.ends

/-- Where a parser comes to behind some lexemes, both tags of a component invoke it, and neither is
awaited as the end of a part of a block. -/
def OffersBoth (e : Engine) (read : List Lexeme) (c : Component) : Prop :=
  ∀ heads blocks tags, Arrives e.libraries e.builtins.tags read heads blocks tags →
    (tags.get? c.inlineTag = some (.inline c) ∧ c.inlineTag ∉ awaited blocks) ∧
      tags.get? c.openTag = some (.block c) ∧ c.openTag ∉ awaited blocks

theorem Reserves.offersBoth {e : Engine} {c : Component}
    (inline : e.Reserves c.inlineTag (.inline c)) (block : e.Reserves c.openTag (.block c))
    (read : List Lexeme) : e.OffersBoth read c :=
  fun _ _ _ h => ⟨⟨h.get?_eq (fun l hl p hp named => congrArg some (inline.same l hl p hp named))
      inline.bound, h.not_awaited inline.free inline.freeBuiltins⟩,
    h.get?_eq (fun l hl p hp named => congrArg some (block.same l hl p hp named)) block.bound,
    h.not_awaited block.free block.freeBuiltins⟩

/-- Both tags of a component invoke it if it was registered in both forms last. -/
theorem bound_of_component (e : Engine) {c : Component} (distinct : c.inlineTag ≠ c.openTag) :
    let tags := (e.addBuiltins (Library.empty.component c)).builtins.tags
    tags.get? c.inlineTag = some (.inline c) ∧ tags.get? c.openTag = some (.block c) := by
  intro tags
  let own : Dict Binding :=
    (Dict.empty.insert c.inlineTag (.inline c)).insert c.openTag (.block c)
  have ordered : own.Ordered := Dict.ordered_empty.insert.insert
  have merged (name : String) : tags.get? name = (own.get? name).or (e.builtins.tags.get? name) :=
    ordered.get?_insertAll
  have inline : own.get? c.inlineTag = some (.inline c) := by
    rw [Dict.get?_insert_of_ne _ _ distinct.symm, Dict.get?_insert_self]
  have block : own.get? c.openTag = some (.block c) := Dict.get?_insert_self _ _ _
  exact ⟨by rw [merged, inline, Option.some_or], by rw [merged, block, Option.some_or]⟩

/-! ## Compilation -/

section

variable {e : Engine} {files : Files} {K : Component → Prop} {c : Component} {source : String}
  {read rest : List Lexeme} {l : Lexeme} {tag : Tag}

/-- A source compiles with the one form of an invocation if it does with the other, to templates
that expand to the same. -/
theorem compile_interchange (stands : tokenize source = read ++ l :: rest)
    (token : l.token = .block tag) (named : tag.name = c.inlineTag) (both : e.OffersBoth read c)
    (opening : Tag.IsName c.openTag) (closing : Tag.IsName c.closeTag) (name : String) :
    let replaced := replace source l.span (c.emptyBlock tag.args)
    (∀ t, e.compileNamed name source = .ok t →
      ∃ t', e.compileNamed name replaced = .ok t' ∧ t.Alike t') ∧
    ∀ t, e.compileNamed name replaced = .ok t →
      ∃ t', e.compileNamed name source = .ok t' ∧ t.Alike t' := by
  intro replaced
  obtain ⟨o, last, tag', tag'', rest', tokens, ⟨token', named', args⟩, ⟨token'', named''⟩, same⟩ :=
    tokenize_written stands token opening closing
  -- a parser that reads the whole source comes to the tag
  have arrives {d : Derivation} {ns : List Node} {tags : Dict Binding} {ls : List Lexeme}
      (derives : Derives e.libraries [] e.builtins.tags d ns tags)
      (split : d.lexemes = read ++ ls) : Reached e.libraries e.builtins.tags read :=
    derives.reached .start rfl split
  have opens {heads : List Head} {blocks : List OpenBlock} {tags : Dict Binding}
      (h : Arrives e.libraries e.builtins.tags read heads blocks tags) :
      (⟨l, tag, .inline c⟩ : Head).Opens (awaited blocks) tags ∧
        (⟨o, tag', .block c⟩ : Head).Opens (awaited blocks) tags := by
    obtain ⟨⟨inlineBound, inlineFree⟩, blockBound, blockFree⟩ := both heads blocks tags h
    exact ⟨⟨token, named ▸ inlineFree, named ▸ inlineBound⟩,
      ⟨token', named' ▸ blockFree, named' ▸ blockBound⟩⟩
  have closes : last.Named c.closeTag := ⟨tag'', token'', named''⟩
  constructor
  · intro t compiled
    obtain ⟨rfl, d, tags, lexemes, derives⟩ := compileNamed_eq_ok_iff.1 compiled
    rw [stands] at lexemes
    obtain ⟨heads, blocks, here, h⟩ := arrives derives lexemes
    obtain ⟨inline, block⟩ := opens h
    obtain ⟨d', ns', lexemes', derives', alike⟩ :=
      (h.interchange inline block args closes same).1 d t.nodes tags derives lexemes
    exact ⟨⟨t.name, ns'⟩,
      compileNamed_eq_ok_iff.2 ⟨rfl, d', tags, lexemes'.trans tokens.symm, derives'⟩, rfl, alike⟩
  · intro t compiled
    obtain ⟨rfl, d, tags, lexemes, derives⟩ := compileNamed_eq_ok_iff.1 compiled
    rw [show tokenize replaced = _ from tokens] at lexemes
    obtain ⟨heads, blocks, here, h⟩ := arrives derives lexemes
    obtain ⟨inline, block⟩ := opens h
    obtain ⟨d', ns', lexemes', derives', alike⟩ :=
      (h.interchange inline block args closes same).2 d t.nodes tags derives lexemes
    exact ⟨⟨t.name, ns'⟩,
      compileNamed_eq_ok_iff.2 ⟨rfl, d', tags, lexemes'.trans stands.symm, derives'⟩, rfl, alike⟩

/-! ## Rendering -/

theorem Interchanged.refl (e : Engine) (files : Files) : e.Interchanged e files :=
  ⟨rfl, fun _ => SameOutcome.refl (fun _ => ⟨rfl, rfl⟩) _⟩

/-- With sources that compile to alike templates under a name, engines load alike templates. -/
theorem interchanged_addTemplate {name source' : String} {t t' : Template}
    (compiled : e.compileNamed name source = .ok t)
    (compiled' : e.compileNamed name source' = .ok t') (alike : t.Alike t') :
    (e.addTemplate name source).Interchanged (e.addTemplate name source') files :=
  ⟨rfl, sameOutcome_load_addTemplate compiled compiled' alike fun _ _ _ => ⟨rfl, rfl⟩⟩

/-- Where both tags of a component invoke it and none of them ends a block, the two forms of an
invocation without content are interchangeable: a source compiles with the one if it compiles with
the other. If it does, and the components in play hand over their arguments and no template uses the
`length` filter, then the source renders to the same text or fails with the same error, and so does
every template if the source is one that it invokes. -/
theorem forms_interchange (files : Files) (stands : tokenize source = read ++ l :: rest)
    (token : l.token = .block tag) (named : tag.name = c.inlineTag) (both : e.OffersBoth read c)
    (opening : Tag.IsName c.openTag) (closing : Tag.IsName c.closeTag) :
    let replaced := replace source l.span (c.emptyBlock tag.args)
    (∀ name, (e.compileNamed name replaced).isOk = (e.compileNamed name source).isOk) ∧
    (e.Plain files K → ∀ t, e.compileNamed unnamed source = .ok t → t.Lengthless →
      ∀ data, (e.renderSource files replaced data).1 = (e.renderSource files source data).1) ∧
    ∀ name, (e.compileNamed name source).isOk →
      let before := e.addTemplate name source
      let after := e.addTemplate name replaced
      before.Plain files K →
        (∀ page, before.Spares files K page →
          ∀ data, (after.render files page data).1 = (before.render files page data).1) ∧
        ∀ page t, e.compileNamed unnamed page = .ok t → t.Lengthless →
          ∀ data, (after.renderSource files page data).1 =
            (before.renderSource files page data).1 := by
  intro replaced
  have compile := compile_interchange stands token named both opening closing
  refine ⟨fun name => ?_, fun plain t compiled lengthless data => ?_, fun name success => ?_⟩
  · rw [Bool.eq_iff_iff, isOk_iff_exists, isOk_iff_exists]
    constructor
    · rintro ⟨t, compiled⟩
      obtain ⟨t', compiled', -⟩ := (compile name).2 t compiled
      exact ⟨t', compiled'⟩
    · rintro ⟨t, compiled⟩
      obtain ⟨t', compiled', -⟩ := (compile name).1 t compiled
      exact ⟨t', compiled'⟩
  · obtain ⟨t', compiled', alike⟩ := (compile unnamed).1 t compiled
    exact ((Interchanged.refl e files).renderSource_eq plain (.refl _) compiled compiled' alike
      lengthless data).symm
  · intro before after plain
    obtain ⟨t, compiled⟩ := exists_eq_ok success
    obtain ⟨t', compiled', alike⟩ := (compile name).1 t compiled
    have same : before.Interchanged after files := interchanged_addTemplate compiled compiled' alike
    refine ⟨fun page spares data => (same.render_eq plain (.refl _) spares data).symm, ?_⟩
    intro page t compiled lengthless data
    exact (same.renderSource_eq plain (.refl _) compiled compiled ⟨rfl, rfl⟩ lengthless data).symm

end

theorem forms_interchange_card :
    let card := Component.named "card"
    let name := "components/card.html"
    let e := (Engine.default.addBuiltins (Library.empty.component card)).addTemplate name
      "({{ title }}{% if slots %}!{% endif %}{{ slot }})"
    let files := Files.inDirectory []
    let source := "{% if x %}{% card/ title=x %}{% endif %}"
    let replaced := "{% if x %}{% card title=x %}{% /card %}{% endif %}"
    let page := "{% card x=y %}a{% /card %}"
    (∀ name, (e.compileNamed name replaced).isOk = (e.compileNamed name source).isOk) ∧
    (∀ data, (e.renderSource files replaced data).1 = (e.renderSource files source data).1) ∧
    ∀ data, ((e.addTemplate name replaced).renderSource files page data).1 =
      ((e.addTemplate name source).renderSource files page data).1 := by
  intro card name e files source replaced page
  let tag : Tag := ⟨"card/ title=x", 13, ⟨10, 29⟩, 1⟩
  let condition : Lexeme := ⟨.block ⟨"if x", 3, ⟨0, 10⟩, 1⟩, ⟨0, 10⟩, 1⟩
  let closing : Lexeme := ⟨.block ⟨"endif", 32, ⟨29, 40⟩, 1⟩, ⟨29, 40⟩, 1⟩
  have stands : tokenize source = [condition] ++ ⟨.block tag, ⟨10, 29⟩, 1⟩ :: [closing] := by
    decide +kernel
  have text : replace source ⟨10, 29⟩ (card.emptyBlock tag.args) = replaced := by decide +kernel
  have bound := Engine.default.bound_of_component (c := card) (by decide +kernel)
  have reserves {name : String} {b : Binding} (bound : e.builtins.tags.get? name = some b)
      (free : ∀ b ∈ e.builtins.tags.values, name ∉ b.ends) : e.Reserves name b :=
    ⟨bound, List.forall_mem_nil _, Dict.all_empty, free⟩
  have both : e.OffersBoth [condition] card :=
    (reserves bound.1 (by decide +kernel)).offersBoth (reserves bound.2 (by decide +kernel)) _
  have opening : Tag.IsName card.openTag := .of_all (by decide +kernel) (by decide +kernel)
  have ending : Tag.IsName card.closeTag := .of_all (by decide +kernel) (by decide +kernel)
  have components : e.AllComponents (· = card) :=
    ((Engine.default_components _).addBuiltins
      (Library.component_all (l := .empty) (K := (· = card)) Dict.all_empty rfl)).addTemplate _ _
  have plain {e' : Engine} (components : e'.AllComponents (· = card))
      (lengthless : ∀ t, e'.load files (card.templateName e'.config.extension) = .ok t →
        t.Lengthless) (cold : e'.cache = Dict.empty) : e'.Plain files (· = card) := by
    refine ⟨components, ?_, ?_⟩
    · rintro _ rfl _ _
      rfl
    · rintro _ rfl
      refine ⟨lengthless, fun t found => ?_⟩
      rw [cold] at found
      cases found
  obtain ⟨compiles, inside, below⟩ :=
    forms_interchange files stands rfl (by decide +kernel) both opening ending (K := (· = card))
  rw [text] at compiles inside below
  have own : ∀ t, e.load files name = .ok t → t.Lengthless := by decide +kernel
  have new : ∀ t, (e.addTemplate name source).load files name = .ok t → t.Lengthless := by
    decide +kernel
  have lengthless : ∀ t, e.compileNamed unnamed source = .ok t → t.Lengthless := by
    decide +kernel
  have lengthlessPage : ∀ t, e.compileNamed unnamed page = .ok t → t.Lengthless := by
    decide +kernel
  obtain ⟨t, compiled⟩ : ∃ t, e.compileNamed unnamed source = .ok t :=
    exists_eq_ok (by decide +kernel)
  obtain ⟨u, compiledPage⟩ : ∃ u, e.compileNamed unnamed page = .ok u :=
    exists_eq_ok (by decide +kernel)
  refine ⟨compiles, inside (plain components own rfl) t compiled (lengthless t compiled), ?_⟩
  have after := below name (by decide +kernel) (plain (components.addTemplate _ _) new rfl)
  exact after.2 page u compiledPage (lengthlessPage u compiledPage)

/-- Both forms differ where the block tag is awaited as a tag that divides a block, where another
component has taken it, and where it has no name; and what is wrong with the tag itself is reported
under the name that was written. -/
theorem forms_differ :
    let names := ["else", "a/", "a", ""]
    let add (e : Engine) (name : String) :=
      (e.addBuiltins (Library.empty.component (.named name))).addTemplate
        ("components/" ++ name ++ ".html") "E"
    let e := names.foldl add Engine.default
    let files := Files.inDirectory []
    let data := Dict.ofList [("x", Value.int 1)]
    let render (source : String) :=
      (e.renderSource files source data).1.mapError RenderError.message
    let replaced (source : String) (tag : Tag) (c : Component) :=
      replace source tag.span (c.emptyBlock tag.args)
    let cases : List (String × Tag × Component) :=
      [("{% if x %}{% else/ %}{% endif %}", ⟨"else/", 13, ⟨10, 21⟩, 1⟩,
          .named "else"),
        ("{% a// %}", ⟨"a//", 3, ⟨0, 9⟩, 1⟩, .named "a/"),
        ("{% / x=y %}", ⟨"/ x=y", 3, ⟨0, 11⟩, 1⟩, .named "")]
    let invalid := "{% a/ x= %}"
    let tag : Tag := ⟨"a/ x=", 3, ⟨0, 11⟩, 1⟩
    let failure := "error compiling template '<string>': Unexpected end of tag in "
    e.Plain files (fun c => ∃ name ∈ names, c = .named name) ∧
    (∀ p ∈ cases, ⟨.block p.2.1, p.2.1.span, 1⟩ ∈ tokenize p.1 ∧ p.2.1.name = p.2.2.inlineTag ∧
      render p.1 = .ok "E" ∧ render (replaced p.1 p.2.1 p.2.2) ≠ .ok "E") ∧
    ⟨.block tag, tag.span, 1⟩ ∈ tokenize invalid ∧ tag.name = (Component.named "a").inlineTag ∧
      render invalid = .error (failure ++ "'a/' on line 1") ∧
      render (replaced invalid tag (.named "a")) = .error (failure ++ "'a' on line 1") := by
  intro names add e files data render replaced cases invalid tag failure
  have components : e.AllComponents fun c => ∃ name ∈ names, c = .named name := by
    have adds {e : Engine} (h : e.AllComponents fun c => ∃ name ∈ names, c = .named name)
        (name : String) (mem : name ∈ names) :
        (add e name).AllComponents fun c => ∃ name ∈ names, c = .named name :=
      (h.addBuiltins (Library.component_all (l := .empty) Dict.all_empty
        ⟨name, mem, rfl⟩)).addTemplate _ _
    have start := Engine.default_components fun c => ∃ name ∈ names, c = .named name
    exact adds (adds (adds (adds start "else" (by decide)) "a/" (by decide)) "a" (by decide)) ""
      (by decide)
  have loaded : ∀ name ∈ names, ∀ t,
      e.load files ((Component.named name).templateName e.config.extension) = .ok t →
        t.Lengthless := by decide +kernel
  refine ⟨⟨components, ?_, ?_⟩, by decide +kernel, by decide +kernel, by decide +kernel,
    by decide +kernel, by decide +kernel⟩
  · rintro _ ⟨name, -, rfl⟩ _ _
    rfl
  · rintro _ ⟨name, mem, rfl⟩
    refine ⟨loaded name mem, ?_⟩
    rintro t ⟨⟩

end Engine

end SlotTemplate
