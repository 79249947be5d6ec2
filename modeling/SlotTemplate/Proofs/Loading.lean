import SlotTemplate.Proofs.Derivation.Resolution
import SlotTemplate.Proofs.Rendering.Attribution

/-!
# What loading does and where

A `load` tag reaches all tags behind it in its own source, and nothing else: no tag before it, and
no other template, whoever invokes it.

* `Library.Made.ordered`: the tags of a library stand in order, whatever it was made from;
* `Engine.Resolves`: tags are compiled by what their names resolve to where they stand;
* `Machine.step_enters`: a machine enters a template as its own source compiles;
* `Engine.tags_resolve`: all of this holds of every source, and of all templates in a rendering.
-/

namespace SlotTemplate

open Markup

/-- The libraries that can be made. Either form of a component is registered by binding its tag and
entering it. -/
inductive Library.Made : Library → Prop where
  | empty : Made .empty
  | tag {l : Library} (name : String) (b : Binding) (made : Made l) : Made (l.tag name b)
  | enter {l : Library} (c : Component) (made : Made l) : Made (l.enter c)
  | merge {l other : Library} (made : Made l) (made' : Made other) : Made (l.merge other)

theorem Library.Made.ordered {l : Library} (h : l.Made) : l.tags.Ordered := by
  induction h with
  | empty => exact Dict.ordered_empty
  | tag _ _ _ ih => exact ih.insert
  | enter _ _ ih => exact ih
  | merge _ _ ih _ => exact ih.insertAll

theorem Library.Made.components_ordered {l : Library} (h : l.Made) : l.components.Ordered := by
  induction h with
  | empty => exact Dict.ordered_empty
  | tag _ _ _ ih => exact ih
  | enter _ _ ih => exact ih.insert
  | merge _ _ ih _ => exact ih.insertAll

/-! ## Sources -/

namespace Engine

/-- What an engine does with a source in which the parser `p` has met a tag, behind tags that were
compiled before. If nothing binds the tag, the source is rejected for that. If something does, that
compiles the tag: when it fails, the source is rejected with its error, and when the source is
accepted, it has compiled the tag. -/
def CompilesBy (e : Engine) (name source : String) (p : Parser) (heads : List Head)
    (ends : List String) (lexeme : Lexeme) (tag : Tag) : Option Binding → Prop
  | none =>
    e.compileNamed name source = .error (.unknownTag tag.name tag.span tag.line ends)
  | some b =>
    (∀ err, (p.compileHere b tag).1 = .error err → e.compileNamed name source = .error err) ∧
      ∀ t, e.compileNamed name source = .ok t → ∃ d tags, d.lexemes = tokenize source ∧
        Derives e.libraries [] e.builtins.tags d t.nodes tags ∧
        heads ++ [⟨lexeme, tag, b⟩] <+: d.heads

/-- The parser of a source that has met a tag inside open blocks. -/
def met (e : Engine) (source : String) (blocks : List OpenBlock) (tags : Dict Binding) (tag : Tag)
    (rest : List Lexeme) : Parser :=
  ((Parser.start source e.builtins e.libraries).inside blocks rest tags).enter tag

/-- The tags of a source are compiled by what their names resolve to where they stand. -/
structure Resolves (e : Engine) (name source : String) : Prop where
  accepted : ∀ t, e.compileNamed name source = .ok t → ∃ d tags, d.lexemes = tokenize source ∧
    Derives e.libraries [] e.builtins.tags d t.nodes tags ∧
    Resolved e.libraries e.builtins.tags [] d.heads
  /-- So is a tag that the parser meets and that is not awaited as an end, whatever follows. -/
  meets : ∀ read lexeme rest heads blocks tags tag, tokenize source = read ++ lexeme :: rest →
    Arrives e.libraries e.builtins.tags read heads blocks tags → lexeme.token = .block tag →
    tag.name ∉ awaited blocks → Resolved e.libraries e.builtins.tags [] heads ∧
      e.CompilesBy name source (e.met source blocks tags tag rest) heads (awaited blocks) lexeme tag
        (resolve e.libraries e.builtins.tags (heads.flatMap Head.loads) tag.name)

variable {e : Engine}

/-- A parser that has come to a tag compiles it by what its table says. -/
theorem compilesBy_table {name source : String} {read rest : List Lexeme} {lexeme : Lexeme}
    {heads : List Head} {blocks : List OpenBlock} {tags : Dict Binding} {tag : Tag}
    (split : tokenize source = read ++ lexeme :: rest)
    (arrives : Arrives e.libraries e.builtins.tags read heads blocks tags)
    (token : lexeme.token = .block tag) (free : tag.name ∉ awaited blocks) :
    e.CompilesBy name source (e.met source blocks tags tag rest) heads (awaited blocks) lexeme tag
      (tags.get? tag.name) := by
  cases bound : tags.get? tag.name with
  | none =>
    exact map_eq_error_iff.2 (Parser.parse_eq_error_iff.2
      ⟨read, lexeme :: rest, heads, blocks, tags, split, arrives, .unknown token free bound⟩)
  | some b =>
    refine ⟨fun err fails => map_eq_error_iff.2 ?_, fun t compiled => ?_⟩
    · let p := Parser.start source e.builtins e.libraries
      have here : ((p.inside blocks (lexeme :: rest) tags).parseUntil (awaited blocks)).Fails err :=
        (Parser.parseUntil_tag_fails rfl token).2
          ⟨free, .inr ⟨b, bound, .inl (Parser.compile_fails_iff.1 fails)⟩⟩
      have whole := Parser.fails_of_arrives (p := p) arrives rfl here
      rw [← split] at whole
      exact whole
    · obtain ⟨d, tags', lexemes, derives⟩ := derives_of_compileNamed compiled
      exact ⟨d, tags', lexemes, derives,
        arrives.met_isPrefix derives (lexemes.trans split) ⟨token, free, bound⟩⟩

theorem resolves (ordered : e.libraries.All fun l => l.tags.Ordered) (name source : String) :
    e.Resolves name source where
  accepted t compiled := by
    obtain ⟨d, tags, lexemes, derives⟩ := derives_of_compileNamed compiled
    exact ⟨d, tags, lexemes, derives, (derives.resolved ordered fun _ => rfl).1⟩
  meets read lexeme rest heads blocks tags tag split arrives token free := by
    obtain ⟨resolved, table⟩ := arrives.resolved ordered
    refine ⟨resolved, ?_⟩
    rw [← table tag.name]
    exact compilesBy_table split arrives token free

end Engine

/-! ## Renderings -/

namespace Machine

/-- The templates that a machine is inside of are not asked about; what is kept is what would be
loaded. -/
theorem start_sound {e : Engine} {files : Files} (faithful : e.Faithful files e.cache)
    (t : Template) (data : Data) : (start e t data).IsSound e files fun _ => True :=
  ⟨List.forall_mem_singleton.2 fun n _ => n.everywhere_of_forall fun _ _ _ => trivial,
    List.forall_mem_nil _, faithful⟩

/-- A step that invokes a component and goes on enters the template that the component's source
compiles to. -/
theorem step_enters {e : Engine} {files : Files} {s : State} {c : Component} {slots : SlotMap}
    {args : Data} {a : Activation} {callers : List Activation} {cache : Cache}
    (h : s.IsSound e files fun _ => True) (invokes : s.invocation? = some (c, slots, args))
    (next : step e files s = .running a callers cache) :
    ∃ text t, e.templateSource files (c.templateName e.config.extension) = .ok text ∧
      e.compileNamed (c.templateName e.config.extension) text = .ok t ∧
      a.tasks = [.nodes t.nodes] := by
  unfold State.invocation? at invokes
  split at invokes
  · cases invokes
    rw [step, call] at next
    split at next
    · cases next
    · obtain ⟨same, -⟩ := Engine.fetch_faithful h.cache (c.templateName e.config.extension)
      split at next
      · cases next
      · rename_i t _ found
        rw [found] at same
        split at next <;> cases next
        obtain ⟨text, source, compiled⟩ := Engine.load_eq_ok_iff.1 same.symm
        exact ⟨text, t, source, compiled, rfl⟩
  · cases invokes

end Machine

namespace Engine

open Machine

/-- Every tag of a source that is not awaited as an end is compiled by what the last library says
that binds its name, of those that are named by `load` tags before it, or else by the builtin
binding; without either the source is rejected for an unknown tag. What is loaded in a source counts
there alone: whatever else an engine compiled and rendered before, it compiles every source as it
did at first, and so it does in any rendering with the template of every component that is
invoked. -/
theorem tags_resolve {e : Engine} (made : e.libraries.All Library.Made) :
    (∀ name source, e.Resolves name source) ∧
    ∀ files caching calls,
      let last := (answers files (e.fresh caching) calls).2
      (∀ name source, last.compileNamed name source = e.compileNamed name source) ∧
      ∀ t data n c slots args a callers cache,
        let s := steps last files n (start last t data)
        s.invocation? = some (c, slots, args) → step last files s = .running a callers cache →
        ∃ text t', last.templateSource files (c.templateName last.config.extension) = .ok text ∧
          e.compileNamed (c.templateName last.config.extension) text = .ok t' ∧
          a.tasks = [.nodes t'.nodes] := by
  refine ⟨resolves fun l hl => (made l hl).ordered, fun files caching calls => ?_⟩
  intro last
  have compiles (name source : String) :
      last.compileNamed name source = e.compileNamed name source := by
    obtain ⟨builtins, libraries⟩ := answers_tags (e.fresh caching) files calls
    rw [compileNamed, builtins, libraries]
    rfl
  refine ⟨compiles, ?_⟩
  intro t data n c slots args a callers cache s invokes next
  have sound := steps_sound ⟨fun _ _ _ _ => trivial, fun _ _ _ _ _ _ => trivial⟩
    (start_sound (answers_faithful e files caching calls) t data) n
  obtain ⟨text, t', source, compiled, tasks⟩ := step_enters sound invokes next
  exact ⟨text, t', source, (compiles _ text).symm.trans compiled, tasks⟩

theorem tags_resolve_nested_load :
    let plain (text : String) := Library.empty.tag "x" (.plain (some text))
    let builtins := (Library.empty.component (Component.named "card")).merge (plain "0")
    let e := ((Engine.default.addBuiltins builtins).addLibrary "one" (plain "1")).addLibrary "two"
      (plain "2")
    let files := Files.inDirectory []
    let calls :=
      [.addTemplate "components/card.html" "{% x %}", .compile "{% load two %}"]
    let last := (answers files (e.fresh true) calls).2
    let source := "{% x %}{% if a %}{% load two one %}{% endif %}" ++
      "{% x %}{% load two %}{% x %}{% card/ %}"
    last.compileNamed "page" source = e.compileNamed "page" source ∧
      ∃ t d tags, e.compileNamed "page" source = .ok t ∧
        (last.renderTemplate files t Dict.empty).1 = .ok "0120" ∧ d.lexemes = tokenize source ∧
        Derives e.libraries [] e.builtins.tags d t.nodes tags ∧
        Resolved e.libraries e.builtins.tags [] d.heads := by
  intro plain builtins e files calls last source
  have made : e.libraries.All Library.Made :=
    (Dict.all_empty.insert (.tag _ _ .empty)).insert (.tag _ _ .empty)
  obtain ⟨resolves, alone⟩ := tags_resolve made
  obtain ⟨t, compiled⟩ : ∃ t, e.compileNamed "page" source = .ok t :=
    exists_eq_ok (by decide +kernel)
  have renders : ∀ t, e.compileNamed "page" source = .ok t →
      (last.renderTemplate files t Dict.empty).1 = .ok "0120" := by decide +kernel
  obtain ⟨d, tags, derivation⟩ := (resolves "page" source).accepted t compiled
  exact ⟨(alone files true calls).1 "page" source, t, d, tags, compiled, renders t compiled,
    derivation⟩

end Engine

end SlotTemplate
