import SlotTemplate.Component.Stock
import SlotTemplate.Proofs.Argument.Acceptance
import SlotTemplate.Proofs.Argument.Places

/-!
# Compiled trees are well formed

* `Expr.Sound`: an expression stands for what is written at its place, where `default` is the one
  filter with an argument;
* `Invoked`: what the arguments and slots of an invocation owe to its tag;
* `Engine.nodes_sound`: both hold everywhere in every tree that an engine compiles.
-/

namespace SlotTemplate

open Argument Grammar

/-- An expression stands for what is written at its place in a source. It has the filters that are
written there, with the arguments that they have there; `default` has one, and no other filter
has. -/
structure Expr.Sound (source : List Char) (e : Expr) : Prop where
  written : ∃ form : ExprForm,
    lexFrom e.span.start false (Text.slice source e.span) = .ok form.tokens ∧ form.Means e ∧
      ∀ call ∈ form.calls, call.argument?.isSome ↔ call.name = "default"

/-- The arguments and slots of an invocation are as the tag that opens it has them. -/
structure Invoked (heads : List Head) (c : Component) (name : String) (args : List Argument)
    (slots : List Slot) (span : Span) : Prop where
  distinct : (args.map Argument.name).Nodup
  ordered : Successive Argument.span 0 args
  origin : ∃ head ∈ heads, head.tag.name = name ∧ head.tag.span = span ∧
    (head.binding = .inline c ∧ slots = [] ∨
      head.binding = .block c ∧ (∃ content named, slots = ⟨defaultSlot, content⟩ :: named) ∧
        (slots.map Slot.name).Nodup)
  unmarked : ∀ slot ∈ slots, ∀ n ∈ slot.content, n.Throughout Node.parts Node.Unmarked

/-- A node that invokes a component has its arguments and slots as a tag has them. -/
def Node.SuitsTag (heads : List Head) (node : Node) : Prop :=
  ∀ c name args slots span, node = .invocation c name args slots span →
    Invoked heads c name args slots span

/-- The expressions of a node are sound, and an invocation is as its tag has it. -/
structure Node.Sound (source : List Char) (heads : List Head) (node : Node) : Prop where
  exprs : ∀ e ∈ node.exprs, e.Sound source
  invoked : node.SuitsTag heads

/-! ## Expressions -/

/-- An expression that passes its checks was read in a form whose filters are valid. -/
theorem Expr.Exact.sound {source : List Char} {e : Expr} (h : e.Exact source) : e.Sound source := by
  obtain ⟨d, hd, checked⟩ := bind_eq_ok_iff.1 (h.reads 0)
  obtain ⟨ts, lexed, read⟩ := readAll_eq_ok_iff.1 hd
  obtain ⟨form, rfl, rfl⟩ := alone_iff.1 read
  rw [lex, String.toList_ofList] at lexed
  have valid := (form.checked _).isOk_iff.1 ⟨e, checked⟩
  exact ⟨form, lexed, (form.checked _).of_ok checked, fun call hc => (valid call hc).2⟩

/-- What holds of all that forms stand for holds of what a sound expression starts with, and of the
arguments of its filters. -/
theorem Expr.Sound.primaries {source : List Char} {e : Expr} (h : e.Sound source)
    {P : Primary → Prop} (all : ∀ p : PrimaryForm, P p.tree) :
    P e.primary ∧ ∀ f ∈ e.filters, ∀ p, f.kind.argument? = some p → P p := by
  obtain ⟨form, -, ⟨primary, filters, -⟩, -⟩ := h.written
  refine ⟨primary ▸ all form.primary, ?_⟩
  generalize form.calls = calls, e.filters = fs at filters ⊢
  induction filters with
  | nil => exact List.forall_mem_nil _
  | cons here _ ih =>
    refine List.forall_mem_cons.2 ⟨fun p hp => ?_, ih⟩
    obtain ⟨a, -, rfl⟩ := Option.map_eq_some_iff.1 (here.argument.symm.trans hp)
    exact all a.2

/-! ## Invocations -/

namespace Node

theorem suitsTag_headOnly (heads : List Head) : HeadOnly (SuitsTag heads) where
  conditional _ _ _ := by simp [SuitsTag]
  loop _ _ _ := by simp [SuitsTag]
  marker _ _ := by simp [SuitsTag]

/-- A node that a tag builds suits it. -/
theorem suitsTag_of_builds {heads : List Head} {head : Head} (hh : head ∈ heads)
    {first second : List Node} {node : Node}
    (h : Builds head.binding head.tag first second node) : node.SuitsTag heads := by
  generalize hb : head.binding = b at h
  generalize ht : head.tag = tag at h
  cases h with
  | conditional | loop | slot | slotOutput => simp [SuitsTag]
  | inline header =>
    obtain ⟨distinct, ordered⟩ := Tag.invocationArguments_distinct header
    rintro _ _ _ _ _ ⟨⟩
    exact ⟨distinct, ordered, ⟨head, hh, by rw [ht], by rw [ht], .inl ⟨hb, rfl⟩⟩, by simp⟩
  | block header nodup =>
    obtain ⟨distinct, ordered⟩ := Tag.invocationArguments_distinct header
    rintro _ _ _ _ _ ⟨⟩
    exact ⟨distinct, ordered, ⟨head, hh, by rw [ht], by rw [ht],
      .inr ⟨hb, ⟨_, _, rfl⟩, nodup⟩⟩, bodySlots_unmarked _⟩
  | @plain output => cases output <;> simp [SuitsTag]

end Node

/-! ## Trees -/

section

variable {libraries : Dict Library} {ends : List String} {tags tags' : Dict Binding}
  {d : Derivation} {ns : List Node}

/-- In a derived tree invocations are as the tags of its derivation have them. -/
theorem Derives.suitsTags (h : Derives libraries ends tags d ns tags') :
    ∀ n ∈ ns, n.Everywhere (Node.SuitsTag d.heads) := by
  refine h.everywhere (Node.suitsTag_headOnly _) ?_ ?_ ?_ ?_
  · simp [Node.SuitsTag]
  · simp [Node.SuitsTag]
  · simp [Node.SuitsTag]
  · intro head hh _ _ _ built
    exact Node.suitsTag_of_builds hh built

/-- A derived tree is sound at every node, with the tags of its derivation and the source whose
lexemes the derivation has. -/
theorem Derives.sound {source : String} (h : Derives libraries ends tags d ns tags')
    (lexemes : d.lexemes = Markup.tokenize source) :
    ∀ n ∈ ns, n.Everywhere (Node.Sound source.toList d.heads) := by
  intro n hn
  refine ((h.exact lexemes n hn).and (h.suitsTags n hn)).mono fun n h => ?_
  exact ⟨fun e he => (h.1.exprs e he).sound, h.2⟩

end

/-- Every tree that an engine compiles is well formed at every node. -/
theorem Engine.nodes_sound {e : Engine} {name source : String} {t : Template}
    (h : e.compileNamed name source = .ok t) :
    ∃ d tags, d.lexemes = Markup.tokenize source ∧
      Derives e.libraries [] e.builtins.tags d t.nodes tags ∧
      ∀ n ∈ t.nodes, n.Everywhere (Node.Sound source.toList d.heads) := by
  obtain ⟨d, tags, lexemes, derives⟩ := Engine.derives_of_compileNamed h
  exact ⟨d, tags, lexemes, derives, derives.sound lexemes⟩

theorem Engine.nodes_sound_card :
    let e := Engine.default.addBuiltins (Library.empty.component (Component.named "card"))
    let source := "{% card title=x|default:1 size=2 %}a{% slot b %}{% card/ %}" ++
      "{% /slot %}{% /card %}"
    ∃ t, e.compileNamed "page" source = .ok t ∧
      ∃ d tags, d.lexemes = Markup.tokenize source ∧
        Derives e.libraries [] e.builtins.tags d t.nodes tags ∧
        ∀ n ∈ t.nodes, n.Everywhere (Node.Sound source.toList d.heads) := by
  intro e source
  obtain ⟨t, h⟩ : ∃ t, e.compileNamed "page" source = .ok t := exists_eq_ok (by decide +kernel)
  exact ⟨t, h, Engine.nodes_sound h⟩

end SlotTemplate
