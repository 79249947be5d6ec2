import SlotTemplate.Component.Stock
import SlotTemplate.Proofs.Argument.Fragments
import SlotTemplate.Proofs.Argument.Recognition
import SlotTemplate.Proofs.Derivation.Parsing
import SlotTemplate.Proofs.Markup.Places

/-!
# The places of expressions

An expression keeps its place in the source of the template, through the blanks around the contents
of a tag, the tag's name and all that stands in front of it there. What stands at that place is the
expression: read on its own, it gives the same tree with the same places.

* `Expr.Exact`, `Argument.Exact`: an expression or an argument says truly where it stands;
* `Expr.exact_of_lexed`: an expression among the tokens of a text that stands in the source;
* `Derives.exact`, `Engine.nodes_exact`: the expressions and arguments of every tree that an engine
  compiles.
-/

namespace SlotTemplate

open Argument Grammar Markup

/-- An expression says truly where it stands. Its place lies in the source, between characters, and
what stands there, read as the contents of a variable, gives the expression with all its places. -/
structure Expr.Exact (source : List Char) (e : Expr) : Prop where
  starts : Text.isBoundary e.span.start source = true
  stops : Text.isBoundary e.span.stop source = true
  ordered : e.span.start ≤ e.span.stop
  inside : e.span.stop ≤ Text.byteSize source
  reads : ∀ line,
    Expr.ofVariable (String.ofList (Text.slice source e.span)) e.span.start line = .ok e

/-- An argument says truly where it stands: its name, the sign behind it and its value, up to the
end of the value, with nothing but gaps between them. -/
structure Argument.Exact (source : List Char) (a : Argument) : Prop where
  starts : Text.isBoundary a.span.start source = true
  stop : a.span.stop = a.value.span.stop
  written : ∃ gaps gaps', (∀ c ∈ gaps ++ gaps', isGap c = true) ∧ Text.slice source a.span =
    a.name.toList ++ (gaps ++ '=' :: (gaps' ++ Text.slice source a.value.span))

/-- The expressions of a node and the arguments of an invocation say truly where they stand. -/
structure Node.Exact (source : List Char) (node : Node) : Prop where
  exprs : ∀ e ∈ node.exprs, e.Exact source
  arguments : ∀ c tag args slots span, node = .invocation c tag args slots span →
    ∀ a ∈ args, a.Exact source

/-! ## Parts of a source -/

namespace Text

/-- A part of a text stands at an offset. -/
def StandsAt (source part : List Char) (offset : Nat) : Prop :=
  ∃ front back, source = front ++ (part ++ back) ∧ offset = byteSize front

namespace StandsAt

variable {source part : List Char} {offset : Nat}

theorem starts (h : StandsAt source part offset) : isBoundary offset source = true := by
  obtain ⟨front, back, rfl, rfl⟩ := h
  exact isBoundary_append _ _

theorem stops (h : StandsAt source part offset) :
    isBoundary (offset + byteSize part) source = true := by
  obtain ⟨front, back, rfl, rfl⟩ := h
  rw [← List.append_assoc, ← byteSize_append]
  exact isBoundary_append _ _

theorem inside (h : StandsAt source part offset) : offset + byteSize part ≤ byteSize source := by
  obtain ⟨front, back, rfl, rfl⟩ := h
  simp only [byteSize_append]
  omega

theorem slice_eq (h : StandsAt source part offset) :
    slice source ⟨offset, offset + byteSize part⟩ = part := by
  obtain ⟨front, back, rfl, rfl⟩ := h
  exact slice_append _ _ _

/-- A part of a part stands behind what comes before it there. -/
theorem inner {before after : List Char} (h : StandsAt source (before ++ (part ++ after)) offset) :
    StandsAt source part (offset + byteSize before) := by
  obtain ⟨front, back, rfl, rfl⟩ := h
  exact ⟨front ++ before, after ++ back, by simp only [List.append_assoc],
    (byteSize_append _ _).symm⟩

end StandsAt

end Text

/-- What a token contains stands where the token says. -/
def Markup.Token.Stands (source : List Char) : Token → Prop
  | .text _ => True
  | .variable contents offset => Text.StandsAt source contents.toList offset
  | .block tag => Text.StandsAt source tag.contents.toList tag.offset

theorem Markup.tokenize_stands (source : String) :
    ∀ l ∈ tokenize source, l.token.Stands source.toList := by
  refine @forall_tokenize (fun source l => l.token.Stands source) ?_ source
  intro p l before after formed h
  cases p with
  | text cs =>
    cases h
    trivial
  | markup d body =>
    obtain ⟨back, stands, offset, -⟩ := encloses_of_stands d formed before after
    cases d with
    | comment => cases h
    | «variable» | block =>
      cases h
      refine ⟨_, back, ?_, offset⟩
      rw [String.toList_ofList]
      exact stands

/-! ## Expressions -/

section

variable {source text : List Char} {pos : Nat} {us vs ts : List Placed} {site : Site}

/-- An expression is read from its tokens alone, wherever its filters are checked. -/
theorem Grammar.ExprForm.reads {f : ExprForm} {e : Expr}
    (lexed : lexFrom pos false text = .ok f.tokens) (checked : f.draft.check site = .ok e)
    (line : Nat) : Expr.ofVariable (String.ofList text) pos line = .ok e := by
  refine bind_eq_ok_iff.2 ⟨f.draft, readAll_eq_ok_iff.2 ⟨f.tokens, ?_, alone_iff.2 ⟨f, rfl, rfl⟩⟩,
    Draft.check_eq_ok_iff.2 (Draft.check_eq_ok_iff.1 checked)⟩
  rw [lex, String.toList_ofList]
  exact lexed

/-- An expression whose tokens are those of a part of the source says truly where it stands. -/
theorem Expr.exact_of_stands {f : ExprForm} {e : Expr}
    (stands : Text.StandsAt source text (startOf f.tokens))
    (lexed : lexFrom (startOf f.tokens) false text = .ok f.tokens)
    (stop : startOf f.tokens + Text.byteSize text = (spanOf f.tokens).stop)
    (checked : f.draft.check site = .ok e) :
    e.Exact source ∧ Text.slice source e.span = text := by
  have span : e.span = ⟨startOf f.tokens, startOf f.tokens + Text.byteSize text⟩ := by
    rw [← (Draft.check_eq_ok_iff.1 checked).2.2, stop]
    rfl
  refine ⟨⟨?_, ?_, ?_, ?_, fun line => ?_⟩, ?_⟩ <;> rw [span]
  · exact stands.starts
  · exact stands.stops
  · exact Nat.le_add_right _ _
  · exact stands.inside
  · rw [stands.slice_eq]
    exact f.reads lexed checked line
  · exact stands.slice_eq

/-- An expression among the tokens of a text says truly where it stands. -/
theorem Expr.exact_of_lexed {f : ExprForm} {e : Expr} (stands : Text.StandsAt source text pos)
    (lexed : lexFrom pos false text = .ok ts) (split : ts = us ++ (f.tokens ++ vs))
    (front : dotBehind false us = false) (behind : Avoids .dot vs)
    (checked : f.draft.check site = .ok e) : e.Exact source := by
  subst split
  obtain ⟨before, part, after, rfl, start, lexed, stop⟩ := lexFrom_fragment lexed
    f.tokens_ne front (avoids_expr f vs) (dotBehind_expr f false) behind
  have inner := stands.inner
  rw [start] at inner
  exact (exact_of_stands inner lexed stop checked).1

/-! ## Arguments -/

/-- How an argument is written whose tokens start where the text does. -/
theorem Grammar.ArgumentForm.written {f : ArgumentForm}
    (lexed : lexFrom f.span.start false text = .ok f.tokens) :
    ∃ gaps gaps' value, text = f.name.toList ++ (gaps ++ '=' :: (gaps' ++ value)) ∧
      (∀ c ∈ gaps ++ gaps', isGap c = true) ∧
      f.span.start + Text.byteSize (f.name.toList ++ (gaps ++ '=' :: gaps')) =
        startOf f.value.tokens ∧
      lexFrom (startOf f.value.tokens) false value = .ok f.value.tokens := by
  obtain ⟨rest, rfl, behindName⟩ := lexFrom_spelling lexed rfl rfl
  obtain ⟨gaps, rest, rfl, gap, start, sign⟩ := lexFrom_gaps behindName (List.cons_ne_nil _ _)
  obtain ⟨rest, rfl, behindSign⟩ := lexFrom_spelling sign rfl rfl
  obtain ⟨gaps', value, rfl, gap', start', lexed'⟩ :=
    lexFrom_gaps behindSign f.value.tokens_ne
  refine ⟨gaps, gaps', value, rfl, List.forall_mem_append.2 ⟨gap, gap'⟩, ?_, lexed'⟩
  rw [← start', ← start]
  simp only [Text.byteSize_append, Text.byteSize_cons, Text.byteSize_nil]
  omega

theorem Tag.checkArguments_mem {fs : List ArgumentForm} {ks : List KeywordArgument}
    (h : Tag.checkArguments site (fs.map ArgumentForm.draft) = .ok ks) :
    ∀ k ∈ ks, ∃ before f after, fs = before ++ f :: after ∧ k.name = f.name ∧
      k.nameSpan = f.span ∧ f.value.draft.check site = .ok k.value := by
  induction fs generalizing ks with
  | nil =>
    cases h
    exact List.forall_mem_nil _
  | cons f fs ih =>
    obtain ⟨value, checked, h⟩ := bind_eq_ok_iff.1 h
    obtain ⟨more, others, h⟩ := bind_eq_ok_iff.1 h
    cases h
    refine List.forall_mem_cons.2 ⟨⟨[], f, fs, rfl, rfl, rfl, checked⟩, fun k hk => ?_⟩
    obtain ⟨before, f', after, rfl, same⟩ := ih others k hk
    exact ⟨f :: before, f', after, rfl, same⟩

/-- An argument whose tokens are those of a part of the source says truly where it stands. -/
theorem Argument.exact_of_stands {f : ArgumentForm} {value : Expr}
    (stands : Text.StandsAt source text f.span.start)
    (lexed : lexFrom f.span.start false text = .ok f.tokens)
    (stop : f.span.start + Text.byteSize text = (spanOf f.tokens).stop)
    (checked : f.value.draft.check site = .ok value) :
    let a : Argument := ⟨f.name, value, ⟨f.span.start, value.span.stop⟩⟩
    a.Exact source ∧ value.Exact source := by
  intro a
  obtain ⟨gaps, gaps', part, rfl, gap, start, lexed'⟩ := f.written lexed
  have split : f.name.toList ++ (gaps ++ '=' :: (gaps' ++ part)) =
      (f.name.toList ++ (gaps ++ '=' :: gaps')) ++ (part ++ []) := by
    simp only [List.append_assoc, List.cons_append, List.append_nil]
  -- both the argument and its value stop at the last token
  have last : (spanOf f.tokens).stop = (spanOf f.value.tokens).stop :=
    stopOf_eq f.value.tokens_ne _ _
  have size : startOf f.value.tokens + Text.byteSize part = (spanOf f.value.tokens).stop := by
    rw [← last, ← stop, split, Text.byteSize_append, List.append_nil, ← Nat.add_assoc, start]
  have inner : Text.StandsAt source part (f.span.start +
      Text.byteSize (f.name.toList ++ (gaps ++ '=' :: gaps'))) := (split ▸ stands).inner
  rw [start] at inner
  obtain ⟨exact, slice⟩ := Expr.exact_of_stands inner lexed' size checked
  have stop' : value.span.stop = f.span.start + Text.byteSize
      (f.name.toList ++ (gaps ++ '=' :: (gaps' ++ part))) := by
    rw [stop, last, ← (Draft.check_eq_ok_iff.1 checked).2.2]
    rfl
  have whole := stands.slice_eq
  rw [← stop'] at whole
  exact ⟨⟨stands.starts, rfl, gaps, gaps', gap, by rw [slice]; exact whole⟩, exact⟩

end

/-! ## Tags -/

namespace Tag

variable {source : List Char} {tag : Tag}

theorem condition_exact {c : Condition}
    (stands : Text.StandsAt source tag.args.toList tag.argsOffset)
    (h : tag.condition = .ok c) : c.expr.Exact source := by
  obtain ⟨⟨negated, d⟩, hd, h⟩ := bind_eq_ok_iff.1 h
  obtain ⟨e, checked, h⟩ := bind_eq_ok_iff.1 h
  cases h
  obtain ⟨ts, lexed, read⟩ := readAll_eq_ok_iff.1 hd
  obtain ⟨f, rfl, draft⟩ := condition_iff.1 read
  cases draft
  have front :
      dotBehind false (f.negation?.elim [] fun span => [(.ident "not", span)]) = false := by
    cases f.negation? <;> rfl
  refine Expr.exact_of_lexed stands lexed ?_ front (avoids_nil _) checked
  rw [ConditionForm.tokens, List.append_nil]

theorem loopHeader_exact {header : LoopHeader}
    (stands : Text.StandsAt source tag.args.toList tag.argsOffset)
    (h : tag.loopHeader = .ok header) : header.iterable.Exact source := by
  obtain ⟨⟨name, d⟩, hd, h⟩ := bind_eq_ok_iff.1 h
  obtain ⟨e, checked, h⟩ := bind_eq_ok_iff.1 h
  cases h
  obtain ⟨ts, lexed, read⟩ := readAll_eq_ok_iff.1 hd
  obtain ⟨f, rfl, draft⟩ := loopHeader_iff.1 read
  cases draft
  have split : f.tokens =
      [(.ident f.name, f.span), (.ident "in", f.word)] ++ (f.iterable.tokens ++ []) := by
    rw [List.append_nil]
    rfl
  exact Expr.exact_of_lexed stands lexed split rfl (avoids_nil _) checked

theorem invocationArguments_exact {args : List Argument}
    (stands : Text.StandsAt source tag.args.toList tag.argsOffset)
    (h : tag.invocationArguments = .ok args) :
    ∀ a ∈ args, a.Exact source ∧ a.value.Exact source := by
  obtain ⟨ks, hks, h⟩ := bind_eq_ok_iff.1 h
  obtain ⟨ds, hds, hks⟩ := bind_eq_ok_iff.1 hks
  obtain ⟨ts, lexed, read⟩ := readAll_eq_ok_iff.1 hds
  obtain ⟨fs, rfl, rfl⟩ := arguments_iff.1 read
  obtain ⟨rfl, -, -⟩ := Parser.checkDistinct_eq_ok_iff.1 h
  intro a ha
  obtain ⟨⟨name, span, value⟩, hk, rfl⟩ := List.mem_map.1 ha
  obtain ⟨before, f, after, rfl, rfl, rfl, checked⟩ := checkArguments_mem hks _ hk
  rw [List.flatMap_append, List.flatMap_cons] at lexed
  obtain ⟨front, part, back, split, start, lexed, stop⟩ := lexFrom_fragment lexed
    (List.cons_ne_nil _ _) (dotBehind_arguments before) (avoids_cons (by rintro ⟨⟩) _ _)
    (dotBehind_expr f.value _) (closed_arguments after).dot
  rw [split] at stands
  have inner : Text.StandsAt source part ((tagSite tag).start + Text.byteSize front) :=
    stands.inner
  rw [start] at inner
  exact Argument.exact_of_stands inner lexed stop checked

end Tag

/-! ## Trees -/

section

variable {source : List Char}

theorem Expr.ofVariable_exact {contents : String} {offset line : Nat} {e : Expr}
    (stands : Text.StandsAt source contents.toList offset)
    (h : Expr.ofVariable contents offset line = .ok e) : e.Exact source := by
  obtain ⟨d, hd, checked⟩ := bind_eq_ok_iff.1 h
  obtain ⟨ts, lexed, read⟩ := readAll_eq_ok_iff.1 hd
  obtain ⟨f, rfl, rfl⟩ := alone_iff.1 read
  have split : f.tokens = [] ++ (f.tokens ++ []) := by rw [List.append_nil, List.nil_append]
  exact Expr.exact_of_lexed stands lexed split rfl (avoids_nil _) checked

namespace Node

theorem exact_headOnly (source : List Char) : HeadOnly (Exact source) where
  conditional _ _ h := ⟨h.exprs, by simp⟩
  loop _ _ h := ⟨h.exprs, by simp⟩
  marker _ h := ⟨h.exprs, by simp⟩

theorem exact_of_builds {b : Binding} {tag : Tag} {first second : List Node} {node : Node}
    (stands : Text.StandsAt source tag.args.toList tag.argsOffset)
    (h : Builds b tag first second node) : node.Exact source := by
  have bare {node : Node} (exprs : node.exprs = []) (component : node.component? = none) :
      node.Exact source := by
    refine ⟨by simp [exprs], ?_⟩
    rintro _ _ _ _ _ rfl
    cases component
  have invocation {c : Component} {args : List Argument} {slots : List Slot}
      (header : tag.invocationArguments = .ok args) :
      (Node.invocation c tag.name args slots tag.span).Exact source := by
    have exact := Tag.invocationArguments_exact stands header
    constructor
    · exact List.forall_mem_map.2 fun a ha => (exact a ha).2
    · rintro _ _ _ _ _ ⟨⟩
      exact fun a ha => (exact a ha).1
  cases h with
  | conditional header =>
    exact ⟨by simpa [exprs] using Tag.condition_exact stands header, by simp⟩
  | loop header => exact ⟨by simpa [exprs] using Tag.loopHeader_exact stands header, by simp⟩
  | slot | slotOutput => exact bare rfl rfl
  | inline header | block header => exact invocation header
  | @plain output =>
    cases output with
    | none | some => exact bare rfl rfl

end Node

/-- Where the contents of a tag stand, its arguments stand where the tag says. -/
theorem Tag.args_stand {tag : Tag} (stands : Text.StandsAt source tag.contents.toList tag.offset)
    (exact : tag.Exact source) : Text.StandsAt source tag.args.toList tag.argsOffset := by
  rw [exact.contents, ← List.append_nil tag.args.toList] at stands
  exact stands.inner

end

/-- The expressions and arguments of a derived tree say truly where they stand in the source whose
lexemes the derivation has. -/
theorem Derives.exact {libraries : Dict Library} {ends : List String} {tags tags' : Dict Binding}
    {d : Derivation} {ns : List Node} {source : String}
    (h : Derives libraries ends tags d ns tags') (lexemes : d.lexemes = tokenize source) :
    ∀ n ∈ ns, n.Everywhere (Node.Exact source.toList) := by
  refine h.everywhere (Node.exact_headOnly _) ⟨by simp [Node.exprs], by simp⟩
    (fun _ => ⟨by simp [Node.exprs], by simp⟩) ?_ ?_
  · intro l hl contents offset x token valid
    rw [lexemes] at hl
    have stands := tokenize_stands source l hl
    rw [token] at stands
    exact ⟨by simpa [Node.exprs] using Expr.ofVariable_exact stands valid, by simp⟩
  · intro head hh first second node builds
    obtain ⟨sublist, opens⟩ := h.heads_sublist
    have hl : head.lexeme ∈ tokenize source :=
      lexemes ▸ sublist.subset (List.mem_map_of_mem hh)
    have stands := tokenize_stands source _ hl
    rw [opens head hh] at stands
    have exact := ((tokenize_exact source _ hl).block (opens head hh)).2.2.2
    exact Node.exact_of_builds (Tag.args_stand stands exact) builds

/-- The expressions of every tree that an engine compiles say truly where they stand, and so do the
arguments of invocations. -/
theorem Engine.nodes_exact {e : Engine} {name source : String} {t : Template}
    (h : e.compileNamed name source = .ok t) :
    ∀ n ∈ t.nodes, n.Everywhere (Node.Exact source.toList) := by
  obtain ⟨d, tags, lexemes, derives⟩ := Engine.derives_of_compileNamed h
  exact derives.exact lexemes

theorem Engine.nodes_exact_card :
    let e := Engine.default.addBuiltins (Library.empty.component (Component.named "card"))
    let source := "é\x7b%\u00a0card\n title = x.0.1 | default:'é'\tsize=2 %\x7d" ++
      "{% if not y|upper %}{{  z  }}{% endif %}{% /card %}"
    ∃ t, e.compileNamed "page" source = .ok t ∧
      ∀ n ∈ t.nodes, n.Everywhere (Node.Exact source.toList) := by
  intro e source
  obtain ⟨t, h⟩ : ∃ t, e.compileNamed "page" source = .ok t := exists_eq_ok (by decide +kernel)
  exact ⟨t, h, Engine.nodes_exact h⟩

end SlotTemplate
