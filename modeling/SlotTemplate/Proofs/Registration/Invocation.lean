import SlotTemplate.Proofs.Interchange
import SlotTemplate.Proofs.Printing.Grammar
import SlotTemplate.Proofs.Registration

/-!
# Registered components are invoked by their tags

The tags of a component are made from patterns when it is registered, and recognised in a source by
what stands between delimiters. Both agree on every proper name.

* `Tag.IsProper.isName`: a tag that a proper name is written in ends behind it;
* `Markup.tokenize_tag`, `Markup.tokenize_tags`: sources of written tags have these tags;
* `Engine.registered_invoked`: either form of a registered component invokes it, and nothing else.
-/

namespace SlotTemplate

open Markup

/-- A proper name for a tag: there is something of it, it has no blank, and it does not close the
tag. -/
structure Tag.IsProper (name : String) : Prop where
  nonempty : name ≠ ""
  ink : ∀ c ∈ name.toList, Text.isBlank c = false
  unclosed : ¬ ['%', '}'] <:+: name.toList

theorem Tag.IsProper.isName {name : String} (h : IsProper name) : IsName name :=
  .of_unclosed (mt String.toList_eq_nil_iff.1 h.nonempty) h.ink h.unclosed

/-! ## Sources of tags -/

/-- A lexeme is a tag at a place that has a name and nothing else. -/
structure Markup.Lexeme.IsBare (l : Lexeme) (name : String) (tag : Tag) (span : Span) : Prop where
  token : l.token = .block tag
  spells : tag.Spells name []
  span_eq : tag.span = span

namespace Markup.Lexeme.IsBare

variable {l : Lexeme} {name : String} {tag : Tag} {span : Span}

theorem named (h : l.IsBare name tag span) : tag.name = name := h.spells.name_eq

theorem invocationArguments (h : l.IsBare name tag span) : tag.invocationArguments = .ok [] := by
  have spells : tag.Spells name ([].flatMap (Argument.spell .double)) := h.spells
  obtain ⟨args, read, same⟩ :=
    Tag.invocationArguments_spells (List.forall_mem_nil _) .nil spells
  rw [read, List.map_eq_nil_iff.1 same]

end Markup.Lexeme.IsBare

namespace Markup

variable {name name' : String}

/-- A written tag is a piece of its own, whatever follows it. -/
theorem place_written (h : Tag.IsName name) (before rest : List Char) :
    ∃ l tag, l.IsBare name tag
        ⟨Text.byteSize before, Text.byteSize (before ++ (Tag.written name "").toList)⟩ ∧
      place (Text.byteSize before) (1 + Text.newlines before)
          (scan ((Tag.written name "").toList ++ rest)) =
        l :: place (Text.byteSize (before ++ (Tag.written name "").toList))
          (1 + Text.newlines (before ++ (Tag.written name "").toList)) (scan rest) := by
  let body := ' ' :: (name.toList ++ [] ++ [' '])
  have closed : Body Delimiter.block.guard body := .char (by decide) (by simpa using h.body)
  have written : (Tag.written name "").toList = (Piece.markup .block body).source :=
    Tag.written_toList name ""
  have trimmed : Text.trim body = name.toList ++ [] := h.trim (by simp)
  let span : Span := ⟨Text.byteSize before, Text.byteSize before + 4 + Text.byteSize body⟩
  let tag : Tag := ⟨String.ofList (Text.trim body),
    Text.byteSize before + 2 + Text.byteSize (body.takeWhile Text.isBlank), span,
    1 + Text.newlines before⟩
  have spells : tag.Spells name [] :=
    ⟨by rw [String.toList_ofList, trimmed], h.nonempty, h.ink, by simp⟩
  refine ⟨⟨.block tag, span, 1 + Text.newlines before⟩, tag,
    ⟨rfl, spells, ?_⟩, ?_⟩
  · rw [written, Text.byteSize_append, byteSize_markup, ← Nat.add_assoc]
  · rw [written, scan_part closed, place_cons]
    rfl

theorem tokenize_tag (h : Tag.IsName name) :
    ∃ l tag, l.IsBare name tag ⟨0, Text.byteSize (Tag.written name "").toList⟩ ∧
      tokenize (Tag.written name "") = [l] := by
  obtain ⟨l, tag, bare, placed⟩ := place_written h [] []
  refine ⟨l, tag, bare, ?_⟩
  rw [List.append_nil] at placed
  rw [tokenize]
  exact placed.trans (by rw [scan, place])

theorem tokenize_tags (h : Tag.IsName name) (h' : Tag.IsName name') :
    ∃ l l' tag, l.IsBare name tag ⟨0, Text.byteSize (Tag.written name "").toList⟩ ∧
      l'.Named name' ∧ tokenize (Tag.written name "" ++ Tag.written name' "") = [l, l'] := by
  obtain ⟨l, tag, bare, placed⟩ := place_written h [] (Tag.written name' "").toList
  obtain ⟨l', tag', bare', placed'⟩ := place_written h' (Tag.written name "").toList []
  refine ⟨l, l', tag, bare, ⟨tag', bare'.token, bare'.named⟩, ?_⟩
  rw [List.append_nil] at placed'
  rw [tokenize, String.toList_append]
  exact placed.trans (congrArg (l :: ·) (placed'.trans (by rw [scan, place])))

end Markup

/-! ## Invocations -/

namespace Library

theorem binding?_merge {l l' : Library} (made : l'.Made) (n : String) :
    (l.merge l').binding? n = (l'.binding? n).or (l.binding? n) :=
  made.ordered.get?_insertAll

theorem binding?_component {c : Component} (l : Library) (distinct : c.inlineTag ≠ c.openTag) :
    (l.component c).binding? c.inlineTag = some (.inline c) ∧
      (l.component c).binding? c.openTag = some (.block c) := by
  have inline : (l.inlineComponent c).binding? c.inlineTag = some (.inline c) := by
    rw [inlineComponent]
    exact (l.binding?_tag _ _ _).trans (if_pos rfl)
  exact ⟨by rw [component, binding?_tag, if_neg distinct.symm, inline],
    by rw [component, binding?_tag, if_pos rfl]⟩

end Library

namespace Engine

variable {e : Engine} {c : Component} {name : String}

theorem compileNamed_tag (h : Tag.IsName c.inlineTag)
    (bound : e.builtins.binding? c.inlineTag = some (.inline c)) (name : String) :
    e.compileNamed name (Tag.written c.inlineTag "") =
      .ok ⟨name, [.invocation c c.inlineTag [] []
        ⟨0, Text.byteSize (Tag.written c.inlineTag "").toList⟩]⟩ := by
  obtain ⟨l, tag, bare, tokens⟩ := tokenize_tag h
  have opens : (⟨l, tag, .inline c⟩ : Head).Opens [] e.builtins.tags :=
    ⟨bare.token, List.not_mem_nil, bare.named ▸ bound⟩
  have builds := Builds.inline (c := c) bare.invocationArguments
  rw [bare.named, bare.span_eq] at builds
  exact compileNamed_eq_ok_iff.2
    ⟨rfl, .single ⟨l, tag, .inline c⟩ .nil, _, tokens.symm, .single opens rfl builds .nil⟩

theorem compileNamed_tags (h : Tag.IsName c.openTag) (h' : Tag.IsName c.closeTag)
    (bound : e.builtins.binding? c.openTag = some (.block c)) (name : String) :
    e.compileNamed name (c.emptyBlock "") =
      .ok ⟨name, [.invocation c c.openTag [] [⟨defaultSlot, []⟩]
        ⟨0, Text.byteSize (Tag.written c.openTag "").toList⟩]⟩ := by
  obtain ⟨l, l', tag, bare, closes, tokens⟩ := tokenize_tags h h'
  have opens : (⟨l, tag, .block c⟩ : Head).Opens [] e.builtins.tags :=
    ⟨bare.token, List.not_mem_nil, bare.named ▸ bound⟩
  have builds : Builds (.block c) tag [] [] (.invocation c tag.name [] (bodySlots []) tag.span) :=
    .block bare.invocationArguments (by decide)
  rw [bare.named, bare.span_eq] at builds
  exact compileNamed_eq_ok_iff.2 ⟨rfl, .block ⟨l, tag, .block c⟩ .nil l' .nil, _, tokens.symm,
    .block opens rfl .nil closes builds .nil⟩

/-- A component that is registered in both forms, in a library where anything may have been
registered before, is invoked by its tags on every engine on which the library is builtin: the
inline tag alone compiles to an invocation without slots, and the opening and the closing tag to an
invocation with an empty default slot. -/
theorem registered_invoked (e : Engine) (rs : List Registration) {c : Component}
    (inline : Tag.IsProper c.inlineTag) (opening : Tag.IsProper c.openTag)
    (closing : Tag.IsProper c.closeTag) (distinct : c.inlineTag ≠ c.openTag) (name : String) :
    let e' := e.addBuiltins ((Library.register rs).component c)
    e'.compileNamed name (Tag.written c.inlineTag "") =
        .ok ⟨name, [.invocation c c.inlineTag [] []
          ⟨0, Text.byteSize (Tag.written c.inlineTag "").toList⟩]⟩ ∧
      e'.compileNamed name (Tag.written c.openTag "" ++ Tag.written c.closeTag "") =
        .ok ⟨name, [.invocation c c.openTag [] [⟨defaultSlot, []⟩]
          ⟨0, Text.byteSize (Tag.written c.openTag "").toList⟩]⟩ := by
  intro e'
  have made : ((Library.register rs).component c).Made :=
    (Entry.component c).made_register (made_registerAll .empty rs)
  obtain ⟨boundInline, boundBlock⟩ := (Library.register rs).binding?_component distinct
  have builtins (n : String) : e'.builtins.binding? n =
      (((Library.register rs).component c).binding? n).or (e.builtins.binding? n) :=
    Library.binding?_merge made n
  exact ⟨compileNamed_tag inline.isName (by rw [builtins, boundInline, Option.some_or]) name,
    compileNamed_tags opening.isName closing.isName
      (by rw [builtins, boundBlock, Option.some_or]) name⟩

/-- The signs of delimiters do not matter in a name, nor does what was registered under the same tag
before. -/
theorem registered_invoked_signs :
    let c := ((Component.named "%é\x7b\x7b%").withNamespace "a%").withBlockPatterns
      "%{name}%%" "{name}{name}#\x7b"
    let e := Engine.default.addBuiltins
      ((Library.register [.entry (.tag "a%:%é\x7b\x7b%/" .loop)]).component c)
    e.compileNamed "" "\x7b% a%:%é\x7b\x7b%/ %\x7d" =
        .ok ⟨"", [.invocation c "a%:%é\x7b\x7b%/" [] [] ⟨0, 16⟩]⟩ ∧
      e.compileNamed ""
          "\x7b% %a%:%é\x7b\x7b%%% %\x7d\x7b% a%:%é\x7b\x7b%a%:%é\x7b\x7b%#\x7b %\x7d" =
        .ok ⟨"", [.invocation c "%a%:%é\x7b\x7b%%%" [] [⟨"slot", []⟩] ⟨0, 18⟩]⟩ := by
  intro c e
  have inline : c.inlineTag = "a%:%é\x7b\x7b%/" := by decide +kernel
  have opening : c.openTag = "%a%:%é\x7b\x7b%%%" := by decide +kernel
  have closing : c.closeTag = "a%:%é\x7b\x7b%a%:%é\x7b\x7b%#\x7b" := by decide +kernel
  have proper {name : String} (nonempty : name ≠ "")
      (all : name.toList.all fun c => !Text.isBlank c && c != '}') : Tag.IsProper name := by
    have each : ∀ c ∈ name.toList, Text.isBlank c = false ∧ c ≠ '}' := by
      simpa using all
    exact ⟨nonempty, fun c hc => (each c hc).1,
      fun closes => (each '}' (closes.subset (by simp))).2 rfl⟩
  have sources : Tag.written c.inlineTag "" = "\x7b% a%:%é\x7b\x7b%/ %\x7d" ∧
      Tag.written c.openTag "" ++ Tag.written c.closeTag "" =
        "\x7b% %a%:%é\x7b\x7b%%% %\x7d\x7b% a%:%é\x7b\x7b%a%:%é\x7b\x7b%#\x7b %\x7d" := by
    rw [inline, opening, closing]
    decide +kernel
  have sizes : Text.byteSize (Tag.written c.inlineTag "").toList = 16 ∧
      Text.byteSize (Tag.written c.openTag "").toList = 18 := by
    rw [inline, opening]
    decide +kernel
  have invoked := registered_invoked Engine.default
    [.entry (.tag "a%:%é\x7b\x7b%/" .loop)] (c := c)
    (proper (by rw [inline]; decide) (by rw [inline]; decide +kernel))
    (proper (by rw [opening]; decide) (by rw [opening]; decide +kernel))
    (proper (by rw [closing]; decide) (by rw [closing]; decide +kernel))
    (by rw [inline, opening]; decide) ""
  rw [sizes.1, sizes.2, sources.1, sources.2, inline, opening] at invoked
  exact invoked

end Engine

end SlotTemplate
