import SlotTemplate.Proofs.Argument.Relocation
import SlotTemplate.Proofs.Derivation
import SlotTemplate.Proofs.Markup.Replacement

/-!
# Derivations of what says the same

A source that says the same as another one, up to places and up to what its variables hold, has the
same derivation, and stands for nodes of the same form.

* `SameForms`: two forms of nodes that go by the forms of their parts, and not by places;
* `Builds.restate_forms`: a tag that is written somewhere else makes a node of the same form;
* `Derives.restate_forms`: so do lexemes that say the same.
-/

namespace SlotTemplate

open Markup

/-! ## Lexemes at other places -/

namespace Markup.SameTokens

variable {l : Lexeme} {ls ls' ms : List Lexeme}

theorem nil_inv (h : SameTokens [] ls') : ls' = [] := List.map_eq_nil_iff.1 h.symm

theorem cons_inv (h : SameTokens (l :: ls) ls') :
    ∃ l' ms, ls' = l' :: ms ∧ l.token.relocate .erased = l'.token.relocate .erased ∧
      SameTokens ls ms := by
  obtain ⟨l', ms, rfl, here, there⟩ := List.map_eq_cons_iff.1 h.symm
  exact ⟨l', ms, rfl, (congrArg Lexeme.token here).symm, there.symm⟩

theorem append_inv (h : SameTokens (ls ++ ms) ls') :
    ∃ ls₁ ls₂, ls' = ls₁ ++ ls₂ ∧ SameTokens ls ls₁ ∧ SameTokens ms ls₂ := by
  rw [SameTokens, List.map_append] at h
  obtain ⟨ls₁, ls₂, rfl, first, second⟩ := List.map_eq_append_iff.1 h.symm
  exact ⟨ls₁, ls₂, rfl, first.symm, second.symm⟩

end Markup.SameTokens

section

variable {l l' : Lexeme} (same : l.token.relocate .erased = l'.token.relocate .erased)

include same

theorem Markup.Lexeme.text_of_same {s : String} (token : l.token = .text s) :
    l'.token = .text s := by
  rw [token] at same
  cases h : l'.token <;> rw [h] at same <;> cases same
  rfl

theorem Markup.Lexeme.variable_of_same {contents : String} {offset : Nat}
    (token : l.token = .variable contents offset) :
    ∃ offset', l'.token = .variable contents offset' := by
  rw [token] at same
  cases h : l'.token <;> rw [h] at same <;> cases same
  exact ⟨_, rfl⟩

theorem Markup.Lexeme.block_of_same {tag : Tag} (token : l.token = .block tag) :
    ∃ tag', l'.token = .block tag' ∧ tag'.contents = tag.contents := by
  rw [token] at same
  cases h : l'.token with
  | text | «variable» =>
    rw [h] at same
    cases same
  | block tag' =>
    rw [h] at same
    exact ⟨tag', rfl, (congrArg Tag.contents (Token.block.inj same)).symm⟩

theorem Markup.Lexeme.Named.of_same {name : String} (h : l.Named name) : l'.Named name := by
  obtain ⟨tag, token, named⟩ := h
  obtain ⟨tag', token', contents⟩ := Lexeme.block_of_same same token
  exact ⟨tag', token', (Tag.name_congr contents).trans named⟩

/-- A tag opens a block wherever it stands. -/
theorem Head.Opens.of_same {binding : Binding} {tag : Tag} {ends : List String}
    {tags : Dict Binding} (h : (⟨l, tag, binding⟩ : Head).Opens ends tags) :
    ∃ tag', (⟨l', tag', binding⟩ : Head).Opens ends tags ∧ tag'.contents = tag.contents := by
  obtain ⟨tag', token, contents⟩ := Lexeme.block_of_same same h.token
  have name := Tag.name_congr contents
  exact ⟨tag', ⟨token, by rw [name]; exact h.free, by rw [name]; exact h.bound⟩, contents⟩

end

/-! ## Changes of variables -/

section

variable {φ : Lexeme → Lexeme} (blocks : ∀ {l : Lexeme} {tag : Tag}, l.token = .block tag →
  (φ l).token = .block tag)

include blocks

theorem Head.Opens.change {l : Lexeme} {tag : Tag} {b : Binding} {ends : List String}
    {tags : Dict Binding} (h : (⟨l, tag, b⟩ : Head).Opens ends tags) :
    (⟨φ l, tag, b⟩ : Head).Opens ends tags :=
  ⟨blocks h.token, h.free, h.bound⟩

theorem Markup.Lexeme.Named.change {l : Lexeme} {name : String} (h : l.Named name) :
    (φ l).Named name := by
  obtain ⟨tag, token, named⟩ := h
  exact ⟨tag, blocks token, named⟩

end

/-! ## Forms of nodes -/

/-- Two forms of nodes that agree on nodes whose parts have the same forms, wherever these nodes
stand. -/
structure SameForms (f g : Node → Node) : Prop where
  left : Recasts .erased f
  right : Recasts .erased g
  text (s : String) : f (.text s) = g (.text s)
  slotOutput (name : String) : f (.slotOutput name) = g (.slotOutput name)
  empty : f .empty = g .empty
  invocation (c : Component) (tag : String) (args : List Argument) (r : Relocation)
    (slots slots' : List Slot) (span span' : Span)
    (same : slots.map (fun slot => (⟨slot.name, slot.content.map f⟩ : Slot)) =
      slots'.map fun slot => ⟨slot.name, slot.content.map g⟩) :
    f (.invocation c tag args slots span) =
      g (.invocation c tag (args.map (·.relocate r)) slots' span')

/-- A change of lexemes that touches variables alone, under which the nodes of variables keep their
form. -/
structure Restates (φ : Lexeme → Lexeme) (f g : Node → Node) : Prop extends SameForms f g where
  texts {l : Lexeme} {s : String} (token : l.token = .text s) : (φ l).token = .text s
  blocks {l : Lexeme} {tag : Tag} (token : l.token = .block tag) : (φ l).token = .block tag
  outputs {l : Lexeme} {contents : String} {offset : Nat} {e : Expr}
    (token : l.token = .variable contents offset)
    (valid : Expr.ofVariable contents offset l.line = .ok e) :
    ∃ contents', (φ l).token = .variable contents' offset ∧ ∀ offset' line',
      ∃ e', Expr.ofVariable contents' offset' line' = .ok e' ∧ f (.variable e) = g (.variable e')

section

variable {f g : Node → Node}

/-- Bodies of the same form have slots of the same form. -/
theorem SameForms.bodySlots (h : SameForms f g) {body body' : List Node}
    (same : body.map f = body'.map g) :
    (bodySlots body).map (fun slot => (⟨slot.name, slot.content.map f⟩ : Slot)) =
      (SlotTemplate.bodySlots body').map fun slot => ⟨slot.name, slot.content.map g⟩ := by
  rw [← bodySlots_recast h.left, ← bodySlots_recast h.right, same]

/-- A tag that is written somewhere else makes a node of the same form, of parts of the same
forms. -/
theorem Builds.restate_forms {b : Binding} {tag tag' : Tag}
    {first first' second second' : List Node} {node : Node} (h : Builds b tag first second node)
    (forms : SameForms f g) (contents : tag'.contents = tag.contents)
    (one : first.map f = first'.map g) (two : second.map f = second'.map g) :
    ∃ node', Builds b tag' first' second' node' ∧ f node = g node' := by
  obtain ⟨r, moves⟩ := Relocation.exists_moves tag.argsOffset tag'.argsOffset
  have args := Tag.args_congr contents
  have name := Tag.name_congr contents
  have none {ns : List Node} (e : ([] : List Node).map f = ns.map g) : ns = [] :=
    List.map_eq_nil_iff.1 e.symm
  cases h with
  | conditional header =>
    refine ⟨_, .conditional (Tag.condition_relocate args moves header), ?_⟩
    rw [forms.left.conditional, forms.right.conditional, one, two, Expr.erased_relocate]
  | loop header =>
    refine ⟨_, .loop (Tag.loopHeader_relocate args moves header), ?_⟩
    rw [forms.left.loop, forms.right.loop, one, two, Expr.erased_relocate]
  | slot header =>
    cases none two
    refine ⟨_, .slot (Tag.slotName_congr contents header), ?_⟩
    rw [forms.left.marker, forms.right.marker, one]
    rfl
  | slotOutput header =>
    cases none one
    cases none two
    exact ⟨_, .slotOutput (Tag.slotName_congr contents header), forms.slotOutput _⟩
  | inline header =>
    cases none one
    cases none two
    refine ⟨_, .inline (Tag.invocationArguments_relocate args moves header), ?_⟩
    rw [name]
    exact forms.invocation _ _ _ r [] [] _ _ rfl
  | block header distinct =>
    cases none two
    have slots := forms.bodySlots one
    have names := congrArg (List.map Slot.name) slots
    simp only [List.map_map, Function.comp_def] at names
    refine ⟨_, .block (Tag.invocationArguments_relocate args moves header) (names ▸ distinct), ?_⟩
    rw [name]
    exact forms.invocation _ _ _ r _ _ _ _ slots
  | @plain output =>
    cases none one
    cases none two
    refine ⟨_, .plain, ?_⟩
    cases output with
    | none => exact forms.empty
    | some s => exact forms.text s

end

/-! ## Derivations -/

/-- Lexemes that say the same but for a change of variables stand for nodes of the same form. -/
theorem Derives.restate_forms {φ : Lexeme → Lexeme} {f g : Node → Node} {libraries : Dict Library}
    {ends : List String} {tags tags' : Dict Binding} {d : Derivation} {ns : List Node}
    {ls : List Lexeme} (h : Derives libraries ends tags d ns tags') (forms : Restates φ f g)
    (same : SameTokens (d.lexemes.map φ) ls) :
    ∃ d' ns', ls = d'.lexemes ∧ Derives libraries ends tags d' ns' tags' ∧
      ns.map f = ns'.map g := by
  have nothing : ([] : List Node).map f = [].map g := rfl
  induction h generalizing ls with
  | nil => exact ⟨.nil, [], same.nil_inv, .nil, rfl⟩
  | text token _ ih =>
    obtain ⟨l, ms, rfl, here, there⟩ := same.cons_inv
    obtain ⟨d', ns', rfl, rest, alike⟩ := ih there
    exact ⟨.text l d', _, rfl, .text (Lexeme.text_of_same here (forms.texts token)) rest, by
      rw [List.map_cons, List.map_cons, alike, forms.text]⟩
  | output token valid _ ih =>
    obtain ⟨l, ms, rfl, here, there⟩ := same.cons_inv
    obtain ⟨d', ns', rfl, rest, alike⟩ := ih there
    obtain ⟨contents', changed, reads⟩ := forms.outputs token valid
    obtain ⟨offset', token'⟩ := Lexeme.variable_of_same here changed
    obtain ⟨e', valid', e⟩ := reads offset' l.line
    exact ⟨.output l d', _, rfl, .output token' valid' rest, by
      rw [List.map_cons, List.map_cons, alike, e]⟩
  | load opens load named loads _ ih =>
    obtain ⟨l, ms, rfl, here, there⟩ := same.cons_inv
    obtain ⟨d', ns', rfl, rest, alike⟩ := ih there
    obtain ⟨tag', opens', contents⟩ := Head.Opens.of_same here (opens.change forms.blocks)
    have words := Tag.words_congr contents
    rw [← words] at named loads
    exact ⟨.single ⟨l, tag', _⟩ d', _, rfl, .load opens' load named loads rest, by
      rw [List.map_cons, List.map_cons, alike, forms.empty]⟩
  | single opens form builds _ ih =>
    obtain ⟨l, ms, rfl, here, there⟩ := same.cons_inv
    obtain ⟨d', ns', rfl, rest, alike⟩ := ih there
    obtain ⟨tag', opens', contents⟩ := Head.Opens.of_same here (opens.change forms.blocks)
    obtain ⟨node', builds', e⟩ := builds.restate_forms forms.toSameForms contents nothing nothing
    exact ⟨.single ⟨l, tag', _⟩ d', _, rfl, .single opens' form builds' rest, by
      rw [List.map_cons, List.map_cons, alike, e]⟩
  | block opens form _ closes builds _ ihc ih =>
    obtain ⟨l, _, rfl, here, block⟩ := same.cons_inv
    rw [List.map_append] at block
    obtain ⟨_, _, rfl, inside, behind⟩ := block.append_inv
    obtain ⟨closing', _, rfl, closed, others⟩ := behind.cons_inv
    obtain ⟨inner', body', rfl, content, alikeBody⟩ := ihc inside
    obtain ⟨d', ns', rfl, rest, alike⟩ := ih others
    obtain ⟨tag', opens', contents⟩ := Head.Opens.of_same here (opens.change forms.blocks)
    obtain ⟨node', builds', e⟩ := builds.restate_forms forms.toSameForms contents alikeBody nothing
    have closes' := Lexeme.Named.of_same closed (closes.change forms.blocks)
    exact ⟨.block ⟨l, tag', _⟩ inner' closing' d', _, rfl,
      .block opens' form content closes' builds' rest, by
      rw [List.map_cons, List.map_cons, alike, e]⟩
  | divided opens form _ divides _ closes builds _ ihc ihm ih =>
    obtain ⟨l, _, rfl, here, block⟩ := same.cons_inv
    rw [List.map_append] at block
    obtain ⟨_, _, rfl, inside, behind⟩ := block.append_inv
    obtain ⟨dividing', _, rfl, divided, second⟩ := behind.cons_inv
    rw [List.map_append] at second
    obtain ⟨_, _, rfl, more, behind'⟩ := second.append_inv
    obtain ⟨closing', _, rfl, closed, others⟩ := behind'.cons_inv
    obtain ⟨first', left', rfl, content, alikeLeft⟩ := ihc inside
    obtain ⟨second', right', rfl, content', alikeRight⟩ := ihm more
    obtain ⟨d', ns', rfl, rest, alike⟩ := ih others
    obtain ⟨tag', opens', contents⟩ := Head.Opens.of_same here (opens.change forms.blocks)
    obtain ⟨node', builds', e⟩ :=
      builds.restate_forms forms.toSameForms contents alikeLeft alikeRight
    have divides' := Lexeme.Named.of_same divided (divides.change forms.blocks)
    have closes' := Lexeme.Named.of_same closed (closes.change forms.blocks)
    exact ⟨.divided ⟨l, tag', _⟩ first' dividing' second' closing' d', _, rfl,
      .divided opens' form content divides' content' closes' builds' rest, by
      rw [List.map_cons, List.map_cons, alike, e]⟩

end SlotTemplate
