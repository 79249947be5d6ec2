import SlotTemplate.Proofs.Derivation.Exchange
import SlotTemplate.Proofs.Tree.Expansion

/-!
# One form of an invocation in place of the other

A source with the one form of an invocation without content has a derivation exactly if it has one
with the other form, and both stand for nodes that expand to the same.

* `compares_expand`: expanded nodes do not show where they stand;
* `Exchange.block_of_inline`, `Exchange.inline_of_block`: the two forms at a place;
* `Arrives.interchange`: the two forms in the whole source.
-/

namespace SlotTemplate

open Markup

/-! ## Nodes -/

theorem restates_expand : Restates id Node.expand Node.expand where
  left := recasts_expand
  right := recasts_expand
  text _ := rfl
  slotOutput _ := rfl
  empty := rfl
  invocation c tag args r slots slots' span span' same := by
    have contents : expandSlots slots = expandSlots slots' := by
      simpa only [expandSlots_eq_map, expandAll_eq_map] using same
    simp only [Node.expand, contents, List.map_map, Function.comp_def, Argument.erased_relocate]
    rfl
  texts token := token
  blocks token := token
  outputs token valid := by
    refine ⟨_, token, fun offset' line' => ?_⟩
    obtain ⟨r, moves⟩ := Relocation.exists_moves _ offset'
    refine ⟨_, Expr.ofVariable_relocate moves valid line', ?_⟩
    rw [Node.expand, Node.expand, Expr.erased_relocate]

/-- Expanded nodes do not show where they stand, and all blocks go by the expansions of their
parts. -/
theorem compares_expand : Compares Node.expand fun _ => True where
  restate derives same := derives.restate_forms restates_expand (by rwa [List.map_id])
  rebuild _ builds one two := builds.restate_forms restates_expand.toSameForms rfl one two

/-! ## The two forms of an invocation -/

/-- Both forms of an invocation without content expand to the same. -/
theorem Node.expand_forms (c : Component) (args : List Argument) (name name' : String)
    (span span' : Span) (r : Relocation) :
    (Node.invocation c name args [] span).expand =
      (Node.invocation c name' (args.map (·.relocate r)) (bodySlots []) span').expand := by
  simp only [Node.expand, List.map_map, Function.comp_def, Argument.erased_relocate]
  rfl

section

variable {c : Component} {tag tag' : Tag} (args : tag'.args = tag.args) {node : Node}

include args

theorem Builds.block_of_inline (h : Builds (.inline c) tag [] [] node) :
    ∃ node', Builds (.block c) tag' [] [] node' ∧ node.expand = node'.expand := by
  obtain ⟨r, moves⟩ := Relocation.exists_moves tag.argsOffset tag'.argsOffset
  cases h with
  | inline header =>
    exact ⟨_, .block (Tag.invocationArguments_relocate args moves header) (by decide),
      Node.expand_forms _ _ _ _ _ _ r⟩

theorem Builds.inline_of_block (h : Builds (.block c) tag' [] [] node) :
    ∃ node', Builds (.inline c) tag [] [] node' ∧ node.expand = node'.expand := by
  obtain ⟨r, moves⟩ := Relocation.exists_moves tag'.argsOffset tag.argsOffset
  cases h with
  | @block _ _ as _ header =>
    refine ⟨_, .inline (Tag.invocationArguments_relocate args.symm moves header), ?_⟩
    rw [Node.expand_forms c _ tag.name tag'.name tag.span tag'.span .erased]
    simp only [Node.expand, List.map_map, Function.comp_def, Argument.erased_relocate]

end

section

variable {libraries : Dict Library} {ends : List String} {tags tags' : Dict Binding}
  {c : Component} {l o closing : Lexeme} {tag tag' : Tag} {rest rest' left : List Lexeme}
  {d : Derivation} {ns : List Node} (inline : (⟨l, tag, .inline c⟩ : Head).Opens ends tags)
  (block : (⟨o, tag', .block c⟩ : Head).Opens ends tags) (args : tag'.args = tag.args)
  (closes : closing.Named c.closeTag)

include inline block args closes

/-- An invocation as a block in place of one inline. -/
theorem Exchange.block_of_inline (derives : Derives libraries ends tags d ns tags')
    (split : l :: rest = d.lexemes ++ left) (stops : Stops ends left)
    (same : SameTokens rest rest') :
    Exchange Node.expand libraries ends tags (l :: rest) (o :: closing :: rest') := by
  have first := derives.head?_eq inline split stops
  cases derives with
  | nil | text | output => cases first
  | load _ load =>
    cases first
    cases load
  | block _ form | divided _ form =>
    cases first
    cases form
  | single opens alone builds more =>
    cases first
    obtain rfl := (List.cons.inj split).2
    obtain ⟨ls, left', rfl, here, there⟩ := same.append_inv
    obtain ⟨d', ns', rfl, more', alike⟩ := compares_expand.restate more here
    obtain ⟨node', builds', e⟩ := builds.block_of_inline args
    refine ⟨_, _, .block ⟨o, tag', .block c⟩ .nil closing d', node' :: ns', tags', left, left',
      split, by simp [Derivation.lexemes], .single opens alone builds more,
      .block block rfl .nil closes builds' more', ?_, stops, there⟩
    rw [List.map_cons, List.map_cons, e, alike]

/-- An invocation inline in place of one as a block without content. -/
theorem Exchange.inline_of_block (derives : Derives libraries ends tags d ns tags')
    (split : o :: closing :: rest = d.lexemes ++ left) (stops : Stops ends left)
    (same : SameTokens rest rest') :
    Exchange Node.expand libraries ends tags (o :: closing :: rest) (l :: rest') := by
  have form : (⟨o, tag', .block c⟩ : Head).binding.form = .block none c.closeTag := rfl
  obtain ⟨inner, closing', d₁, body, node, ns₁, tags₁, rfl, rfl, content, closes', builds, more,
      e⟩ |
    ⟨_, _, _, _, _, _, _, _, _, _, _, _, divided, -⟩ := derives.block_inv block form split stops
  · obtain ⟨rfl, rfl, rfl, e'⟩ :=
      Derives.nil.unique content e (.tag closes (by simp)) (.tag closes' (by simp))
    obtain ⟨rfl, rfl⟩ := List.cons.inj e'
    obtain ⟨ls, left', rfl, here, there⟩ := same.append_inv
    obtain ⟨d', ns', rfl, more', alike⟩ := compares_expand.restate more here
    obtain ⟨node', builds', e'⟩ := builds.inline_of_block args
    refine ⟨_, _, .single ⟨l, tag, .inline c⟩ d', node' :: ns', tags', left, left', split,
      by simp [Derivation.lexemes], derives, .single inline rfl builds' more', ?_, stops, there⟩
    rw [List.map_cons, List.map_cons, e', alike]
  · cases divided

end

/-- Where a parser comes to an invocation, a source has a derivation with the one form of it exactly
if it has one with the other form, and both stand for nodes that expand to the same. -/
theorem Arrives.interchange {libraries : Dict Library} {builtins tags : Dict Binding}
    {read rest rest' : List Lexeme} {heads : List Head} {blocks : List OpenBlock} {c : Component}
    {l o closing : Lexeme} {tag tag' : Tag} (h : Arrives libraries builtins read heads blocks tags)
    (inline : (⟨l, tag, .inline c⟩ : Head).Opens (awaited blocks) tags)
    (block : (⟨o, tag', .block c⟩ : Head).Opens (awaited blocks) tags) (args : tag'.args = tag.args)
    (closes : closing.Named c.closeTag) (same : SameTokens rest rest') :
    (∀ d ns tags', Derives libraries [] builtins d ns tags' → d.lexemes = read ++ l :: rest →
      ∃ d' ns', d'.lexemes = read ++ o :: closing :: rest' ∧
        Derives libraries [] builtins d' ns' tags' ∧ expandAll ns = expandAll ns') ∧
    ∀ d ns tags', Derives libraries [] builtins d ns tags' →
      d.lexemes = read ++ o :: closing :: rest' →
      ∃ d' ns', d'.lexemes = read ++ l :: rest ∧ Derives libraries [] builtins d' ns' tags' ∧
        expandAll ns = expandAll ns' := by
  simp only [expandAll_eq_map]
  constructor
  · intro d ns tags' whole split
    obtain ⟨_, _, _, _, next, derives, stops, -⟩ := h.heads_isPrefix whole split
    exact h.exchange compares_expand (fun _ _ => trivial) whole split
      (.block_of_inline inline block args closes derives next stops same)
  · intro d ns tags' whole split
    obtain ⟨_, _, _, _, next, derives, stops, -⟩ := h.heads_isPrefix whole split
    exact h.exchange compares_expand (fun _ _ => trivial) whole split
      (.inline_of_block inline block args closes derives next stops same.symm)

end SlotTemplate
