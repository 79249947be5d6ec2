import SlotTemplate.Proofs.Argument.Extension
import SlotTemplate.Proofs.Derivation.Parsing
import SlotTemplate.Proofs.Derivation.Restatement
import SlotTemplate.Proofs.Markup.SafeMarks
import SlotTemplate.Proofs.Tree.SafeMarks

/-!
# Compiling marked sources

A source with marked variables stands for the nodes of the source, with marked variables.

* `restates_markSafe`: marked lexemes make nodes of the same form;
* `Engine.compileNamed_markSafe`: a marked source compiles to the marked template.
-/

namespace SlotTemplate

open Markup

/-- Marked variables make marked nodes, and tags make the nodes that they made before. -/
theorem restates_markSafe :
    Restates Lexeme.markSafe (fun n => n.markSafe.relocate .erased) (Node.relocate .erased) where
  left := recasts_markSafe .erased
  right := recasts_relocate .erased
  text _ := rfl
  slotOutput _ := rfl
  empty := rfl
  invocation c tag args r slots slots' span span' same := by
    have contents : relocateSlots .erased (markSafeSlots slots) = relocateSlots .erased slots' := by
      simpa only [relocateSlots_eq_map, markSafeSlots_eq_map, relocateAll_eq_map, List.map_map,
        Function.comp_def] using same
    simp only [Node.markSafe, Node.relocate, contents, List.map_map, Function.comp_def,
      Argument.erased_relocate]
    rfl
  texts token := by simp only [Lexeme.markSafe, token, Token.markSafe]
  blocks token := by simp only [Lexeme.markSafe, token, Token.markSafe]
  outputs {_ contents offset e} token valid := by
    refine ⟨contents ++ "|safe", by simp only [Lexeme.markSafe, token, Token.markSafe], ?_⟩
    intro offset' line'
    obtain ⟨r, moves⟩ := Relocation.exists_moves offset offset'
    have written : "|safe".toList = '|' :: "safe".toList := rfl
    have marked := Expr.ofVariable_filter valid rfl written
    refine ⟨_, Expr.ofVariable_relocate moves marked line', ?_⟩
    rw [Node.markSafe, Node.relocate, Node.relocate, Expr.erased_relocate]
    simp only [Expr.relocate, Expr.markSafe, List.map_append]
    rfl

/-- The second template is the first one with marked variables, wherever its nodes stand. -/
structure Template.Marked (t t' : Template) : Prop where
  name : t.name = t'.name
  nodes : relocateAll .erased (markSafeAll t.nodes) = relocateAll .erased t'.nodes

theorem Template.marked_markSafe (t : Template) : t.Marked t.markSafe := ⟨rfl, rfl⟩

/-- A marked source compiles to the marked template. -/
theorem Engine.compileNamed_markSafe {e : Engine} {name source : String} {t : Template}
    (h : e.compileNamed name source = .ok t) :
    ∃ t', e.compileNamed name (Markup.markSafe source) = .ok t' ∧ t.Marked t' := by
  obtain ⟨rfl, d, tags, lexemes, derives⟩ := compileNamed_eq_ok_iff.1 h
  have same : SameTokens (d.lexemes.map Lexeme.markSafe) (tokenize (Markup.markSafe source)) := by
    rw [lexemes]
    exact tokenize_markSafe source
  obtain ⟨d', ns', lexemes', derives', nodes⟩ := derives.restate_forms restates_markSafe same
  refine ⟨⟨t.name, ns'⟩, ?_, rfl, ?_⟩
  · exact compileNamed_eq_ok_iff.2 ⟨rfl, d', tags, lexemes'.symm, derives'⟩
  · simpa only [relocateAll_eq_map, markSafeAll_eq_map, List.map_map, Function.comp_def] using nodes

end SlotTemplate
