import SlotTemplate.Engine
import SlotTemplate.Proofs.Argument.Relocation
import SlotTemplate.Proofs.Derivation.Parsing
import SlotTemplate.Proofs.Markup.Concatenation

/-!
# Derivations one behind another

* `Derives.shift`: a derivation stands for the same nodes wherever it stands, and their places move
  with it;
* `compileSource_append`: two sources one behind another compile to the nodes of both.
-/

namespace SlotTemplate

open Markup

def Head.relocate (r : Relocation) (h : Head) : Head :=
  ⟨h.lexeme.relocate r, h.tag.relocate r, h.binding⟩

namespace Derivation

def relocate (r : Relocation) : Derivation → Derivation
  | .nil => .nil
  | .text lexeme rest => .text (lexeme.relocate r) (rest.relocate r)
  | .output lexeme rest => .output (lexeme.relocate r) (rest.relocate r)
  | .single head rest => .single (head.relocate r) (rest.relocate r)
  | .block head body closing rest =>
    .block (head.relocate r) (body.relocate r) (closing.relocate r) (rest.relocate r)
  | .divided head first middle second closing rest =>
    .divided (head.relocate r) (first.relocate r) (middle.relocate r) (second.relocate r)
      (closing.relocate r) (rest.relocate r)

theorem lexemes_relocate (r : Relocation) (d : Derivation) :
    (d.relocate r).lexemes = d.lexemes.map (Lexeme.relocate r) := by
  induction d with
  | nil => rfl
  | text _ _ ih | output _ _ ih | single _ _ ih =>
    simp only [relocate, lexemes, ih, List.map_cons, Head.relocate]
  | block _ _ _ _ ihBody ih =>
    simp only [relocate, lexemes, ihBody, ih, List.map_cons, List.map_append, Head.relocate]
  | divided _ _ _ _ _ _ ihFirst ihSecond ih =>
    simp only [relocate, lexemes, ihFirst, ihSecond, ih, List.map_cons, List.map_append,
      Head.relocate]

end Derivation

section

variable {libraries : Dict Library} {ends : List String} {tags tags₁ : Dict Binding}
  {n k : Nat}

/-- A tag makes the same node wherever it stands. -/
theorem Builds.shift {b : Binding} {tag : Tag} {first second : List Node} {node : Node}
    (h : Builds b tag first second node) :
    Builds b (tag.relocate (.shift n k)) (relocateAll (.shift n k) first)
      (relocateAll (.shift n k) second) (node.relocate (.shift n k)) := by
  have contents : (tag.relocate (.shift n k)).contents = tag.contents := rfl
  have args := Tag.args_congr contents
  have moves : (Relocation.shift n k).Moves tag.argsOffset
      (tag.relocate (.shift n k)).argsOffset := by
    have offset : (tag.relocate (.shift n k)).argsOffset = tag.argsOffset + n :=
      Nat.add_right_comm _ _ _
    rw [offset]
    exact Relocation.shift_moves n k _
  cases h with
  | conditional header => exact .conditional (Tag.condition_relocate args moves header)
  | loop header => exact .loop (Tag.loopHeader_relocate args moves header)
  | slot header => exact .slot (Tag.slotName_congr contents header)
  | slotOutput header => exact .slotOutput (Tag.slotName_congr contents header)
  | inline header => exact .inline (Tag.invocationArguments_relocate args moves header)
  | @block c _ args' body header distinct =>
    rw [Node.relocate, ← bodySlots_relocate]
    refine .block (Tag.invocationArguments_relocate args moves header) ?_
    rwa [bodySlots_relocate, relocateSlots_names]
  | @plain output =>
    cases output with
    | none => exact .plain
    | some s => exact .plain

theorem Head.Opens.relocate {head : Head} (r : Relocation) (h : head.Opens ends tags) :
    (head.relocate r).Opens ends tags where
  token := congrArg (Token.relocate r) h.token
  free := h.free
  bound := h.bound

theorem Markup.Lexeme.Named.relocate {name : String} {l : Lexeme} (r : Relocation)
    (h : l.Named name) : (l.relocate r).Named name := by
  obtain ⟨tag, token, named⟩ := h
  exact ⟨tag.relocate r, congrArg (Token.relocate r) token, named⟩

namespace Derives

/-- A derivation stands for the same nodes wherever it stands. -/
theorem shift {d : Derivation} {ns : List Node} (h : Derives libraries ends tags d ns tags₁) :
    Derives libraries ends tags (d.relocate (.shift n k)) (relocateAll (.shift n k) ns) tags₁ := by
  induction h with
  | nil => exact .nil
  | text token _ ih => exact .text (congrArg (Token.relocate _) token) ih
  | output token valid _ ih =>
    exact .output (congrArg (Token.relocate _) token)
      (Expr.ofVariable_relocate (Relocation.shift_moves n k _) valid _) ih
  | load opens load named loads _ ih => exact .load (opens.relocate _) load named loads ih
  | single opens form builds _ ih => exact .single (opens.relocate _) form builds.shift ih
  | block opens form _ closes builds _ ihContent ih =>
    exact .block (opens.relocate _) form ihContent (closes.relocate _) builds.shift ih
  | divided opens form _ divides _ closes builds _ ihContent ihMore ih =>
    exact .divided (opens.relocate _) form ihContent (divides.relocate _) ihMore
      (closes.relocate _) builds.shift ih

end Derives

end

/-- Two sources one behind another compile to the nodes of both, if the first one ends with no text
and loads no library. -/
theorem compileSource_append {builtins : Library} {libraries : Dict Library} {a b : String}
    {ns ms : List Node} (ends : ∀ l ∈ (tokenize a).getLast?, ¬ l.IsText)
    (noLoad : ∀ l ∈ tokenize a, ∀ tag, l.token = .block tag →
      builtins.binding? tag.name ≠ some .load)
    (first : compileSource builtins libraries a = .ok ns)
    (second : compileSource builtins libraries b = .ok ms) :
    compileSource builtins libraries (a ++ b) = .ok
      (ns ++ relocateAll (.shift (Text.byteSize a.toList) (Text.newlines a.toList)) ms) := by
  obtain ⟨d, tags, lexemes, derives⟩ := Parser.parse_eq_ok_iff.1 first
  obtain ⟨d', tags', lexemes', derives'⟩ := Parser.parse_eq_ok_iff.1 second
  obtain rfl : tags = builtins.tags := derives.tags_eq (by rw [lexemes]; exact noLoad)
  refine Parser.parse_eq_ok_iff.2 ⟨_, tags', ?_, derives.append derives'.shift⟩
  rw [Derivation.lexemes_append, Derivation.lexemes_relocate, lexemes, lexemes',
    tokenize_append b ends]

end SlotTemplate
