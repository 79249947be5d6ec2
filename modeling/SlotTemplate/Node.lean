import SlotTemplate.Expr
import SlotTemplate.Component

/-!
# Compiled templates

The tree that a source compiles to.
-/

namespace SlotTemplate

/-- A named argument of an invocation, from the start of its name to the end of its value. -/
structure Argument where
  name : String
  value : Expr
  span : Span

mutual

inductive Node where
  | text (text : String)
  | variable (expr : Expr)
  | conditional (negated : Bool) (condition : Expr) (thenBranch elseBranch : List Node)
  /-- `empty` stands in for a body that has no item to run through. -/
  | loop (variableName : String) (iterable : Expr) (body empty : List Node)
  /-- An invocation of a component under the tag that was written; inline it has no slots. -/
  | invocation (component : Component) (tag : String) (args : List Argument) (slots : List Slot)
    (span : Span)
  /-- The place of a slot, with the content that stands there if the slot is not filled. -/
  | marker (name : String) (content : List Node) (span : Span) (line : Nat)
  /-- The place of a slot without content of its own. -/
  | slotOutput (name : String)
  | empty

/-- A named part of the body of an invocation. -/
structure Slot where
  name : String
  content : List Node

end

instance : Inhabited Node := ⟨.empty⟩

/-- A compiled template. -/
structure Template where
  name : String
  nodes : List Node

instance : Inhabited Template := ⟨⟨"", []⟩⟩

end SlotTemplate
