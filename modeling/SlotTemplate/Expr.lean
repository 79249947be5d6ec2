import SlotTemplate.Value
import SlotTemplate.Text.Span

/-!
# Expressions

A literal or a lookup, passed through filters.
-/

namespace SlotTemplate

/-- What an expression starts with. -/
inductive Primary where
  | literal (v : Value)
  /-- A name and the keys that follow it. -/
  | lookup (name : String) (keys : List String)

instance : Inhabited Primary := ⟨.literal .null⟩

/-- What a filter does; only `default` has an argument. -/
inductive FilterKind where
  | default (alternative : Primary)
  | upper
  | lower
  | title
  | length
  | safe
  | escape

namespace FilterKind

def name : FilterKind → String
  | .default _ => "default"
  | .upper => "upper"
  | .lower => "lower"
  | .title => "title"
  | .length => "length"
  | .safe => "safe"
  | .escape => "escape"

def argument? : FilterKind → Option Primary
  | .default alternative => some alternative
  | _ => none

/-- The filter without argument that has a name. -/
def plain? : String → Option FilterKind
  | "upper" => some .upper
  | "lower" => some .lower
  | "title" => some .title
  | "length" => some .length
  | "safe" => some .safe
  | "escape" => some .escape
  | _ => none

end FilterKind

structure Filter where
  kind : FilterKind
  /-- From the bar to the end of the name or argument. -/
  span : Span

structure Expr where
  primary : Primary
  filters : List Filter
  span : Span

instance : Inhabited Expr := ⟨⟨default, [], default⟩⟩

end SlotTemplate
