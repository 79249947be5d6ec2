import SlotTemplate.Expr
import SlotTemplate.Scope
import SlotTemplate.Text.Case

/-!
# Evaluation of expressions

Evaluation never fails: what a lookup does not find is null.
-/

namespace SlotTemplate

def Primary.eval (scope : Scope) : Primary → Value
  | .literal v => v
  | .lookup name keys => scope.lookup (name :: keys)

namespace Value

/-- Changes the text of a value; null stays null and safe text stays safe. -/
def mapText (f : List Char → List Char) : Value → Value
  | .null => .null
  | .safe s => .safe (String.ofList (f s.toList))
  | .slots s => .safe (String.ofList (f (Value.slots s).text.toList))
  | v => .string (String.ofList (f v.text.toList))

/-- Marks the text of a value as safe. -/
def markSafe : Value → Value
  | .safe s => .safe s
  | v => .safe v.text

/-- Escapes the text of a value once; safe text stays as it is. -/
def escape : Value → Value
  | .safe s => .safe s
  | v => .safe (Text.escapeHtml v.text)

end Value

def FilterKind.apply (scope : Scope) (v : Value) : FilterKind → Value
  | .default alternative => if v.isTruthy then v else alternative.eval scope
  | .upper => v.mapText Text.upper
  | .lower => v.mapText Text.lower
  | .title => v.mapText Text.title
  | .length => .int (Int64.ofNat v.length)
  | .safe => v.markSafe
  | .escape => v.escape

/-- The value of an expression in a scope. -/
def Expr.eval (e : Expr) (scope : Scope) : Value :=
  e.filters.foldl (fun v f => f.kind.apply scope v) (e.primary.eval scope)

end SlotTemplate
