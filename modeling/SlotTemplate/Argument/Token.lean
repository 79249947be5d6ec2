import SlotTemplate.Text.Span
import SlotTemplate.Decimal.Reader

/-!
# Argument tokens

The tokens inside a variable or after a tag's name, and their names in messages.
-/

namespace SlotTemplate.Argument

inductive Token where
  | equals
  | pipe
  | colon
  | dot
  | ident (name : String)
  | string (text : String)
  | int (n : Int64)
  | float (x : Binary64)
deriving DecidableEq, Inhabited

/-- A token with its place in the source. -/
abbrev Placed := Token × Span

/-- How messages name a token. -/
def Token.describe : Token → String
  | .equals => "'='"
  | .pipe => "'|'"
  | .colon => "':'"
  | .dot => "'.'"
  | .ident name => "identifier '" ++ name ++ "'"
  | .string text => "string \"" ++ text ++ "\""
  | .int n => "number " ++ toString n.toInt
  | .float x => "number " ++ x.text

end SlotTemplate.Argument
