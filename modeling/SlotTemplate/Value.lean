import SlotTemplate.Dict
import SlotTemplate.SlotMap
import SlotTemplate.Decimal.Reader
import SlotTemplate.Text.Escape

/-!
# Values

What expressions evaluate to and templates print.
-/

namespace SlotTemplate

inductive Value where
  | null
  | bool (b : Bool)
  | int (n : Int64)
  | float (x : Binary64)
  | string (text : String)
  /-- Text that is not escaped again. -/
  | safe (text : String)
  | list (items : List Value)
  | map (fields : Dict Value)
  /-- The rendered slots of an invocation. -/
  | slots (slots : SlotMap)

/-- Variables by name. -/
abbrev Data := Dict Value

namespace Value

instance : Inhabited Value := ⟨.null⟩

def isTruthy : Value → Bool
  | .null => false
  | .bool b => b
  | .int n => n != 0
  | .float x => !x.isZero
  | .string text => !text.isEmpty
  | .safe text => !text.isEmpty
  | .list items => !items.isEmpty
  | .map fields => !fields.isEmpty
  | .slots s => s.names.any s.isFilled

/-- Whether the text of a value is printed without escaping. -/
def isSafe : Value → Bool
  | .safe _ => true
  | .slots _ => true
  | _ => false

/-- The value under a key or an index. What is missing is null, except that rendered slots have a
text for every name. -/
def get (v : Value) (key : String) : Value :=
  match v with
  | .map fields => (fields.get? key).getD .null
  | .list items => ((indexOfText? key.toList).bind (items[·]?)).getD .null
  | .slots s => .safe (s.get key)
  | _ => .null

/-- Characters of a text, members of a collection, and zero for all else. -/
def length : Value → Nat
  | .string text => text.length
  | .safe text => text.length
  | .list items => items.length
  | .map fields => fields.size
  | .slots s => s.size
  | _ => 0

mutual

/-- The text of a value. -/
def text : Value → String
  | .null => ""
  | .bool b => if b then "true" else "false"
  | .int n => toString n.toInt
  | .float x => x.text
  | .string s => s
  | .safe s => s
  | .list items => "[" ++ String.intercalate ", " (texts items) ++ "]"
  | .map fields => "\x7b" ++ String.intercalate ", " (fieldTexts fields) ++ "\x7d"
  | .slots s => s.get defaultSlot

/-- The texts of the items of a list. -/
def texts : List Value → List String
  | [] => []
  | v :: vs => text v :: texts vs

/-- The texts of the fields of a map. -/
def fieldTexts : Dict Value → List String
  | ⟨entries⟩ => entryTexts entries

def entryTexts : List (String × Value) → List String
  | [] => []
  | e :: es => entryText e :: entryTexts es

def entryText : String × Value → String
  | (key, v) => key ++ ": " ++ text v

end

/-- What a value prints; escaping leaves safe values as they are. -/
def render (v : Value) (autoescape : Bool) : String :=
  if autoescape && !v.isSafe then Text.escapeHtml v.text else v.text

/-- The items that a loop over a value runs through: the items of a list, the keys of a map, the
characters of a text, and none for all else. -/
def items : Value → List Value
  | .list items => items
  | .map fields => fields.keys.map .string
  | .string text => text.toList.map fun c => .string (String.singleton c)
  | .safe text => text.toList.map fun c => .string (String.singleton c)
  | _ => []

end Value

end SlotTemplate
