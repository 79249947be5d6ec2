import SlotTemplate.Value

/-!
# JSON

The data model of JSON and its conversion to values.
-/

namespace SlotTemplate

namespace Json

/-- A number: an integer where it is written as one and fits 64 bits, with or without sign. -/
inductive Number where
  | integer (n : Int)
  | real (x : Binary64)
deriving DecidableEq, Inhabited

end Json

inductive Json where
  | null
  | bool (b : Bool)
  | number (n : Json.Number)
  | string (text : String)
  | array (items : List Json)
  | object (members : Dict Json)

namespace Json

instance : Inhabited Json := ⟨.null⟩

/-- An integer where it fits 64 bits with sign, else the nearest double-precision number. -/
def Number.toValue : Number → Value
  | .integer n => match Int64.ofInt? n with
    | some i => .int i
    | none => .float (Binary64.ofInt n)
  | .real x => .float x

mutual

def toValue : Json → Value
  | .null => .null
  | .bool b => .bool b
  | .number n => n.toValue
  | .string s => .string s
  | .array items => .list (toValues items)
  | .object members => .map (toFields members)

def toValues : List Json → List Value
  | [] => []
  | j :: js => toValue j :: toValues js

def toFields : Dict Json → Dict Value
  | ⟨entries⟩ => ⟨toEntries entries⟩

def toEntries : List (String × Json) → List (String × Value)
  | [] => []
  | e :: es => toEntry e :: toEntries es

def toEntry : String × Json → String × Value
  | (key, j) => (key, toValue j)

end

/-- Variables from an object; any other JSON has none. -/
def toData? : Json → Option Data
  | .object members => some (toFields members)
  | _ => none

/-- The member of an object under a key. -/
def member? (j : Json) (key : String) : Option Json :=
  match j with
  | .object members => members.get? key
  | _ => none

end Json

end SlotTemplate
