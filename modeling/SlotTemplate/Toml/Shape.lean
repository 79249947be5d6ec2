import SlotTemplate.Toml
import SlotTemplate.Value
import SlotTemplate.Text.Quoted

/-!
# Typed reading of TOML

Plain data and records out of TOML values, and what is said of a value of the wrong shape.
-/

namespace SlotTemplate.Toml

/-- What is wrong with the shape of a value. -/
inductive ShapeError where
  | invalidType (found : Toml) (expected : String)
  | negative (n : Int64) (expected : String)
  | unknownField (name : String) (known : List String)
  | missingField (name : String)
  /-- A list of the fields of a record that ends before a required one. -/
  | tooShort (length : Nat) (record : String) (fields : Nat)
  | unknownChoice (name : String) (known : List String)
  /-- Neither the name of a choice nor a table of it. -/
  | noChoice
  /-- A table that should name one choice and names this many. -/
  | manyChoices (count : Nat)
  /-- A choice that is given contents. -/
  | filledChoice (found : Toml)
  /-- What a choice holds in place of a table. -/
  | choiceHolds (found : Toml)

/-- The key under which a date or time stands where a table is wanted. -/
def datetimeKey : String := "$__toml_private_datetime"

/-- A float with at least one decimal place. -/
def floatText (x : Binary64) : String :=
  if x.isFinite && !x.text.contains '.' then x.text ++ ".0" else x.text

/-- What a value is called where another type is wanted. -/
def describe : Toml → String
  | .string text => "string " ++ Text.quoted text
  | .integer n => "integer `" ++ toString n.toInt ++ "`"
  | .float x => "floating point `" ++ floatText x ++ "`"
  | .boolean b => "boolean `" ++ (if b then "true" else "false") ++ "`"
  | .array _ => "sequence"
  | .tables _ => "sequence"
  | .datetime _ => "map"
  | .table _ => "map"

/-- The name of a value's type. -/
def typeName : Toml → String
  | .string _ => "string"
  | .integer _ => "integer"
  | .float _ => "float"
  | .boolean _ => "boolean"
  | .array _ => "array"
  | .tables _ => "array of tables"
  | .datetime _ => "datetime"
  | .table _ => "table"

namespace ShapeError

def ticked (s : String) : String := "`" ++ s ++ "`"

/-- What could have stood in place of a name. -/
def alternatives (names : List String) : String :=
  match names.map ticked with
  | [a] => "expected " ++ a
  | [a, b] => "expected " ++ a ++ " or " ++ b
  | names => "expected one of " ++ String.intercalate ", " names

def message : ShapeError → String
  | .invalidType found expected => "invalid type: " ++ found.describe ++ ", expected " ++ expected
  | .negative n expected =>
    "invalid value: " ++ (Toml.integer n).describe ++ ", expected " ++ expected
  | .unknownField name known => "unknown field " ++ ticked name ++ ", " ++ alternatives known
  | .missingField name => "missing field " ++ ticked name
  | .tooShort length record fields =>
    "invalid length " ++ toString length ++ ", expected " ++ record ++ " with " ++
      toString fields ++ " elements"
  | .unknownChoice name known => "unknown variant " ++ ticked name ++ ", " ++ alternatives known
  | .noChoice => "wanted string or table"
  | .manyChoices 0 => "wanted exactly 1 element, found 0 elements"
  | .manyChoices _ => "wanted exactly 1 element, more than 1 element"
  | .filledChoice (.tables _) => "expected empty array"
  | .filledChoice _ => "expected empty table"
  | .choiceHolds found => "expected table, found " ++ found.typeName

end ShapeError

/-! ## Plain data -/

/-- What is read from a value. -/
abbrev Reading (α : Type) := Except ShapeError α

/-- The entries of a table; a date or time counts as a table of its text. -/
def tableEntries? : Toml → Option (List (String × Toml))
  | .table entries => some entries
  | .datetime text => some [(datetimeKey, .string text)]
  | _ => none

/-- The items of an array, however it is written. -/
def arrayItems? : Toml → Option (List Toml)
  | .array items => some items
  | .tables items => some items
  | _ => none

def readBool : Toml → Reading Bool
  | .boolean b => .ok b
  | t => .error (.invalidType t "a boolean")

/-- A text, under the name that messages give it. -/
def readText (expected : String) : Toml → Reading String
  | .string text => .ok text
  | t => .error (.invalidType t expected)

def readString : Toml → Reading String := readText "a string"

def readPath : Toml → Reading String := readText "path string"

def readNat : Toml → Reading Nat
  | .integer n => if n < 0 then .error (.negative n "usize") else .ok n.toInt.toNat
  | t => .error (.invalidType t "usize")

def readList {α : Type} (read : Toml → Reading α) (t : Toml) : Reading (List α) :=
  match t.arrayItems? with
  | some items => items.mapM read
  | none => .error (.invalidType t "a sequence")

mutual

/-- The value that templates see. A float that is not finite becomes null. -/
def toValue : Toml → Value
  | .string text => .string text
  | .integer n => .int n
  | .float x => if x.isFinite then .float x else .null
  | .boolean b => .bool b
  | .datetime text => .map (Dict.ofList [(datetimeKey, .string text)])
  | .array items => .list (toValues items)
  | .tables items => .list (toValues items)
  | .table entries => .map (Dict.ofList (toEntries entries))

def toValues : List Toml → List Value
  | [] => []
  | t :: ts => toValue t :: toValues ts

def toEntries : List (String × Toml) → List (String × Value)
  | [] => []
  | e :: es => toEntry e :: toEntries es

def toEntry : String × Toml → String × Value
  | (key, t) => (key, toValue t)

end

def readData (t : Toml) : Reading Data :=
  match t.tableEntries? with
  | some entries => .ok (Dict.ofList (toEntries entries))
  | none => .error (.invalidType t "a map")

/-! ## Choices -/

/-- One of several choices that have names. It is given by its name, or by a table with its name and
nothing in it. -/
def readChoice {α : Type} (choices : List (String × α)) (t : Toml) : Reading α :=
  let named (name : String) : Reading α :=
    match choices.find? (·.1 == name) with
    | some (_, a) => .ok a
    | none => .error (.unknownChoice name (choices.map Prod.fst))
  match t with
  | .string name => named name
  | .table [(name, contents)] => do
    let a ← named name
    match contents with
    | .table [] | .array [] | .tables [] => return a
    | .table _ | .array _ | .tables _ => throw (.filledChoice contents)
    | _ => throw (.choiceHolds contents)
  | .table entries => .error (.manyChoices entries.length)
  | _ => .error .noChoice

/-! ## Records -/

/-- A field of a record and how a value is taken into it. -/
structure RecordField (α : Type) where
  name : String
  read : α → Toml → Reading α

/-- A record, over one with all fields at their defaults. It is given by a table of fields, or by a
list of them in order. -/
def readRecord {α : Type} (record : String) (fields : List (RecordField α)) (start : α) (t : Toml) :
    Reading α :=
  match t.arrayItems? with
  | some items => (fields.zip items).foldlM (fun a (f, t) => f.read a t) start
  | none =>
    match t.tableEntries? with
    | none => .error (.invalidType t record)
    | some entries =>
      entries.foldlM (fun a (key, t) =>
        match fields.find? (·.name == key) with
        | some f => f.read a t
        | none => .error (.unknownField key (fields.map (·.name)))) start

/-- Checks that a record gives the field at a place of the list of fields. -/
def requireField (record : String) (names : List String) (index : Nat) (t : Toml) : Reading Unit :=
  match t.arrayItems? with
  | some items =>
    if index < items.length then .ok () else .error (.tooShort items.length record names.length)
  | none =>
    let name := names.getD index ""
    if (t.tableEntries?.getD []).any (·.1 == name) then .ok () else .error (.missingField name)

end SlotTemplate.Toml
