import SlotTemplate.Decimal.Reader

/-!
# TOML

The data model of TOML. The entries of a table keep the order in which they are written.
-/

namespace SlotTemplate

inductive Toml where
  | string (text : String)
  | integer (n : Int64)
  | float (x : Binary64)
  | boolean (b : Bool)
  /-- A date, a time or both, in its normal form. -/
  | datetime (text : String)
  | array (items : List Toml)
  /-- An array of tables, each under a header of its own. -/
  | tables (items : List Toml)
  | table (entries : List (String × Toml))

instance : Inhabited Toml := ⟨.table []⟩

end SlotTemplate
