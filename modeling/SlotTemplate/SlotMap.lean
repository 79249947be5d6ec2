/-!
# Rendered slots

The rendered text of each slot of an invocation, in the order in which the slots came. Every name
has a text: one that was never filled reads as the empty text.

* `get_insert`: an insertion is seen under its name and nowhere else.
-/

namespace SlotTemplate

/-- The name of the slot that takes what belongs to no other. -/
def defaultSlot : String := "slot"

structure SlotMap where
  entries : List (String × String)
deriving DecidableEq, Inhabited

namespace SlotMap

def empty : SlotMap := ⟨[]⟩

def find? (name : String) : List (String × String) → Option String
  | [] => none
  | (n, text) :: rest => if n = name then some text else find? name rest

/-- The text of a slot. -/
def get (s : SlotMap) (name : String) : String := (find? name s.entries).getD ""

def contains (s : SlotMap) (name : String) : Bool := (find? name s.entries).isSome

/-- Whether a slot has a text that is not empty. -/
def isFilled (s : SlotMap) (name : String) : Bool := !(s.get name).isEmpty

def names (s : SlotMap) : List String := s.entries.map Prod.fst

def size (s : SlotMap) : Nat := s.entries.length

def isEmpty (s : SlotMap) : Bool := s.entries.isEmpty

def insertEntry (name text : String) : List (String × String) → List (String × String)
  | [] => [(name, text)]
  | (n, t) :: rest => if n = name then (n, text) :: rest else (n, t) :: insertEntry name text rest

/-- Sets the text of a slot; a slot that is there already keeps its place. -/
def insert (s : SlotMap) (name text : String) : SlotMap := ⟨insertEntry name text s.entries⟩

def ofList (ps : List (String × String)) : SlotMap :=
  ps.foldl (fun s p => s.insert p.1 p.2) empty

theorem find?_insertEntry (name text name' : String) (es : List (String × String)) :
    find? name' (insertEntry name text es) =
      if name = name' then some text else find? name' es := by
  induction es with
  | nil => simp [insertEntry, find?]
  | cons e es ih =>
    obtain ⟨n, t⟩ := e
    by_cases h : n = name <;> by_cases h' : n = name' <;> by_cases h'' : name = name' <;>
      simp_all [insertEntry, find?]

theorem get_insert (s : SlotMap) (name text name' : String) :
    (s.insert name text).get name' = if name = name' then text else s.get name' := by
  simp only [get, insert, find?_insertEntry]
  split <;> rfl

end SlotMap

end SlotTemplate
