import SlotTemplate.Value

/-!
# Scopes

Frames of variables, the innermost first. A name is looked up from the innermost frame outwards.
-/

namespace SlotTemplate

/-- The frames inside the outermost one, and the outermost one, which always stays. -/
structure Scope where
  inner : List Data
  outermost : Data

namespace Scope

def ofData (data : Data) : Scope := ⟨[], data⟩

def empty : Scope := ofData Dict.empty

instance : Inhabited Scope := ⟨empty⟩

/-- The frames from the innermost outwards. -/
def frames (s : Scope) : List Data := s.inner ++ [s.outermost]

def push (s : Scope) (frame : Data) : Scope := { s with inner := frame :: s.inner }

/-- Drops the innermost frame; the outermost one stays. -/
def pop (s : Scope) : Scope := { s with inner := s.inner.tail }

@[simp] theorem pop_push (s : Scope) (frame : Data) : (s.push frame).pop = s := rfl

/-- The value of a name in the innermost frame that has it. -/
def get? (s : Scope) (name : String) : Option Value := s.frames.findSome? (·.get? name)

/-- Binds a name in the innermost frame. -/
def insert (s : Scope) (name : String) (v : Value) : Scope :=
  match s.inner with
  | [] => { s with outermost := s.outermost.insert name v }
  | frame :: rest => { s with inner := frame.insert name v :: rest }

/-- The value at the end of a path: a name and the keys that follow it. -/
def lookup (s : Scope) : List String → Value
  | [] => .null
  | name :: keys => keys.foldl Value.get ((s.get? name).getD .null)

end Scope

end SlotTemplate
