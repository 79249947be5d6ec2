import SlotTemplate.Value
import SlotTemplate.Error

/-!
# Signatures

The arguments that a component accepts, and the check of given arguments against them.
-/

namespace SlotTemplate

/-- A declared argument; without a default it is required. -/
structure Param where
  name : String
  default? : Option Value

/-- Declared arguments in order, and whether undeclared ones are accepted too. -/
structure Signature where
  params : List Param
  extra : Bool

namespace Signature

/-- No arguments at all. -/
def strict : Signature := ⟨[], false⟩

/-- Any arguments, none of them required. -/
def any : Signature := ⟨[], true⟩

instance : Inhabited Signature := ⟨any⟩

/-- Declares an argument last; an earlier declaration of its name is dropped. -/
def declare (s : Signature) (p : Param) : Signature :=
  { s with params := s.params.filter (·.name ≠ p.name) ++ [p] }

def required (s : Signature) (name : String) : Signature := s.declare ⟨name, none⟩

def optional (s : Signature) (name : String) (default : Value) : Signature :=
  s.declare ⟨name, some default⟩

def withExtra (s : Signature) (extra : Bool) : Signature := { s with extra }

def accepts (s : Signature) (name : String) : Bool := s.extra || s.params.any (·.name == name)

/-- Adds the defaults of the parameters that are absent; the first required one among them is
missing. -/
def fill : List Param → Data → Except BindingError Data
  | [], args => .ok args
  | p :: ps, args =>
    if args.contains p.name then fill ps args
    else match p.default? with
      | some default => fill ps (args.insert p.name default)
      | none => .error (.missing p.name)

/-- The arguments with the defaults filled in. An argument that is not accepted counts before a
missing one. -/
def bind (s : Signature) (args : Data) : Except BindingError Data :=
  match args.keys.find? (!s.accepts ·) with
  | some name => .error (.unexpected name)
  | none => fill s.params args

end Signature

end SlotTemplate
