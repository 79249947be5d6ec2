import SlotTemplate.Component
import SlotTemplate.Text.Quoted

/-!
# Tag libraries

Tables of tags and what compiles them.

* `binding?_tag`: a tag is bound as it was bound last.
-/

namespace SlotTemplate

/-- What compiles a tag. -/
inductive Binding where
  | conditional
  | loop
  | load
  | slot
  | slotOutput
  | inline (c : Component)
  | block (c : Component)
  /-- A tag that stands for a fixed text, or for nothing. -/
  | plain (output : Option String)

structure Library where
  tags : Dict Binding
  /-- Registered components by their qualified names. -/
  components : Dict Component

namespace Library

def empty : Library := ⟨Dict.empty, Dict.empty⟩

instance : Inhabited Library := ⟨empty⟩

/-- Binds a tag; an earlier binding of its name gives way. -/
def tag (l : Library) (name : String) (binding : Binding) : Library :=
  { l with tags := l.tags.insert name binding }

def binding? (l : Library) (name : String) : Option Binding := l.tags.get? name

def tagNames (l : Library) : List String := l.tags.keys

/-- Enters a component under its qualified name. -/
def enter (l : Library) (c : Component) : Library :=
  { l with components := l.components.insert c.qualifiedName c }

/-- Registers the inline form alone. -/
def inlineComponent (l : Library) (c : Component) : Library :=
  (l.tag c.inlineTag (.inline c)).enter c

/-- Registers the block form alone; its closing tag is not bound. -/
def blockComponent (l : Library) (c : Component) : Library :=
  (l.tag c.openTag (.block c)).enter c

/-- Registers both forms. -/
def component (l : Library) (c : Component) : Library :=
  (l.inlineComponent c).tag c.openTag (.block c)

/-- Takes over all tags and components of another library. -/
def merge (l other : Library) : Library :=
  ⟨l.tags.insertAll other.tags.entries, l.components.insertAll other.components.entries⟩

/-- The tags of every template. -/
def builtin : Library :=
  ((((empty.tag "if" .conditional).tag "for" .loop).tag "load" .load).tag "slot" .slot).tag
    "slot/" .slotOutput

theorem binding?_tag (l : Library) (name other : String) (b : Binding) :
    (l.tag name b).binding? other = if name = other then some b else l.binding? other :=
  Dict.get?_insert l.tags name other b

/-! ## Description -/

def quotedList (ss : List String) : String :=
  "[" ++ String.intercalate ", " (ss.map Text.quoted) ++ "]"

/-- The tags and components of a library in one line. -/
def describe (l : Library) : String :=
  "Library \x7b tags: " ++ quotedList l.tagNames ++ ", components: " ++
    quotedList l.components.keys ++ " \x7d"

end Library

end SlotTemplate
