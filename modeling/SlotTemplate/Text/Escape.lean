/-!
# Escaping for HTML

The five characters that markup gives a meaning are written as entities.

* `escape_append`: a concatenation is escaped part by part.
-/

namespace SlotTemplate.Text

/-- The entity that stands for a character, or the character itself. -/
def entity (c : Char) : List Char :=
  if c = '&' then "&amp;".toList
  else if c = '<' then "&lt;".toList
  else if c = '>' then "&gt;".toList
  else if c = '"' then "&quot;".toList
  else if c = '\'' then "&#x27;".toList
  else [c]

def escape (cs : List Char) : List Char := cs.flatMap entity

theorem escape_append (a b : List Char) : escape (a ++ b) = escape a ++ escape b := by
  simp [escape]

/-- A text escaped for HTML. -/
def escapeHtml (s : String) : String := String.ofList (escape s.toList)

end SlotTemplate.Text
